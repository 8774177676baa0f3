import GameClient.Proofs.Budget
import GameClient.Proofs.Timing

/-! # Rendering

A client renders once in each tick and at no other time. In a run without jumps of the clock the
ticks come one period apart from the start on, and a tick that is due comes before anything else but
a stop. So when a loop renders before it stops is known from its period: nothing else that happens in
the run shows in it. Only at the very instant of the stop it matters whether a tick that is due then
comes ahead of the stop. -/

namespace GameClient

namespace Effect

def rendered? : Effect → Option (List Actor × Option SessionId)
  | render actors localId => some (actors, localId)
  | _ => none

def pictures (effects : List Effect) : List (List Actor × Option SessionId) :=
  effects.filterMap rendered?

theorem isOutward_of_rendered? (effect : Effect) (inward : effect.isOutward = false) :
    effect.rendered? = none := by
  cases effect with
  | note => rfl
  | publish => rfl
  | _ => cases inward

end Effect

open Effect

namespace Client

variable {τ ι : Type} [Transport τ]

theorem pictures_sendKeys (c : Client τ ι) (id : SessionId) (keys : KeyMask) :
    pictures (c.sendKeys id keys).2 = [] := by
  unfold sendKeys
  split
  · rfl
  · obtain ⟨answer, notices, sent⟩ := { c with session := c.session.advance }.send_snd
      (Input.encode ⟨id, c.session.seq, keys⟩) []
    rw [sent]
    exact filterMap_map_eq_nil (fun _ => rfl) notices

variable [Sampler ι]

/-- A tick shows the actors and the own id as they are after it. -/
theorem pictures_tick (c : Client τ ι) :
    pictures c.tick.2 = [(c.tick.1.actors, c.tick.1.session.id)] := by
  cases ready : c.session.readyId with
  | none =>
    rw [tick_of_not_ready ready]
    rfl
  | some id =>
    have silent : ((c.sampling.sendKeys id c.heldKeys).2).filterMap rendered? = [] :=
      pictures_sendKeys ..
    rw [tick_of_ready ready, pictures, List.filterMap_append, filterMap_cons_eq, silent]
    rfl

theorem pictures_perform {call : Call τ ι} (other : call ≠ .tick) (c : Client τ ι) :
    pictures (c.perform call).2 = [] := by
  refine c.filterMap_perform_eq_nil ?_
  intro effect allowed
  cases effect with
  | render => cases call <;> simp_all [Call.allows]
  | _ => rfl

end Client

namespace Loop

variable {τ ι : Type} [Transport τ] [Sampler ι] {l : Loop τ ι}

/-! ## When a loop renders -/

omit [Transport τ] [Sampler ι] in
theorem tick_not_mem_calls (draw : Binary64) (l : Loop τ ι) {turn : Turn} (other : turn ≠ .tick) :
    .tick ∉ l.calls draw turn := by
  cases turn with
  | tick => exact absurd rfl other
  | event event =>
    rw [calls]
    split <;> simp
  | _ => simp [calls]

/-- The instants at which the screen is drawn. -/
def renderings (past : List (Moment τ ι)) : List Nat :=
  past.flatMap fun m => (pictures m.effects).map fun _ => m.loop.now

theorem renderings_append (past more : List (Moment τ ι)) :
    renderings (past ++ more) = renderings past ++ renderings more := List.flatMap_append

theorem renderings_singleton (m : Moment τ ι) : renderings [m] = times .tick [m] := by
  have shown : renderings [m] = (pictures m.effects).map fun _ => m.loop.now :=
    List.flatMap_singleton ..
  have done : pictures m.effects = (m.loop.client.effects (m.loop.calls m.draw m.turn)).filterMap
      rendered? :=
    filterMap_perform isOutward_of_rendered? m.draw m.loop m.turn
  rw [shown, times_singleton, done]
  by_cases ticks : m.turn = .tick
  · have ticked : m.loop.client.effects [.tick] = m.loop.client.tick.2 := List.append_nil _
    have one : m.loop.client.tick.2.filterMap rendered? = [_] := m.loop.client.pictures_tick
    rw [if_pos ticks, ticks, calls, ticked, one]
    rfl
  · rw [if_neg ticks, Client.filterMap_effects ?_ m.loop.client]
    · rfl
    · intro call made c
      refine Client.pictures_perform ?_ c
      rintro rfl
      exact tick_not_mem_calls m.draw m.loop ticks made

/-- A loop renders in its ticks. -/
theorem renderings_eq (past : List (Moment τ ι)) : renderings past = times .tick past := by
  induction past with
  | nil => rfl
  | cons m past ih =>
    calc renderings (m :: past) = renderings [m] ++ renderings past := renderings_append [m] past
      _ = times .tick [m] ++ times .tick past := by rw [renderings_singleton, ih]
      _ = times .tick (m :: past) := (times_append .tick [m] past).symm

/-! ## Ticks from the start on -/

/-- The loop has begun at zero, if it has begun, and has ticked on time since. -/
structure Paced (interval : Nat) (past : List (Moment τ ι)) (l : Loop τ ι) : Prop where
  period : l.period.nanos = interval
  fresh : l.status = .fresh → l.now = 0 ∧ times .tick past = []
  rhythm : l.status ≠ .fresh → Rhythm 0 interval past l
  reached : ∀ instant ∈ times .tick past, instant ≤ l.now

variable {interval : Nat} {past : List (Moment τ ι)}

omit [Transport τ] [Sampler ι] in
theorem paced_new (config : LoopConfig) (client : Client τ ι) :
    Paced config.tickPeriod.nanos [] (Loop.new config client) :=
  ⟨rfl, fun _ => ⟨rfl, rfl⟩, fun begun => absurd rfl begun, nofun⟩

theorem Paced.begin (h : Paced interval past l) (fresh : l.status = .fresh)
    (next : l.turn? = some .begin) (draw : Binary64) :
    Rhythm 0 interval (past ++ [⟨l, .begin, draw⟩]) (l.perform draw .begin).1 := by
  obtain ⟨now, none⟩ := h.fresh fresh
  have situated := l.situated_perform draw .begin
  have untimed : Punctual l := by
    constructor <;> exact fun running => nomatch fresh.symm.trans running
  have still : times .tick (past ++ [⟨l, .begin, draw⟩]) = [] := by
    rw [times_append, none, times_singleton]
    rfl
  refine ⟨status_perform_ne_fresh next draw, situated.period ▸ h.period, ?_, ?_,
    untimed.perform next draw⟩
  · rw [still]
    rfl
  · rw [situated.nextTick, still]
    simpa [tickAfter] using now

theorem Paced.perform (h : Paced interval past l) {turn : Turn} (next : l.turn? = some turn)
    (draw : Binary64) : Paced interval (past ++ [⟨l, turn, draw⟩]) (l.perform draw turn).1 := by
  have situated := l.situated_perform draw turn
  refine ⟨situated.period ▸ h.period, ?_, ?_, ?_⟩
  · exact fun fresh => absurd fresh (status_perform_ne_fresh next draw)
  · intro _
    by_cases fresh : l.status = .fresh
    · cases next_of_turn? next with
      | begin => exact h.begin fresh next draw
      | stop running => cases fresh.symm.trans running
      | tick running => cases fresh.symm.trans running
      | event unhurried => cases fresh.symm.trans unhurried.running
      | channelClosed unhurried => cases fresh.symm.trans unhurried.running
      | reconnect unhurried => cases fresh.symm.trans unhurried.running
    · exact (h.rhythm fresh).perform next draw
  · intro instant listed
    rw [situated.now]
    rw [times_append, times_singleton] at listed
    rcases List.mem_append.mp listed with earlier | now
    · exact h.reached instant earlier
    · split at now
      · exact (List.mem_singleton.mp now).le
      · cases now

theorem Paced.move (h : Paced interval past l) {move : Move τ ι} (timely : move.isTimely = true)
    (none : l.moment? move = none) : Paced interval past (l.move move) := by
  have aside := aside_move none
  have waited := waited_move timely none
  refine ⟨aside.period ▸ h.period, ?_, ?_, ?_⟩
  · intro fresh
    rw [aside.status] at fresh
    obtain ⟨now, quiet⟩ := h.fresh fresh
    have busy : l.turn?.isSome = true := by rw [turn?, fresh, Option.isSome_some]
    exact ⟨(waited.busy busy).trans now, quiet⟩
  · intro begun
    rw [aside.status] at begun
    exact (h.rhythm begun).move timely none
  · exact fun instant listed => (h.reached instant listed).trans waited.later

theorem paced_after (config : LoopConfig) (client : Client τ ι) {moves : List (Move τ ι)}
    (timely : ∀ move ∈ moves, move.isTimely = true) :
    Paced config.tickPeriod.nanos ((Loop.new config client).moments moves)
      ((Loop.new config client).after moves) :=
  history_throughout (fun _ move => move.isTimely = true)
    (fun _ _ _ draw h _ next => h.perform next draw) (fun _ _ _ h timely none => h.move timely none)
    [] (paced_new config client) (throughout_of_forall (fun move listed _ => timely move listed) _)

/-! ## Beats -/

/-- The instants before `limit` at which a loop that began at zero is due to tick. -/
def beats (interval limit : Nat) : List Nat :=
  ((List.range limit).map fun i => ripeAt (i * interval)).filter (· < limit)

theorem monotone_beat (interval : Nat) : Monotone fun i => ripeAt (i * interval) :=
  fun _ _ earlier => ripeAt_mono (Nat.mul_le_mul_right interval earlier)

/-- What comes in order and has reached `limit` makes no difference before it. -/
theorem filter_range_add {f : Nat → Nat} (mono : Monotone f) {limit n : Nat} (far : limit ≤ f n)
    (more : Nat) : ((List.range (n + more)).map f).filter (· < limit) =
      ((List.range n).map f).filter (· < limit) := by
  have late : (((List.range more).map (n + ·)).map f).filter (· < limit) = [] := by
    rw [List.filter_eq_nil_iff, List.map_map]
    intro instant listed
    obtain ⟨later, -, rfl⟩ := List.mem_map.mp listed
    have reached : limit ≤ f (n + later) := far.trans (mono (Nat.le_add_right n later))
    simpa using reached
  rw [List.range_add, List.map_append, List.filter_append, late, List.append_nil]

/-- So many ticks are all that are due before `limit`. -/
theorem filter_ticks (apart : 0 < interval) {limit n : Nat} (far : limit ≤ ripeAt (n * interval)) :
    ((List.range n).map fun i => ripeAt (i * interval)).filter (· < limit) =
      beats interval limit := by
  have enough : limit ≤ ripeAt (limit * interval) :=
    (Nat.le_mul_of_pos_right limit apart).trans (le_ripeAt _)
  rw [beats]
  rcases Nat.le_total n limit with fewer | more
  · obtain ⟨rest, rfl⟩ := Nat.exists_eq_add_of_le fewer
    exact (filter_range_add (monotone_beat interval) far rest).symm
  · obtain ⟨rest, rfl⟩ := Nat.exists_eq_add_of_le more
    exact filter_range_add (monotone_beat interval) enough rest

/-- Instants in order, up to a last one that may be there several times. -/
theorem eq_filter_append_replicate {instants : List Nat} {last : Nat}
    (sorted : instants.Pairwise (· ≤ ·)) (bound : ∀ instant ∈ instants, instant ≤ last) :
    instants = instants.filter (· < last) ++ List.replicate (instants.count last) last := by
  induction instants with
  | nil => rfl
  | cons first rest ih =>
    obtain ⟨least, sorted⟩ := List.pairwise_cons.mp sorted
    obtain ⟨reached, bound⟩ := List.forall_mem_cons.mp bound
    rcases Nat.lt_or_eq_of_le reached with before | rfl
    · rw [List.filter_cons_of_pos (by simpa using before), List.count_cons_of_ne before.ne,
        List.cons_append, ← ih sorted bound]
    · have all : ∀ instant ∈ first :: rest, first = instant :=
        List.forall_mem_cons.mpr
          ⟨rfl, fun t listed => Nat.le_antisymm (least t listed) (bound t listed)⟩
      have none : (first :: rest).filter (· < first) = [] := by
        rw [List.filter_eq_nil_iff]
        intro instant listed
        simp [all instant listed]
      rw [none, List.nil_append, List.count_eq_length.mpr all]
      exact List.eq_replicate_of_mem fun instant listed => (all instant listed).symm

omit [Transport τ] [Sampler ι] in
theorem Rhythm.sorted {start : Nat} (h : Rhythm start interval past l) :
    (times .tick past).Pairwise (· ≤ ·) := by
  rw [h.ticks, List.pairwise_map]
  refine List.pairwise_lt_range.imp fun earlier => ripeAt_mono ?_
  exact Nat.add_le_add_left (Nat.mul_le_mul_right interval earlier.le) start

omit [Transport τ] [Sampler ι] in
/-- Before an instant at which no tick is overdue all ticks were made. -/
theorem Rhythm.filter_eq_beats (h : Rhythm 0 interval past l) (running : l.status = .running)
    {limit : Nat} (early : limit ≤ ripeAt l.nextTick) :
    (times .tick past).filter (· < limit) = beats interval limit := by
  have apart := h.punctual.apart running
  rw [h.period] at apart
  rw [h.next] at early
  rw [h.ticks]
  simp only [Nat.zero_add] at early ⊢
  exact filter_ticks apart early

omit [Transport τ] [Sampler ι] in
/-- When no tick is due, all that were have been made. -/
theorem Paced.eq_beats (h : Paced interval past l) (unhurried : Unhurried l) :
    times .tick past = beats interval (l.now + 1) := by
  have steady := h.rhythm (by rw [unhurried.running]; exact nofun)
  rw [← steady.filter_eq_beats unhurried.running unhurried.early, eq_comm, List.filter_eq_self]
  intro instant listed
  exact decide_eq_true (Nat.lt_succ_of_le (h.reached instant listed))

/-! ## Traffic does not show -/

/-- The loop turns to its channel or to its timer. -/
def Turn.isTraffic : Turn → Bool
  | .event _ | .channelClosed | .reconnect => true
  | _ => false

omit [Transport τ] [Sampler ι] in
theorem unhurried_of_isTraffic {turn : Turn} (next : l.turn? = some turn)
    (traffic : turn.isTraffic = true) : Unhurried l := by
  cases next_of_turn? next with
  | event unhurried => exact unhurried
  | channelClosed unhurried => exact unhurried
  | reconnect unhurried => exact unhurried
  | _ => cases traffic

/-- The renderings of a run are those of the beat. -/
structure OnBeat (interval stop : Nat) (past : List (Moment τ ι)) : Prop where
  /-- The run renders at every instant before the stop at which it is due. At the instant of the stop
  itself it renders as often as the ticks come ahead of the stop. -/
  rendered : renderings past =
    beats interval stop ++ List.replicate ((renderings past).count stop) stop
  due : ∀ instant ∈ renderings past, ∃ i, instant = ripeAt (i * interval)
  /-- When the loop turns to its channel or to its timer, it has rendered whenever it was due. -/
  unstarved : ∀ before m after, past = before ++ m :: after → m.turn.isTraffic = true →
    renderings before = beats interval (m.loop.now + 1)

theorem OnBeat.filter_lt {stop : Nat} (h : OnBeat interval stop past) :
    (renderings past).filter (· < stop) = beats interval stop := by
  have early : ∀ instant ∈ beats interval stop, decide (instant < stop) = true :=
    fun _ listed => (List.mem_filter.mp listed).2
  have none (n : Nat) : (List.replicate n stop).filter (· < stop) = [] := by
    rw [List.filter_replicate_of_neg (by simp)]
  rw [h.rendered, List.filter_append, List.filter_eq_self.mpr early, none, List.append_nil]

theorem OnBeat.not_mem_of_apart {stop : Nat} (h : OnBeat interval stop past)
    (apart : ∀ i, ripeAt (i * interval) ≠ stop) : stop ∉ renderings past := by
  intro listed
  obtain ⟨i, due⟩ := h.due stop listed
  exact apart i due.symm

theorem Cut.paced {config : LoopConfig} {client : Client τ ι} {moves earlier later : List (Move τ ι)}
    {before after : List (Moment τ ι)} {m : Moment τ ι}
    (cut : Cut (Loop.new config client) moves before m after earlier later)
    (timely : ∀ move ∈ moves, move.isTimely = true) :
    Paced config.tickPeriod.nanos before m.loop := by
  have early : ∀ move ∈ earlier, move.isTimely = true := by
    intro move listed
    refine timely move ?_
    rw [cut.whole]
    exact List.mem_append_left _ listed
  rw [← cut.before, ← cut.loop]
  exact paced_after config client early

theorem exists_last_of_stop {moves : List (Move τ ι)} {stop : Nat}
    (stops : times .stop (l.moments moves) = [stop]) :
    ∃ before m, l.moments moves = before ++ [m] ∧ m.turn = .stop ∧ m.loop.now = stop := by
  have listed : stop ∈ times .stop (l.moments moves) := by
    rw [stops]
    exact List.mem_singleton_self stop
  obtain ⟨m, made, now⟩ := List.mem_map.mp listed
  obtain ⟨taken, stopping⟩ := List.mem_filter.mp made
  have stopping : m.turn = .stop := by simpa using stopping
  obtain ⟨before, after, whole⟩ := List.append_of_mem taken
  obtain ⟨earlier, later, cut⟩ := exists_cut whole
  have ended : m.next.isAlive = false := by
    rw [Moment.next, stopping]
    rfl
  have nothing : after = [] := cut.after.symm.trans (moments_of_ended ended later)
  exact ⟨before, m, nothing ▸ whole, stopping, now⟩

/-- A run without jumps of the clock is on the beat until it stops. -/
theorem onBeat_of_stop (config : LoopConfig) (client : Client τ ι) {moves : List (Move τ ι)}
    (timely : ∀ move ∈ moves, move.isTimely = true) {stop : Nat}
    (stops : times .stop ((Loop.new config client).moments moves) = [stop]) :
    OnBeat config.tickPeriod.nanos stop ((Loop.new config client).moments moves) := by
  obtain ⟨past, m, whole, stopping, rfl⟩ := exists_last_of_stop stops
  obtain ⟨earlier, later, cut⟩ := exists_cut whole
  have paced := cut.paced timely
  have running : m.loop.status = .running := by
    have next := cut.turn
    rw [stopping] at next
    cases next_of_turn? next with
    | stop running _ => exact running
  have steady := paced.rhythm (by rw [running]; exact nofun)
  have ticks : renderings ((Loop.new config client).moments moves) = times .tick past := by
    have quiet : times .tick [m] = [] := by
      rw [times_singleton, stopping]
      rfl
    rw [renderings_eq, whole, times_append, quiet, List.append_nil]
  refine ⟨?_, ?_, ?_⟩
  · rw [ticks, ← steady.filter_eq_beats running (steady.punctual.early running)]
    exact eq_filter_append_replicate steady.sorted paced.reached
  · intro instant listed
    rw [ticks, steady.ticks] at listed
    obtain ⟨i, -, rfl⟩ := List.mem_map.mp listed
    exact ⟨i, by rw [Nat.zero_add]⟩
  · intro before m after whole traffic
    obtain ⟨earlier, later, cut⟩ := exists_cut whole
    have paced := cut.paced timely
    rw [renderings_eq]
    exact paced.eq_beats (unhurried_of_isTraffic cut.turn traffic)

/-- No run turns to its channel or to its timer while a tick is due. -/
theorem early_of_isTraffic {moves : List (Move τ ι)} {m : Moment τ ι} (taken : m ∈ l.moments moves)
    (traffic : m.turn.isTraffic = true) : m.loop.now < ripeAt m.loop.nextTick := by
  obtain ⟨before, after, whole⟩ := List.append_of_mem taken
  obtain ⟨earlier, later, cut⟩ := exists_cut whole
  exact (unhurried_of_isTraffic cut.turn traffic).early

/-- Take two runs without jumps of the clock that have the same period and stop at the same instant,
with any transports, inputs, policies and events. Both are on the same beat: before the stop they
render at the same instants, and at its instant as often as ticks come ahead of it. So they render at
the same instants throughout exactly if these are equally many in both, and in any case if no tick is
due at the stop. And no run turns to anything else while a tick is due. -/
theorem renderings_undisturbed {τ' ι' : Type} [Transport τ'] [Sampler ι']
    {config config' : LoopConfig} (same : config.tickPeriod = config'.tickPeriod)
    (client : Client τ ι) (client' : Client τ' ι') {moves : List (Move τ ι)}
    {moves' : List (Move τ' ι')} (timely : ∀ move ∈ moves, move.isTimely = true)
    (timely' : ∀ move ∈ moves', move.isTimely = true) {stop : Nat}
    (stops : times .stop ((Loop.new config client).moments moves) = [stop])
    (stops' : times .stop ((Loop.new config' client').moments moves') = [stop]) :
    let interval := config.tickPeriod.nanos
    let past := (Loop.new config client).moments moves
    let past' := (Loop.new config' client').moments moves'
    OnBeat interval stop past ∧ OnBeat interval stop past' ∧
    (renderings past).filter (· < stop) = (renderings past').filter (· < stop) ∧
    (renderings past = renderings past' ↔
      (renderings past).count stop = (renderings past').count stop) ∧
    ((∀ i, ripeAt (i * interval) ≠ stop) → renderings past = renderings past') ∧
    ∀ (l : Loop τ ι) (any : List (Move τ ι)), ∀ m ∈ l.moments any, m.turn.isTraffic = true →
      m.loop.now < ripeAt m.loop.nextTick := by
  intro interval past past'
  have first : OnBeat interval stop past := onBeat_of_stop config client timely stops
  have second : OnBeat interval stop past' := by
    rw [show interval = config'.tickPeriod.nanos from congrArg Duration.nanos same]
    exact onBeat_of_stop config' client' timely' stops'
  have alike (counts : (renderings past).count stop = (renderings past').count stop) :
      renderings past = renderings past' := by
    rw [first.rendered, counts, ← second.rendered]
  refine ⟨first, second, first.filter_lt.trans second.filter_lt.symm,
    ⟨congrArg (List.count stop), alike⟩, ?_, fun _ _ _ => early_of_isTraffic⟩
  intro apart
  have none : stop ∉ renderings past := first.not_mem_of_apart apart
  have none' : stop ∉ renderings past' := second.not_mem_of_apart apart
  exact alike (by rw [List.count_eq_zero.mpr none, List.count_eq_zero.mpr none'])

/-- A tick in each second, and no reconnects. -/
def withoutPolicy : LoopConfig where
  tickRate := 1
  reconnect := none

/-- A client that hears nothing from its transport. -/
def unreported : Client Memory KeyScript := .new {} {}

/-- The channel ends at once, and the loop is asked to stop after a second and a half. -/
def undisturbed : List (Move Memory KeyScript) :=
  [.turn .one, .closeChannel, .turn .one, .turn .one, .wait 1500000000, .turn .one, .wait 1500000000,
    .requestStop, .turn .one]

/-- The first connect is refused, a frame is too short for an ASSIGN, and the reconnect falls on the
instant of the second tick and fails. -/
def disturbed : List (Move (Gated Memory) KeyScript) :=
  [.turn .one, .post (.frame [1, 1]), .turn .one, .turn .one, .wait 1500000000, .press { held := .up },
    .turn .one, .turn .one, .turn .one, .wait 1500000000, .requestStop, .turn .one]

/-- Both runs render at once and after a second. -/
theorem renderings_undisturbed_outage :
    let past := (Loop.new withoutPolicy unreported).moments undisturbed
    let past' := (Loop.new twoAttempts outage).moments disturbed
    times .stop past = [1500000000] ∧ times .stop past' = [1500000000] ∧
      times .reconnect past' = [1000000000] ∧ renderings past = [0, 1000000000] ∧
      renderings past' = [0, 1000000000] := by
  intro past past'
  have timely : ∀ move ∈ undisturbed, move.isTimely = true := by simp [undisturbed, Move.isTimely]
  have timely' : ∀ move ∈ disturbed, move.isTimely = true := by simp [disturbed, Move.isTimely]
  have stops : times .stop past = [1500000000] := by decide +kernel
  have stops' : times .stop past' = [1500000000] := by decide +kernel
  have shown : renderings past = [0, 1000000000] := by
    rw [renderings_eq]
    decide +kernel
  have same : withoutPolicy.tickPeriod = twoAttempts.tickPeriod := rfl
  obtain ⟨-, -, -, alike, -⟩ :=
    renderings_undisturbed same unreported outage timely timely' stops stops'
  have counts : (renderings past).count 1500000000 = (renderings past').count 1500000000 := by
    rw [renderings_eq, renderings_eq]
    decide +kernel
  exact ⟨stops, stops', by decide +kernel, shown, (alike.mpr counts).symm.trans shown⟩

/-- The loop is asked to stop before it begins. -/
def stoppedFirst : List (Move Memory KeyScript) := [.requestStop, .turn .one, .turn .one]

/-- The loop begins and ticks, and is asked to stop at the same instant. -/
def stoppedAfterTick : List (Move Memory KeyScript) :=
  [.turn .one, .turn .one, .requestStop, .turn .one]

/-- Both runs stop at zero, and one of them has rendered by then. -/
theorem not_renderings_eq_at_stop :
    ¬ ∀ (moves moves' : List (Move Memory KeyScript)) (stop : Nat),
      (∀ move ∈ moves, move.isTimely = true) → (∀ move ∈ moves', move.isTimely = true) →
      times .stop ((Loop.new withoutPolicy unreported).moments moves) = [stop] →
      times .stop ((Loop.new withoutPolicy unreported).moments moves') = [stop] →
      renderings ((Loop.new withoutPolicy unreported).moments moves) =
        renderings ((Loop.new withoutPolicy unreported).moments moves') := by
  intro alike
  have timely : ∀ move ∈ stoppedFirst, move.isTimely = true := by simp [stoppedFirst, Move.isTimely]
  have timely' : ∀ move ∈ stoppedAfterTick, move.isTimely = true := by
    simp [stoppedAfterTick, Move.isTimely]
  have same := alike stoppedFirst stoppedAfterTick 0 timely timely' (by decide +kernel)
    (by decide +kernel)
  rw [renderings_eq, renderings_eq] at same
  exact absurd same (by decide +kernel)

end Loop

end GameClient

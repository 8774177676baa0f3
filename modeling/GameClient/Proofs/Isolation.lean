import GameClient.Player.Script
import GameClient.Proofs.Following

/-! # Sessions stay on their links

An id that the server assigned on one link is never used on another, whatever the server does on
each link and in whichever order the loop and the tasks take their steps. The client alone does
not see to that: it keeps its id when a link comes up. It is the loop that asks for a link only
after it has handled the end of the one before, and no task reports anything after that. -/

namespace GameClient

open Happening

namespace Online

variable {ι : Type}

/-! ## Turns -/

/-- Who sends a frame has a link, and the frame carries an id from that link. -/
def Sent (past : List Happening) : Happening → Prop
  | .did (.send frame _) => ∃ link, opened past = link + 1 ∧ Vouched link frame past
  | _ => True

/-- What holds at all times: of the links, of all frames so far, and, while the loop is alive, of
the client on its last link. The timer is armed only when that link is over. -/
structure Sound (l : Online ι) (past : List Happening) : Prop where
  kept : Kept l.client.transport past
  sent : Along Sent [] past
  live : l.isAlive = true → ∃ course, Live course l.client l.queue past ∧
    (l.reconnectAt.isSome = true ∨ l.status = .fresh → course = .ended)
  unarmed : l.status = .fresh → l.reconnectAt = none

/-- Effects without a new link, and with vouched frames only. -/
theorem along_sent {past : List Happening} {effects : List Effect}
    (connects : Effect.connects effects = [])
    (vouched : ∀ frame ∈ Effect.frames effects, ∃ link, opened past = link + 1 ∧
      Vouched link frame past) : Along Sent past (effects.map .did) := by
  induction effects generalizing past with
  | nil => trivial
  | cons effect effects ih =>
    rw [Effect.connects_cons, List.append_eq_nil_iff] at connects
    rw [Effect.frames_cons] at vouched
    refine ⟨?_, ih connects.2 ?_⟩
    · cases effect with
      | send frame answer => exact vouched frame List.mem_cons_self
      | _ => trivial
    · intro frame later
      obtain ⟨link, count, vouch⟩ := vouched frame (List.mem_append_right _ later)
      have alone : Effect.connects [effect] = [] := by
        rw [Effect.connects_cons, connects.1]
        rfl
      have none : opened [.did effect] = 0 := opened_of_connects alone
      refine ⟨link, ?_, vouch.more _⟩
      rw [opened_append, none, Nat.add_zero, count]

theorem along_sent_of_frames {past : List Happening} {effects : List Effect}
    (frames : Effect.frames effects = []) : Along Sent past (effects.map .did) := by
  induction effects generalizing past with
  | nil => trivial
  | cons effect effects ih =>
    rw [Effect.frames_cons, List.append_eq_nil_iff] at frames
    refine ⟨?_, ih frames.2⟩
    cases effect with
    | send frame answer => cases frames.1
    | _ => trivial

/-- A turn asks for a link. -/
structure Attempt (l l' : Online ι) (effects : List Effect) : Prop where
  connects : Effect.connects effects = [l.client.transport.connect.1]
  frames : Effect.frames effects = []
  transport : l'.client.transport = l.client.transport.connect.2
  session : l'.client.session = l.client.session
  actors : l'.client.actors = l.client.actors
  queue : l'.queue = l.queue
  running : l'.isAlive = true → l'.status = .running
  disarmed : l.client.transport.connect.1 = .accepted → l'.reconnectAt = none

namespace Attempt

variable {l m : Online ι} {effects : List Effect}

theorem schedule (h : Attempt l m effects) (refused : l.client.transport.connect.1 ≠ .accepted)
    (draw : Binary64) (why : Notice) :
    Attempt l (m.schedule draw).1 (effects ++ .note why :: (m.schedule draw).2) := by
  have scheduled := Loop.scheduled draw m
  obtain ⟨notices, noted⟩ := scheduled.notices
  have quiet : (m.schedule draw).2 = notices.map .note := noted
  refine ⟨?_, ?_, ?_, ?_, ?_, ?_, ?_, ?_⟩
  · rw [quiet, Effect.connects_append, h.connects, Effect.connects_cons, Effect.connects_notes]
    rfl
  · rw [quiet, Effect.frames_append, h.frames, Effect.frames_cons, Effect.frames_notes]
    rfl
  · rw [scheduled.client, h.transport]
  · rw [scheduled.client, h.session]
  · rw [scheduled.client, h.actors]
  · rw [scheduled.queue, h.queue]
  · intro alive
    have same := scheduled.status alive
    rw [Loop.isAlive, same] at alive
    rw [same]
    exact h.running alive
  · intro accepted
    exact absurd accepted refused

theorem fail (h : Attempt l m effects) (fault : Loop.Fault) :
    Attempt l (m.fail fault) effects :=
  ⟨h.connects, h.frames, h.transport, h.session, h.actors, h.queue,
    (fun alive => nomatch alive), h.disarmed⟩

end Attempt

theorem ne_accepted {answer : Answer} {error : TransportError} (h : answer = .refused error) :
    answer ≠ .accepted := by
  rw [h]
  exact Answer.noConfusion

theorem attempt_reconnect (draw : Binary64) (l : Online ι) (running : l.status = .running) :
    Attempt l (l.reconnect draw).1 (l.reconnect draw).2 := by
  have asked : Attempt l
      { l.adopt l.client.reconnect.2.1 l.client.reconnect.2.2 with reconnectAt := none }
      l.client.reconnect.2.2 :=
    ⟨rfl, rfl, rfl, rfl, rfl, List.append_nil _, fun _ => running, fun _ => rfl⟩
  unfold Loop.reconnect
  dsimp only
  split
  · exact asked
  · next error refused => exact asked.schedule (ne_accepted refused) draw _

theorem attempt_begin (draw : Binary64) (l : Online ι) (unarmed : l.reconnectAt = none) :
    Attempt l (l.begin draw).1 (l.begin draw).2 := by
  have asked : Attempt l
      { l.adopt l.client.start.2.1 l.client.start.2.2 with status := .running, nextTick := l.now }
      l.client.start.2.2 :=
    ⟨rfl, rfl, rfl, rfl, rfl, List.append_nil _, fun _ => rfl, fun _ => unarmed⟩
  unfold Loop.begin
  dsimp only
  split
  · next answer =>
    rw [List.append_nil]
    split
    · exact asked.fail _
    · exact asked
  · next error refused =>
    have scheduled := asked.schedule (ne_accepted refused) draw (.firstConnectRefused error)
    split
    · exact scheduled.fail _
    · exact scheduled

/-- The timer or the first turn: then the last link is over, and the client has no session. -/
theorem Sound.ended {l : Online ι} {past : List Happening} (h : Sound l past)
    (alive : l.isAlive = true) (due : l.reconnectAt.isSome = true ∨ l.status = .fresh) :
    Live .ended l.client l.queue past := by
  obtain ⟨course, live, timer⟩ := h.live alive
  rw [timer due] at live
  exact live

theorem Sound.attempt {l l' : Online ι} {past : List Happening} {effects : List Effect}
    (h : Sound l past) (live : Live .ended l.client l.queue past) (tried : Attempt l l' effects) :
    Sound l' (past ++ effects.map .did) := by
  obtain ⟨-, ended⟩ := Course.eq_of_follow?_ended live.ahead
  have counted : opened (effects.map .did) = [l.client.transport.connect.1].count .accepted := by
    rw [opened_did, tried.connects]
  have fresh : l'.status = .fresh → l'.reconnectAt = none := by
    intro fresh
    have running := tried.running (Loop.isAlive_of_fresh fresh)
    rw [fresh] at running
    cases running
  have sent : Along Sent [] (past ++ effects.map .did) :=
    h.sent.append (along_sent_of_frames tried.frames)
  rcases l.client.transport.connect_cases with ⟨accepted, -⟩ | ⟨refused, same⟩
  · -- The end of the last link has been heard, so the queue is empty and the new link begins idle.
    rw [accepted] at counted
    refine ⟨?_, sent, ?_, fresh⟩
    · rw [tried.transport]
      exact h.kept.connect ended accepted counted
    · intro alive
      refine ⟨.idle, ?_, ?_⟩
      · rw [tried.queue]
        exact (live.more _).connect accepted tried.transport tried.session tried.actors
      · rw [tried.disarmed accepted, tried.running alive]
        intro due
        rcases due with armed | begins
        · cases armed
        · cases begins
  · have none : opened (effects.map .did) = 0 := by
      rw [counted, List.count_singleton, if_neg (by simpa using refused)]
    refine ⟨?_, sent, ?_, fresh⟩
    · rw [tried.transport, same]
      exact h.kept.more none
    · intro _
      refine ⟨.ended, ?_, fun _ => rfl⟩
      have transport : l'.client.transport = l.client.transport := by rw [tried.transport, same]
      rw [tried.queue]
      exact (live.more _).same transport tried.session tried.actors

/-- Without a new link the frames are all that matters. -/
theorem Sound.sent_more {l : Online ι} {past : List Happening} {effects : List Effect}
    (h : Sound l past) (connects : Effect.connects effects = [])
    (vouched : ∀ frame ∈ Effect.frames effects, VouchedLast l.client.transport frame past) :
    Along Sent [] (past ++ effects.map .did) := by
  refine h.sent.append (along_sent connects ?_)
  intro frame handed
  obtain ⟨link, last, vouch⟩ := vouched frame handed
  exact ⟨link, h.kept.opened.symm.trans last.symm, vouch⟩

theorem Sound.idle {l l' : Online ι} {past : List Happening} {effects : List Effect}
    (h : Sound l past) (connects : Effect.connects effects = [])
    (frames : Effect.frames effects = []) (client : l'.client = l.client)
    (live : l'.isAlive = true → l.isAlive = true ∧ l'.queue = l.queue ∧
      l'.reconnectAt = l.reconnectAt ∧ l'.status = l.status) :
    Sound l' (past ++ effects.map .did) := by
  refine ⟨?_, ?_, ?_, ?_⟩
  · rw [client]
    exact h.kept.more (opened_of_connects connects)
  · apply h.sent_more connects
    rw [frames]
    intro frame none
    cases none
  · intro alive
    obtain ⟨before, queue, timer, status⟩ := live alive
    obtain ⟨course, follows, due⟩ := h.live before
    rw [client, queue, timer, status]
    exact ⟨course, follows.more _, due⟩
  · intro fresh
    obtain ⟨-, -, timer, status⟩ := live (Loop.isAlive_of_fresh fresh)
    rw [timer]
    rw [status] at fresh
    exact h.unarmed fresh

theorem Sound.task {l : Online ι} {past : List Happening} (h : Sound l past) {link : Nat}
    {step : SocketTask.Step} {socket : WebSocket} {outputs : List SocketTask.Output}
    (stepped : l.client.transport.stepLink? link l.isAlive step = some (socket, outputs)) :
    Sound (l.disturb fun _ => (SocketTask.reports outputs, socket))
      (past ++ [.task link step]) := by
  have kept := h.kept.step stepped
  have sent : Along Sent [] (past ++ [.task link step]) := h.sent.append ⟨trivial, trivial⟩
  unfold Loop.disturb
  dsimp only
  split
  · next alive =>
    have heard : l.isAlive = true := alive
    rw [heard] at stepped
    obtain ⟨course, live, due⟩ := h.live heard
    refine ⟨kept, sent, ?_, h.unarmed⟩
    intro _
    exact ⟨course, live.step h.kept stepped, due⟩
  · next deaf =>
    refine ⟨kept, sent, ?_, h.unarmed⟩
    intro alive
    exact absurd alive deaf

theorem sound_start (config : LoopConfig) (url : String) (hasRuntime : Bool) (input : ι) :
    Sound (start config url hasRuntime input) [] := by
  refine ⟨⟨rfl, ?_, ?_⟩, trivial, ?_, fun _ => rfl⟩
  · intro link task found
    cases found
  · intro link task found
    cases found
  · intro _
    refine ⟨.ended, ⟨rfl, rfl, fun _ => ⟨rfl, rfl⟩, ?_, ?_⟩, fun _ => rfl⟩
    · intro id held
      cases held
    · intro frame waits
      cases waits

theorem Sound.reporter {l : Online ι} {past : List Happening} (h : Sound l past) {i j : Nat}
    {task other : SocketTask} (one : l.client.transport.links[i]? = some task)
    (two : l.client.transport.links[j]? = some other) (reports : task.CanReport)
    (reports' : other.CanReport) : i = j := by
  have inside : i < l.client.transport.links.length := (List.getElem?_eq_some_iff.mp one).1
  have inside' : j < l.client.transport.links.length := (List.getElem?_eq_some_iff.mp two).1
  have last : ¬ i + 1 < l.client.transport.links.length := by
    intro former
    exact reports.course_ne_ended (h.kept.ended i task one former)
  have last' : ¬ j + 1 < l.client.transport.links.length := by
    intro former
    exact reports'.course_ne_ended (h.kept.ended j other two former)
  omega

theorem Attempt.renewed {l l' : Online ι} {past : List Happening} {effects : List Effect}
    (tried : Attempt l l' effects) (ended : Live .ended l.client l.queue past) :
    l.client.IsClean ∧ l'.client.IsClean := by
  have clean := ended.clean Course.noConfusion
  refine ⟨clean, ?_⟩
  rw [Client.IsClean, tried.session, tried.actors]
  exact clean

variable [Sampler ι]

theorem Sound.tick {l : Online ι} {past : List Happening} (h : Sound l past)
    (running : l.status = .running) :
    Sound l.tick.1 (past ++ l.tick.2.map .did) := by
  obtain ⟨course, live, due⟩ := h.live (Loop.isAlive_of_running running)
  have carried := l.client.tick_carried
  obtain ⟨-, vouched⟩ := live.known .tick (fun id none => nomatch none)
  refine ⟨?_, h.sent_more carried.connects vouched, ?_, h.unarmed⟩
  · have transport : l.tick.1.client.transport = _ := carried.transport
    rw [transport]
    exact (h.kept.sendAll vouched).more (opened_of_connects carried.connects)
  · intro _
    exact ⟨course, live.tick.more _, due⟩

theorem Sound.stop {l : Online ι} {past : List Happening} (h : Sound l past)
    (running : l.status = .running) :
    Sound l.stop.1 (past ++ l.stop.2.map .did) := by
  obtain ⟨course, live, due⟩ := h.live (Loop.isAlive_of_running running)
  obtain ⟨-, vouched⟩ := live.known .teardown (fun id none => nomatch none)
  have frames : Effect.frames l.stop.2 = Effect.frames l.client.teardown.2 := by
    have effects : l.stop.2 = l.client.teardown.2 ++
      [.publish l.client.teardown.1.session.connection] := rfl
    rw [effects, Effect.frames_append]
    exact List.append_nil _
  have quiet := opened_of_connects l.connects_stop
  have client : l.stop.1.client = l.client.teardown.1 := rfl
  refine ⟨?_, ?_, (fun alive => nomatch alive), (fun fresh => nomatch fresh)⟩
  · rw [client]
    cases torn : l.client.tornDown with
    | true =>
      rw [Client.teardown_of_tornDown torn]
      exact h.kept.more quiet
    | false =>
      rw [(Client.teardown_carried torn).2]
      exact (h.kept.sendAll vouched).disconnect.more quiet
  · apply h.sent_more l.connects_stop
    rw [frames]
    exact vouched

/-- The client handles an event about which the loop has done its part. -/
theorem Sound.handled {l m : Online ι} {past : List Happening} (h : Sound l past) {event : Event}
    {notices : List Notice} (running : l.status = .running) (first : l.queue.head? = some event)
    (heeded : Loop.Heeded { l with queue := l.queue.tail } m event (notices.map .note))
    (going : m.status = .running) (state : ConnectionState) :
    Sound { m with client := (l.client.handle event).1, published := state }
      (past ++ (notices.map Effect.note ++ (l.client.handle event).2 ++
        [Effect.publish state]).map .did) := by
  obtain ⟨course, live, due⟩ := h.live (Loop.isAlive_of_running running)
  obtain ⟨queue, waits⟩ := List.head?_eq_some_iff.mp first
  rw [waits] at live
  obtain ⟨next, reached, follows⟩ := live.handle
  obtain ⟨-, vouched⟩ := live.known (.handle event) live.accepted
  have carried := l.client.handle_carried event
  have connects : Effect.connects
      (notices.map .note ++ (l.client.handle event).2 ++ [.publish state]) = [] := by
    rw [Effect.connects_append, Effect.connects_append, Effect.connects_notes, carried.connects]
    rfl
  have frames : Effect.frames
      (notices.map .note ++ (l.client.handle event).2 ++ [.publish state]) =
      Effect.frames (l.client.handle event).2 := by
    rw [Effect.frames_append, Effect.frames_append, Effect.frames_notes]
    exact List.append_nil _
  have left : m.queue = queue := by
    rw [heeded.queue, waits]
    rfl
  refine ⟨?_, ?_, ?_, ?_⟩
  · dsimp only
    rw [carried.transport]
    exact (h.kept.sendAll vouched).more (opened_of_connects connects)
  · apply h.sent_more connects
    rw [frames]
    exact vouched
  · intro _
    refine ⟨next, ?_, ?_⟩
    · dsimp only
      rw [left]
      exact follows.more _
    · intro ready
      rcases ready with armed | begins
      · exact heeded.ended (fun armed => due (.inl armed)) reached armed
      · rw [going] at begins
        cases begins
  · intro fresh
    rw [going] at fresh
    cases fresh

theorem Sound.event {l : Online ι} {past : List Happening} (h : Sound l past) (draw : Binary64)
    {event : Event} (running : l.status = .running) (first : l.queue.head? = some event) :
    Sound (l.handle draw event).1 (past ++ (l.handle draw event).2.map .did) := by
  have heeded := Loop.heeded draw { l with queue := l.queue.tail } event
  have handled := l.handle_eq draw event
  obtain ⟨notices, noted⟩ := heeded.notices
  generalize ({ l with queue := l.queue.tail } : Online ι).heed draw event = heed at *
  obtain ⟨m, effects⟩ := heed
  dsimp only at handled heeded noted
  subst noted
  rw [handled]
  split
  · next failed =>
    -- Arming the timer broke the loop, and the client never hears of the event.
    refine h.idle (Effect.connects_notes _) (Effect.frames_notes _) heeded.client ?_
    intro alive
    exact absurd (heeded.status alive |>.trans running) failed
  · next going =>
    have client : m.client = l.client := heeded.client
    have status : m.status = .running := Decidable.not_not.mp going
    rw [client]
    exact h.handled running first heeded status _

theorem Sound.turn {l : Online ι} {past : List Happening} (h : Sound l past) (draw : Binary64)
    {turn : Loop.Turn} (may : l.MayTake turn) :
    Sound (l.perform draw turn).1 (past ++ (l.perform draw turn).2.map .did) := by
  cases turn with
  | begin =>
    exact h.attempt (h.ended (Loop.isAlive_of_fresh may) (.inr may))
      (attempt_begin draw l (h.unarmed may))
  | stop => exact h.stop may.1
  | tick => exact h.tick may
  | event event => exact h.event draw may.1 may.2
  | channelClosed =>
    have kept : (l.perform draw .channelClosed).1.client = l.client := rfl
    exact h.idle rfl rfl kept
      (fun alive => ⟨alive, rfl, rfl, rfl⟩)
  | reconnect =>
    exact h.attempt (h.ended (Loop.isAlive_of_running may.1) (.inl may.2))
      (attempt_reconnect draw l may.1)

theorem Sound.step {l l' : Online ι} {past more : List Happening} (h : Sound l past)
    (step : Step l more l') : Sound l' (past ++ more) := by
  cases step with
  | turn draw may => exact h.turn draw may
  | task stepped => exact h.task stepped
  | wait nanos =>
    rw [List.append_nil]
    exact ⟨h.kept, h.sent, h.live, h.unarmed⟩
  | stop =>
    rw [List.append_nil]
    exact ⟨h.kept, h.sent, h.live, h.unarmed⟩

theorem Run.sound {config : LoopConfig} {url : String} {hasRuntime : Bool} {input : ι}
    {past : List Happening} {l : Online ι} (run : Run (start config url hasRuntime input) past l) :
    Sound l past := by
  induction run with
  | nil => exact sound_start config url hasRuntime input
  | snoc _ step ih => exact ih.step step

/-! ## Isolation -/

/-- No session passes from one link to another. -/
structure Isolated (l : Online ι) (past : List Happening) : Prop where
  /-- The links stand in the order in which they were opened. -/
  links : l.client.transport.links.length = opened past
  /-- At most one task can still report events. -/
  reporter : ∀ (i j : Nat) (task other : SocketTask), l.client.transport.links[i]? = some task →
    l.client.transport.links[j]? = some other → task.CanReport → other.CanReport → i = j
  /-- A frame that is sent carries an id that the server has assigned on the newest link. -/
  sent : ∀ before frame answer after, past = before ++ .did (.send frame answer) :: after →
    ∃ link, opened before = link + 1 ∧ Vouched link frame before
  /-- A frame that waits on a link carries an id that the server has assigned on that link. -/
  waiting : ∀ (link : Nat) (task : SocketTask), l.client.transport.links[link]? = some task →
    ∀ frame ∈ task.pending, Vouched link frame past
  /-- A new link is opened without a session and without actors. -/
  renewed : ∀ more l', Step l more l' → .did (.connect .accepted) ∈ more →
    l.client.IsClean ∧ l'.client.IsClean

theorem Sound.renewed {l l' : Online ι} {past more : List Happening} (h : Sound l past)
    (step : Step l more l') (opens : .did (.connect .accepted) ∈ more) :
    l.client.IsClean ∧ l'.client.IsClean := by
  have asks : ∀ effects : List Effect, .did (.connect .accepted) ∈ effects.map Happening.did →
      Effect.connects effects ≠ [] := by
    intro effects opens none
    obtain ⟨effect, member, same⟩ := List.mem_map.mp opens
    cases same
    have shown : .accepted ∈ Effect.connects effects := List.mem_filterMap.mpr ⟨_, member, rfl⟩
    rw [none] at shown
    cases shown
  cases step with
  | @turn turn draw may =>
    cases turn with
    | begin =>
      exact (attempt_begin draw l (h.unarmed may)).renewed
        (h.ended (Loop.isAlive_of_fresh may) (.inr may))
    | stop => exact absurd l.connects_stop (asks _ opens)
    | tick => exact absurd l.client.tick_carried.connects (asks _ opens)
    | event event => exact absurd (l.connects_handle draw event) (asks _ opens)
    | channelClosed => exact absurd rfl (asks _ opens)
    | reconnect =>
      exact (attempt_reconnect draw l may.1).renewed
        (h.ended (Loop.isAlive_of_running may.1) (.inl may.2))
  | task stepped => cases List.mem_singleton.mp opens
  | wait nanos => cases opens
  | stop => cases opens

/-- In every run sessions stay on their links. -/
theorem isolated {config : LoopConfig} {url : String} {hasRuntime : Bool} {input : ι}
    {past : List Happening} {l : Online ι} (run : Run (start config url hasRuntime input) past l) :
    Isolated l past := by
  have sound := run.sound
  refine ⟨sound.kept.opened, ?_, ?_, sound.kept.vouched, ?_⟩
  · intro i j task other one two reports reports'
    exact sound.reporter one two reports reports'
  · rintro before frame answer after rfl
    exact sound.sent.at_split
  · intro more l' step opens
    exact sound.renewed step opens

/-- A link comes up, the server assigns an id on it, the client joins and sends keys, the server
closes the link, and the loop opens another one. -/
def twoLinks : List Choice :=
  [.turn .begin .one, .task 0 .run, .task 0 .connected, .turn (.event .connected) .one,
    .task 0 (.receive (.binary zeroAssign)), .turn (.event (.frame zeroAssign)) .one,
    .turn .tick .one, .task 0 .take, .task 0 .sent, .task 0 .take, .task 0 .sent,
    .task 0 (.receive .close), .turn (.event .disconnected) .one, .turn .reconnect .one,
    .task 1 .run, .task 1 .connected, .turn (.event .connected) .one, .turn .tick .one]

theorem isolated_twoLinks : ∃ past l,
    Run (start {} "ws://server" true ({ held := .up } : KeyScript)) past l ∧
      opened past = 2 ∧ (Effect.frames (doings past)).length = 2 ∧ Isolated l past := by
  have possible : ((play? ([], start {} "ws://server" true ({ held := .up } : KeyScript))
      twoLinks).map fun state => (opened state.1, (Effect.frames (doings state.1)).length)) =
      some (2, 2) := by
    decide +kernel
  obtain ⟨⟨past, l⟩, played, counts⟩ := Option.map_eq_some_iff.mp possible
  obtain ⟨links, frames⟩ := Prod.mk.inj counts
  have run := Run.nil.play played
  exact ⟨past, l, run, links, frames, isolated run⟩

end Online

end GameClient

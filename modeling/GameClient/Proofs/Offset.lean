import GameClient.Player.Script
import GameClient.Proofs.Oblivious
import GameClient.Proofs.Trail

/-! # Clients that differ in their counters

A sequence number tells frames apart and decides nothing. Two clients that differ in their counter
by `k` do the same from then on, but for the number in each frame and in what they note, as long as
their transports do not look into frames. So once a link is lost, what is left of the past is the
counter, and the client goes on like a new one. -/

namespace GameClient

/-! ## Numbers moved on -/

/-- The frame with the sequence number moved on by `k`, modulo `2 ^ 32`. -/
def shiftSeq (k : UInt32) (frame : Bytes) : Bytes :=
  frame.take 18 ++ Bytes.ofNat 4 (Bytes.toNat (seqField frame) + k.toNat) ++ frame.drop 22

theorem Bytes.ofNat_mod (width n : Nat) : ofNat width (n % 256 ^ width) = ofNat width n := by
  have written := ofNat_toNat (ofNat width n)
  rw [toNat_ofNat, length_ofNat] at written
  exact written

theorem shiftSeq_fields (k : UInt32) (dataTag subTag : UInt8) (id : SessionId) (seq : UInt32)
    (tail : Bytes) :
    shiftSeq k (dataTag :: subTag :: (id.bytes ++ (Bytes.ofNat 4 seq.toNat ++ tail))) =
      dataTag :: subTag :: (id.bytes ++ (Bytes.ofNat 4 (seq + k).toNat ++ tail)) := by
  have before (rest : Bytes) : (id.bytes ++ rest).take 16 = id.bytes :=
    List.take_left' id.length_eq
  have field : (Bytes.ofNat 4 seq.toNat ++ tail).take 4 = Bytes.ofNat 4 seq.toNat :=
    List.take_left' (Bytes.length_ofNat ..)
  have behind : (id.bytes ++ (Bytes.ofNat 4 seq.toNat ++ tail)).drop 20 = tail := by
    rw [← List.append_assoc]
    exact List.drop_left' (by simp [id.length_eq])
  have small : seq.toNat % 256 ^ 4 = seq.toNat := Nat.mod_eq_of_lt seq.toNat_lt
  have moved : Bytes.ofNat 4 (seq + k).toNat = Bytes.ofNat 4 (seq.toNat + k.toNat) := by
    rw [UInt32.toNat_add]
    exact Bytes.ofNat_mod 4 _
  simp only [shiftSeq, seqField, List.take_succ_cons, List.drop_succ_cons, before, drop_id_append,
    field, behind, Bytes.toNat_ofNat, small, moved, List.cons_append, List.append_assoc]

theorem shiftSeq_control (k : UInt32) (m : Control) :
    shiftSeq k m.encode = Control.encode { m with seq := m.seq + k } := by
  have fields := shiftSeq_fields k DataType.control.toByte m.kind.toByte m.sessionId m.seq []
  rw [List.append_nil, List.append_nil] at fields
  exact fields

theorem shiftSeq_input (k : UInt32) (m : Input) :
    shiftSeq k m.encode = Input.encode { m with seq := m.seq + k } := by
  simp only [Input.encode, List.append_assoc]
  exact shiftSeq_fields ..

/-- The notice, with the number in it moved on. -/
def Notice.shift (k : UInt32) : Notice → Notice
  | linkDown seq => linkDown (seq + k)
  | joinSent id seq => joinSent id (seq + k)
  | leaveSent id seq => leaveSent id (seq + k)
  | notice => notice

/-- The effect, with the number in it moved on. All but frames and notices is the same. -/
def Effect.shift (k : UInt32) : Effect → Effect
  | send frame answer => send (shiftSeq k frame) answer
  | note notice => note (notice.shift k)
  | effect => effect

theorem Effect.map_shift_reports (k : UInt32) (events : List Event) :
    (events.map report).map (shift k) = events.map report := by
  rw [List.map_map]
  rfl

theorem Effect.map_shift_notes (k : UInt32) (notices : List Notice) :
    (notices.map note).map (shift k) = (notices.map (Notice.shift k)).map note := by
  rw [List.map_map, List.map_map]
  rfl

def Session.shift (k : UInt32) (s : Session) : Session := { s with seq := s.seq + k }

theorem Session.readyId_shift (k : UInt32) (s : Session) : (s.shift k).readyId = s.readyId := rfl

theorem Session.advance_shift (k : UInt32) (s : Session) :
    (s.shift k).advance = s.advance.shift k := by
  have swapped : s.seq + k + 1 = s.seq + 1 + k := by
    rw [UInt32.add_assoc, UInt32.add_comm k, ← UInt32.add_assoc]
  simp only [advance, shift, swapped]

def Stats.plus (s growth : Stats) : Stats where
  received := s.received + growth.received
  dropped := s.dropped + growth.dropped
  ignored := s.ignored + growth.ignored
  sent := s.sent + growth.sent
  sendFailures := s.sendFailures + growth.sendFailures

namespace Client

variable {τ ι : Type} [Transport τ]

/-- The second client is further on by `k` numbers, and like the first in all that decides what a
client does. -/
structure Offset (k : UInt32) (c c' : Client τ ι) : Prop where
  session : c'.session = c.session.shift k
  actors : c'.actors = c.actors
  tornDown : c'.tornDown = c.tornDown
  input : c'.input = c.input
  transport : Transport.Alike c.transport c'.transport

/-- And both have counted the same since they had the counts `s` and `s'`. -/
structure Tracks (k : UInt32) (s s' : Stats) (c c' : Client τ ι) : Prop extends Offset k c c' where
  growth : ∃ g, c.stats = s.plus g ∧ c'.stats = s'.plus g

/-- Both end on track, and the second has done the same with other numbers. -/
structure Parallel (k : UInt32) (s s' : Stats) (r r' : Client τ ι × List Effect) : Prop where
  tracks : Tracks k s s' r.1 r'.1
  effects : r'.2 = r.2.map (Effect.shift k)

namespace Tracks

variable {k : UInt32} {s s' : Stats} {c c' : Client τ ι}

/-! ## Parts of operations -/

theorem counting (h : Tracks k s s' c c') {f : Stats → Stats}
    (adds : ∀ s g : Stats, f (s.plus g) = s.plus (f g)) :
    Tracks k s s' { c with stats := f c.stats } { c' with stats := f c'.stats } := by
  obtain ⟨offset, g, counted, counted'⟩ := h
  refine ⟨⟨offset.session, offset.actors, offset.tornDown, offset.input, offset.transport⟩, f g, ?_⟩
  exact ⟨(congrArg f counted).trans (adds s g), (congrArg f counted').trans (adds s' g)⟩

theorem carrying (h : Tracks k s s' c c') {t t' : τ} (alike : Transport.Alike t t') :
    Tracks k s s' { c with transport := t } { c' with transport := t' } :=
  ⟨⟨h.session, h.actors, h.tornDown, h.input, alike⟩, h.growth⟩

theorem changing (h : Tracks k s s' c c') (session : Session) :
    Tracks k s s' { c with session } { c' with session := session.shift k } :=
  ⟨⟨rfl, h.actors, h.tornDown, h.input, h.transport⟩, h.growth⟩

theorem showing (h : Tracks k s s' c c') (actors : List Actor) :
    Tracks k s s' { c with actors } { c' with actors } :=
  ⟨⟨h.session, rfl, h.tornDown, h.input, h.transport⟩, h.growth⟩

theorem latching (h : Tracks k s s' c c') (tornDown : Bool) :
    Tracks k s s' { c with tornDown } { c' with tornDown } :=
  ⟨⟨h.session, h.actors, rfl, h.input, h.transport⟩, h.growth⟩

theorem holding (h : Tracks k s s' c c') (input : ι) :
    Tracks k s s' { c with input } { c' with input } :=
  ⟨⟨h.session, h.actors, h.tornDown, rfl, h.transport⟩, h.growth⟩

theorem readyId (h : Tracks k s s' c c') : c'.session.readyId = c.session.readyId :=
  (congrArg Session.readyId h.session).trans (Session.readyId_shift k c.session)

/-! ## Operations -/

theorem connect (h : Tracks k s s' c c') : Parallel k s s' c.connect.2 c'.connect.2 := by
  obtain ⟨answer, events, alike⟩ := h.transport.connect
  refine ⟨h.carrying alike, ?_⟩
  simp only [Client.connect, ← answer, ← events, List.map_cons, Effect.map_shift_reports]
  rfl

theorem drop (h : Tracks k s s' c c') {why : Notice} (plain : why.shift k = why) :
    Parallel k s s' (c.drop why) (c'.drop why) := by
  refine ⟨h.counting (f := fun s => { s with dropped := s.dropped + 1 }) fun _ _ => rfl, ?_⟩
  exact congrArg ([Effect.note ·]) plain.symm

theorem ignore (h : Tracks k s s' c c') {why : Notice} (plain : why.shift k = why) :
    Parallel k s s' (c.ignore why) (c'.ignore why) := by
  refine ⟨h.counting (f := fun s => { s with ignored := s.ignored + 1 }) fun _ _ => rfl, ?_⟩
  exact congrArg ([Effect.note ·]) plain.symm

theorem hand (h : Tracks k s s' c c') {frame frame' : Bytes}
    (length : frame.length = frame'.length) :
    (c'.hand frame').1 = (c.hand frame).1 ∧ Tracks k s s' (c.hand frame).2 (c'.hand frame').2 := by
  obtain ⟨answer, alike⟩ := h.transport.send length
  refine ⟨answer.symm, ?_⟩
  have carried := h.carrying alike
  simp only [Client.hand, ← answer]
  cases (Transport.send frame c.transport).1 with
  | accepted =>
    exact carried.counting (f := fun s => { s with sent := s.sent + 1 }) fun _ _ => rfl
  | refused error =>
    exact carried.counting (f := fun s => { s with sendFailures := s.sendFailures + 1 })
      fun _ _ => rfl

theorem send (h : Tracks k s s' c c') {frame frame' : Bytes} (shifted : shiftSeq k frame = frame')
    (length : frame.length = frame'.length) (onAccepted : List Notice) :
    Parallel k s s' (c.send frame onAccepted)
      (c'.send frame' (onAccepted.map (Notice.shift k))) := by
  obtain ⟨answer, tracks⟩ := h.hand length
  unfold Client.send
  generalize c.hand frame = handed at *
  generalize c'.hand frame' = handed' at *
  obtain ⟨answer, d⟩ := handed
  obtain ⟨answer', d'⟩ := handed'
  subst answer shifted
  cases answer' with
  | accepted =>
    refine ⟨tracks, ?_⟩
    simp only [List.map_cons, Effect.map_shift_notes]
    rfl
  | refused error => exact ⟨tracks, rfl⟩

theorem join (h : Tracks k s s' c c') (id : SessionId) :
    Parallel k s s' (c.join id) (c'.join id) := by
  have assigned : (c'.session.assign id).advance = (c.session.assign id).advance.shift k := by
    rw [h.session, ← Session.advance_shift]
    rfl
  have frame : shiftSeq k (Control.encode ⟨.join, id, c.session.seq⟩) =
      Control.encode ⟨.join, id, c'.session.seq⟩ := by
    rw [shiftSeq_control, h.session]
    rfl
  have number : [Notice.joinSent id c'.session.seq] =
      [Notice.joinSent id c.session.seq].map (Notice.shift k) := by
    rw [h.session]
    rfl
  have sent := (h.changing (c.session.assign id).advance).send frame (by simp)
    [.joinSent id c.session.seq]
  rw [← assigned, ← number] at sent
  exact ⟨sent.tracks, congrArg (Effect.note (.idReceived id) :: ·) sent.effects⟩

theorem onAssign (h : Tracks k s s' c c') (frame : Bytes) :
    Parallel k s s' (c.onAssign frame) (c'.onAssign frame) := by
  have link : c'.session.connection = c.session.connection := by
    rw [h.session]
    rfl
  unfold Client.onAssign
  rw [link]
  split
  · exact h.drop rfl
  · split
    · exact h.join _
    · exact h.drop rfl

theorem onControl (h : Tracks k s s' c c') (frame : Bytes) :
    Parallel k s s' (c.onControl frame) (c'.onControl frame) := by
  unfold Client.onControl
  split
  · exact h.onAssign frame
  · exact h.ignore rfl
  · exact h.drop rfl

theorem onBroadcast (h : Tracks k s s' c c') (frame : Bytes) :
    Parallel k s s' (c.onBroadcast frame) (c'.onBroadcast frame) := by
  unfold Client.onBroadcast
  split
  · exact ⟨h.showing _, rfl⟩
  · exact h.drop rfl

theorem onFrame (h : Tracks k s s' c c') (frame : Bytes) :
    Parallel k s s' (c.onFrame frame) (c'.onFrame frame) := by
  have counted := h.counting (f := fun s => { s with received := s.received + 1 }) fun _ _ => rfl
  unfold Client.onFrame
  dsimp only
  split
  · exact counted.onControl frame
  · exact counted.onBroadcast frame
  · exact counted.ignore rfl
  · exact counted.drop rfl

theorem handle (h : Tracks k s s' c c') (event : Event) :
    Parallel k s s' (c.handle event) (c'.handle event) := by
  cases event with
  | connected =>
    have up := h.changing c.session.connected
    refine ⟨?_, rfl⟩
    rw [Client.handle, Client.handle, h.session]
    exact up
  | disconnected =>
    have down := (h.changing c.session.disconnected).showing []
    rw [Client.handle, Client.handle, h.session]
    exact ⟨down, rfl⟩
  | frame bytes => exact h.onFrame bytes

theorem sendKeys (h : Tracks k s s' c c') (id : SessionId) (keys : KeyMask) :
    Parallel k s s' (c.sendKeys id keys) (c'.sendKeys id keys) := by
  unfold Client.sendKeys
  split
  · exact ⟨h, rfl⟩
  · have advanced : c'.session.advance = c.session.advance.shift k := by
      rw [h.session, Session.advance_shift]
    have frame : shiftSeq k (Input.encode ⟨id, c.session.seq, keys⟩) =
        Input.encode ⟨id, c'.session.seq, keys⟩ := by
      rw [shiftSeq_input, h.session]
      rfl
    rw [advanced]
    exact (h.changing c.session.advance).send frame (by simp) []

theorem leave (h : Tracks k s s' c c') : Parallel k s s' c.leave c'.leave := by
  unfold Client.leave
  rw [h.readyId]
  split
  · exact ⟨h, rfl⟩
  · next id ready =>
    have advanced : c'.session.advance = c.session.advance.shift k := by
      rw [h.session, Session.advance_shift]
    have frame : shiftSeq k (Control.encode ⟨.leave, id, c.session.seq⟩) =
        Control.encode ⟨.leave, id, c'.session.seq⟩ := by
      rw [shiftSeq_control, h.session]
      rfl
    have number : c'.session.seq = c.session.seq + k := congrArg Session.seq h.session
    have length : (Control.encode ⟨.leave, id, c.session.seq⟩).length =
        (Control.encode ⟨.leave, id, c'.session.seq⟩).length := by simp
    obtain ⟨answer, tracks⟩ := (h.changing c.session.advance).hand length
    rw [← advanced] at answer tracks
    dsimp only
    generalize ({ c with session := c.session.advance } : Client τ ι).hand _ = handed at *
    generalize ({ c' with session := c'.session.advance } : Client τ ι).hand _ = handed' at *
    obtain ⟨answer, d⟩ := handed
    obtain ⟨answer', d'⟩ := handed'
    subst answer
    rw [← frame, number]
    cases answer' with
    | accepted => exact ⟨tracks, rfl⟩
    | refused error => exact ⟨tracks, rfl⟩

theorem render (h : Tracks k s s' c c') :
    [Effect.render c'.actors c'.session.id] =
      [Effect.render c.actors c.session.id].map (Effect.shift k) := by
  rw [h.actors, h.session]
  rfl

variable [Sampler ι]

theorem tick (h : Tracks k s s' c c') : Parallel k s s' c.tick c'.tick := by
  cases ready : c.session.readyId with
  | none =>
    rw [tick_of_not_ready ready, tick_of_not_ready (h.readyId.trans ready)]
    exact ⟨h, h.render⟩
  | some id =>
    have keys : c'.heldKeys = c.heldKeys := by
      rw [heldKeys, h.input]
      rfl
    have sampling : Tracks k s s' c.sampling c'.sampling := by
      unfold Client.sampling
      rw [h.input]
      exact h.holding _
    have sent := sampling.sendKeys id c.heldKeys
    rw [tick_of_ready ready, tick_of_ready (h.readyId.trans ready), keys]
    refine ⟨sent.tracks, ?_⟩
    rw [sent.effects, sent.tracks.render, List.map_append]
    rfl

theorem teardown (h : Tracks k s s' c c') : Parallel k s s' c.teardown c'.teardown := by
  cases torn : c.tornDown with
  | true =>
    rw [teardown_of_tornDown torn, teardown_of_tornDown (h.tornDown.trans torn)]
    exact ⟨h, rfl⟩
  | false =>
    have torn' := h.tornDown.trans torn
    have left : Parallel k s s' c.tearing.leave c'.tearing.leave := (h.latching true).leave
    obtain ⟨⟨⟨session, -, tornDown, input, transport⟩, growth⟩, effects⟩ := left
    refine ⟨?_, ?_⟩
    · rw [teardown_fst torn, teardown_fst torn']
      refine ⟨⟨?_, rfl, tornDown, congrArg Sampler.release input, transport.disconnect⟩, growth⟩
      rw [session]
      rfl
    · rw [teardown_snd torn, teardown_snd torn', effects, List.map_append]
      rfl

theorem perform (oblivious : Transport.Oblivious τ) (h : Tracks k s s' c c') (call : Call τ ι) :
    Parallel k s s' (c.perform call) (c'.perform call) := by
  cases call with
  | start =>
    have started := (h.latching false).connect
    exact ⟨started.tracks, congrArg (Effect.note .clientStarting :: ·) started.effects⟩
  | reconnect =>
    have asked := h.connect
    exact ⟨asked.tracks, congrArg (Effect.note .reconnecting :: ·) asked.effects⟩
  | handle event => exact h.handle event
  | tick => exact h.tick
  | teardown => exact h.teardown
  | disturb transport input => exact ⟨(h.carrying (oblivious transport)).holding input, rfl⟩

theorem after (oblivious : Transport.Oblivious τ) (h : Tracks k s s' c c')
    (calls : List (Call τ ι)) :
    Parallel k s s' (c.after calls, c.effects calls) (c'.after calls, c'.effects calls) := by
  induction calls generalizing c c' with
  | nil => exact ⟨h, rfl⟩
  | cons call calls ih =>
    have first := h.perform oblivious call
    have rest := ih first.tracks
    have shifted : (c'.perform call).1.effects calls =
        ((c.perform call).1.effects calls).map (Effect.shift k) := rest.effects
    refine ⟨rest.tracks, ?_⟩
    simp only [effects, List.map_append, first.effects, shifted]

end Tracks

/-- A client that has lost its link differs from a new one in its counter only. -/
theorem offset_new (oblivious : Transport.Oblivious τ) {c : Client τ ι}
    (standing : c.tornDown = false) :
    let lost := (c.handle .disconnected).1
    Offset lost.session.seq (new lost.transport lost.input) lost where
  session := by
    simp only [handle, Session.disconnected, Session.shift, new, UInt32.zero_add]
  actors := rfl
  tornDown := standing
  input := rfl
  transport := oblivious _

variable [Sampler ι]

/-- The second client goes through the calls as the first does, `k` numbers further on. -/
structure Follows (k : UInt32) (c c' : Client τ ι) (calls : List (Call τ ι)) : Prop where
  effects : c'.effects calls = (c.effects calls).map (Effect.shift k)
  offset : Offset k (c.after calls) (c'.after calls)
  growth : ∃ g, (c.after calls).stats = c.stats.plus g ∧ (c'.after calls).stats = c'.stats.plus g

theorem Offset.follows {k : UInt32} {c c' : Client τ ι} (h : Offset k c c')
    (oblivious : Transport.Oblivious τ) (calls : List (Call τ ι)) : Follows k c c' calls := by
  have tracks : Tracks k c.stats c'.stats c c' := ⟨h, {}, rfl, rfl⟩
  obtain ⟨⟨offset, growth⟩, effects⟩ := tracks.after oblivious calls
  exact ⟨effects, offset, growth⟩

/-- Whatever is called, a client that differs in its counter only follows at the same distance. So
one that has lost its link and was not torn down goes on like a new one, from its counter on. -/
theorem follows_at_offset (oblivious : Transport.Oblivious τ) :
    (∀ (k : UInt32) (c c' : Client τ ι) (calls : List (Call τ ι)), Offset k c c' →
      Follows k c c' calls) ∧
    ∀ (c : Client τ ι) (calls : List (Call τ ι)), c.tornDown = false →
      let lost := (c.handle .disconnected).1
      Follows lost.session.seq (new lost.transport lost.input) lost calls := by
  refine ⟨fun k c c' calls offset => offset.follows oblivious calls, ?_⟩
  intro c calls standing
  exact (offset_new oblivious standing).follows oblivious calls

/-- Two ticks later a client is two numbers further on, and once it has lost its link it goes on like
a new one, three numbers further on. -/
theorem follows_two_ticks_later :
    let c := (new (τ := Memory) {} ({ held := .up } : KeyScript)).after
      [.start, .handle .connected, .handle (.frame zeroAssign)]
    let later := c.after [.tick, .tick]
    let lost := (later.handle .disconnected).1
    Transport.Oblivious Memory ∧ Offset 2 c later ∧ Follows 2 c later [.tick, .teardown] ∧
      later.tornDown = false ∧ lost.session.seq = 3 ∧
      Follows 3 (new lost.transport lost.input) lost [.start, .tick, .teardown] := by
  intro c later lost
  have offset : Offset 2 c later := ⟨by decide, by decide, by decide, by decide, Memory.alike _ _⟩
  have standing : later.tornDown = false := by decide
  have oblivious := Memory.oblivious
  exact ⟨oblivious, offset, (follows_at_offset oblivious).1 2 c later _ offset, standing, by decide,
    (follows_at_offset oblivious).2 later _ standing⟩

end Client

end GameClient

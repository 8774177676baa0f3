import GameClient.Client
import GameClient.Proofs.Codec

/-! # Operations of a client

What each operation of a client makes of its session and its counters, and which frames it hands
over. A transport is known by its answers only, so nothing here depends on which one it is. -/

namespace GameClient

/-! ## What shows of effects -/

theorem filterMap_cons_eq {α β : Type} (f : α → Option β) (a : α) (as : List α) :
    (a :: as).filterMap f = (f a).toList ++ as.filterMap f := by
  cases h : f a with
  | none => rw [List.filterMap_cons_none h, Option.toList_none, List.nil_append]
  | some b => rw [List.filterMap_cons_some h, Option.toList_some, List.singleton_append]

theorem filterMap_map_eq_nil {α β γ : Type} {f : β → Option γ} {g : α → β}
    (h : ∀ a, f (g a) = none) (as : List α) : (as.map g).filterMap f = [] := by
  rw [List.filterMap_map, List.filterMap_eq_nil_iff]
  intro a _
  exact h a

namespace Effect

def sampled? : Effect → Option KeyMask
  | sample keys => some keys
  | _ => none

def connected? : Effect → Option Answer
  | connect answer => some answer
  | _ => none

/-- The frames handed to the transport, taken or not. -/
def frames (effects : List Effect) : List Bytes := effects.filterMap frame?

def samples (effects : List Effect) : List KeyMask := effects.filterMap sampled?

def connects (effects : List Effect) : List Answer := effects.filterMap connected?

@[simp] theorem frames_cons (effect : Effect) (effects : List Effect) :
    frames (effect :: effects) = effect.frame?.toList ++ frames effects :=
  filterMap_cons_eq ..

@[simp] theorem frames_append (a b : List Effect) : frames (a ++ b) = frames a ++ frames b :=
  List.filterMap_append

@[simp] theorem frames_reports (events : List Event) : frames (events.map report) = [] :=
  filterMap_map_eq_nil (fun _ => rfl) events

@[simp] theorem frames_notes (notices : List Notice) : frames (notices.map note) = [] :=
  filterMap_map_eq_nil (fun _ => rfl) notices

@[simp] theorem samples_cons (effect : Effect) (effects : List Effect) :
    samples (effect :: effects) = effect.sampled?.toList ++ samples effects :=
  filterMap_cons_eq ..

@[simp] theorem samples_append (a b : List Effect) : samples (a ++ b) = samples a ++ samples b :=
  List.filterMap_append

@[simp] theorem samples_reports (events : List Event) : samples (events.map report) = [] :=
  filterMap_map_eq_nil (fun _ => rfl) events

@[simp] theorem samples_notes (notices : List Notice) : samples (notices.map note) = [] :=
  filterMap_map_eq_nil (fun _ => rfl) notices

@[simp] theorem connects_cons (effect : Effect) (effects : List Effect) :
    connects (effect :: effects) = effect.connected?.toList ++ connects effects :=
  filterMap_cons_eq ..

@[simp] theorem connects_append (a b : List Effect) :
    connects (a ++ b) = connects a ++ connects b :=
  List.filterMap_append

@[simp] theorem connects_notes (notices : List Notice) : connects (notices.map note) = [] :=
  filterMap_map_eq_nil (fun _ => rfl) notices

end Effect

/-- The transport after these frames were handed over, one after the other. -/
def Transport.sendAll {τ : Type} [Transport τ] (frames : List Bytes) (transport : τ) : τ :=
  frames.foldl (fun transport frame => (Transport.send frame transport).2) transport

/-- The frames that were handed over, by either outcome. -/
def Stats.handed (s : Stats) : Nat := s.sent + s.sendFailures

namespace Client

variable {τ ι : Type}

/-! ## Calls that hand over nothing -/

/-- All but the actors and the count of received frames is as before, and only notices show. -/
structure Unmoved (c c' : Client τ ι) (effects : List Effect) : Prop where
  session : c'.session = c.session
  transport : c'.transport = c.transport
  input : c'.input = c.input
  tornDown : c'.tornDown = c.tornDown
  handed : c'.stats.handed = c.stats.handed
  notices : ∃ notices : List Notice, effects = notices.map .note

theorem drop_unmoved (c : Client τ ι) (why : Notice) :
    Unmoved c (c.drop why).1 (c.drop why).2 :=
  ⟨rfl, rfl, rfl, rfl, rfl, [why], rfl⟩

theorem ignore_unmoved (c : Client τ ι) (why : Notice) :
    Unmoved c (c.ignore why).1 (c.ignore why).2 :=
  ⟨rfl, rfl, rfl, rfl, rfl, [why], rfl⟩

theorem onBroadcast_unmoved (c : Client τ ι) (frame : Bytes) :
    Unmoved c (c.onBroadcast frame).1 (c.onBroadcast frame).2 := by
  unfold onBroadcast
  split
  · next actors _ => exact ⟨rfl, rfl, rfl, rfl, rfl, [.broadcast actors.length], rfl⟩
  · exact c.drop_unmoved _

variable [Transport τ]

/-! ## Frames -/

@[simp] theorem hand_handed (c : Client τ ι) (frame : Bytes) :
    (c.hand frame).2.stats.handed = c.stats.handed + 1 := by
  cases h : (Transport.send frame c.transport).1 <;> simp [hand, Stats.handed, h] <;> omega

theorem send_fst (c : Client τ ι) (frame : Bytes) (onAccepted : List Notice) :
    (c.send frame onAccepted).1 = (c.hand frame).2 := by
  unfold send
  split <;> simp_all

theorem send_snd (c : Client τ ι) (frame : Bytes) (onAccepted : List Notice) :
    ∃ answer, ∃ notices : List Notice,
      (c.send frame onAccepted).2 = .send frame answer :: notices.map .note := by
  unfold send
  split
  · exact ⟨_, onAccepted, rfl⟩
  · next error _ _ => exact ⟨_, [.sendRefused error], rfl⟩

@[simp] theorem frames_send (c : Client τ ι) (frame : Bytes) (onAccepted : List Notice) :
    Effect.frames (c.send frame onAccepted).2 = [frame] := by
  obtain ⟨answer, notices, h⟩ := c.send_snd frame onAccepted
  rw [h, Effect.frames_cons, Effect.frames_notes]
  rfl

@[simp] theorem samples_send (c : Client τ ι) (frame : Bytes) (onAccepted : List Notice) :
    Effect.samples (c.send frame onAccepted).2 = [] := by
  obtain ⟨answer, notices, h⟩ := c.send_snd frame onAccepted
  rw [h]
  exact Effect.samples_notes notices

@[simp] theorem connects_send (c : Client τ ι) (frame : Bytes) (onAccepted : List Notice) :
    Effect.connects (c.send frame onAccepted).2 = [] := by
  obtain ⟨answer, notices, h⟩ := c.send_snd frame onAccepted
  rw [h]
  exact Effect.connects_notes notices

/-- No link is asked for or given up, and the transport gets the frames. -/
structure Carried (c c' : Client τ ι) (effects : List Effect) : Prop where
  connects : Effect.connects effects = []
  transport : c'.transport = Transport.sendAll (Effect.frames effects) c.transport

theorem Unmoved.carried {c c' : Client τ ι} {effects : List Effect} (h : Unmoved c c' effects) :
    Carried c c' effects := by
  obtain ⟨notices, rfl⟩ := h.notices
  refine ⟨Effect.connects_notes notices, ?_⟩
  rw [Effect.frames_notes, h.transport]
  rfl

/-! ## Assignments -/

theorem join_fst (c : Client τ ι) (id : SessionId) :
    (c.join id).1 = ({ c with session := (c.session.assign id).advance }.hand
      (Control.encode ⟨.join, id, c.session.seq⟩)).2 :=
  send_fst ..

@[simp] theorem frames_join (c : Client τ ι) (id : SessionId) :
    Effect.frames (c.join id).2 = [Control.encode ⟨.join, id, c.session.seq⟩] :=
  frames_send ..

@[simp] theorem samples_join (c : Client τ ι) (id : SessionId) :
    Effect.samples (c.join id).2 = [] :=
  samples_send ..

theorem join_carried (c : Client τ ι) (id : SessionId) :
    Carried c (c.join id).1 (c.join id).2 := by
  refine ⟨connects_send .., ?_⟩
  rw [frames_join, join_fst]
  rfl

theorem onAssign_of_accepted {c : Client τ ι} {frame : Bytes} {id : SessionId}
    (up : c.session.connection = .connected) (h : assignedId? frame = some id) :
    c.onAssign frame = c.join id := by
  simp [onAssign, up, Assign.decode_eq_ok_iff.mpr h]

theorem onAssign_unmoved {c : Client τ ι} {frame : Bytes}
    (h : c.session.connection = .connected → assignedId? frame = none) :
    Unmoved c (c.onAssign frame).1 (c.onAssign frame).2 := by
  unfold onAssign
  split
  · exact c.drop_unmoved _
  · next up =>
    split
    · next id decoded =>
      have absent := h (by simpa using up)
      rw [Assign.decode_eq_ok_iff.mp decoded] at absent
      cases absent
    · exact c.drop_unmoved _

theorem peek_of_assignedId? {frame : Bytes} {id : SessionId} (h : assignedId? frame = some id) :
    peekDataType frame = some .control ∧ peekControlKind frame = some .assign := by
  unfold assignedId? at h
  split at h
  · next shape =>
    obtain ⟨dataTag, subTag, body, rfl⟩ := exists_cons_of_le_length frame (by omega)
    obtain ⟨rfl, rfl⟩ : dataTag = 1 ∧ subTag = 1 := by simpa using shape.2
    exact ⟨rfl, rfl⟩
  · cases h

def counting (c : Client τ ι) : Client τ ι :=
  { c with stats := { c.stats with received := c.stats.received + 1 } }

theorem onFrame_of_accepted {c : Client τ ι} {frame : Bytes} {id : SessionId}
    (up : c.session.connection = .connected) (h : assignedId? frame = some id) :
    c.onFrame frame = c.counting.join id := by
  obtain ⟨data, kind⟩ := peek_of_assignedId? h
  simp only [onFrame, data, onControl, kind]
  exact onAssign_of_accepted up h

theorem onFrame_unmoved {c : Client τ ι} {frame : Bytes}
    (h : c.session.connection = .connected → assignedId? frame = none) :
    Unmoved c (c.onFrame frame).1 (c.onFrame frame).2 := by
  have counted : Unmoved c.counting (c.onFrame frame).1 (c.onFrame frame).2 := by
    unfold onFrame
    split
    · unfold onControl
      split
      · exact onAssign_unmoved h
      · exact ignore_unmoved ..
      · exact drop_unmoved ..
    · exact onBroadcast_unmoved ..
    · exact ignore_unmoved ..
    · exact drop_unmoved ..
  exact ⟨counted.session, counted.transport, counted.input, counted.tornDown, counted.handed,
    counted.notices⟩

/-- A frame is an ASSIGN that is accepted, or it leaves the client unmoved. -/
theorem handle_frame (c : Client τ ι) (bytes : Bytes) :
    (∃ id, c.session.connection = .connected ∧ assignedId? bytes = some id ∧
      c.handle (.frame bytes) = c.counting.join id) ∨
    ((c.session.connection = .connected → assignedId? bytes = none) ∧
      Unmoved c (c.handle (.frame bytes)).1 (c.handle (.frame bytes)).2) := by
  by_cases accepted : c.session.connection = .connected ∧ ∃ id, assignedId? bytes = some id
  · obtain ⟨up, id, assigned⟩ := accepted
    exact .inl ⟨id, up, assigned, onFrame_of_accepted up assigned⟩
  · have refused : c.session.connection = .connected → assignedId? bytes = none := by
      intro up
      rw [Option.eq_none_iff_forall_ne_some]
      exact fun id assigned => accepted ⟨up, id, assigned⟩
    exact .inr ⟨refused, onFrame_unmoved refused⟩

theorem handle_carried (c : Client τ ι) (event : Event) :
    Carried c (c.handle event).1 (c.handle event).2 := by
  cases event with
  | connected => exact ⟨rfl, rfl⟩
  | disconnected => exact ⟨rfl, rfl⟩
  | frame bytes =>
    rcases c.handle_frame bytes with ⟨id, -, -, joined⟩ | ⟨-, unmoved⟩
    · have carried := c.counting.join_carried id
      rw [joined]
      exact ⟨carried.connects, carried.transport⟩
    · exact unmoved.carried

@[simp] theorem frames_connect (c : Client τ ι) : Effect.frames c.connect.2.2 = [] :=
  Effect.frames_reports _

@[simp] theorem samples_connect (c : Client τ ι) : Effect.samples c.connect.2.2 = [] :=
  Effect.samples_reports _

/-! ## Held keys -/

theorem sendKeys_fst (c : Client τ ι) {keys : KeyMask} (id : SessionId)
    (h : keys.isEmpty = false) :
    (c.sendKeys id keys).1 = ({ c with session := c.session.advance }.hand
      (Input.encode ⟨id, c.session.seq, keys⟩)).2 := by
  rw [sendKeys, if_neg (by simp [h])]
  exact send_fst ..

theorem frames_sendKeys (c : Client τ ι) {keys : KeyMask} (id : SessionId)
    (h : keys.isEmpty = false) :
    Effect.frames (c.sendKeys id keys).2 = [Input.encode ⟨id, c.session.seq, keys⟩] := by
  rw [sendKeys, if_neg (by simp [h])]
  exact frames_send ..

@[simp] theorem samples_sendKeys (c : Client τ ι) (id : SessionId) (keys : KeyMask) :
    Effect.samples (c.sendKeys id keys).2 = [] := by
  unfold sendKeys
  split
  · rfl
  · exact samples_send ..

@[simp] theorem connects_sendKeys (c : Client τ ι) (id : SessionId) (keys : KeyMask) :
    Effect.connects (c.sendKeys id keys).2 = [] := by
  unfold sendKeys
  split
  · rfl
  · exact connects_send ..

theorem sendKeys_of_isEmpty (c : Client τ ι) {keys : KeyMask} (id : SessionId)
    (h : keys.isEmpty = true) : c.sendKeys id keys = (c, []) := by
  rw [sendKeys, if_pos h]

/-! ## Leaving -/

theorem leave_of_not_ready {c : Client τ ι} (h : c.session.readyId = none) :
    c.leave = (c, []) := by
  simp [leave, h]

theorem leave_fst {c : Client τ ι} {id : SessionId} (h : c.session.readyId = some id) :
    c.leave.1 = ({ c with session := c.session.advance }.hand
      (Control.encode ⟨.leave, id, c.session.seq⟩)).2 := by
  simp only [leave, h]
  split <;> simp_all

theorem leave_snd {c : Client τ ι} {id : SessionId} (h : c.session.readyId = some id) :
    ∃ answer notice,
      c.leave.2 = [.send (Control.encode ⟨.leave, id, c.session.seq⟩) answer, .note notice] := by
  simp only [leave, h]
  split
  · exact ⟨_, _, rfl⟩
  · exact ⟨_, _, rfl⟩

/-! ## Calls that use the input -/

variable [Sampler ι]

theorem tick_of_not_ready {c : Client τ ι} (h : c.session.readyId = none) :
    c.tick = (c, [.render c.actors c.session.id]) := by
  simp [tick, h]

/-- The keys that are held at the next sample. -/
def heldKeys (c : Client τ ι) : KeyMask := (Sampler.sample c.input).1

def sampling (c : Client τ ι) : Client τ ι := { c with input := (Sampler.sample c.input).2 }

theorem tick_of_ready {c : Client τ ι} {id : SessionId} (h : c.session.readyId = some id) :
    c.tick = ((c.sampling.sendKeys id c.heldKeys).1,
      .sample c.heldKeys :: (c.sampling.sendKeys id c.heldKeys).2 ++
        [.render (c.sampling.sendKeys id c.heldKeys).1.actors
          (c.sampling.sendKeys id c.heldKeys).1.session.id]) := by
  simp [tick, h, sampling, heldKeys]

theorem samples_tick {c : Client τ ι} {id : SessionId} (h : c.session.readyId = some id) :
    Effect.samples c.tick.2 = [c.heldKeys] := by
  rw [tick_of_ready h, Effect.samples_append, Effect.samples_cons, samples_sendKeys]
  rfl

theorem frames_tick {c : Client τ ι} {id : SessionId} (h : c.session.readyId = some id) :
    Effect.frames c.tick.2 =
      if c.heldKeys.isEmpty then [] else [Input.encode ⟨id, c.session.seq, c.heldKeys⟩] := by
  rw [tick_of_ready h, Effect.frames_append, Effect.frames_cons]
  cases empty : c.heldKeys.isEmpty with
  | true =>
    rw [sendKeys_of_isEmpty _ _ empty]
    rfl
  | false =>
    rw [frames_sendKeys _ _ empty]
    rfl

theorem tick_carried (c : Client τ ι) : Carried c c.tick.1 c.tick.2 := by
  cases ready : c.session.readyId with
  | none =>
    rw [tick_of_not_ready ready]
    exact ⟨rfl, rfl⟩
  | some id =>
    constructor
    · rw [tick_of_ready ready, Effect.connects_append, Effect.connects_cons, connects_sendKeys]
      rfl
    · rw [frames_tick ready, tick_of_ready ready]
      cases empty : c.heldKeys.isEmpty with
      | true =>
        rw [sendKeys_of_isEmpty _ _ empty]
        rfl
      | false =>
        rw [sendKeys_fst _ _ empty]
        rfl

/-- What a tick keeps. It may use up a number of the session. -/
structure Ticked (c c' : Client τ ι) : Prop where
  session : c'.session = c.session ∨ c'.session = c.session.advance
  actors : c'.actors = c.actors
  tornDown : c'.tornDown = c.tornDown

theorem ticked (c : Client τ ι) : Ticked c c.tick.1 := by
  cases ready : c.session.readyId with
  | none =>
    rw [tick_of_not_ready ready]
    exact ⟨.inl rfl, rfl, rfl⟩
  | some id =>
    rw [tick_of_ready ready]
    cases empty : c.heldKeys.isEmpty with
    | true =>
      rw [sendKeys_of_isEmpty _ _ empty]
      exact ⟨.inl rfl, rfl, rfl⟩
    | false =>
      rw [sendKeys_fst _ _ empty]
      exact ⟨.inr rfl, rfl, rfl⟩

theorem teardown_of_tornDown {c : Client τ ι} (h : c.tornDown = true) : c.teardown = (c, []) := by
  simp [teardown, h]

def tearing (c : Client τ ι) : Client τ ι := { c with tornDown := true }

theorem teardown_fst {c : Client τ ι} (h : c.tornDown = false) :
    c.teardown.1 =
      { c.tearing.leave.1 with
        transport := Transport.disconnect c.tearing.leave.1.transport
        input := Sampler.release c.tearing.leave.1.input
        session := c.tearing.leave.1.session.disconnected
        actors := [] } := by
  simp [teardown, h, tearing]

theorem teardown_snd {c : Client τ ι} (h : c.tornDown = false) :
    c.teardown.2 = c.tearing.leave.2 ++ [.disconnect, .release, .note .tornDown] := by
  simp [teardown, h, tearing]

/-- A teardown that has an effect gives up the link after the LEAVE, if there is one. -/
theorem teardown_carried {c : Client τ ι} (h : c.tornDown = false) :
    Effect.connects c.teardown.2 = [] ∧
      c.teardown.1.transport =
        Transport.disconnect (Transport.sendAll (Effect.frames c.teardown.2) c.transport) := by
  rw [teardown_snd h, teardown_fst h, Effect.connects_append, Effect.frames_append]
  cases ready : c.session.readyId with
  | none =>
    rw [leave_of_not_ready (c := c.tearing) ready]
    exact ⟨rfl, rfl⟩
  | some id =>
    obtain ⟨answer, notice, left⟩ := leave_snd (c := c.tearing) ready
    rw [leave_fst (c := c.tearing) ready, left]
    exact ⟨rfl, rfl⟩

@[simp] theorem connects_teardown (c : Client τ ι) : Effect.connects c.teardown.2 = [] := by
  cases torn : c.tornDown with
  | true =>
    rw [teardown_of_tornDown torn]
    rfl
  | false => exact (teardown_carried torn).1

/-- A teardown with a session hands over a LEAVE, unless it comes too late to have an effect. -/
theorem frames_teardown {c : Client τ ι} {id : SessionId} (h : c.session.readyId = some id) :
    Effect.frames c.teardown.2 =
      if c.tornDown then [] else [Control.encode ⟨.leave, id, c.session.seq⟩] := by
  cases torn : c.tornDown with
  | true =>
    rw [teardown_of_tornDown torn]
    rfl
  | false =>
    obtain ⟨answer, notice, left⟩ := leave_snd (c := c.tearing) h
    rw [teardown_snd torn, left]
    rfl

end Client

end GameClient

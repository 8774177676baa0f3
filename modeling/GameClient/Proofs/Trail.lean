import GameClient.Proofs.Operations

/-! # Runs of a client and their trails

A run is a list of calls. Transports and inputs answer as they like, and between two calls both
may be replaced, so a statement for all of them covers every pattern of answers. Of what happens
in a run the trail keeps, in order, the ASSIGNs that are accepted, the samples of the input, the
frames that are handed over, the ends of links and the teardowns that take effect.

`Session.Move` lists what one call can do to a session and leave in the trail. `step_perform` is
the only place where the calls are taken apart; what holds of runs follows from the moves. -/

namespace GameClient

/-- What is done with a client. -/
inductive Call (τ ι : Type) where
  | start
  | reconnect
  | handle (event : Event)
  | tick
  | teardown
  /-- Others act on the transport and on the input. -/
  | disturb (transport : τ) (input : ι)

/-- An entry of a trail. -/
inductive Mark where
  | assigned (id : SessionId)
  | sampled (keys : KeyMask)
  /-- A frame is handed to the transport, which may refuse it. -/
  | handed (frame : Bytes)
  | lost
  | tornDown
deriving DecidableEq

namespace Mark

def assigned? : Mark → Option SessionId
  | assigned id => some id
  | _ => none

def handed? : Mark → Option Bytes
  | handed frame => some frame
  | _ => none

def sampled? : Mark → Option KeyMask
  | sampled keys => some keys
  | _ => none

def ids (marks : List Mark) : List SessionId := marks.filterMap assigned?

def frames (marks : List Mark) : List Bytes := marks.filterMap handed?

def samples (marks : List Mark) : List KeyMask := marks.filterMap sampled?

@[simp] theorem ids_append (a b : List Mark) : ids (a ++ b) = ids a ++ ids b :=
  List.filterMap_append

@[simp] theorem frames_append (a b : List Mark) : frames (a ++ b) = frames a ++ frames b :=
  List.filterMap_append

@[simp] theorem samples_append (a b : List Mark) : samples (a ++ b) = samples a ++ samples b :=
  List.filterMap_append

end Mark

namespace Call

variable {τ ι : Type}

/-- The id of the ASSIGN that the call makes a client in this session accept: one that is handled
while the client is connected. -/
def acceptedId? (session : Session) : Call τ ι → Option SessionId
  | handle (.frame bytes) => if session.connection = .connected then assignedId? bytes else none
  | _ => none

/-- The mark of a call that ends a session, if it does. -/
def ending (tornDown : Bool) : Call τ ι → List Mark
  | handle .disconnected => [.lost]
  | teardown => if tornDown then [] else [.tornDown]
  | _ => []

end Call

namespace Client

variable {τ ι : Type}

def new (transport : τ) (input : ι) : Client τ ι := { transport, input }

variable [Transport τ] [Sampler ι]

def perform (c : Client τ ι) : Call τ ι → Client τ ι × List Effect
  | .start => c.start.2
  | .reconnect => c.reconnect.2
  | .handle event => c.handle event
  | .tick => c.tick
  | .teardown => c.teardown
  | .disturb transport input => ({ c with transport, input }, [])

/-- What a call leaves in the trail. -/
def marks (c : Client τ ι) (call : Call τ ι) : List Mark :=
  (call.acceptedId? c.session).toList.map .assigned ++
    (Effect.samples (c.perform call).2).map .sampled ++
    (Effect.frames (c.perform call).2).map .handed ++ call.ending c.tornDown

def after : Client τ ι → List (Call τ ι) → Client τ ι
  | c, [] => c
  | c, call :: calls => (c.perform call).1.after calls

def effects : Client τ ι → List (Call τ ι) → List Effect
  | _, [] => []
  | c, call :: calls => (c.perform call).2 ++ (c.perform call).1.effects calls

def trail : Client τ ι → List (Call τ ι) → List Mark
  | _, [] => []
  | c, call :: calls => c.marks call ++ (c.perform call).1.trail calls

theorem filterMap_marks {β : Type} (c : Client τ ι) (call : Call τ ι) {f : Mark → Option β}
    (lost : f .lost = none) (tornDown : f .tornDown = none) :
    (c.marks call).filterMap f =
      ((call.acceptedId? c.session).toList.map .assigned).filterMap f ++
        ((Effect.samples (c.perform call).2).map .sampled).filterMap f ++
        ((Effect.frames (c.perform call).2).map .handed).filterMap f := by
  have ended : (call.ending c.tornDown).filterMap f = [] := by
    unfold Call.ending
    split
    · rw [filterMap_cons_eq, lost]
      rfl
    · split
      · rfl
      · rw [filterMap_cons_eq, tornDown]
        rfl
    · rfl
  rw [marks, List.filterMap_append, List.filterMap_append, List.filterMap_append, ended,
    List.append_nil]

theorem ids_marks (c : Client τ ι) (call : Call τ ι) :
    Mark.ids (c.marks call) = (call.acceptedId? c.session).toList := by
  have kept (ids : List SessionId) : (ids.map .assigned).filterMap Mark.assigned? = ids := by
    simp [List.filterMap_map, Function.comp_def, Mark.assigned?]
  rw [Mark.ids, filterMap_marks c call rfl rfl, kept, filterMap_map_eq_nil (fun _ => rfl),
    filterMap_map_eq_nil (fun _ => rfl), List.append_nil, List.append_nil]

theorem frames_marks (c : Client τ ι) (call : Call τ ι) :
    Mark.frames (c.marks call) = Effect.frames (c.perform call).2 := by
  have kept (frames : List Bytes) : (frames.map .handed).filterMap Mark.handed? = frames := by
    simp [List.filterMap_map, Function.comp_def, Mark.handed?]
  rw [Mark.frames, filterMap_marks c call rfl rfl, kept, filterMap_map_eq_nil (fun _ => rfl),
    filterMap_map_eq_nil (fun _ => rfl), List.nil_append, List.nil_append]

theorem samples_marks (c : Client τ ι) (call : Call τ ι) :
    Mark.samples (c.marks call) = Effect.samples (c.perform call).2 := by
  have kept (keys : List KeyMask) : (keys.map .sampled).filterMap Mark.sampled? = keys := by
    simp [List.filterMap_map, Function.comp_def, Mark.sampled?]
  rw [Mark.samples, filterMap_marks c call rfl rfl, kept, filterMap_map_eq_nil (fun _ => rfl),
    filterMap_map_eq_nil (fun _ => rfl), List.nil_append, List.append_nil]

theorem frames_trail (c : Client τ ι) (calls : List (Call τ ι)) :
    Mark.frames (c.trail calls) = Effect.frames (c.effects calls) := by
  induction calls generalizing c with
  | nil => rfl
  | cons call calls ih =>
    rw [trail, effects, Mark.frames_append, Effect.frames_append, frames_marks, ih]

theorem samples_trail (c : Client τ ι) (calls : List (Call τ ι)) :
    Mark.samples (c.trail calls) = Effect.samples (c.effects calls) := by
  induction calls generalizing c with
  | nil => rfl
  | cons call calls ih =>
    rw [trail, effects, Mark.samples_append, Effect.samples_append, samples_marks, ih]

end Client

/-! ## Entries and what came before -/

/-- Each entry stands in the relation `P` to all that came before it. -/
def Along {α : Type} (P : List α → α → Prop) : List α → List α → Prop
  | _, [] => True
  | past, entry :: rest => P past entry ∧ Along P (past ++ [entry]) rest

theorem Along.at_split {α : Type} {P : List α → α → Prop} {past before after : List α} {entry : α}
    (h : Along P past (before ++ entry :: after)) : P (past ++ before) entry := by
  induction before generalizing past with
  | nil =>
    rw [List.append_nil]
    exact h.1
  | cons first before ih =>
    rw [List.append_cons]
    exact ih h.2

theorem Along.append {α : Type} {P : List α → α → Prop} {past first second : List α}
    (h : Along P past first) (h' : Along P (past ++ first) second) :
    Along P past (first ++ second) := by
  induction first generalizing past with
  | nil =>
    rw [List.append_nil] at h'
    exact h'
  | cons entry first ih =>
    refine ⟨h.1, ih h.2 ?_⟩
    rw [← List.append_cons]
    exact h'

/-! ## Moves -/

/-- What one call can do to a session, and what it leaves in the trail. -/
inductive Session.Move : Session → List Mark → Session → Prop
  | stay (s : Session) : Move s [] s
  | up (s : Session) : Move s [] s.connected
  | lost (s : Session) : Move s [.lost] s.disconnected
  | join {s : Session} (id : SessionId) : s.connection = .connected →
      Move s [.assigned id, .handed (Control.encode ⟨.join, id, s.seq⟩)] (s.assign id).advance
  | silent {s : Session} {id : SessionId} {keys : KeyMask} : s.readyId = some id →
      keys.isEmpty = true → Move s [.sampled keys] s
  | keys {s : Session} {id : SessionId} {keys : KeyMask} : s.readyId = some id →
      keys.isEmpty = false →
      Move s [.sampled keys, .handed (Input.encode ⟨id, s.seq, keys⟩)] s.advance
  | leave {s : Session} {id : SessionId} : s.readyId = some id →
      Move s [.handed (Control.encode ⟨.leave, id, s.seq⟩), .tornDown] s.advance.disconnected
  | close {s : Session} : s.readyId = none → Move s [.tornDown] s.disconnected

namespace Session.Move

variable {s s' : Session} {marks : List Mark}

theorem known (h : Move s marks s') {id : SessionId} (held : s'.id = some id) :
    s.id = some id ∨ id ∈ Mark.ids marks := by
  cases h with
  | stay => exact .inl held
  | up => exact .inl held
  | lost => cases held
  | join other _ =>
    cases held
    exact .inr List.mem_cons_self
  | silent => exact .inl held
  | keys => exact .inl held
  | leave => cases held
  | close => cases held

theorem id_of_readyId {s : Session} {id : SessionId} (h : s.readyId = some id) :
    s.id = some id := by
  unfold readyId at h
  split at h
  · exact h
  · cases h

theorem carried (h : Move s marks s') {frame : Bytes} (handed : frame ∈ Mark.frames marks) :
    ∃ id : SessionId, idField frame = id.bytes ∧ (s.id = some id ∨ id ∈ Mark.ids marks) := by
  cases h with
  | stay => cases handed
  | up => cases handed
  | lost => cases handed
  | join id _ =>
    cases List.mem_singleton.mp handed
    exact ⟨id, idField_control _, .inr List.mem_cons_self⟩
  | silent => cases handed
  | @keys id _ ready _ =>
    cases List.mem_singleton.mp handed
    exact ⟨id, idField_input _, .inl (id_of_readyId ready)⟩
  | @leave id ready =>
    cases List.mem_singleton.mp handed
    exact ⟨id, idField_control _, .inl (id_of_readyId ready)⟩
  | close => cases handed

end Session.Move

namespace Client

variable {τ ι : Type}

/-- A call makes one move with the session and counts the frames that it hands over. -/
structure Step (c : Client τ ι) (marks : List Mark) (c' : Client τ ι) : Prop where
  session : Session.Move c.session marks c'.session
  handed : c'.stats.handed = c.stats.handed + (Mark.frames marks).length

theorem Unmoved.frames {c c' : Client τ ι} {effects : List Effect} (h : Unmoved c c' effects) :
    Effect.frames effects = [] := by
  obtain ⟨notices, rfl⟩ := h.notices
  exact Effect.frames_notes notices

theorem Unmoved.samples {c c' : Client τ ι} {effects : List Effect} (h : Unmoved c c' effects) :
    Effect.samples effects = [] := by
  obtain ⟨notices, rfl⟩ := h.notices
  exact Effect.samples_notes notices

theorem Unmoved.step {c c' : Client τ ι} {effects : List Effect} (h : Unmoved c c' effects) :
    Step c [] c' :=
  ⟨h.session ▸ .stay _, h.handed⟩

variable [Transport τ] [Sampler ι]

theorem step_start (c : Client τ ι) : Step c (c.marks .start) (c.perform .start).1 := by
  have frames : Effect.frames (c.perform .start).2 = [] := frames_connect _
  have samples : Effect.samples (c.perform .start).2 = [] := samples_connect _
  rw [marks, frames, samples]
  exact ⟨.stay _, rfl⟩

theorem step_reconnect (c : Client τ ι) :
    Step c (c.marks .reconnect) (c.perform .reconnect).1 := by
  have frames : Effect.frames (c.perform .reconnect).2 = [] := frames_connect _
  have samples : Effect.samples (c.perform .reconnect).2 = [] := samples_connect _
  rw [marks, frames, samples]
  exact ⟨.stay _, rfl⟩

theorem step_frame (c : Client τ ι) (bytes : Bytes) :
    Step c (c.marks (.handle (.frame bytes))) (c.perform (.handle (.frame bytes))).1 := by
  rcases c.handle_frame bytes with ⟨id, up, assigned, handled⟩ | ⟨refused, unmoved⟩
  · have id? : (Call.handle (.frame bytes) : Call τ ι).acceptedId? c.session = some id := by
      simp only [Call.acceptedId?, if_pos up, assigned]
    have joined : c.perform (.handle (.frame bytes)) = c.counting.join id := handled
    rw [marks, id?, joined, frames_join, samples_join, join_fst]
    exact ⟨.join id up, hand_handed ..⟩
  · have id? : (Call.handle (.frame bytes) : Call τ ι).acceptedId? c.session = none := by
      simpa [Call.acceptedId?] using refused
    have quiet : Unmoved c (c.perform (.handle (.frame bytes))).1
        (c.perform (.handle (.frame bytes))).2 := unmoved
    rw [marks, id?, quiet.frames, quiet.samples]
    exact quiet.step

theorem step_tick (c : Client τ ι) : Step c (c.marks .tick) (c.perform .tick).1 := by
  cases ready : c.session.readyId with
  | none =>
    have same : c.perform .tick = _ := tick_of_not_ready ready
    rw [marks, same]
    exact ⟨.stay _, rfl⟩
  | some id =>
    have after : (c.perform .tick).1 = _ := congrArg Prod.fst (tick_of_ready ready)
    have frames : Effect.frames (c.perform .tick).2 = _ := frames_tick ready
    have samples : Effect.samples (c.perform .tick).2 = _ := samples_tick ready
    rw [marks, frames, samples, after]
    cases empty : c.heldKeys.isEmpty with
    | true =>
      rw [sendKeys_of_isEmpty _ _ empty]
      exact ⟨.silent ready empty, rfl⟩
    | false =>
      rw [sendKeys_fst _ _ empty]
      exact ⟨.keys ready empty, hand_handed ..⟩

theorem step_teardown (c : Client τ ι) :
    Step c (c.marks .teardown) (c.perform .teardown).1 := by
  cases torn : c.tornDown with
  | true =>
    have same : c.perform .teardown = _ := teardown_of_tornDown torn
    rw [marks, same, torn]
    exact ⟨.stay _, rfl⟩
  | false =>
    have after : (c.perform .teardown).1 = _ := teardown_fst torn
    have did : (c.perform .teardown).2 = _ := teardown_snd torn
    rw [marks, after, did, Effect.frames_append, Effect.samples_append, torn]
    cases ready : c.session.readyId with
    | none =>
      rw [leave_of_not_ready (c := c.tearing) ready]
      exact ⟨.close ready, rfl⟩
    | some id =>
      obtain ⟨answer, notice, left⟩ := leave_snd (c := c.tearing) ready
      rw [leave_fst (c := c.tearing) ready, left]
      exact ⟨.leave ready, hand_handed ..⟩

theorem step_perform (c : Client τ ι) (call : Call τ ι) :
    Step c (c.marks call) (c.perform call).1 := by
  cases call with
  | start => exact c.step_start
  | reconnect => exact c.step_reconnect
  | handle event =>
    cases event with
    | connected => exact ⟨.up _, rfl⟩
    | disconnected => exact ⟨.lost _, rfl⟩
    | frame bytes => exact c.step_frame bytes
  | tick => exact c.step_tick
  | teardown => exact c.step_teardown
  | disturb transport input => exact ⟨.stay _, rfl⟩

end Client

end GameClient

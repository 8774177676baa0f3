import GameClient.Proofs.FixedFrames
import GameClient.Proofs.Trail

/-! # The grammar of outbound frames

What a client hands over reads, frame by frame, as a JOIN for each accepted ASSIGN, INPUTs under
the id of that JOIN, and at most one LEAVE. A session ends with its LEAVE, when its link is lost,
when the client is torn down, or with the next JOIN.

`Grammar` generates the trails. `Grammatical` says what an observer sees of them, in terms of the
decoders on the other side. -/

namespace GameClient

/-! ## What the other side reads -/

inductive Message where
  | join (id : SessionId) (seq : UInt32)
  | leave (id : SessionId) (seq : UInt32)
  | input (input : Input)

/-- The first decoder that accepts a frame says what it means. -/
def read? (frame : Bytes) : Option Message :=
  match Control.decode frame with
  | .ok ⟨.join, id, seq⟩ => some (.join id seq)
  | .ok ⟨.leave, id, seq⟩ => some (.leave id seq)
  | .ok _ => none
  | .error _ =>
    match Input.decode frame with
    | .ok input => some (.input input)
    | .error _ => none

def joinedId? (frame : Bytes) : Option SessionId :=
  match read? frame with
  | some (.join id _) => some id
  | _ => none

/-- The id of the session that an INPUT or a LEAVE belongs to. -/
def usedId? (frame : Bytes) : Option SessionId :=
  match read? frame with
  | some (.leave id _) => some id
  | some (.input input) => some input.sessionId
  | _ => none

/-- Exactly one decoder accepts the frame: as a JOIN or a LEAVE, or as an INPUT with keys. -/
def Legible (frame : Bytes) : Prop :=
  (∃ m, Control.decode frame = .ok m ∧ (m.kind = .join ∨ m.kind = .leave) ∧
      ∀ input, Input.decode frame ≠ .ok input) ∨
    (∃ input, Input.decode frame = .ok input ∧ input.keys.isEmpty = false ∧
      ∀ m, Control.decode frame ≠ .ok m)

theorem not_both_decode {frame : Bytes} {m : Control} {input : Input}
    (control : Control.decode frame = .ok m) (keys : Input.decode frame = .ok input) : False := by
  have first := Control.head?_of_decode control
  rw [Input.head?_of_decode keys] at first
  cases first

theorem legible_control (m : Control) (h : m.kind = .join ∨ m.kind = .leave) :
    Legible m.encode := by
  have accepted := Control.decode_encode m h
  exact .inl ⟨m, accepted, h, fun _ keys => not_both_decode accepted keys⟩

theorem legible_input (input : Input) (h : input.keys.isEmpty = false) :
    Legible input.encode := by
  have accepted := Input.decode_encode input
  exact .inr ⟨input, accepted, h, fun _ control => not_both_decode control accepted⟩

theorem read?_of_input {frame : Bytes} {input : Input} (h : Input.decode frame = .ok input) :
    read? frame = some (.input input) := by
  unfold read?
  split
  · next control => exact (not_both_decode control h).elim
  · next control => exact (not_both_decode control h).elim
  · next control => exact (not_both_decode control h).elim
  · rw [h]

@[simp] theorem read?_join (id : SessionId) (seq : UInt32) :
    read? (Control.encode ⟨.join, id, seq⟩) = some (.join id seq) := by
  rw [read?, Control.decode_encode _ (.inl rfl)]

@[simp] theorem read?_leave (id : SessionId) (seq : UInt32) :
    read? (Control.encode ⟨.leave, id, seq⟩) = some (.leave id seq) := by
  rw [read?, Control.decode_encode _ (.inr rfl)]

@[simp] theorem read?_input (input : Input) : read? input.encode = some (.input input) :=
  read?_of_input (Input.decode_encode input)

/-! ## Sessions in a trail -/

namespace Mark

/-- The mark leaves a session as it is: no link is lost, nothing is torn down, and a frame can
only be an INPUT. -/
def Continues : Mark → Prop
  | assigned _ => True
  | sampled _ => True
  | handed frame => ∃ input, Input.decode frame = .ok input
  | lost => False
  | tornDown => False

/-- The session is over: by a LEAVE, a lost link or a teardown. -/
inductive Ends : Mark → Prop
  | leave {frame : Bytes} {id : SessionId} {seq : UInt32} :
      read? frame = some (.leave id seq) → Ends (handed frame)
  | lost : Ends lost
  | tornDown : Ends tornDown

theorem Ends.not_continues {mark : Mark} (h : Ends mark) : ¬ Continues mark := by
  cases h with
  | leave read =>
    rintro ⟨input, accepted⟩
    rw [read?_of_input accepted] at read
    cases read
  | lost => exact id
  | tornDown => exact id

theorem not_ends_join {join : Bytes} {id : SessionId} (h : joinedId? join = some id) :
    ¬ Ends (handed join) := by
  intro ends
  cases ends with
  | leave read =>
    rw [joinedId?, read] at h
    cases h

end Mark

/-- The session `id` is going on after these marks: it was assigned, joined at once, and nothing
has ended it since. -/
def InSession (id : SessionId) (marks : List Mark) : Prop :=
  ∃ earlier join between, marks = earlier ++ .assigned id :: .handed join :: between ∧
    joinedId? join = some id ∧ ∀ mark ∈ between, mark.Continues

theorem InSession.of_join {id : SessionId} {join : Bytes} (past : List Mark)
    (h : joinedId? join = some id) : InSession id (past ++ [.assigned id] ++ [.handed join]) :=
  ⟨past, join, [], by simp, h, by simp⟩

theorem InSession.snoc {id : SessionId} {marks : List Mark} {mark : Mark}
    (h : InSession id marks) (continues : mark.Continues) : InSession id (marks ++ [mark]) := by
  obtain ⟨earlier, join, between, rfl, joined, since⟩ := h
  refine ⟨earlier, join, between ++ [mark], by simp, joined, ?_⟩
  intro other member
  rcases List.mem_append.mp member with old | new
  · exact since other old
  · rw [List.mem_singleton.mp new]
    exact continues

theorem InSession.ids_ne_nil {id : SessionId} {marks : List Mark} (h : InSession id marks) :
    Mark.ids marks ≠ [] := by
  obtain ⟨earlier, join, between, rfl, -, -⟩ := h
  simp [Mark.ids, Mark.assigned?]

/-- No session is going on when one has ended and nothing was handed over since. -/
theorem InSession.not_after_end {id : SessionId} {before between : List Mark} {ended : Mark}
    (ends : ended.Ends) (silence : Mark.frames between = []) :
    ¬ InSession id (before ++ ended :: between) := by
  rintro ⟨earlier, join, since, split, joined, continues⟩
  have handed : ∀ mark ∈ between, mark.handed? = none := List.filterMap_eq_nil_iff.mp silence
  -- The end would be the JOIN or later, where all continues, or before it, where nothing is sent.
  rw [List.append_cons earlier, List.append_eq_append_iff] at split
  rcases split with ⟨gap, -, split⟩ | ⟨gap, -, split⟩
  all_goals rw [List.cons_eq_append_iff] at split
  · rcases split with ⟨-, split⟩ | ⟨gap', rfl, rfl⟩
    · obtain ⟨rfl, -⟩ := List.cons.inj split
      exact Mark.not_ends_join joined ends
    · simpa [Mark.handed?] using handed (.handed join) (by simp)
  · rcases split with ⟨-, split⟩ | ⟨gap', rfl, rfl⟩
    · obtain ⟨rfl, -⟩ := List.cons.inj split
      exact Mark.not_ends_join joined ends
    · exact ends.not_continues (continues ended (by simp))

/-! ## The grammar -/

/-- The trails that are possible while this id is held. -/
inductive Grammar : Option SessionId → List Mark → Prop
  | done (held : Option SessionId) : Grammar held []
  | join {marks : List Mark} (held : Option SessionId) (id : SessionId) (seq : UInt32) :
      Grammar (some id) marks →
      Grammar held (.assigned id :: .handed (Control.encode ⟨.join, id, seq⟩) :: marks)
  | silent {id : SessionId} {marks : List Mark} (keys : KeyMask) :
      Grammar (some id) marks → Grammar (some id) (.sampled keys :: marks)
  | keys {id : SessionId} {keys : KeyMask} {marks : List Mark} (seq : UInt32) :
      keys.isEmpty = false → Grammar (some id) marks →
      Grammar (some id) (.sampled keys :: .handed (Input.encode ⟨id, seq, keys⟩) :: marks)
  | leave {id : SessionId} {marks : List Mark} (seq : UInt32) : Grammar none marks →
      Grammar (some id) (.handed (Control.encode ⟨.leave, id, seq⟩) :: .tornDown :: marks)
  | lost {marks : List Mark} (held : Option SessionId) :
      Grammar none marks → Grammar held (.lost :: marks)
  | close {marks : List Mark} : Grammar none marks → Grammar none (.tornDown :: marks)

namespace Grammar

variable {held : Option SessionId} {marks : List Mark}

theorem legible (h : Grammar held marks) : ∀ frame ∈ Mark.frames marks, Legible frame := by
  induction h with
  | done held => simp [Mark.frames]
  | join held id seq _ ih =>
    intro frame member
    rcases List.mem_cons.mp member with rfl | later
    · exact legible_control _ (.inl rfl)
    · exact ih frame later
  | silent keys _ ih => exact ih
  | keys seq pressed _ ih =>
    intro frame member
    rcases List.mem_cons.mp member with rfl | later
    · exact legible_input _ pressed
    · exact ih frame later
  | leave seq _ ih =>
    intro frame member
    rcases List.mem_cons.mp member with rfl | later
    · exact legible_control _ (.inr rfl)
    · exact ih frame later
  | lost held _ ih => exact ih
  | close _ ih => exact ih

theorem joins (h : Grammar held marks) :
    (Mark.frames marks).filterMap joinedId? = Mark.ids marks := by
  induction h with
  | done held => rfl
  | @join marks held id seq _ ih =>
    have joined : joinedId? (Control.encode ⟨.join, id, seq⟩) = some id := by simp [joinedId?]
    change List.filterMap joinedId? (_ :: Mark.frames marks) = id :: Mark.ids marks
    rw [List.filterMap_cons_some joined, ih]
  | silent keys _ ih => exact ih
  | @keys id keys marks seq pressed _ ih =>
    have input : joinedId? (Input.encode ⟨id, seq, keys⟩) = none := by simp [joinedId?]
    change List.filterMap joinedId? (_ :: Mark.frames marks) = Mark.ids marks
    rw [List.filterMap_cons_none input, ih]
  | @leave id marks seq _ ih =>
    have leave : joinedId? (Control.encode ⟨.leave, id, seq⟩) = none := by simp [joinedId?]
    change List.filterMap joinedId? (_ :: Mark.frames marks) = Mark.ids marks
    rw [List.filterMap_cons_none leave, ih]
  | lost held _ ih => exact ih
  | close _ ih => exact ih

/-- What entitles the client to hand over a frame: the ASSIGN just before a JOIN, the session of
any other frame. -/
def Entitled (past : List Mark) : Mark → Prop
  | .handed frame =>
    (∃ earlier id, past = earlier ++ [.assigned id] ∧ joinedId? frame = some id) ∨
      ∃ id, usedId? frame = some id ∧ InSession id past
  | _ => True

theorem entitled (h : Grammar held marks) {past : List Mark}
    (since : ∀ id, held = some id → InSession id past) : Along Entitled past marks := by
  -- `since` is the invariant: a JOIN sets it up, and what ends a session leaves no id to speak of.
  induction h generalizing past with
  | done held => trivial
  | join held id seq _ ih =>
    have joined : joinedId? (Control.encode ⟨.join, id, seq⟩) = some id := by simp [joinedId?]
    refine ⟨trivial, .inl ⟨past, id, rfl, joined⟩, ih ?_⟩
    rintro _ ⟨rfl⟩
    exact .of_join past joined
  | silent keys _ ih =>
    refine ⟨trivial, ih ?_⟩
    intro id same
    exact (since id same).snoc trivial
  | @keys id keys marks seq pressed _ ih =>
    have sampled : InSession id (past ++ [.sampled keys]) := (since id rfl).snoc trivial
    refine ⟨trivial, .inr ⟨id, by simp [usedId?], sampled⟩, ih ?_⟩
    rintro _ ⟨rfl⟩
    exact sampled.snoc ⟨_, Input.decode_encode _⟩
  | @leave id marks seq _ ih =>
    refine ⟨.inr ⟨id, by simp [usedId?], since id rfl⟩, trivial, ih ?_⟩
    rintro _ ⟨⟩
  | lost held _ ih =>
    refine ⟨trivial, ih ?_⟩
    rintro _ ⟨⟩
  | close _ ih =>
    refine ⟨trivial, ih ?_⟩
    rintro _ ⟨⟩

end Grammar

/-! ## Trails of runs -/

/-- An id is held on a link only. -/
def Session.Coherent (s : Session) : Prop := s.id.isSome → s.connection = .connected

theorem Session.Coherent.readyId_eq {s : Session} (h : s.Coherent) : s.readyId = s.id := by
  unfold readyId
  split
  · rfl
  · next down =>
    cases held : s.id with
    | none => rfl
    | some id => exact (down (h (by rw [held, Option.isSome_some]))).elim

namespace Session.Move

variable {s s' : Session} {marks : List Mark}

theorem coherent (h : Move s marks s') (c : s.Coherent) : s'.Coherent := by
  cases h with
  | stay => exact c
  | up => exact fun _ => rfl
  | lost => exact fun held => nomatch held
  | join id up => exact fun _ => up
  | silent => exact c
  | keys => exact c
  | leave => exact fun held => nomatch held
  | close => exact fun held => nomatch held

/-- A move of the session is a production of the grammar. -/
theorem grammar (h : Move s marks s') (c : s.Coherent) {later : List Mark}
    (next : Grammar s'.id later) : Grammar s.id (marks ++ later) := by
  cases h with
  | stay => exact next
  | up => exact next
  | lost => exact .lost _ next
  | join id up => exact .join _ id _ next
  | silent ready empty =>
    rw [c.readyId_eq] at ready
    rw [ready] at next ⊢
    exact .silent _ next
  | keys ready pressed =>
    rw [c.readyId_eq] at ready
    have kept : s.advance.id = s.id := rfl
    rw [kept, ready] at next
    rw [ready]
    exact .keys _ pressed next
  | leave ready =>
    rw [c.readyId_eq] at ready
    rw [ready]
    exact .leave _ next
  | close ready =>
    rw [c.readyId_eq] at ready
    rw [ready]
    exact .close next

end Session.Move

/-- What an observer of the transport sees of a run: the frames that were handed over, among the
marks of the run. -/
structure Grammatical (frames : List Bytes) (marks : List Mark) : Prop where
  shown : frames = Mark.frames marks
  legible : ∀ frame ∈ frames, Legible frame
  /-- One JOIN for each accepted ASSIGN, in the same order and with its id. -/
  joins : frames.filterMap joinedId? = Mark.ids marks
  /-- An INPUT or a LEAVE carries the id of the last JOIN, whose session has not ended since. -/
  sessions : ∀ before frame after id, marks = before ++ .handed frame :: after →
    usedId? frame = some id → InSession id before
  /-- Nothing is sent before the first ASSIGN. -/
  starts : ∀ before frame after, marks = before ++ .handed frame :: after → Mark.ids before ≠ []
  /-- After the end of a session the next frame is a JOIN. -/
  restarts : ∀ before ended between frame after,
    marks = before ++ ended :: between ++ .handed frame :: after → ended.Ends →
    Mark.frames between = [] → (joinedId? frame).isSome

theorem Grammar.grammatical {marks : List Mark} (h : Grammar none marks) :
    Grammatical (Mark.frames marks) marks := by
  have entitled : Along Entitled [] marks := h.entitled (fun id held => nomatch held)
  have at_handed : ∀ before frame after, marks = before ++ .handed frame :: after →
      Entitled before (.handed frame) := by
    rintro before frame after rfl
    exact entitled.at_split
  have joined_or_used : ∀ frame id, usedId? frame = some id → joinedId? frame = none := by
    intro frame id used
    unfold usedId? at used
    unfold joinedId?
    split at used <;> simp_all
  refine ⟨rfl, h.legible, h.joins, ?_, ?_, ?_⟩
  · intro before frame after id split used
    rcases at_handed before frame after split with ⟨_, _, -, joined⟩ | ⟨other, same, going⟩
    · rw [joined_or_used frame id used] at joined
      cases joined
    · rw [used] at same
      cases same
      exact going
  · intro before frame after split
    rcases at_handed before frame after split with ⟨earlier, id, rfl, -⟩ | ⟨_, -, going⟩
    · simp [Mark.ids, Mark.assigned?]
    · exact going.ids_ne_nil
  · intro before ended between frame after split ends silence
    rcases at_handed _ frame after split with ⟨_, _, -, joined⟩ | ⟨_, -, going⟩
    · rw [joined, Option.isSome_some]
    · exact (InSession.not_after_end ends silence going).elim

namespace Client

variable {τ ι : Type} [Transport τ] [Sampler ι]

theorem grammar_trail (c : Client τ ι) (coherent : c.session.Coherent) (calls : List (Call τ ι)) :
    Grammar c.session.id (c.trail calls) := by
  induction calls generalizing c with
  | nil => exact .done _
  | cons call calls ih =>
    have move := (c.step_perform call).session
    exact move.grammar coherent (ih _ (move.coherent coherent))

/-- The frames of every run follow the protocol. -/
theorem grammatical_trail (transport : τ) (input : ι) (calls : List (Call τ ι)) :
    Grammatical (Effect.frames ((new transport input).effects calls))
      ((new transport input).trail calls) := by
  have coherent : (new transport input).session.Coherent := fun held => nomatch held
  have grammar : Grammar none ((new transport input).trail calls) :=
    grammar_trail _ coherent calls
  rw [← frames_trail]
  exact grammar.grammatical

end Client

end GameClient

import GameClient.Proofs.Grammar

/-! # Where the id of a session comes from

A client has no id of its own making. The id that it holds is the one of the last ASSIGN that it
accepted while it was connected, and it holds it for as long as no other ASSIGN is accepted, the
link is not lost and the client is not torn down. While it holds an id it is connected, so holding
an id and being ready for a session are the same. -/

namespace GameClient

/-- The frame is an ASSIGN of this id. -/
structure IsAssign (frame : Bytes) (id : SessionId) : Prop where
  tags : frame.take 2 = [1, 1]
  long : 18 ≤ frame.length
  bytes : (frame.drop 2).take 16 = id.bytes

theorem assignedId?_eq_some_iff {frame : Bytes} {id : SessionId} :
    assignedId? frame = some id ↔ IsAssign frame id := by
  unfold assignedId?
  split
  · next shape =>
    rw [Option.some.injEq, SessionId.mk.injEq]
    exact ⟨fun bytes => ⟨shape.2, shape.1, bytes⟩, fun assign => assign.bytes⟩
  · next shape =>
    constructor
    · intro absent
      cases absent
    · intro assign
      exact absurd ⟨assign.long, assign.tags⟩ shape

/-! ## One call -/

/-- The id after a move is the one that was just assigned, or it is still held. -/
theorem Session.Move.id_eq_some_iff {s s' : Session} {marks : List Mark} (h : Move s marks s')
    {id : SessionId} :
    s'.id = some id ↔ id ∈ Mark.ids marks ∨
      s.id = some id ∧ Mark.ids marks = [] ∧ .lost ∉ marks ∧ .tornDown ∉ marks := by
  cases h with
  | stay => simp [Mark.ids]
  | up => simp [Mark.ids, connected]
  | lost => simp [Mark.ids, Mark.assigned?, disconnected]
  | join other _ =>
    constructor
    · intro held
      cases held
      exact .inl List.mem_cons_self
    · rintro (now | ⟨-, unassigned, -⟩)
      · cases List.mem_singleton.mp now
        rfl
      · cases unassigned
  | silent => simp [Mark.ids, Mark.assigned?]
  | keys => simp [Mark.ids, Mark.assigned?, advance]
  | leave => simp [Mark.ids, Mark.assigned?, disconnected]
  | close => simp [Mark.ids, Mark.assigned?, disconnected]

namespace Client

variable {τ ι : Type}

/-- In this call the client handles an ASSIGN of the id while it is connected. -/
def Accepts (c : Client τ ι) (id : SessionId) (call : Call τ ι) : Prop :=
  c.session.connection = .connected ∧ ∃ frame, call = .handle (.frame frame) ∧ IsAssign frame id

/-- The link is reported lost, or the client is torn down for the first time since its start. -/
def Ends (c : Client τ ι) (call : Call τ ι) : Prop :=
  call = .handle .disconnected ∨ (call = .teardown ∧ c.tornDown = false)

/-- The call neither replaces the id of a session nor ends it. -/
structure Keeps (c : Client τ ι) (call : Call τ ι) : Prop where
  unassigned : ∀ id, ¬ c.Accepts id call
  continues : ¬ c.Ends call

theorem acceptedId?_eq_some_iff {c : Client τ ι} {call : Call τ ι} {id : SessionId} :
    call.acceptedId? c.session = some id ↔ c.Accepts id call := by
  unfold Call.acceptedId? Accepts
  split
  · next bytes =>
    simp only [Call.handle.injEq, Event.frame.injEq, exists_eq_left', ← assignedId?_eq_some_iff]
    split
    · next up => simp [up]
    · next down => simp [down]
  · next other =>
    constructor
    · intro absent
      cases absent
    · rintro ⟨-, frame, same, -⟩
      exact absurd same (other frame)

variable [Transport τ] [Sampler ι]

/-- The marks of an end are left by the calls that end a session, and by no others. -/
theorem ends_iff_mem_marks (c : Client τ ι) (call : Call τ ι) :
    c.Ends call ↔ .lost ∈ c.marks call ∨ .tornDown ∈ c.marks call := by
  have ended : ∀ mark, mark = .lost ∨ mark = .tornDown →
      (mark ∈ c.marks call ↔ mark ∈ call.ending c.tornDown) := by
    rintro mark (rfl | rfl) <;> simp [marks]
  rw [ended _ (.inl rfl), ended _ (.inr rfl)]
  unfold Ends Call.ending
  split
  · simp
  · cases c.tornDown <;> simp
  · next up first =>
    constructor
    · rintro (lost | ⟨torn, -⟩)
      · exact absurd lost up
      · exact absurd torn first
    · rintro (marked | marked)
      · cases marked
      · cases marked

/-- The id after a call is the one that the call made the client accept, or it was kept. -/
theorem id_perform_eq_some_iff (c : Client τ ι) (call : Call τ ι) (id : SessionId) :
    (c.perform call).1.session.id = some id ↔
      c.Accepts id call ∨ c.session.id = some id ∧ c.Keeps call := by
  have accepted : ∀ other, other ∈ Mark.ids (c.marks call) ↔ c.Accepts other call := by
    intro other
    rw [ids_marks, Option.mem_toList, acceptedId?_eq_some_iff]
  have kept : c.Keeps call ↔ Mark.ids (c.marks call) = [] ∧
      .lost ∉ c.marks call ∧ .tornDown ∉ c.marks call := by
    rw [← not_or, ← ends_iff_mem_marks, List.eq_nil_iff_forall_not_mem]
    simp only [accepted]
    exact ⟨fun keeps => ⟨keeps.unassigned, keeps.continues⟩, fun both => ⟨both.1, both.2⟩⟩
  rw [(c.step_perform call).session.id_eq_some_iff, accepted, kept]

/-! ## Runs -/

/-- Each of these calls keeps the session. -/
def Keeping : Client τ ι → List (Call τ ι) → Prop
  | _, [] => True
  | c, call :: calls => c.Keeps call ∧ (c.perform call).1.Keeping calls

/-- A run has led to the id if the client accepted it in some call and all later calls kept it. -/
def LedTo (c : Client τ ι) (id : SessionId) (calls : List (Call τ ι)) : Prop :=
  ∃ before call since, calls = before ++ call :: since ∧ (c.after before).Accepts id call ∧
    ((c.after before).perform call).1.Keeping since

theorem ledTo_cons (c : Client τ ι) (id : SessionId) (call : Call τ ι) (calls : List (Call τ ι)) :
    c.LedTo id (call :: calls) ↔
      c.Accepts id call ∧ (c.perform call).1.Keeping calls ∨
        (c.perform call).1.LedTo id calls := by
  constructor
  · rintro ⟨before, accepting, since, split, accepts, keeping⟩
    cases before with
    | nil =>
      cases split
      exact .inl ⟨accepts, keeping⟩
    | cons first before =>
      cases split
      exact .inr ⟨before, accepting, since, rfl, accepts, keeping⟩
  · rintro (⟨accepts, keeping⟩ | ⟨before, accepting, since, rfl, accepts, keeping⟩)
    · exact ⟨[], call, calls, rfl, accepts, keeping⟩
    · exact ⟨call :: before, accepting, since, rfl, accepts, keeping⟩

/-- The id after a run was kept all along, or the run has led to it. -/
theorem id_after_eq_some_iff (c : Client τ ι) (calls : List (Call τ ι)) (id : SessionId) :
    (c.after calls).session.id = some id ↔
      c.session.id = some id ∧ c.Keeping calls ∨ c.LedTo id calls := by
  -- A client may start with an id: what the first call leaves is again such a start.
  induction calls generalizing c with
  | nil => simp [after, Keeping, LedTo]
  | cons call calls ih =>
    rw [after, ih, id_perform_eq_some_iff, ledTo_cons, Keeping, or_and_right, and_assoc]
    constructor
    · rintro ((now | kept) | later)
      · exact .inr (.inl now)
      · exact .inl kept
      · exact .inr (.inr later)
    · rintro (kept | now | later)
      · exact .inl (.inr kept)
      · exact .inl (.inl now)
      · exact .inr later

theorem coherent_after (c : Client τ ι) (calls : List (Call τ ι)) (h : c.session.Coherent) :
    (c.after calls).session.Coherent := by
  induction calls generalizing c with
  | nil => exact h
  | cons call calls ih => exact ih _ ((c.step_perform call).session.coherent h)

/-- In every state that a client can reach it holds an id exactly when it is ready, and then the run
has led to this id. Without a link it holds none, and only an ASSIGN can introduce one. -/
theorem identity_from_server (transport : τ) (input : ι) (calls : List (Call τ ι)) :
    ((new transport input).after calls).session.id.isSome =
        ((new transport input).after calls).session.isReady ∧
    (∀ id, ((new transport input).after calls).session.id = some id ↔
      (new transport input).LedTo id calls) ∧
    (((new transport input).after calls).session.connection = .disconnected →
      ((new transport input).after calls).session.id = none) ∧
    ∀ call id, (((new transport input).after calls).perform call).1.session.id = some id →
      ((new transport input).after calls).session.id = some id ∨
        ((new transport input).after calls).Accepts id call := by
  have coherent : ((new transport input).after calls).session.Coherent :=
    coherent_after _ calls fun held => nomatch held
  refine ⟨?_, ?_, ?_, ?_⟩
  · rw [Session.isReady_eq_isSome_readyId, coherent.readyId_eq]
  · intro id
    rw [id_after_eq_some_iff]
    constructor
    · rintro (⟨held, -⟩ | led)
      · cases held
      · exact led
    · exact .inr
  · intro down
    rw [← coherent.readyId_eq, Session.readyId, down]
    rfl
  · intro call id held
    rcases (id_perform_eq_some_iff _ call id).mp held with accepts | ⟨before, -⟩
    · exact .inr accepts
    · exact .inl before

end Client

end GameClient

import GameClient.Proofs.Stopping
import GameClient.Proofs.Vacancy

/-! # What a teardown leaves

The first teardown since a start leaves nothing of the session: no link, no id, no actors, and a
LEAVE for the server if there was a session. A later one has no effect, and finds the client as it
is. So it leaves the client down as long as nothing has raised it again. -/

namespace GameClient

namespace Call

variable {τ ι : Type}

/-- There was a teardown since the last start. -/
def closed (calls : List (Call τ ι)) : Bool := calls.foldl latch false

/-- The call can give a client that is down a link or somebody to show. -/
def Raises : Call Memory ι → Prop
  | start => True
  | reconnect => True
  | handle .connected => True
  | disturb transport _ => transport.isUp = true
  | call => ∃ actors, call.broadcast? = some actors ∧ actors ≠ []

end Call

namespace Client

section Latch

variable {τ ι : Type} [Transport τ] [Sampler ι]

theorem tornDown_after_eq (c : Client τ ι) (calls : List (Call τ ι)) :
    (c.after calls).tornDown = calls.foldl Call.latch c.tornDown := by
  induction calls generalizing c with
  | nil => rfl
  | cons call calls ih => rw [after, ih, tornDown_perform_eq, List.foldl_cons]

end Latch

variable {ι : Type} {c : Client Memory ι}

/-- Nothing of a session is left. -/
structure LeftDown (c : Client Memory ι) : Prop where
  link : c.transport.isUp = false
  session : c.session.Down
  actors : c.actors = []

/-- Without a link a frame is no ASSIGN, and only a broadcast of somebody shows. -/
theorem LeftDown.frame (h : c.LeftDown) {bytes : Bytes}
    (quiet : ¬(Call.handle (.frame bytes) : Call Memory ι).Raises) :
    (c.handle (.frame bytes)).1.LeftDown := by
  rcases c.handle_frame bytes with ⟨id, up, -, -⟩ | ⟨-, unmoved⟩
  · cases h.session.connection.symm.trans up
  refine ⟨unmoved.transport ▸ h.link, unmoved.session ▸ h.session, ?_⟩
  rcases c.actors_onFrame bytes with same | ⟨actors, read, taken, -⟩
  · exact same.trans h.actors
  · have broadcast : (Call.handle (.frame bytes) : Call Memory ι).broadcast? = some actors :=
      Call.broadcast?_eq_some_iff.mpr ⟨bytes, rfl, read⟩
    by_contra shown
    exact quiet ⟨actors, broadcast, taken ▸ shown⟩

variable [Sampler ι]

/-- A teardown leaves nothing of the session and says LEAVE for it. -/
structure TearsDown (c : Client Memory ι) : Prop where
  leftDown : c.teardown.1.LeftDown
  leave : ∀ id, c.session.readyId = some id →
    Effect.frames c.teardown.2 = [Control.encode ⟨.leave, id, c.session.seq⟩]

theorem tearsDown_of_standing (standing : c.tornDown = false) : c.TearsDown where
  leftDown := by
    rw [teardown_fst standing]
    exact ⟨rfl, Session.down_disconnected _, rfl⟩
  leave id ready := by
    rw [frames_teardown ready, standing]
    rfl

theorem tearsDown_of_tornDown (torn : c.tornDown = true) : c.TearsDown ↔ c.LeftDown := by
  have same := teardown_of_tornDown torn
  constructor
  · rintro ⟨down, -⟩
    rw [same] at down
    exact down
  · intro down
    refine ⟨same ▸ down, fun id ready => ?_⟩
    cases down.session.readyId.symm.trans ready

theorem LeftDown.perform (h : c.LeftDown) {call : Call Memory ι} (quiet : ¬call.Raises) :
    (c.perform call).1.LeftDown := by
  cases call with
  | start => exact absurd trivial quiet
  | reconnect => exact absurd trivial quiet
  | handle event =>
    cases event with
    | connected => exact absurd trivial quiet
    | disconnected => exact ⟨h.link, Session.down_disconnected _, rfl⟩
    | frame bytes => exact h.frame quiet
  | tick =>
    rw [Client.perform, tick_of_not_ready h.session.readyId]
    exact h
  | teardown =>
    cases torn : c.tornDown with
    | true =>
      rw [Client.perform, teardown_of_tornDown torn]
      exact h
    | false => exact (tearsDown_of_standing torn).leftDown
  | disturb transport input => exact ⟨Bool.eq_false_iff.mpr quiet, h.session, h.actors⟩

theorem LeftDown.after (h : c.LeftDown) {calls : List (Call Memory ι)}
    (quiet : ∀ call ∈ calls, ¬call.Raises) : (c.after calls).LeftDown := by
  induction calls generalizing c with
  | nil => exact h
  | cons call calls ih =>
    obtain ⟨first, rest⟩ := List.forall_mem_cons.mp quiet
    exact ih (h.perform first) rest

/-- A teardown leaves the client down exactly if none was called since the last start or the client
is down already. One that comes too late has no effect; and it finds the client down if the teardown
before has left it so and nothing has raised it since. -/
theorem tearsDown_iff (transport : Memory) (input : ι) (calls : List (Call Memory ι)) :
    let c := (new transport input).after calls
    (c.TearsDown ↔ Call.closed calls = false ∨ c.LeftDown) ∧
    (Call.closed calls = true → c.teardown = (c, [])) ∧
    ∀ before rest, calls = before ++ .teardown :: rest →
      ((new transport input).after before).TearsDown → (∀ call ∈ rest, ¬call.Raises) →
        c.TearsDown := by
  intro c
  have latched : c.tornDown = Call.closed calls := tornDown_after_eq _ calls
  refine ⟨?_, ?_, ?_⟩
  · cases closed : Call.closed calls with
    | true =>
      rw [tearsDown_of_tornDown (latched.trans closed)]
      simp
    | false => exact iff_of_true (tearsDown_of_standing (latched.trans closed)) (.inl rfl)
  · intro closed
    exact teardown_of_tornDown (latched.trans closed)
  · rintro before rest rfl ⟨down, -⟩ quiet
    have after : c = ((new transport input).after before).teardown.1.after rest := after_append ..
    have down : c.LeftDown := after ▸ down.after quiet
    cases torn : c.tornDown with
    | true => exact (tearsDown_of_tornDown torn).mpr down
    | false => exact tearsDown_of_standing torn

/-- After a teardown the client reconnects and gets a new session. -/
def reopened : List (Call Memory KeyScript) :=
  [.start, .handle .connected, .teardown, .reconnect, .handle .connected,
    .handle (.frame zeroAssign)]

/-- The next teardown leaves it on its link, and says no LEAVE. -/
theorem not_tearsDown_of_reopened :
    ¬((new (τ := Memory) {} ({} : KeyScript)).after reopened).TearsDown := by
  intro down
  exact absurd down.leftDown.link (by decide)

end Client

end GameClient

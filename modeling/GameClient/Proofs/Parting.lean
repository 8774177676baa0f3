import GameClient.Proofs.Closing

/-! # One parting

From one start to the next a client is torn down at most once. The first teardown says farewell, and
until the next start every other one finds that done and has no effect. Whether the transport takes
the LEAVE is counted, and makes no other difference to the client. -/

namespace GameClient

def Farewell.isLeave : Farewell → Bool
  | leave _ => true
  | _ => false

namespace Effect

/-- The farewells of a kind that one effect alone has are counted in the effects. -/
theorem count_eq_count_farewells {effect : Effect} {farewell : Farewell}
    (only : ∀ other : Effect, other = effect ↔ other.farewell? = some farewell)
    (effects : List Effect) : effects.count effect = (farewells effects).count farewell := by
  rw [farewells, List.count_filterMap, List.count_eq_countP]
  apply List.countP_congr
  intro other _
  rw [beq_iff_eq, beq_iff_eq]
  exact only other

theorem count_disconnect (effects : List Effect) :
    effects.count .disconnect = (farewells effects).count .disconnect := by
  apply count_eq_count_farewells
  intro other
  cases other <;> simp [farewell?]

theorem count_release (effects : List Effect) :
    effects.count .release = (farewells effects).count .release := by
  apply count_eq_count_farewells
  intro other
  cases other <;> simp [farewell?]

theorem countP_saysLeave (effects : List Effect) :
    (frames effects).countP saysLeave = (farewells effects).countP Farewell.isLeave := by
  rw [frames, farewells, List.countP_filterMap, List.countP_filterMap]
  apply List.countP_congr
  intro effect _
  cases effect with
  | send frame _ => cases leaves : saysLeave frame <;> simp [farewell?, frame?, leaves, Farewell.isLeave]
  | _ => rfl

end Effect

open Effect

namespace Call

variable {τ ι : Type}

/-- Nothing was called yet, or a start was called last. -/
def Opens (calls : List (Call τ ι)) : Prop :=
  calls = [] ∨ ∃ earlier, calls = earlier ++ [start]

theorem Opens.closed {calls : List (Call τ ι)} (h : Opens calls) : closed calls = false := by
  rcases h with rfl | ⟨earlier, rfl⟩
  · rfl
  · rw [Call.closed, List.foldl_append]
    rfl

theorem latch_true {call : Call τ ι} (other : call ≠ start) : call.latch true = true := by
  cases call with
  | start => exact absurd rfl other
  | _ => rfl

end Call

namespace Client

variable {τ ι : Type} [Transport τ] [Sampler ι] {c : Client τ ι}

/-! ## From one start to the next -/

/-- A client that is torn down stays so until its next start, and has nothing left to say. -/
theorem farewells_of_tornDown (torn : c.tornDown = true) {calls : List (Call τ ι)}
    (unbroken : .start ∉ calls) :
    (c.after calls).tornDown = true ∧ farewells (c.effects calls) = [] := by
  induction calls generalizing c with
  | nil => exact ⟨torn, rfl⟩
  | cons call calls ih =>
    obtain ⟨other, unbroken⟩ := List.ne_and_not_mem_of_not_mem_cons unbroken
    have still : (c.perform call).1.tornDown = true := by
      rw [tornDown_perform_eq, torn]
      exact Call.latch_true (Ne.symm other)
    have silent : farewells (c.perform call).2 = [] := by
      by_cases again : call = .teardown
      · rw [again, perform, teardown_of_tornDown torn]
        rfl
      · exact farewells_perform again
    obtain ⟨torn, rest⟩ := ih still unbroken
    refine ⟨torn, ?_⟩
    rw [effects, farewells_append, silent, rest, List.append_nil]

theorem tornDown_teardown (c : Client τ ι) : c.teardown.1.tornDown = true :=
  c.tornDown_perform_eq .teardown

theorem farewells_of_first (standing : c.tornDown = false) {before rest : List (Call τ ι)}
    (none : .teardown ∉ before) (unbroken : .start ∉ before ++ .teardown :: rest) :
    farewells (c.effects (before ++ .teardown :: rest)) = (c.after before).farewell := by
  have still := tornDown_after standing none
  have unbroken : .start ∉ rest := fun listed => unbroken (by simp [listed])
  have later := (farewells_of_tornDown (c.after before).tornDown_teardown unbroken).2
  have split : farewells (c.effects (before ++ .teardown :: rest)) = farewells (c.effects before) ++
      (farewells (c.after before).teardown.2 ++
        farewells ((c.after before).teardown.1.effects rest)) := by
    rw [effects_append, farewells_append, effects, farewells_append]
    rfl
  rw [split, farewells_effects_of_no_teardown c none, farewells_teardown still, later,
    List.append_nil, List.nil_append]

omit [Transport τ] [Sampler ι] in
/-- A farewell gives up the link and the input once, with at most one LEAVE. -/
theorem count_farewell (c : Client τ ι) : c.farewell.count .disconnect = 1 ∧
    c.farewell.count .release = 1 ∧ c.farewell.countP Farewell.isLeave ≤ 1 := by
  unfold farewell lastFrames
  split
  · decide
  · exact ⟨rfl, rfl, Nat.le_refl 1⟩

/-- At most one teardown in these calls has an effect. -/
structure TornDownOnce (c : Client τ ι) (calls : List (Call τ ι)) : Prop where
  silent : .teardown ∉ calls → farewells (c.effects calls) = []
  /-- The first one says the only farewell. -/
  first : ∀ before rest, calls = before ++ .teardown :: rest → .teardown ∉ before →
    (c.after before).tornDown = false ∧ farewells (c.effects calls) = (c.after before).farewell
  further : ∀ before rest, calls = before ++ .teardown :: rest → .teardown ∈ before →
    (c.after before).teardown = (c.after before, [])
  once : .teardown ∈ calls → (c.effects calls).count .disconnect = 1 ∧
    (c.effects calls).count .release = 1 ∧ (frames (c.effects calls)).countP saysLeave ≤ 1

theorem tornDownOnce (standing : c.tornDown = false) {calls : List (Call τ ι)}
    (unbroken : .start ∉ calls) : c.TornDownOnce calls where
  silent := c.farewells_effects_of_no_teardown
  first before rest split none := by
    subst split
    exact ⟨tornDown_after standing none, farewells_of_first standing none unbroken⟩
  further before rest split torn := by
    obtain ⟨earlier, later, rfl⟩ := List.append_of_mem torn
    have unbroken : .start ∉ later := fun listed => unbroken (by simp [split, listed])
    apply teardown_of_tornDown
    rw [after_append]
    exact (farewells_of_tornDown (c.after earlier).tornDown_teardown unbroken).1
  once torn := by
    obtain ⟨before, rest, rfl, none⟩ := List.eq_append_cons_of_mem torn
    rw [count_disconnect, count_release, countP_saysLeave, farewells_of_first standing none unbroken]
    exact (c.after before).count_farewell

/-! ## What becomes of the LEAVE -/

/-- The client that a teardown with a LEAVE leaves, with the transport and the counters that the LEAVE
has left. -/
def parted (c : Client τ ι) (transport : τ) (stats : Stats) : Client τ ι where
  transport := Transport.disconnect transport
  input := Sampler.release c.input
  session := c.session.advance.disconnected
  stats := stats
  tornDown := true

theorem teardown_of_leave (standing : c.tornDown = false) {transport : τ} {stats : Stats}
    {handed : List Effect} (left : c.tearing.leave =
      ({ c.tearing with transport, stats, session := c.session.advance }, handed)) :
    c.teardown = (c.parted transport stats, handed ++ [.disconnect, .release, .note .tornDown]) := by
  apply Prod.ext
  · rw [teardown_fst standing, left]
    rfl
  · rw [teardown_snd standing, left]

/-- A teardown leaves the same client whether its LEAVE is taken or refused, but for the transport and
for the counter that goes up. Of what it does only the answer and the notice differ. -/
structure PartsAlike (c : Client τ ι) (id : SessionId) : Prop where
  accepted : ∀ transport taken,
    Transport.send (Control.encode ⟨.leave, id, c.session.seq⟩) transport = (.accepted, taken) →
    ({ c with transport } : Client τ ι).teardown =
      (c.parted taken { c.stats with sent := c.stats.sent + 1 },
        [.send (Control.encode ⟨.leave, id, c.session.seq⟩) .accepted,
          .note (.leaveSent id c.session.seq)] ++ [.disconnect, .release, .note .tornDown])
  refused : ∀ transport kept error,
    Transport.send (Control.encode ⟨.leave, id, c.session.seq⟩) transport = (.refused error, kept) →
    ({ c with transport } : Client τ ι).teardown =
      (c.parted kept { c.stats with sendFailures := c.stats.sendFailures + 1 },
        [.send (Control.encode ⟨.leave, id, c.session.seq⟩) (.refused error),
          .note (.leaveRefused error)] ++ [.disconnect, .release, .note .tornDown])

theorem partsAlike (standing : c.tornDown = false) {id : SessionId}
    (ready : c.session.readyId = some id) : c.PartsAlike id where
  accepted transport taken sent := by
    apply teardown_of_leave (c := { c with transport }) standing
    simp only [leave, tearing, ready, hand, sent]
  refused transport kept error sent := by
    apply teardown_of_leave (c := { c with transport }) standing
    simp only [leave, tearing, ready, hand, sent]

/-- Between two starts, before the first and after the last, at most one teardown has an effect. It is
the same effect on the client whether the LEAVE is taken or not. -/
theorem parts_once (transport : τ) (input : ι) (calls : List (Call τ ι)) :
    (∀ before between rest, calls = before ++ between ++ rest → Call.Opens before →
      .start ∉ between → TornDownOnce ((new transport input).after before) between) ∧
    ∀ (c : Client τ ι) (id : SessionId), c.tornDown = false → c.session.readyId = some id →
      c.PartsAlike id := by
  constructor
  · intro before between _ _ opens unbroken
    apply tornDownOnce _ unbroken
    rw [tornDown_after_eq]
    exact opens.closed
  · exact fun c id standing ready => partsAlike standing ready

end Client

end GameClient

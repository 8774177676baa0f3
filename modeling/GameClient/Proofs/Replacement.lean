import GameClient.Proofs.Closing
import GameClient.Proofs.Identity
import Mathlib.Data.List.Basic

/-! # The latest broadcast

A broadcast replaces the actors of a client, and the end of a session clears them. Nothing else
touches them. So a client shows nobody or the actors of a single broadcast, the last one, and those
before it might as well not have come. -/

namespace GameClient

namespace Client

variable {τ ι : Type} [Transport τ] [Sampler ι] {c c' : Client τ ι} {call : Call τ ι}

/-! ## One call -/

theorem actors_of_broadcast {actors : List Actor} (h : call.broadcast? = some actors) :
    (c.perform call).1.actors = actors := by
  rw [perform_of_broadcast h]

theorem actors_of_ends (h : c.Ends call) : (c.perform call).1.actors = [] := by
  rcases h with rfl | ⟨rfl, standing⟩
  · rfl
  · rw [perform, teardown_fst standing]

/-- A call that is no broadcast and no end leaves the actors as they are. -/
theorem actors_of_other (unread : call.broadcast? = none) (going : ¬c.Ends call) :
    (c.perform call).1.actors = c.actors := by
  cases call with
  | start => rfl
  | reconnect => rfl
  | handle event =>
    cases event with
    | connected => rfl
    | disconnected => exact absurd (.inl rfl) going
    | frame bytes =>
      rcases c.actors_onFrame bytes with same | ⟨actors, read, -, -⟩
      · exact same
      · cases unread.symm.trans (Call.broadcast?_eq_some_iff.mpr ⟨bytes, rfl, read⟩)
  | tick => exact c.ticked.actors
  | teardown =>
    cases torn : c.tornDown with
    | true => rw [perform, teardown_of_tornDown torn]
    | false => exact absurd (.inr ⟨rfl, torn⟩) going
  | disturb transport input => rfl

/-- Of the client the actors after a call depend on the latch and on the actors before it. -/
theorem actors_perform_congr (latch : c.tornDown = c'.tornDown) (alike : c.actors = c'.actors)
    (call : Call τ ι) : (c.perform call).1.actors = (c'.perform call).1.actors := by
  cases read : call.broadcast? with
  | some actors => rw [actors_of_broadcast read, actors_of_broadcast read]
  | none =>
    have same : c.Ends call ↔ c'.Ends call := by rw [Ends, Ends, latch]
    by_cases ends : c.Ends call
    · rw [actors_of_ends ends, actors_of_ends (same.mp ends)]
    · rw [actors_of_other read ends, actors_of_other read (mt same.mpr ends), alike]

/-! ## Runs -/

theorem actors_after_eq_nil (nobody : c.actors = []) {calls : List (Call τ ι)}
    (unread : ∀ call ∈ calls, call.broadcast? = none) : (c.after calls).actors = [] := by
  induction calls generalizing c with
  | nil => exact nobody
  | cons call calls ih =>
    obtain ⟨first, rest⟩ := List.forall_mem_cons.mp unread
    apply ih _ rest
    by_cases ends : c.Ends call
    · exact actors_of_ends ends
    · exact (actors_of_other first ends).trans nobody

theorem actors_after_eq {calls : List (Call τ ι)}
    (unread : ∀ call ∈ calls, call.broadcast? = none)
    (going : ∀ before call rest, calls = before ++ call :: rest → ¬(c.after before).Ends call) :
    (c.after calls).actors = c.actors := by
  induction calls generalizing c with
  | nil => rfl
  | cons call calls ih =>
    obtain ⟨first, rest⟩ := List.forall_mem_cons.mp unread
    have later := ih (c := (c.perform call).1) rest
      fun before next more split => going (call :: before) next more (congrArg (call :: ·) split)
    exact later.trans (actors_of_other first (going [] call calls rfl))

/-- The actors are those of the last broadcast, if there are any. -/
theorem exists_broadcast (nobody : c.actors = []) (calls : List (Call τ ι)) :
    (c.after calls).actors = [] ∨ ∃ before frame rest,
      calls = before ++ .handle (.frame frame) :: rest ∧
      Broadcast.decode frame = .ok (c.after calls).actors ∧
      ∀ call ∈ rest, call.broadcast? = none := by
  -- From the end: the last call replaces the actors, clears them or leaves them to the rest.
  induction calls using List.reverseRecOn with
  | nil => exact .inl nobody
  | append_singleton calls call ih =>
    have last : c.after (calls ++ [call]) = ((c.after calls).perform call).1 := c.after_append calls _
    rw [last]
    cases read : call.broadcast? with
    | some actors =>
      obtain ⟨frame, rfl, decoded⟩ := Call.broadcast?_eq_some_iff.mp read
      exact .inr ⟨calls, frame, [], rfl, actors_of_broadcast read ▸ decoded, nofun⟩
    | none =>
      by_cases ends : (c.after calls).Ends call
      · exact .inl (actors_of_ends ends)
      · rw [actors_of_other read ends]
        apply ih.imp_right
        rintro ⟨before, frame, rest, split, decoded, unread⟩
        have whole : calls ++ [call] = before ++ .handle (.frame frame) :: (rest ++ [call]) :=
          split ▸ List.append_assoc before (.handle (.frame frame) :: rest) [call]
        refine ⟨before, frame, rest ++ [call], whole, decoded, ?_⟩
        exact List.forall_mem_append.mpr ⟨unread, List.forall_mem_singleton.mpr read⟩

theorem actors_after_congr (latch : c.tornDown = c'.tornDown) (alike : c.actors = c'.actors)
    (calls : List (Call τ ι)) : (c.after calls).actors = (c'.after calls).actors := by
  induction calls generalizing c c' with
  | nil => exact alike
  | cons call calls ih =>
    apply ih
    · rw [tornDown_perform_eq, tornDown_perform_eq, latch]
    · exact actors_perform_congr latch alike call

theorem tornDown_after_filter (c : Client τ ι) (calls : List (Call τ ι)) :
    (c.after (calls.filter fun call => call.broadcast?.isNone)).tornDown =
      (c.after calls).tornDown := by
  rw [tornDown_after_eq, tornDown_after_eq, List.foldl_filter]
  apply List.foldl_ext
  intro closed call _
  cases read : call.broadcast? with
  | none => rfl
  | some actors =>
    obtain ⟨frame, rfl, -⟩ := Call.broadcast?_eq_some_iff.mp read
    rfl

/-- Whom the client shows after a run. -/
structure Replaces (c : Client τ ι) (calls : List (Call τ ι)) : Prop where
  /-- Nobody, or the actors of the last broadcast and of no other. -/
  source : (c.after calls).actors = [] ∨ ∃ before frame rest,
    calls = before ++ .handle (.frame frame) :: rest ∧
    Broadcast.decode frame = .ok (c.after calls).actors ∧ ∀ call ∈ rest, call.broadcast? = none
  /-- Nobody if there was no broadcast since an end. -/
  cleared : ∀ before call rest, calls = before ++ call :: rest → (c.after before).Ends call →
    (∀ later ∈ rest, later.broadcast? = none) → (c.after calls).actors = []
  /-- The actors of the last broadcast if there was no end since. -/
  shown : ∀ before frame actors rest, calls = before ++ .handle (.frame frame) :: rest →
    Broadcast.decode frame = .ok actors → (∀ call ∈ rest, call.broadcast? = none) →
    (∀ since call more, rest = since ++ call :: more →
      ¬(c.after (before ++ .handle (.frame frame) :: since)).Ends call) →
    (c.after calls).actors = actors
  kept : ∀ before call rest, calls = before ++ call :: rest → call.broadcast? = none →
    ¬(c.after before).Ends call → (c.after (before ++ [call])).actors = (c.after before).actors
  /-- The broadcasts before the last one might as well not have come. -/
  thinned : ∀ before call rest, calls = before ++ call :: rest → call.broadcast?.isSome = true →
    (c.after (before.filter (fun earlier => earlier.broadcast?.isNone) ++ call :: rest)).actors =
      (c.after calls).actors

/-- A broadcast replaces the actors, and they are never merged. -/
theorem replaces (transport : τ) (input : ι) (calls : List (Call τ ι)) :
    Replaces (new transport input) calls where
  source := exists_broadcast rfl calls
  cleared before call rest split ends unread := by
    rw [split, after_append]
    exact actors_after_eq_nil (actors_of_ends ends) unread
  shown before frame actors rest split decoded unread going := by
    have read : (Call.handle (.frame frame) : Call τ ι).broadcast? = some actors :=
      Call.broadcast?_eq_some_iff.mpr ⟨frame, rfl, decoded⟩
    rw [split, after_append, after, actors_after_eq unread, actors_of_broadcast read]
    intro since call more split
    have step := going since call more split
    rw [after_append] at step
    exact step
  kept before call rest _ unread going := by
    rw [after_append]
    exact actors_of_other unread going
  thinned before call rest split broadcast := by
    have latch := tornDown_after_filter (new transport input) before
    obtain ⟨actors, read⟩ := Option.isSome_iff_exists.mp broadcast
    rw [split, after_append, after_append, after, after]
    apply actors_after_congr
    · rw [tornDown_perform_eq, tornDown_perform_eq, latch]
    · rw [actors_of_broadcast read, actors_of_broadcast read]

end Client

end GameClient

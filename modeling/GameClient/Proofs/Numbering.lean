import GameClient.Proofs.Trail

/-! # Sequence numbers over whole runs

A client has one counter for all that it hands over. It moves by one with each frame, taken or
refused, and with nothing else, so a frame carries its place among all frames of the run. -/

namespace GameClient

/-- The frames carry the numbers from `first` on, and `next` is the number after the last. -/
inductive Numbered : UInt32 → List Bytes → UInt32 → Prop
  | nil (seq : UInt32) : Numbered seq [] seq
  | cons {seq next : UInt32} {frame : Bytes} {frames : List Bytes} :
      seqField frame = Bytes.ofNat 4 seq.toNat → Numbered (seq + 1) frames next →
      Numbered seq (frame :: frames) next

namespace Numbered

variable {first mid next : UInt32} {frames more : List Bytes}

theorem single {frame : Bytes} {seq : UInt32} (h : seqField frame = Bytes.ofNat 4 seq.toNat) :
    Numbered seq [frame] (seq + 1) :=
  .cons h (.nil _)

theorem append (h : Numbered first frames mid) (h' : Numbered mid more next) :
    Numbered first (frames ++ more) next := by
  induction h with
  | nil seq => exact h'
  | cons carried _ ih => exact .cons carried (ih h')

/-- The counter has moved by the number of frames, modulo `2 ^ 32`. -/
theorem toNat_next (h : Numbered first frames next) :
    next.toNat = (first.toNat + frames.length) % 2 ^ 32 := by
  induction h with
  | nil seq =>
    rw [List.length_nil, Nat.add_zero, Nat.mod_eq_of_lt seq.toNat_lt]
  | @cons seq next frame frames carried _ ih =>
    -- The counter wraps at each step, the sum once; modulo `2 ^ 32` that is the same.
    have moved : (seq + 1).toNat = (seq.toNat + 1) % 2 ^ 32 := UInt32.toNat_add seq 1
    rw [ih, moved, List.length_cons]
    omega

theorem getElem (h : Numbered first frames next) (i : Nat) (bound : i < frames.length) :
    seqField frames[i] = Bytes.ofNat 4 ((first.toNat + i) % 2 ^ 32) := by
  induction h generalizing i with
  | nil seq => exact absurd bound (Nat.not_lt_zero i)
  | @cons seq next frame frames carried _ ih =>
    cases i with
    | zero =>
      rw [List.getElem_cons_zero, carried, Nat.add_zero, Nat.mod_eq_of_lt seq.toNat_lt]
    | succ i =>
      have moved : (seq + 1).toNat = (seq.toNat + 1) % 2 ^ 32 := UInt32.toNat_add seq 1
      have same : (((seq.toNat + 1) % 2 ^ 32) + i) % 2 ^ 32 = (seq.toNat + (i + 1)) % 2 ^ 32 := by
        omega
      rw [List.getElem_cons_succ, ih i (Nat.lt_of_succ_lt_succ bound), moved, same]

end Numbered

/-- A move hands over frames with the next numbers, and moves the counter past them. -/
theorem Session.Move.numbered {s s' : Session} {marks : List Mark} (h : Move s marks s') :
    Numbered s.seq (Mark.frames marks) s'.seq := by
  cases h with
  | stay => exact .nil _
  | up => exact .nil _
  | lost => exact .nil _
  | join id _ => exact .single (seqField_control _)
  | silent => exact .nil _
  | keys => exact .single (seqField_input _)
  | leave => exact .single (seqField_control _)
  | close => exact .nil _

namespace Client

variable {τ ι : Type} [Transport τ] [Sampler ι]

theorem numbered_effects (c : Client τ ι) (calls : List (Call τ ι)) :
    Numbered c.session.seq (Effect.frames (c.effects calls)) (c.after calls).session.seq := by
  induction calls generalizing c with
  | nil => exact .nil _
  | cons call calls ih =>
    have here := (c.step_perform call).session.numbered
    rw [frames_marks] at here
    rw [effects, Effect.frames_append]
    exact here.append (ih (c.perform call).1)

/-- Each frame is counted once, as sent or as refused. -/
theorem handed_after (c : Client τ ι) (calls : List (Call τ ι)) :
    (c.after calls).stats.handed =
      c.stats.handed + (Effect.frames (c.effects calls)).length := by
  induction calls generalizing c with
  | nil => rfl
  | cons call calls ih =>
    have here := (c.step_perform call).handed
    rw [frames_marks] at here
    rw [after, ih, here, effects, Effect.frames_append, List.length_append, Nat.add_assoc]

/-- The counter is the number of frames handed over, and the `i`-th frame carries `i`, both modulo
`2 ^ 32`. -/
theorem numbering (transport : τ) (input : ι) (calls : List (Call τ ι)) :
    (∀ (i : Nat) (h : i < (Effect.frames ((new transport input).effects calls)).length),
      seqField (Effect.frames ((new transport input).effects calls))[i] =
        Bytes.ofNat 4 (i % 2 ^ 32)) ∧
    ((new transport input).after calls).session.seq.toNat =
      (((new transport input).after calls).stats.sent +
        ((new transport input).after calls).stats.sendFailures) % 2 ^ 32 ∧
    ((new transport input).after calls).stats.sent +
        ((new transport input).after calls).stats.sendFailures =
      (Effect.frames ((new transport input).effects calls)).length := by
  have numbered : Numbered 0 _ _ := numbered_effects (new transport input) calls
  have counted := handed_after (new transport input) calls
  have none : (new transport input).stats.handed = 0 := rfl
  rw [none, Nat.zero_add, Stats.handed] at counted
  refine ⟨?_, ?_, counted⟩
  · intro i bound
    have carried := numbered.getElem i bound
    rw [UInt32.toNat_zero, Nat.zero_add] at carried
    exact carried
  · have moved := numbered.toNat_next
    rw [UInt32.toNat_zero, Nat.zero_add] at moved
    rw [moved, counted]

end Client

end GameClient

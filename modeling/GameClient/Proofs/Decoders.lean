import GameClient.Proofs.Broadcast
import GameClient.Proofs.FixedFrames

/-! # The four decoders

Each decoder takes one kind of frame. It asks for a number of bytes, which only a broadcast gives
itself, and a frame that has fewer is truncated. With the bytes that it asks for its answer is
final, and whatever follows them changes nothing. -/

namespace GameClient

inductive Decoder where
  | assign
  | control
  | input
  | broadcast
deriving DecidableEq

namespace Decoder

abbrev Result : Decoder → Type
  | assign => SessionId
  | control => Control
  | input => Input
  | broadcast => List Actor

def decode : (d : Decoder) → Bytes → Except DecodeError d.Result
  | assign => Assign.decode
  | control => Control.decode
  | input => Input.decode
  | broadcast => Broadcast.decode

def Accepts (d : Decoder) (frame : Bytes) : Prop := ∃ result, d.decode frame = .ok result

/-- The number of bytes that the decoder asks for when it sees this frame. -/
def needs : Decoder → Bytes → Nat
  | assign, _ => 18
  | control, _ => 22
  | input, _ => 24
  | broadcast, frame =>
    if frame.length < 4 ∨ byteAt frame 0 ≠ 2 then 4 else 4 + 24 * announced frame

/-- An answer that more bytes cannot change: a result, or a tag that is refused. -/
inductive Final {α : Type} : Except DecodeError α → Prop
  | ok (result : α) : Final (.ok result)
  | dataType (tag : UInt8) : Final (.error (.unexpectedDataType tag))
  | subType (tag : UInt8) : Final (.error (.unexpectedSubType tag))

theorem Final.not_truncated {α : Type} {answer : Except DecodeError α} (h : Final answer)
    (needed actual : Nat) : answer ≠ .error (.truncated needed actual) := by
  intro truncated
  subst truncated
  cases h

theorem Final.not_idLength {α : Type} {answer : Except DecodeError α} (h : Final answer)
    (length : Nat) : answer ≠ .error (.invalidSessionIdLength length) := by
  intro refused
  subst refused
  cases h

/-! ## Frames that are too short -/

theorem decode_of_short {d : Decoder} {frame : Bytes} (h : frame.length < d.needs frame) :
    d.decode frame = .error (.truncated (d.needs frame) frame.length) := by
  cases d with
  | assign =>
    have short : frame.length < Assign.frameLength := h
    simp only [decode, Assign.decode, openFrame_of_lt short, error_bind]
    rfl
  | control =>
    have short : frame.length < Control.frameLength := h
    simp only [decode, Control.decode, openFrame_of_lt short, error_bind]
    rfl
  | input =>
    have short : frame.length < Input.frameLength := h
    simp only [decode, Input.decode, openFrame_of_lt short, error_bind]
    rfl
  | broadcast =>
    simp only [decode, needs] at h ⊢
    split at h
    · next bare =>
      rw [if_pos bare]
      exact Broadcast.decode_of_lt h
    · next whole =>
      rw [if_neg whole]
      rw [not_or] at whole
      rw [Broadcast.decode_eq, if_neg whole.1, if_neg whole.2, if_pos h]

/-! ## Frames that are long enough -/

theorem Final.of_dataType {α : Type} {answer : Except DecodeError α} (p : Prop) [Decidable p]
    (tag : UInt8) (h : Final answer) :
    Final (if p then .error (.unexpectedDataType tag) else answer) := by
  split
  · exact .dataType tag
  · exact h

theorem Final.of_subType {α : Type} {answer : Except DecodeError α} (p : Prop) [Decidable p]
    (tag : UInt8) (h : Final answer) :
    Final (if p then .error (.unexpectedSubType tag) else answer) := by
  split
  · exact .subType tag
  · exact h

theorem le_needs (d : Decoder) (frame : Bytes) : 4 ≤ d.needs frame := by
  cases d with
  | assign => exact Nat.le_add_left 4 14
  | control => exact Nat.le_add_left 4 18
  | input => exact Nat.le_add_left 4 20
  | broadcast =>
    simp only [needs]
    split <;> omega

theorem exists_records {subTag low high : UInt8} {body : Bytes}
    (h : broadcast.needs (2 :: subTag :: low :: high :: body) ≤ body.length + 4) :
    ∃ (actors : List Actor) (rest : Bytes), actors.length = low.toNat + 256 * high.toNat ∧
      body = actors.flatMap Actor.toRecord ++ rest := by
  have asked : broadcast.needs (2 :: subTag :: low :: high :: body) =
      4 + 24 * (low.toNat + 256 * high.toNat) := by
    rw [needs, if_neg]
    · rfl
    · rintro (bare | other)
      · exact absurd bare (Nat.not_lt.mpr (Nat.le_add_left 4 body.length))
      · exact other rfl
  rw [asked] at h
  exact Broadcast.exists_records_append _ body (by omega)

/-- With the bytes that it asks for, a decoder gives the same final answer whatever follows. -/
theorem exists_final {d : Decoder} {frame : Bytes} (h : d.needs frame ≤ frame.length) :
    ∃ answer, Final answer ∧ ∀ tail, d.decode (frame ++ tail) = answer := by
  cases d with
  | assign =>
    obtain ⟨dataTag, subTag, id, rest, rfl⟩ := Assign.exists_fields h
    refine ⟨_, .of_dataType (dataTag ≠ 1) dataTag (.of_subType (subTag ≠ 1) subTag (.ok id)), ?_⟩
    intro tail
    have read := Assign.decode_fields dataTag subTag id (rest ++ tail)
    simp only [decode, List.cons_append, List.append_assoc]
    exact read
  | control =>
    obtain ⟨dataTag, subTag, id, seq, rest, rfl⟩ := Control.exists_fields h
    refine ⟨_, .of_dataType (dataTag ≠ 1) dataTag
      (.of_subType (subTag ≠ 2 ∧ subTag ≠ 3) subTag (.ok ⟨.ofByte subTag, id, seq⟩)), ?_⟩
    intro tail
    have read := Control.decode_cons dataTag subTag id seq (rest ++ tail)
    simp only [decode, List.cons_append, List.append_assoc]
    exact read
  | input =>
    obtain ⟨dataTag, subTag, id, seq, keys, rest, rfl⟩ := Input.exists_fields h
    refine ⟨_, .of_dataType (dataTag ≠ 3) dataTag (.ok ⟨id, seq, ⟨keys⟩⟩), ?_⟩
    intro tail
    have read := Input.decode_cons dataTag subTag id seq keys (rest ++ tail)
    simp only [decode, List.cons_append, List.append_assoc]
    exact read
  | broadcast =>
    obtain ⟨dataTag, subTag, low, high, body, rfl⟩ :=
      Broadcast.exists_prelude (Nat.le_trans (le_needs _ _) h)
    by_cases other : dataTag ≠ 2
    · refine ⟨_, .dataType dataTag, ?_⟩
      intro tail
      have read := Broadcast.decode_cons dataTag subTag low high (body ++ tail)
      rw [if_pos other] at read
      exact read
    · rw [Decidable.not_not.mp other] at h ⊢
      obtain ⟨actors, rest, count, rfl⟩ := exists_records h
      refine ⟨_, .ok actors, ?_⟩
      intro tail
      have read := Broadcast.decode_records subTag low high actors (rest ++ tail) count.symm
      simp only [decode, List.cons_append, List.append_assoc]
      exact read

theorem final_of_long {d : Decoder} {frame : Bytes} (h : d.needs frame ≤ frame.length) :
    Final (d.decode frame) := by
  obtain ⟨answer, final, same⟩ := exists_final h
  rw [← List.append_nil frame, same]
  exact final

end Decoder

end GameClient

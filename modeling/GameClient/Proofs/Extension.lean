import GameClient.Proofs.Bounds

/-! # Bytes after a frame

A decoder that returned a result or refused a tag does the same however the frame goes on. A frame
that is too short stays refused until it has the bytes that were asked for. After them only a
broadcast can ask again, for the records that its count announces. -/

namespace GameClient

theorem byteAt_append_of_lt {frame : Bytes} {place : Nat} (h : place < frame.length)
    (tail : Bytes) : byteAt (frame ++ tail) place = byteAt frame place := by
  rw [byteAt, byteAt, List.getD_eq_getElem?_getD, List.getD_eq_getElem?_getD,
    List.getElem?_append_left h]

namespace Decoder

/-! ## What is asked for -/

theorem decode_eq_truncated_iff {d : Decoder} {frame : Bytes} {needed actual : Nat} :
    d.decode frame = .error (.truncated needed actual) ↔
      d.needs frame = needed ∧ frame.length = actual ∧ frame.length < d.needs frame := by
  constructor
  · intro truncated
    by_cases long : d.needs frame ≤ frame.length
    · exact absurd truncated ((final_of_long long).not_truncated needed actual)
    · have short : frame.length < d.needs frame := Nat.lt_of_not_le long
      rw [decode_of_short short] at truncated
      cases truncated
      exact ⟨rfl, rfl, short⟩
  · rintro ⟨rfl, rfl, short⟩
    exact decode_of_short short

/-- A frame with a header and a count has said how many bytes it needs. -/
theorem needs_append (d : Decoder) {frame : Bytes} (h : 4 ≤ frame.length) (tail : Bytes) :
    d.needs (frame ++ tail) = d.needs frame := by
  cases d with
  | assign => rfl
  | control => rfl
  | input => rfl
  | broadcast =>
    have longer : 4 ≤ (frame ++ tail).length := by
      rw [List.length_append]
      omega
    simp only [needs, announced, byteAt_append_of_lt (Nat.lt_of_lt_of_le (by decide : 0 < 4) h),
      byteAt_append_of_lt (Nat.lt_of_lt_of_le (by decide : 2 < 4) h),
      byteAt_append_of_lt (Nat.lt_of_lt_of_le (by decide : 3 < 4) h), Nat.not_lt.mpr h,
      Nat.not_lt.mpr longer]

theorem needs_append_of_short {d : Decoder} {frame tail : Bytes}
    (h : (frame ++ tail).length < d.needs frame) : d.needs (frame ++ tail) = d.needs frame := by
  by_cases headed : 4 ≤ frame.length
  · exact d.needs_append headed tail
  · cases d with
    | assign => rfl
    | control => rfl
    | input => rfl
    | broadcast =>
      have asked : broadcast.needs frame = 4 := if_pos (.inl (Nat.lt_of_not_le headed))
      rw [asked] at h ⊢
      exact if_pos (.inl h)

/-- A decoder that asks again has seen the count of a broadcast. -/
theorem needs_of_lt_needs_append {d : Decoder} {frame tail : Bytes}
    (h : d.needs frame < d.needs (frame ++ tail)) :
    d = .broadcast ∧ d.needs (frame ++ tail) = 4 + 24 * announced (frame ++ tail) := by
  cases d with
  | assign => exact absurd h (Nat.lt_irrefl _)
  | control => exact absurd h (Nat.lt_irrefl _)
  | input => exact absurd h (Nat.lt_irrefl _)
  | broadcast =>
    have more : 4 < broadcast.needs (frame ++ tail) := Nat.lt_of_le_of_lt (le_needs _ _) h
    refine ⟨rfl, ?_⟩
    simp only [needs] at more ⊢
    split at more
    · exact absurd more (Nat.lt_irrefl 4)
    · next whole => rw [if_neg whole]

/-- Two bytes of a broadcast ask for two more, which ask for a record. -/
example : broadcast.needs [2, 0] = 4 ∧ broadcast.needs [2, 0, 1, 0] = 28 := by decide

/-! ## Stability -/

/-- What a decoder makes of a frame is what it makes of it with more bytes, unless it asks for
them. -/
structure Stable (d : Decoder) (frame : Bytes) : Prop where
  accepted : ∀ result, d.decode frame = .ok result →
    ∀ tail, d.decode (frame ++ tail) = .ok result
  dataType : ∀ tag, d.decode frame = .error (.unexpectedDataType tag) →
    ∀ tail, d.decode (frame ++ tail) = .error (.unexpectedDataType tag)
  subType : ∀ tag, d.decode frame = .error (.unexpectedSubType tag) →
    ∀ tail, d.decode (frame ++ tail) = .error (.unexpectedSubType tag)
  truncated : ∀ needed actual, d.decode frame = .error (.truncated needed actual) →
    actual = frame.length ∧ actual < needed
  again : ∀ needed actual, d.decode frame = .error (.truncated needed actual) →
    ∀ tail, (frame ++ tail).length < needed →
      d.decode (frame ++ tail) = .error (.truncated needed (frame ++ tail).length)
  enough : ∀ needed actual, d.decode frame = .error (.truncated needed actual) →
    ∀ tail, needed ≤ (frame ++ tail).length →
      ∀ more length, d.decode (frame ++ tail) = .error (.truncated more length) →
        d = .broadcast ∧ more = 4 + 24 * announced (frame ++ tail)
  idLength : ∀ length, d.decode frame ≠ .error (.invalidSessionIdLength length)
  inside : d.read frame = .answer (d.decode frame)

theorem decode_append_of_long {d : Decoder} {frame : Bytes} (h : d.needs frame ≤ frame.length)
    (tail : Bytes) : d.decode (frame ++ tail) = d.decode frame := by
  obtain ⟨answer, _, same⟩ := exists_final h
  have alone := same []
  rw [List.append_nil] at alone
  rw [same, alone]

theorem decode_append {d : Decoder} {frame : Bytes} {answer : Except DecodeError d.Result}
    (h : d.decode frame = answer) (final : Final answer) (tail : Bytes) :
    d.decode (frame ++ tail) = answer := by
  by_cases long : d.needs frame ≤ frame.length
  · rw [decode_append_of_long long, h]
  · rw [decode_of_short (Nat.lt_of_not_le long)] at h
    exact absurd h.symm (final.not_truncated _ _)

theorem decode_ne_idLength (d : Decoder) (frame : Bytes) (length : Nat) :
    d.decode frame ≠ .error (.invalidSessionIdLength length) := by
  by_cases long : d.needs frame ≤ frame.length
  · exact (final_of_long long).not_idLength length
  · rw [decode_of_short (Nat.lt_of_not_le long)]
    intro refused
    cases refused

/-- Each decoder is stable at each frame, and reads nothing but the bytes of the frame. -/
theorem stable (d : Decoder) (frame : Bytes) : Stable d frame where
  accepted result accepted := decode_append accepted (.ok result)
  dataType tag refused := decode_append refused (.dataType tag)
  subType tag refused := decode_append refused (.subType tag)
  truncated := by
    intro needed actual truncated
    obtain ⟨rfl, rfl, short⟩ := decode_eq_truncated_iff.mp truncated
    exact ⟨rfl, short⟩
  again := by
    intro needed actual truncated tail shorter
    obtain ⟨rfl, rfl, short⟩ := decode_eq_truncated_iff.mp truncated
    have asked := needs_append_of_short shorter
    rw [← asked] at shorter
    rw [decode_of_short shorter, asked]
  enough := by
    intro needed actual truncated tail longer more length again
    obtain ⟨rfl, rfl, short⟩ := decode_eq_truncated_iff.mp truncated
    obtain ⟨rfl, rfl, missing⟩ := decode_eq_truncated_iff.mp again
    exact needs_of_lt_needs_append (Nat.lt_of_le_of_lt longer missing)
  idLength := decode_ne_idLength d frame
  inside := read_eq d frame

end Decoder

end GameClient

import Mathlib.Data.String.Basic
import GameClient.Wire.SessionId

/-! # Identifiers as texts and as numbers

An identifier is shown by two digits for each byte, and its bytes are one number, the first byte the
most significant. In each of the three the first place that differs decides which is less, and a byte
has the same rank among bytes as its two digits have among pairs of digits. So the three orders are
one, and an identifier can be told by its text. -/

namespace GameClient

namespace Bytes

theorem toNat_append (low high : Bytes) :
    toNat (low ++ high) = toNat low + 256 ^ low.length * toNat high := by
  induction low with
  | nil => rw [List.nil_append, toNat, List.length_nil, Nat.pow_zero, Nat.one_mul, Nat.zero_add]
  | cons b low ih =>
    rw [List.cons_append, toNat, toNat, ih, List.length_cons, Nat.pow_succ', Nat.mul_add,
      Nat.mul_assoc, Nat.add_assoc]

/-- The number written by these bytes, most significant first. -/
def toNatFromTop (bs : Bytes) : Nat := toNat bs.reverse

theorem toNatFromTop_cons (b : UInt8) (bs : Bytes) :
    toNatFromTop (b :: bs) = toNatFromTop bs + 256 ^ bs.length * b.toNat := by
  rw [toNatFromTop, List.reverse_cons, toNat_append, List.length_reverse]
  rfl

theorem toNatFromTop_lt (bs : Bytes) : toNatFromTop bs < 256 ^ bs.length := by
  have bound := toNat_lt bs.reverse
  rwa [List.length_reverse] at bound

/-! ## Digits -/

theorem digitChar_lt_digitChar : ∀ m < 16, ∀ n < 16, m < n → m.digitChar < n.digitChar := by
  decide

def IsHexDigit (c : Char) : Prop := '0' ≤ c ∧ c ≤ '9' ∨ 'a' ≤ c ∧ c ≤ 'f'

instance (c : Char) : Decidable (IsHexDigit c) := inferInstanceAs (Decidable (_ ∨ _))

theorem isHexDigit_digitChar : ∀ n < 16, IsHexDigit n.digitChar := by decide

theorem isHexDigit_of_mem_toHexChars {c : Char} {bs : Bytes} (h : c ∈ toHexChars bs) :
    IsHexDigit c := by
  induction bs with
  | nil => cases h
  | cons b bs ih =>
    have range := b.toNat_lt
    rw [toHexChars, List.mem_cons, List.mem_cons] at h
    rcases h with rfl | rfl | later
    · exact isHexDigit_digitChar _ (by omega)
    · exact isHexDigit_digitChar _ (by omega)
    · exact ih later

theorem toHexChars_cons_lt_of_lt {a b : UInt8} (less : a < b) (as bs : Bytes) :
    toHexChars (a :: as) < toHexChars (b :: bs) := by
  have upper := a.toNat_lt
  have upper' := b.toNat_lt
  have less : a.toNat < b.toNat := less
  rw [toHexChars, toHexChars, List.cons_lt_cons_iff, List.cons_lt_cons_iff]
  rcases Nat.lt_or_eq_of_le (Nat.div_le_div_right less.le : a.toNat / 16 ≤ b.toNat / 16) with
    high | high
  · exact .inl (digitChar_lt_digitChar _ (by omega) _ (by omega) high)
  · refine .inr ⟨congrArg Nat.digitChar high, .inl ?_⟩
    exact digitChar_lt_digitChar _ (by omega) _ (by omega) (by omega)

end Bytes

namespace SessionId

/-! ## The order of bytes -/

theorem orderBytes_cons_eq_lt_iff {a b : UInt8} {as bs : Bytes} :
    orderBytes (a :: as) (b :: bs) = .lt ↔ a < b ∨ a = b ∧ orderBytes as bs = .lt := by
  rw [orderBytes]
  split
  next less => simp [less]
  split
  next greater =>
    have other : a ≠ b := (UInt8.ne_of_lt greater).symm
    simp [UInt8.lt_asymm greater, other]
  next above below =>
    have same : a = b := UInt8.le_antisymm (UInt8.not_lt.mp below) (UInt8.not_lt.mp above)
    simp [same, UInt8.lt_irrefl]

theorem eq_of_orderBytes_eq {as bs : Bytes} (h : orderBytes as bs = .eq) : as = bs := by
  induction as generalizing bs with
  | nil => cases bs with
    | nil => rfl
    | cons b bs => cases h
  | cons a as ih => cases bs with
    | nil => cases h
    | cons b bs =>
      rw [orderBytes] at h
      split at h
      · cases h
      split at h
      · cases h
      next above below =>
        have same : a = b := UInt8.le_antisymm (UInt8.not_lt.mp below) (UInt8.not_lt.mp above)
        rw [same, ih h]

theorem swap_orderBytes (as bs : Bytes) : (orderBytes as bs).swap = orderBytes bs as := by
  induction as generalizing bs with
  | nil => cases bs <;> rfl
  | cons a as ih => cases bs with
    | nil => rfl
    | cons b bs =>
      rw [orderBytes, orderBytes]
      split
      next less =>
        rw [if_neg (UInt8.lt_asymm less)]
        rfl
      next above =>
        split
        · rfl
        · exact ih bs

/-- Whatever rises with the identifier has its order. -/
theorem order_eq_compare {α : Type} [LinearOrder α] {f : SessionId → α}
    (rises : ∀ {a b}, order a b = .lt → f a < f b) (a b : SessionId) :
    order a b = compare (f a) (f b) := by
  cases h : order a b with
  | lt => exact (compare_lt_iff_lt.mpr (rises h)).symm
  | eq =>
    have same : a.bytes = b.bytes := eq_of_orderBytes_eq h
    cases a
    cases b
    cases same
    exact (compare_eq_iff_eq.mpr rfl).symm
  | gt =>
    have swapped : order b a = .lt := by rw [order, ← swap_orderBytes, ← order, h]; rfl
    exact (compare_gt_iff_gt.mpr (rises swapped)).symm

/-! ## Texts -/

theorem toHexChars_lt_of_orderBytes {as bs : Bytes} (h : orderBytes as bs = .lt) :
    Bytes.toHexChars as < Bytes.toHexChars bs := by
  induction as generalizing bs with
  | nil => cases bs with
    | nil => cases h
    | cons b bs => exact List.nil_lt_cons _ _
  | cons a as ih => cases bs with
    | nil => cases h
    | cons b bs =>
      rcases orderBytes_cons_eq_lt_iff.mp h with less | ⟨rfl, later⟩
      · exact Bytes.toHexChars_cons_lt_of_lt less as bs
      · exact List.cons_lt_cons_iff.mpr (.inr ⟨rfl, List.cons_lt_cons_iff.mpr (.inr ⟨rfl, ih later⟩)⟩)

theorem toList_text (id : SessionId) : id.text.toList = Bytes.toHexChars id.bytes :=
  String.toList_ofList

theorem length_text (id : SessionId) : id.text.length = 32 := by
  rw [← String.length_toList, toList_text, Bytes.length_toHexChars, id.length_eq]

theorem ofHex?_text (id : SessionId) : Bytes.ofHex? id.text = some id.bytes := by
  rw [Bytes.ofHex?, toList_text, Bytes.ofHexChars?_toHexChars]

theorem text_inj {a b : SessionId} : a.text = b.text ↔ a = b := by
  refine ⟨fun same => ?_, congrArg text⟩
  have bytes := ofHex?_text a
  rw [same, ofHex?_text] at bytes
  cases a
  cases b
  cases bytes
  rfl

theorem text_lt_of_order {a b : SessionId} (h : order a b = .lt) : a.text < b.text := by
  rw [String.lt_iff_toList_lt, toList_text, toList_text]
  exact toHexChars_lt_of_orderBytes h

/-! ## Numbers -/

/-- The first byte is the most significant. -/
def number (id : SessionId) : Nat := Bytes.toNatFromTop id.bytes

theorem number_lt (id : SessionId) : id.number < 2 ^ 128 := by
  have bound := Bytes.toNatFromTop_lt id.bytes
  rwa [id.length_eq] at bound

theorem toNatFromTop_lt_of_orderBytes {as bs : Bytes} (width : as.length = bs.length)
    (h : orderBytes as bs = .lt) : Bytes.toNatFromTop as < Bytes.toNatFromTop bs := by
  induction as generalizing bs with
  | nil => cases bs with
    | nil => cases h
    | cons b bs => cases width
  | cons a as ih => cases bs with
    | nil => cases width
    | cons b bs =>
      replace width : as.length = bs.length := Nat.succ.inj width
      rw [Bytes.toNatFromTop_cons, Bytes.toNatFromTop_cons, width]
      rcases orderBytes_cons_eq_lt_iff.mp h with less | ⟨rfl, later⟩
      · -- One more in this place outweighs all places after it.
        have rest := Bytes.toNatFromTop_lt as
        have place : 256 ^ bs.length * (a.toNat + 1) ≤ 256 ^ bs.length * b.toNat :=
          Nat.mul_le_mul_left _ less
        rw [Nat.mul_succ] at place
        rw [width] at rest
        omega
      · exact Nat.add_lt_add_right (ih width later) _

theorem number_lt_of_order {a b : SessionId} (h : order a b = .lt) : a.number < b.number :=
  toNatFromTop_lt_of_orderBytes (a.length_eq.trans b.length_eq.symm) h

/-! ## Main result -/

theorem ofBytes_eq_ok_iff {bytes : Bytes} {id : SessionId} :
    ofBytes bytes = .ok id ↔ id.bytes = bytes := by
  constructor
  · intro made
    unfold ofBytes at made
    split at made
    · cases made; rfl
    · cases made
  · rintro rfl
    exact ofBytes_bytes id

theorem ofBytes_eq_error_iff {bytes : Bytes} {error : DecodeError} :
    ofBytes bytes = .error error ↔
      bytes.length ≠ 16 ∧ error = .invalidSessionIdLength bytes.length := by
  unfold ofBytes
  split
  next width => simp [width]
  next width => simp [width, eq_comm]

/-- An identifier can be told by its text, and has its place by its text and by its number; just the
byte strings of the right length make one. -/
theorem prints_and_orders (a b : SessionId) :
    (a.text.length = 32 ∧ ∀ c ∈ a.text.toList, Bytes.IsHexDigit c) ∧
    Bytes.ofHex? a.text = some a.bytes ∧
    (a.text = b.text ↔ a = b) ∧
    a.order b = compare a.text b.text ∧
    (a.number < 2 ^ 128 ∧ a.order b = compare a.number b.number) ∧
    ∀ bytes : Bytes,
      ((∃ id, ofBytes bytes = .ok id) ↔ bytes.length = 16) ∧
      (∀ id, ofBytes bytes = .ok id ↔ id.bytes = bytes) ∧
      (∀ error, ofBytes bytes = .error error ↔
        bytes.length ≠ 16 ∧ error = .invalidSessionIdLength bytes.length) := by
  refine ⟨⟨a.length_text, fun c digit => ?_⟩, a.ofHex?_text, text_inj, ?_, ⟨a.number_lt, ?_⟩,
    fun bytes => ⟨?_, fun _ => ofBytes_eq_ok_iff, fun _ => ofBytes_eq_error_iff⟩⟩
  · rw [toList_text] at digit
    exact Bytes.isHexDigit_of_mem_toHexChars digit
  · exact order_eq_compare text_lt_of_order a b
  · exact order_eq_compare number_lt_of_order a b
  · constructor
    · rintro ⟨id, made⟩
      rw [← ofBytes_eq_ok_iff.mp made, id.length_eq]
    · exact fun width => ⟨⟨bytes, width⟩, ofBytes_bytes ⟨bytes, width⟩⟩

/-- A byte below sixteen keeps its zero; without it the two texts would begin alike. -/
theorem prints_and_orders_padded :
    let a : SessionId := ⟨0x0A :: List.replicate 15 0, rfl⟩
    let b : SessionId := ⟨0xA0 :: List.replicate 15 0, rfl⟩
    a.text = "0a000000000000000000000000000000" ∧
      ('a' ∈ a.text.toList ∧ Bytes.IsHexDigit 'a') ∧
      a.order b = .lt ∧ compare a.text b.text = .lt ∧ compare a.number b.number = .lt ∧
      ofBytes (0 :: a.bytes) = .error (.invalidSessionIdLength 17) := by
  intro a b
  obtain ⟨⟨-, digits⟩, -, -, text, ⟨-, number⟩, -⟩ := prints_and_orders a b
  obtain ⟨-, -, refused⟩ := (prints_and_orders a b).2.2.2.2.2 (0 :: a.bytes)
  have shown : a.text.toList = "0a000000000000000000000000000000".toList := by
    rw [toList_text]
    decide
  have there : 'a' ∈ a.text.toList := by
    rw [shown]
    decide
  have less : a.order b = .lt := by decide
  refine ⟨String.toList_injective shown, ⟨there, digits 'a' there⟩, less, ?_, ?_, ?_⟩
  · rw [← text, less]
  · rw [← number, less]
  · exact (refused _).mpr ⟨by decide, rfl⟩

end SessionId

end GameClient

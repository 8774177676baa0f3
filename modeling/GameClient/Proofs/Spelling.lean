import GameClient.Proofs.Shortest

/-! # Spelled numbers read back

A number is spelled by a sign, digits with a point among them, and an exponent. These are taken
apart again as they were put together, and the digits and the exponent make the same decimal as
those that were spelled, though zeros may have moved from the one to the other. -/

namespace GameClient

/-! ## Runs of characters -/

/-- No run of these characters goes on here. -/
def Stops (p : Char → Bool) (rest : List Char) : Prop := ∀ c ∈ rest.head?, p c = false

theorem stops_nil (p : Char → Bool) : Stops p [] := nofun

theorem stops_cons {p : Char → Bool} {c : Char} (h : p c = false) (rest : List Char) :
    Stops p (c :: rest) := by
  rintro _ ⟨⟩
  exact h

theorem takeWhile_append {p : Char → Bool} {run rest : List Char} (all : ∀ c ∈ run, p c = true)
    (stops : Stops p rest) : (run ++ rest).takeWhile p = run := by
  rw [List.takeWhile_append_of_pos all]
  cases rest with
  | nil => exact List.append_nil run
  | cons c rest => rw [List.takeWhile_cons, stops c rfl, if_neg Bool.false_ne_true, List.append_nil]

theorem dropWhile_append {p : Char → Bool} {run rest : List Char} (all : ∀ c ∈ run, p c = true)
    (stops : Stops p rest) : (run ++ rest).dropWhile p = rest := by
  rw [List.dropWhile_append_of_pos all]
  cases rest with
  | nil => rfl
  | cons c rest => rw [List.dropWhile_cons, stops c rfl, if_neg Bool.false_ne_true]

namespace Decimal

open Binary64

/-! ## Digits -/

theorem isDigit_of_mem_zero {c : Char} (h : c ∈ ['0']) : c.isDigit = true := by
  rw [List.mem_singleton.mp h]
  rfl

theorem isDigit_of_mem_toDigits {n : Nat} {c : Char} (h : c ∈ Nat.toDigits 10 n) :
    c.isDigit = true :=
  Nat.isDigit_of_mem_toDigits (by decide) (by decide) h

theorem digitsValue_toDigits (n : Nat) : digitsValue (Nat.toDigits 10 n) = n :=
  Nat.ofDigitChars_toDigits (by decide) (by decide)

theorem toDigits_ne_nil (n : Nat) : Nat.toDigits 10 n ≠ [] :=
  List.ne_nil_of_length_pos Nat.length_toDigits_pos

theorem digitsValue_append_zeros (digits : List Char) (n : Nat) :
    digitsValue (digits ++ List.replicate n '0') = digitsValue digits * 10 ^ n := by
  induction n with
  | zero => rw [List.replicate_zero, List.append_nil, Nat.pow_zero, Nat.mul_one]
  | succ n ih =>
    have last : digitsValue (digits ++ List.replicate n '0' ++ ['0']) =
        10 * digitsValue (digits ++ List.replicate n '0') + 0 := List.foldl_append
    rw [List.replicate_succ', ← List.append_assoc, last, ih, Nat.add_zero, Nat.mul_comm 10,
      Nat.mul_assoc, Nat.pow_succ]

theorem digitsValue_zeros_append (n : Nat) (digits : List Char) :
    digitsValue (List.replicate n '0' ++ digits) = digitsValue digits := by
  induction n with
  | zero => rfl
  | succ n ih => exact ih

/-- The digits without the zeros at their end. -/
def trimmed (n : Nat) : List Char :=
  ((Nat.toDigits 10 n).reverse.dropWhile (· == '0')).reverse

theorem toDigits_eq_trimmed (n : Nat) :
    ∃ k, Nat.toDigits 10 n = trimmed n ++ List.replicate k '0' := by
  have split := List.takeWhile_append_dropWhile (p := (· == '0')) (l := (Nat.toDigits 10 n).reverse)
  have zeros : (Nat.toDigits 10 n).reverse.takeWhile (· == '0') =
      List.replicate ((Nat.toDigits 10 n).reverse.takeWhile (· == '0')).length '0' := by
    refine List.eq_replicate_of_mem fun c h => ?_
    exact beq_iff_eq.mp (List.all_eq_true.mp List.all_takeWhile c h)
  refine ⟨((Nat.toDigits 10 n).reverse.takeWhile (· == '0')).length, ?_⟩
  rw [← List.reverse_inj, List.reverse_append, List.reverse_replicate, ← zeros, trimmed,
    List.reverse_reverse, split]

theorem exists_zeros {n : Nat} (pos : 0 < n) :
    ∃ k, n = digitsValue (trimmed n) * 10 ^ k ∧ digitCount n = (trimmed n).length + k ∧
      trimmed n ≠ [] := by
  obtain ⟨k, split⟩ := toDigits_eq_trimmed n
  have value : n = digitsValue (trimmed n) * 10 ^ k := by
    rw [← digitsValue_append_zeros, ← split, digitsValue_toDigits]
  refine ⟨k, value, ?_, ?_⟩
  · rw [digitCount, split, List.length_append, List.length_replicate]
  · intro nothing
    rw [nothing] at value
    have zero : n = 0 := value.trans (Nat.zero_mul _)
    omega

theorem isDigit_of_mem_trimmed {n : Nat} {c : Char} (h : c ∈ trimmed n) : c.isDigit = true := by
  obtain ⟨k, split⟩ := toDigits_eq_trimmed n
  apply isDigit_of_mem_toDigits (n := n)
  rw [split]
  exact List.mem_append_left _ h

/-! ## The double of a decimal -/

theorem nearest_congr {num den num' den' : Nat} (pos : 0 < den) (pos' : 0 < den')
    (h : num * den' = num' * den) : nearest num den = nearest num' den' :=
  Nat.le_antisymm (nearest_le_nearest pos pos' (Nat.le_of_eq h))
    (nearest_le_nearest pos' pos (Nat.le_of_eq h.symm))

/-- Zeros may move from the exponent to the digits. -/
theorem reading_mul_pow (digits k : Nat) (unit : Int) :
    reading (digits * 10 ^ k) (unit - k) = reading digits unit := by
  apply nearest_congr (Nat.pow_pos (by decide)) (Nat.pow_pos (by decide))
  rw [Nat.mul_assoc, Nat.mul_assoc, Nat.mul_assoc, ← Nat.pow_add, ← Nat.pow_add, ← Nat.pow_add]
  congr 2
  omega

theorem nearest_huge : infinityMagnitude ≤ nearest (10 ^ 400) 1 := by decide +kernel

theorem nearest_tiny : nearest 1 (10 ^ 400) = 0 := by decide +kernel

/-- What reads as a positive double is well within the range in which decimals are expanded. -/
theorem point_of_reading {digits : Nat} {unit : Int} (pos : 0 < reading digits unit)
    (finite : reading digits unit < infinityMagnitude) :
    0 < digits ∧ -400 ≤ digitCount digits + unit ∧ digitCount digits + unit ≤ 400 := by
  have some : 0 < digits := by
    apply Nat.pos_of_ne_zero
    rintro rfl
    rw [reading, Nat.zero_mul, nearest, if_pos (.inl rfl)] at pos
    exact Nat.lt_irrefl 0 pos
  have scale : 0 < 10 ^ (-unit).toNat := Nat.pow_pos (by decide)
  have count : 0 < digitCount digits := Nat.length_toDigits_pos
  refine ⟨some, ?_, ?_⟩ <;> apply Int.not_lt.mp <;> intro beyond
  · have tiny : reading digits unit ≤ nearest 1 (10 ^ 400) := by
      apply nearest_le_nearest scale (Nat.pow_pos (by decide))
      calc digits * 10 ^ unit.toNat * 10 ^ 400
          ≤ 10 ^ digitCount digits * 10 ^ unit.toNat * 10 ^ 400 :=
            Nat.mul_le_mul_right _ (Nat.mul_le_mul_right _ (lt_pow_digitCount digits).le)
        _ = 10 ^ (digitCount digits + unit.toNat + 400) := by rw [Nat.pow_add, Nat.pow_add]
        _ ≤ 10 ^ (-unit).toNat := Nat.pow_le_pow_right (by decide) (by omega)
        _ = 1 * 10 ^ (-unit).toNat := (Nat.one_mul _).symm
    rw [nearest_tiny] at tiny
    omega
  · have more : 10 ^ 400 * 10 ^ (-unit).toNat ≤ digits * 10 ^ unit.toNat * 1 := by
      calc 10 ^ 400 * 10 ^ (-unit).toNat = 10 ^ (400 + (-unit).toNat) := by rw [Nat.pow_add]
        _ ≤ 10 ^ (digitCount digits - 1 + unit.toNat) :=
            Nat.pow_le_pow_right (by decide) (by omega)
        _ = 10 ^ (digitCount digits - 1) * 10 ^ unit.toNat := Nat.pow_add ..
        _ ≤ digits * 10 ^ unit.toNat := Nat.mul_le_mul_right _ (pow_digitCount_le some)
        _ = digits * 10 ^ unit.toNat * 1 := (Nat.mul_one _).symm
    have huge := nearest_le_nearest Nat.one_pos scale more
    have top := nearest_huge
    rw [← reading] at huge
    omega

theorem toBinary64_of_reading {n : Numeral} {m : Nat} (pos : 0 < m) (finite : m < infinityMagnitude)
    (read : reading n.digits n.exponent = m) : n.toBinary64 = ofSignMagnitude n.negative m := by
  subst read
  obtain ⟨some, least, most⟩ := point_of_reading pos finite
  unfold Numeral.toBinary64
  dsimp only
  rw [if_neg (by omega), if_neg (by omega), ofRatio_eq, ← reading,
    Nat.min_eq_right (Nat.le_of_lt finite)]

/-! ## Spellings -/

/-- A spelled number: digits, perhaps with a point and more digits after them, perhaps with an
exponent. -/
structure Spelling where
  negative : Bool
  whole : List Char
  fraction : Option (List Char)
  exponent : Option Int
  whole_ne_nil : whole ≠ []
  isDigit_whole : ∀ c ∈ whole, c.isDigit = true
  isDigit_fraction : ∀ digits ∈ fraction, ∀ c ∈ digits, c.isDigit = true

namespace Spelling

def signChars (s : Spelling) : List Char := if s.negative then ['-'] else []

def fractionChars (s : Spelling) : List Char :=
  match s.fraction with
  | some digits => '.' :: digits
  | none => []

def exponentChars (s : Spelling) : List Char :=
  match s.exponent with
  | some e => 'e' :: (toString e).toList
  | none => []

def chars (s : Spelling) : List Char :=
  s.signChars ++ (s.whole ++ (s.fractionChars ++ s.exponentChars))

def numeral (s : Spelling) : Numeral where
  negative := s.negative
  digits := digitsValue (s.whole ++ s.fraction.getD [])
  exponent := s.exponent.getD 0 - (s.fraction.getD []).length

theorem takeSign_of_digit {c : Char} (digit : c.isDigit = true) (rest : List Char) :
    takeSign (c :: rest) = (false, c :: rest) := by
  unfold takeSign
  split
  next same => cases same; cases digit
  next same => cases same; cases digit
  next => rfl

theorem takeSign_chars (s : Spelling) :
    takeSign s.chars = (s.negative, s.whole ++ (s.fractionChars ++ s.exponentChars)) := by
  obtain ⟨negative, whole, fraction, exponent, some, digits, -⟩ := s
  cases whole with
  | nil => exact absurd rfl some
  | cons c whole =>
    have plus := takeSign_of_digit (digits c List.mem_cons_self)
    cases negative with
    | false => exact plus _
    | true => rfl

theorem toList_toString (e : Int) :
    (toString e).toList = (if e < 0 then ['-'] else []) ++ Nat.toDigits 10 e.natAbs := by
  cases e with
  | ofNat n =>
    have plus : ¬Int.ofNat n < 0 := Int.not_lt.mpr (Int.natCast_nonneg n)
    rw [if_neg plus, ← String.toList_ofList (l := Nat.toDigits 10 _), ← Nat.repr_eq_ofList_toDigits]
    rfl
  | negSucc n =>
    rw [if_pos (Int.negSucc_lt_zero n), ← String.toList_ofList (l := Nat.toDigits 10 _),
      ← Nat.repr_eq_ofList_toDigits]
    exact String.toList_append

theorem takeSign_toString (e : Int) :
    takeSign (toString e).toList = (decide (e < 0), Nat.toDigits 10 e.natAbs) := by
  rw [toList_toString]
  split
  next minus =>
    rw [decide_eq_true minus]
    rfl
  next plus =>
    rw [decide_eq_false plus]
    cases digits : Nat.toDigits 10 e.natAbs with
    | nil => exact absurd digits (toDigits_ne_nil _)
    | cons c rest =>
      apply takeSign_of_digit
      apply isDigit_of_mem_toDigits (n := e.natAbs)
      rw [digits]
      exact List.mem_cons_self

theorem exponentOf?_toString (e : Int) : exponentOf? (toString e).toList = some e := by
  have digits : ((Nat.toDigits 10 e.natAbs).isEmpty ||
      !(Nat.toDigits 10 e.natAbs).all Char.isDigit) = false := by
    rw [Bool.or_eq_false_iff, List.isEmpty_eq_false_iff, Bool.not_eq_false', List.all_eq_true]
    exact ⟨toDigits_ne_nil _, fun c h => isDigit_of_mem_toDigits h⟩
  rw [exponentOf?, takeSign_toString]
  dsimp only
  rw [digits, digitsValue_toDigits, if_neg Bool.false_ne_true]
  simp only [decide_eq_true_iff]
  split
  · congr 1
    omega
  · congr 1
    omega

theorem stops_exponentChars (s : Spelling) : Stops Char.isDigit s.exponentChars := by
  unfold exponentChars
  split
  · exact stops_cons rfl _
  · exact stops_nil _

theorem stops_fractionChars (s : Spelling) :
    Stops Char.isDigit (s.fractionChars ++ s.exponentChars) := by
  unfold fractionChars
  split
  · exact stops_cons rfl _
  · exact s.stops_exponentChars

theorem exponentAfter?_exponentChars (s : Spelling) :
    exponentAfter? s.exponentChars = some (s.exponent.getD 0) := by
  unfold exponentChars
  cases s.exponent with
  | none => rfl
  | some e => exact exponentOf?_toString e

theorem fractionAfter_fractionChars (s : Spelling) :
    fractionAfter (s.fractionChars ++ s.exponentChars) =
      (s.fraction.getD [], s.exponentChars) := by
  have tail := s.stops_exponentChars
  have digits := s.isDigit_fraction
  unfold fractionChars
  cases written : s.fraction with
  | none =>
    unfold exponentChars
    cases s.exponent <;> rfl
  | some fraction =>
    exact Prod.ext (takeWhile_append (digits fraction written) tail)
      (dropWhile_append (digits fraction written) tail)

theorem ofChars?_chars (s : Spelling) : Numeral.ofChars? s.chars = some s.numeral := by
  have some : s.whole.isEmpty = false := List.isEmpty_eq_false_iff.mpr s.whole_ne_nil
  unfold Numeral.ofChars?
  rw [takeSign_chars]
  dsimp only
  rw [takeWhile_append s.isDigit_whole s.stops_fractionChars,
    dropWhile_append s.isDigit_whole s.stops_fractionChars, fractionAfter_fractionChars]
  dsimp only
  rw [some, Bool.false_and, if_neg Bool.false_ne_true, exponentAfter?_exponentChars]
  rfl

/-! ## The characters of a spelling -/

theorem mem_chars {s : Spelling} {c : Char} (h : c ∈ s.chars) :
    c.isDigit = true ∨ c = '-' ∨ c = '.' ∨ c = 'e' := by
  unfold chars at h
  rcases List.mem_append.mp h with sign | h
  · unfold signChars at sign
    split at sign
    · exact .inr (.inl (List.mem_singleton.mp sign))
    · cases sign
  rcases List.mem_append.mp h with whole | h
  · exact .inl (s.isDigit_whole c whole)
  rcases List.mem_append.mp h with fraction | exponent
  · unfold fractionChars at fraction
    split at fraction
    next digits written =>
      rcases List.mem_cons.mp fraction with point | digit
      · exact .inr (.inr (.inl point))
      · exact .inl (s.isDigit_fraction digits written c digit)
    · cases fraction
  · unfold exponentChars at exponent
    split at exponent
    next e _ =>
      rcases List.mem_cons.mp exponent with mark | h
      · exact .inr (.inr (.inr mark))
      rw [toList_toString] at h
      rcases List.mem_append.mp h with minus | digit
      · split at minus
        · exact .inr (.inl (List.mem_singleton.mp minus))
        · cases minus
      · exact .inl (isDigit_of_mem_toDigits digit)
    · cases exponent

/-- A spelling begins with a digit, after the sign if there is one. -/
theorem exists_chars_eq (s : Spelling) :
    ∃ d rest, d.isDigit = true ∧ (s.chars = d :: rest ∨ s.chars = '-' :: d :: rest) := by
  obtain ⟨d, more, whole⟩ := List.exists_cons_of_ne_nil s.whole_ne_nil
  have digit : d.isDigit = true := s.isDigit_whole d (whole ▸ List.mem_cons_self)
  refine ⟨d, more ++ (s.fractionChars ++ s.exponentChars), digit, ?_⟩
  rw [chars, signChars, whole]
  cases s.negative
  · exact .inl rfl
  · exact .inr rfl

end Spelling

/-! ## Layouts -/

section Layout

variable {layout : Layout} {digits : Nat} {unit : Int}

/-- The text spells this decimal, or the same one with other zeros. -/
structure Spells (text : String) (negative : Bool) (digits : Nat) (unit : Int) (s : Spelling) :
    Prop where
  negative : s.negative = negative
  chars : s.whole ++ (s.fractionChars ++ s.exponentChars) = text.toList
  reading : reading s.numeral.digits s.numeral.exponent = reading digits unit

theorem reading_numeral {s : Spelling} (j : Nat) (pos : 0 < digits)
    (value : s.numeral.digits = digitsValue (trimmed digits) * 10 ^ j)
    (exponent : s.numeral.exponent = digitCount digits + unit - (trimmed digits).length - j) :
    reading s.numeral.digits s.numeral.exponent = reading digits unit := by
  obtain ⟨k, split, count, -⟩ := exists_zeros pos
  have same : unit = digitCount digits + unit - (trimmed digits).length - k := by omega
  calc reading s.numeral.digits s.numeral.exponent
      = reading (digitsValue (trimmed digits)) (digitCount digits + unit - (trimmed digits).length) := by
        rw [value, exponent, reading_mul_pow]
    _ = reading (digitsValue (trimmed digits) * 10 ^ k)
          (digitCount digits + unit - (trimmed digits).length - k) := (reading_mul_pow ..).symm
    _ = reading digits unit := by rw [← split, ← same]

variable (negative : Bool)

/-- Zeros after the point, then the digits. -/
theorem exists_spelling_low (pos : 0 < digits) (low : digitCount digits + unit ≤ 0) :
    ∃ s, Spells ("0." ++ zeros (-(digitCount digits + unit)).toNat ++ String.ofList (trimmed digits))
      negative digits unit s := by
  generalize gap : (-(digitCount digits + unit)).toNat = k
  refine ⟨⟨negative, ['0'], some (List.replicate k '0' ++ trimmed digits), none,
    List.cons_ne_nil _ _, fun _ => isDigit_of_mem_zero, ?_⟩, rfl, ?_, reading_numeral 0 pos ?_ ?_⟩
  · rintro _ ⟨⟩ c h
    rcases List.mem_append.mp h with zero | digit
    · rw [List.eq_of_mem_replicate zero]
      rfl
    · exact isDigit_of_mem_trimmed digit
  · simp [Spelling.fractionChars, Spelling.exponentChars, zeros]
  · have value := digitsValue_zeros_append (k + 1) (trimmed digits)
    rw [Nat.pow_zero, Nat.mul_one, ← value, List.replicate_succ]
    rfl
  · simp [Spelling.numeral]
    omega

/-- The digits, then zeros before the point. -/
theorem exists_spelling_long (pos : 0 < digits)
    (long : (trimmed digits).length ≤ (digitCount digits + unit).toNat) :
    ∃ s, Spells (String.ofList (trimmed digits) ++
      zeros ((digitCount digits + unit).toNat - (trimmed digits).length) ++ ".0")
      negative digits unit s := by
  obtain ⟨-, -, -, first⟩ := exists_zeros pos
  generalize gap : (digitCount digits + unit).toNat - (trimmed digits).length = k
  refine ⟨⟨negative, trimmed digits ++ List.replicate k '0', some ['0'], none,
    List.append_ne_nil_of_left_ne_nil first _, ?_, ?_⟩, rfl, ?_, reading_numeral (k + 1) pos ?_ ?_⟩
  · intro c h
    rcases List.mem_append.mp h with digit | zero
    · exact isDigit_of_mem_trimmed digit
    · rw [List.eq_of_mem_replicate zero]
      rfl
  · rintro _ ⟨⟩
    exact fun _ => isDigit_of_mem_zero
  · simp [Spelling.fractionChars, Spelling.exponentChars, zeros]
  · rw [← digitsValue_append_zeros, List.replicate_succ', ← List.append_assoc]
    rfl
  · have some := List.length_pos_iff.mpr first
    simp [Spelling.numeral]
    omega

/-- The point among the digits. -/
theorem exists_spelling_inside (pos : 0 < digits) (above : 0 < digitCount digits + unit)
    (short : (digitCount digits + unit).toNat < (trimmed digits).length) :
    ∃ s, Spells (String.ofList ((trimmed digits).take (digitCount digits + unit).toNat) ++ "." ++
      String.ofList ((trimmed digits).drop (digitCount digits + unit).toNat))
      negative digits unit s := by
  obtain ⟨-, -, -, first⟩ := exists_zeros pos
  generalize place : (digitCount digits + unit).toNat = k at short
  refine ⟨⟨negative, (trimmed digits).take k, some ((trimmed digits).drop k), none, ?_, ?_, ?_⟩,
    rfl, ?_, reading_numeral 0 pos ?_ ?_⟩
  · rw [Ne, List.take_eq_nil_iff, or_iff_left first]
    omega
  · exact fun c h => isDigit_of_mem_trimmed (List.mem_of_mem_take h)
  · rintro _ ⟨⟩ c h
    exact isDigit_of_mem_trimmed (List.mem_of_mem_drop h)
  · simp [Spelling.fractionChars, Spelling.exponentChars]
  · simp [Spelling.numeral, List.take_append_drop]
  · simp [Spelling.numeral]
    omega

/-- One digit before the point, and an exponent. -/
theorem exists_spelling_exponent (pos : 0 < digits) :
    ∃ s, Spells (String.ofList ((trimmed digits).take 1) ++
      (if (trimmed digits).length ≤ 1 then "" else "." ++ String.ofList ((trimmed digits).drop 1)) ++
      "e" ++ toString (digitCount digits + unit - 1)) negative digits unit s := by
  obtain ⟨-, -, -, first⟩ := exists_zeros pos
  have all {c : Char} (h : c ∈ (trimmed digits).take 1) : c.isDigit = true :=
    isDigit_of_mem_trimmed (List.mem_of_mem_take h)
  have one : (trimmed digits).take 1 ≠ [] := by
    rw [Ne, List.take_eq_nil_iff, or_iff_left first]
    exact Nat.one_ne_zero
  have length := List.length_pos_iff.mpr first
  split
  next single =>
    refine ⟨⟨negative, (trimmed digits).take 1, none, some (digitCount digits + unit - 1), one,
      fun _ => all, nofun⟩, rfl, ?_, reading_numeral 0 pos ?_ ?_⟩
    · simp [Spelling.fractionChars, Spelling.exponentChars]
    · simp [Spelling.numeral, List.take_of_length_le single]
    · simp [Spelling.numeral]
      omega
  next more =>
    refine ⟨⟨negative, (trimmed digits).take 1, some ((trimmed digits).drop 1),
      some (digitCount digits + unit - 1), one, fun _ => all, ?_⟩, rfl, ?_,
      reading_numeral 0 pos ?_ ?_⟩
    · rintro _ ⟨⟩ c h
      exact isDigit_of_mem_trimmed (List.mem_of_mem_drop h)
    · simp [Spelling.fractionChars, Spelling.exponentChars]
    · simp [Spelling.numeral, -List.drop_one]
    · simp [Spelling.numeral]
      omega

theorem exists_spelling (mark : layout.exponentMark = "e") (wholeMark : layout.wholeMark = ".0")
    (pos : 0 < digits) (unit : Int) :
    ∃ s, Spells (layout.magnitude digits unit) negative digits unit s := by
  unfold Layout.magnitude
  rw [← trimmed, mark, wholeMark]
  dsimp only
  split
  next =>
    split
    next low => exact exists_spelling_low negative pos low
    next above =>
      split
      next long => exact exists_spelling_long negative pos long
      next short => exact exists_spelling_inside negative pos (by omega) (by omega)
  next => exact exists_spelling_exponent negative pos

/-- The text of a finite double spells a number whose nearest double it is. -/
theorem exists_spelling_text (mark : layout.exponentMark = "e")
    (wholeMark : layout.wholeMark = ".0") {x : Binary64} (finite : x.IsFinite) :
    ∃ s : Spelling, (layout.text x).toList = s.chars ∧ s.numeral.toBinary64 = x := by
  unfold Layout.text
  dsimp only
  rw [value_of_isFinite finite]
  dsimp only
  rcases Nat.eq_zero_or_pos x.magnitude with zero | pos
  · refine ⟨⟨x.isNegative, ['0'], some ['0'], none, List.cons_ne_nil _ _,
      fun _ => isDigit_of_mem_zero, ?_⟩, ?_, ?_⟩
    · rintro _ ⟨⟩
      exact fun _ => isDigit_of_mem_zero
    · have none : significandAt 0 = 0 := rfl
      rw [zero, if_pos none, wholeMark]
      cases x.isNegative <;> rfl
    · calc _ = ofSignMagnitude x.isNegative 0 := rfl
        _ = x := by rw [← zero, ofSignMagnitude_magnitude]
  · obtain ⟨digits, unit, found, read⟩ := shortest?_reads pos
    have some : 0 < digits := (point_of_reading (read ▸ pos) (read ▸ finite)).1
    obtain ⟨s, spells⟩ := exists_spelling x.isNegative mark wholeMark some unit
    refine ⟨s, ?_, ?_⟩
    · rw [if_neg (Nat.ne_of_gt (significandAt_pos pos)), found]
      dsimp only
      rw [String.toList_append, ← spells.chars, Spelling.chars, Spelling.signChars, spells.negative]
      cases x.isNegative <;> rfl
    · rw [toBinary64_of_reading pos finite (spells.reading.trans read), Spelling.numeral,
        spells.negative, ofSignMagnitude_magnitude]

end Layout

end Decimal

end GameClient

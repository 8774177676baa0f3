import GameClient.Proofs.Spelling
import GameClient.Settings.Printer
import GameClient.Settings.Reader

/-! # Written values read back

Each value of a settings text is followed by a comma. A scan that meets a written value and a comma
takes the value and leaves the comma: the characters of a value go on until there, and no further. -/

namespace GameClient

open Decimal

namespace Scan

/-! ## Blanks -/

theorem afterBlanks_cons {c : Char} (plain : c ≠ '/') (rest : List Char) :
    afterBlanks .plain (c :: rest) =
      if isBlank c then afterBlanks .plain rest else some (c :: rest) := by
  rw [afterBlanks]
  · exact fun _ same _ => plain same
  · exact fun _ same _ => plain same
  · exact plain

theorem blanks_gap {gap : List Char} (all : ∀ c ∈ gap, isBlank c = true) (rest : List Char) :
    blanks (gap ++ rest) = blanks rest := by
  induction gap with
  | nil => rfl
  | cons c gap ih =>
    have blank := all c List.mem_cons_self
    have plain : c ≠ '/' := by
      rintro rfl
      exact Bool.false_ne_true blank
    rw [← ih fun d there => all d (List.mem_cons_of_mem _ there), blanks, blanks, List.cons_append,
      afterBlanks_cons plain, if_pos blank]

/-- The text begins with a character of its own: no blank, no comment, and no end of a record. -/
def isSolid : List Char → Bool
  | c :: _ => !isBlank c && c != '/' && c != ')'
  | [] => false

theorem blanks_solid {chars : List Char} (solid : isSolid chars = true) (rest : List Char) :
    blanks (chars ++ rest) = some ((), chars ++ rest) := by
  cases chars with
  | nil => cases solid
  | cons c chars =>
    simp only [isSolid, Bool.and_eq_true, Bool.not_eq_true', bne_iff_ne] at solid
    rw [blanks, List.cons_append, afterBlanks_cons solid.1.2, if_neg (by simp [solid.1.1])]
    rfl

theorem takeChar_solid {chars : List Char} (solid : isSolid chars = true) (rest : List Char) :
    takeChar ')' (chars ++ rest) = some (false, chars ++ rest) := by
  cases chars with
  | nil => cases solid
  | cons c chars =>
    simp only [isSolid, Bool.and_eq_true, Bool.not_eq_true', bne_iff_ne] at solid
    rw [List.cons_append, takeChar, if_neg (Ne.symm solid.2)]

/-- The scan reads these characters before a comma, with this result. -/
structure Reads {α : Type} (p : Scan α) (chars : List Char) (a : α) : Prop where
  solid : isSolid chars = true
  takes : ∀ rest, p (chars ++ ',' :: rest) = some (a, ',' :: rest)

theorem bind_eq {α β : Type} {p : Scan α} {f : α → Scan β} {chars rest : List Char} {a : α}
    (h : p chars = some (a, rest)) : (p >>= f) chars = f a rest := by
  simp only [bind, StateT.bind, h, Option.bind_some]

theorem next_eq (c : Char) (rest : List Char) : next (c :: rest) = some (c, rest) := rfl

theorem get_eq (chars : List Char) : (get : Scan (List Char)) chars = some (chars, chars) := rfl

/-! ## Words -/

theorem takeText_eq_false {word : String} {chars : List Char}
    (h : word.toList.isPrefixOf chars = false) : takeText word chars = some (false, chars) := by
  rw [takeText, if_neg (by rw [h]; exact Bool.false_ne_true)]

theorem takeWord_eq_false {word : String} {chars : List Char}
    (h : word.toList.isPrefixOf chars = false) : takeWord word chars = some (false, chars) := by
  rw [takeWord, startsWithWord, h, Bool.false_and, if_neg Bool.false_ne_true]

theorem takeFirstWord_eq_none {α : Type} {words : List (String × α)} {chars : List Char}
    (h : ∀ word ∈ words, word.1.toList.isPrefixOf chars = false) :
    takeFirstWord words chars = some (none, chars) := by
  induction words with
  | nil => rfl
  | cons word words ih =>
    rw [takeFirstWord, bind_eq (takeWord_eq_false (h word List.mem_cons_self))]
    exact ih fun other there => h other (List.mem_cons_of_mem _ there)

theorem boolean_reads (b : Bool) : Reads boolean (if b then "true" else "false").toList b where
  solid := by cases b <;> rfl
  takes rest := by cases b <;> rfl

/-! ## Whole numbers -/

theorem digitValue?_digitChar : ∀ d < 16, digitValue? d.digitChar = some d ∧ d.digitChar ≠ '_' := by
  decide

theorem magnitude?_cons {c : Char} (digit : c ≠ '_') (base sum : Nat) (rest : List Char) :
    magnitude? base sum (c :: rest) = (digitValue? c).bind fun d =>
      if d < base then magnitude? base (base * sum + d) rest else none := by
  rw [magnitude?]
  · rfl
  · exact digit

theorem magnitude?_append (base sum : Nat) (front back : List Char) :
    magnitude? base sum (front ++ back) =
      (magnitude? base sum front).bind (magnitude? base · back) := by
  induction front generalizing sum with
  | nil => rfl
  | cons c front ih =>
    by_cases gap : c = '_'
    · subst gap
      exact ih sum
    · rw [List.cons_append, magnitude?_cons gap, magnitude?_cons gap]
      cases digitValue? c with
      | none => rfl
      | some d =>
        dsimp only [Option.bind_some]
        split
        · exact ih _
        · rfl

theorem magnitude?_digitChar {base d : Nat} (h : base ≤ 16) (sum : Nat) (less : d < base) :
    magnitude? base sum [d.digitChar] = some (base * sum + d) := by
  obtain ⟨value, digit⟩ := digitValue?_digitChar d (Nat.lt_of_lt_of_le less h)
  rw [magnitude?_cons digit, value, Option.bind_some, if_pos less, magnitude?]

theorem magnitude?_toDigits {base : Nat} (h : 1 < base) (h' : base ≤ 16) (n : Nat) :
    magnitude? base 0 (Nat.toDigits base n) = some n := by
  induction n using Nat.strongRecOn with
  | ind n ih =>
    rcases Nat.lt_or_ge n base with less | more
    · rw [Nat.toDigits_of_lt_base less, magnitude?_digitChar h' 0 less, Nat.mul_zero, Nat.zero_add]
    · have last : n % base < base := Nat.mod_lt _ (by omega)
      have front := ih (n / base) (Nat.div_lt_self (by omega) h)
      rw [Nat.toDigits_of_base_le h more, magnitude?_append, front, Option.bind_some,
        magnitude?_digitChar h' _ last, Nat.div_add_mod]

/-- What holds of the ten digits holds of every character that is a digit. -/
theorem of_isDigit {p : Char → Prop} (all : ∀ d < 10, p (Nat.digitChar d)) {c : Char}
    (digit : c.isDigit = true) : p c := by
  obtain ⟨low, high⟩ : 48 ≤ c.toNat ∧ c.toNat ≤ 57 := by
    simpa [Char.isDigit, UInt32.le_iff_toNat_le] using digit
  have code : ∀ d < 10, (Nat.digitChar d).toNat = 48 + d := by decide
  have same : (Nat.digitChar (c.toNat - 48)).toNat = c.toNat := by
    rw [code _ (by omega)]
    omega
  rw [← Char.toNat_inj.mp same]
  exact all _ (by omega)

theorem takeBase_eq {c d : Char} (next : d.isDigit = true ∨ d = ',') (rest : List Char) :
    takeBase (c :: d :: rest) = some (10, c :: d :: rest) := by
  have other {word : String} {mark : Char} (spelled : word.toList = ['0', mark])
      (letter : mark.isDigit = false ∧ mark ≠ ',') :
      takeText word (c :: d :: rest) = some (false, c :: d :: rest) := by
    have differ : mark ≠ d := by
      rintro rfl
      rcases next with digit | comma
      · rw [letter.1] at digit
        cases digit
      · exact letter.2 comma
    apply takeText_eq_false
    simp [spelled, List.isPrefixOf, differ]
  rw [takeBase, bind_eq (other rfl (by decide)), if_neg Bool.false_ne_true,
    bind_eq (other rfl (by decide)), if_neg Bool.false_ne_true,
    bind_eq (other rfl (by decide)), if_neg Bool.false_ne_true]
  rfl

section Digits

variable {digits : List Char} (first : digits ≠ []) (all : ∀ c ∈ digits, c.isDigit = true)
  (rest : List Char)

include first all

theorem isSolid_digits : isSolid (digits ++ rest) = true := by
  cases digits with
  | nil => exact absurd rfl first
  | cons c more =>
    exact of_isDigit (p := fun c => (!isBlank c && c != '/' && c != ')') = true) (by decide)
      (all c List.mem_cons_self)

theorem takeSign_digits : takeSign (digits ++ rest) = some (false, digits ++ rest) := by
  cases digits with
  | nil => exact absurd rfl first
  | cons c more =>
    have plus := Decimal.Spelling.takeSign_of_digit (all c List.mem_cons_self) (more ++ rest)
    exact congrArg some plus

theorem takeBase_digits : takeBase (digits ++ ',' :: rest) = some (10, digits ++ ',' :: rest) := by
  match digits, first with
  | [c], _ => exact takeBase_eq (.inr rfl) rest
  | c :: d :: more, _ =>
    have digit := all d (List.mem_cons_of_mem _ List.mem_cons_self)
    exact takeBase_eq (.inl digit) _

theorem not_underscore_first : (digits.isEmpty || decide (digits.head? = some '_')) = false := by
  cases digits with
  | nil => exact absurd rfl first
  | cons c more =>
    have digit : c ≠ '_' := by
      rintro rfl
      exact Bool.false_ne_true (all '_' List.mem_cons_self)
    simp [digit]

end Digits

theorem integer_toDigits (n : Nat) (rest : List Char) :
    integer (Nat.toDigits 10 n ++ ',' :: rest) =
      some ({ negative := false, magnitude := n, mark := none }, ',' :: rest) := by
  have value : magnitude? 10 0 (Nat.toDigits 10 n) = some n :=
    magnitude?_toDigits (by decide) (by decide) n
  have digit (c : Char) (h : c ∈ Nat.toDigits 10 n) : c.isDigit = true :=
    Decimal.isDigit_of_mem_toDigits h
  have first := Decimal.toDigits_ne_nil n
  generalize Nat.toDigits 10 n = digits at *
  have all (c : Char) (h : c ∈ digits) : isIntegerChar c = true :=
    of_isDigit (p := (isIntegerChar · = true)) (by decide) (digit c h)
  have stops : Stops isIntegerChar (',' :: rest) := stops_cons rfl _
  have unmarked : IntegerType.all.find? (fun t => startsWithWord t.name (',' :: rest)) = none := rfl
  have taken : takeWhile isIntegerChar (digits ++ ',' :: rest) = some (digits, ',' :: rest) := by
    rw [takeWhile, takeWhile_append all stops, dropWhile_append all stops]
  rw [integer, bind_eq (takeSign_digits first digit _), bind_eq (get_eq _),
    dropWhile_append all stops]
  dsimp only
  rw [unmarked, bind_eq (takeBase_digits first digit rest), bind_eq taken, value]
  dsimp only
  rw [not_underscore_first first digit, if_neg Bool.false_ne_true]
  rfl

theorem Reads.map {α β : Type} {p : Scan α} {chars : List Char} {a : α} (h : Reads p chars a)
    (f : α → β) : Reads (f <$> p) chars (f a) where
  solid := h.solid
  takes rest := by
    rw [map_eq_pure_bind, bind_eq (h.takes rest)]
    rfl

theorem toList_toString_nat (n : Nat) : (toString n).toList = Nat.toDigits 10 n := by
  rw [Nat.toString_eq_ofList_toDigits, String.toList_ofList]

theorem integerOf_reads {t : IntegerType} {n : Nat} (holds : t.holds n = true) :
    Reads (integerOf t) (toString n).toList n where
  solid := by
    rw [toList_toString_nat, ← List.append_nil (Nat.toDigits 10 n)]
    exact isSolid_digits (Decimal.toDigits_ne_nil n) (fun _ => Decimal.isDigit_of_mem_toDigits) []
  takes rest := by
    have held : t.holds (Integer.value ⟨false, n, none⟩) = true := holds
    rw [toList_toString_nat, integerOf, bind_eq (integer_toDigits n rest), held]
    rfl

theorem holds_unsigned {width n : Nat} (h : n < 2 ^ width) :
    IntegerType.holds ⟨false, width⟩ n = true := by
  have below : (n : Int) < ((2 ^ width : Nat) : Int) := Int.ofNat_lt.mpr h
  rw [Int.natCast_pow] at below
  exact decide_eq_true ⟨Int.natCast_nonneg n, below⟩

theorem word32_reads (w : UInt32) : Reads word32 (toString w.toNat).toList w := by
  have read := (integerOf_reads (holds_unsigned w.toNat_lt)).map UInt32.ofNat
  rwa [UInt32.ofNat_toNat] at read

theorem word64_reads (w : UInt64) : Reads word64 (toString w.toNat).toList w := by
  have read := (integerOf_reads (holds_unsigned w.toNat_lt)).map UInt64.ofNat
  rwa [UInt64.ofNat_toNat] at read

/-! ## Real numbers -/

theorem withoutUnderscores_cons {c : Char} (plain : c ≠ '_') (allowed : Bool) (rest : List Char) :
    ∃ next, withoutUnderscores allowed (c :: rest) = (withoutUnderscores next rest).map (c :: ·) := by
  by_cases point : c = '.'
  · subst point
    exact ⟨false, by rw [withoutUnderscores]⟩
  · refine ⟨allowed || c.isDigit || c == 'e' || c == 'E', ?_⟩
    rw [withoutUnderscores]
    · exact plain
    · exact point

theorem withoutUnderscores_eq {chars : List Char} (h : '_' ∉ chars) (allowed : Bool) :
    withoutUnderscores allowed chars = some chars := by
  induction chars generalizing allowed with
  | nil => rw [withoutUnderscores]
  | cons c chars ih =>
    rw [List.mem_cons, not_or] at h
    obtain ⟨next, step⟩ := withoutUnderscores_cons (Ne.symm h.1) allowed chars
    rw [step, ih h.2]
    rfl

/-- A word whose first two characters are no digits. -/
def isSpelledOut : List Char → Bool
  | c :: d :: _ => !c.isDigit && !d.isDigit
  | _ => false

theorem isPrefixOf_chars {word : List Char} (letters : isSpelledOut word = true) (s : Spelling)
    (rest : List Char) : word.isPrefixOf (s.chars ++ rest) = false := by
  obtain ⟨d, more, digit, chars⟩ := s.exists_chars_eq
  match word, letters with
  | a :: b :: _, letters =>
    rw [isSpelledOut, Bool.and_eq_true, Bool.not_eq_true', Bool.not_eq_true'] at letters
    have here : a ≠ d := by
      rintro rfl
      exact Bool.false_ne_true (letters.1.symm.trans digit)
    have next : b ≠ d := by
      rintro rfl
      exact Bool.false_ne_true (letters.2.symm.trans digit)
    rcases chars with chars | chars
    · simp [chars, List.isPrefixOf, here]
    · simp [chars, List.isPrefixOf, next]

theorem isSpelledOut_append {word : List Char} (h : isSpelledOut word = true) (more : List Char) :
    isSpelledOut (word ++ more) = true := by
  match word, h with
  | _ :: _ :: _, h => exact h

theorem isSpelledOut_realWords : ∀ word ∈ realWords, isSpelledOut word.1.toList = true := by
  decide

/-- No word for a number is at the beginning of a spelling. -/
theorem takeRealWord_chars (s : Spelling) (rest : List Char) :
    takeRealWord (s.chars ++ rest) = some (none, s.chars ++ rest) := by
  apply takeFirstWord_eq_none
  intro word known
  apply isPrefixOf_chars
  obtain ⟨bare, there, marked⟩ := List.mem_flatMap.mp known
  have letters := isSpelledOut_realWords bare there
  simp only [List.mem_cons, List.not_mem_nil, or_false] at marked
  rcases marked with rfl | rfl | rfl
  · exact letters
  · rw [String.toList_append]
    exact isSpelledOut_append letters _
  · rw [String.toList_append]
    exact isSpelledOut_append letters _

theorem real_chars (s : Spelling) (rest : List Char) :
    real (s.chars ++ ',' :: rest) = some ((s.numeral.toBinary64, none), ',' :: rest) := by
  have all (c : Char) (h : c ∈ s.chars) : isRealChar c = true := by
    rcases Spelling.mem_chars h with digit | rfl | rfl | rfl
    · simp [isRealChar, digit]
    · rfl
    · rfl
    · rfl
  have plain : '_' ∉ s.chars := by
    intro h
    simpa using Spelling.mem_chars h
  have stops : Stops isRealChar (',' :: rest) := stops_cons rfl _
  have taken : takeWhile isRealChar (s.chars ++ ',' :: rest) = some (s.chars, ',' :: rest) := by
    rw [takeWhile, takeWhile_append all stops, dropWhile_append all stops]
  rw [real, bind_eq (takeRealWord_chars s _)]
  dsimp only
  rw [bind_eq taken, withoutUnderscores_eq plain]
  dsimp only
  rw [s.ofChars?_chars]
  rfl

theorem double_reads_chars (s : Spelling) : Reads double s.chars s.numeral.toBinary64 where
  solid := by
    obtain ⟨d, more, digit, chars | chars⟩ := s.exists_chars_eq
    · rw [chars]
      exact isSolid_digits (List.cons_ne_nil d []) (by simpa using digit) more
    · rw [chars]
      rfl
  takes rest := by
    rw [double, bind_eq (real_chars s rest)]
    rfl

end Scan

namespace Binary64

/-- The number as it is written and read: of a value that is none, just the sign is kept. -/
def canonical (x : Binary64) : Binary64 :=
  if x.isNaN then if x.isNegative then ⟨0xFFF8000000000000⟩ else nan else x

end Binary64

namespace Scan

theorem double_reads (x : Binary64) :
    Reads double (Settings.realLayout.text x).toList x.canonical := by
  have read := x.reads
  unfold Binary64.canonical Binary64.isNaN
  generalize value : x.value = v at read
  cases read with
  | finite finite =>
    have spelled : ∃ s : Spelling, (Settings.realLayout.text x).toList = s.chars ∧
        s.numeral.toBinary64 = x := exists_spelling_text rfl rfl finite
    obtain ⟨s, text, same⟩ := spelled
    have read := double_reads_chars s
    rwa [same, ← text] at read
  | infinite top =>
    have number : (Binary64.Value.infinite x.isNegative == .nan) = false := rfl
    have whole : Binary64.infinity x.isNegative = x := by
      rw [Binary64.infinity, ← top, Binary64.ofSignMagnitude_magnitude]
    unfold Layout.text
    rw [value, number, if_neg Bool.false_ne_true]
    refine ⟨by cases x.isNegative <;> rfl, fun rest => ?_⟩
    calc _ = some (Binary64.infinity x.isNegative, ',' :: rest) := by cases x.isNegative <;> rfl
      _ = some (x, ',' :: rest) := by rw [whole]
  | nan beyond =>
    unfold Layout.text
    rw [value]
    exact ⟨by cases x.isNegative <;> rfl, fun rest => by cases x.isNegative <;> rfl⟩

/-! ## Quoted texts -/

theorem exists_digitChar {base : Nat} (h : 1 < base) {n : Nat} {c : Char}
    (there : c ∈ Nat.toDigits base n) : ∃ d < base, c = d.digitChar := by
  induction n using Nat.strongRecOn with
  | ind n ih =>
    rcases Nat.lt_or_ge n base with less | more
    · rw [Nat.toDigits_of_lt_base less] at there
      exact ⟨n, less, List.mem_singleton.mp there⟩
    · rw [Nat.toDigits_of_base_le h more] at there
      rcases List.mem_append.mp there with front | last
      · exact ih (n / base) (Nat.div_lt_self (by omega) h) front
      · exact ⟨n % base, Nat.mod_lt _ (by omega), List.mem_singleton.mp last⟩

theorem expect_eq (c : Char) (rest : List Char) : expect c (c :: rest) = some ((), rest) := by
  have taken : takeChar c (c :: rest) = some (true, rest) := by rw [takeChar, if_pos rfl]
  rw [expect, bind_eq taken]
  rfl

theorem escapedCode_eq (c : Char) (rest : List Char) :
    escapedCode ('\x7b' :: (Nat.toDigits 16 c.toNat ++ '\x7d' :: rest)) = some (c, rest) := by
  have value : magnitude? 16 0 (Nat.toDigits 16 c.toNat) = some c.toNat :=
    magnitude?_toDigits (by decide) (by decide) _
  have all (d : Char) (h : d ∈ Nat.toDigits 16 c.toNat) : (digitValue? d).isSome = true := by
    obtain ⟨n, less, rfl⟩ := exists_digitChar (by decide) h
    rw [(digitValue?_digitChar n less).1]
    rfl
  have stops : Stops (fun d => (digitValue? d).isSome) ('\x7d' :: rest) := stops_cons rfl _
  have taken : takeWhile (fun d => (digitValue? d).isSome)
      (Nat.toDigits 16 c.toNat ++ '\x7d' :: rest) = some (Nat.toDigits 16 c.toNat, '\x7d' :: rest) := by
    rw [takeWhile, takeWhile_append all stops, dropWhile_append all stops]
  have short : (Nat.toDigits 16 c.toNat).length ≤ 6 := by
    have valid : c.toNat.isValidChar := c.valid
    rw [Nat.length_toDigits_le_iff (by decide) (by decide)]
    omega
  have count : ((Nat.toDigits 16 c.toNat).isEmpty ||
      decide (6 < (Nat.toDigits 16 c.toNat).length)) = false := by
    have some : 0 < (Nat.toDigits 16 c.toNat).length := Nat.length_toDigits_pos
    rw [List.isEmpty_eq_false_iff.mpr (List.ne_nil_of_length_pos some), Bool.false_or,
      decide_eq_false (Nat.not_lt.mpr short)]
  rw [escapedCode, bind_eq (expect_eq _ _), bind_eq taken, count, value]
  dsimp only
  have valid : c.toNat.isValidChar := c.valid
  rw [if_neg Bool.false_ne_true, bind_eq (expect_eq _ _), if_pos valid, Char.ofNat_toNat]
  rfl

/-- A written character is one step of a quoted text. -/
theorem quotedRest_charText (c : Char) (steps : Nat) (past rest : List Char) :
    quotedRest escaped (steps + 1) past ((Settings.charText c).toList ++ rest) =
      quotedRest escaped steps (c :: past) rest := by
  unfold Settings.charText
  split
  · rfl
  · rfl
  · rfl
  · rfl
  · rfl
  · rfl
  · rfl
  next quote slash =>
    split
    next =>
      have shown : (Settings.codeText c).toList ++ rest =
          '\\' :: 'u' :: '\x7b' :: (Nat.toDigits 16 c.toNat ++ '\x7d' :: rest) := by
        simp [Settings.codeText]
      have code : escaped ('u' :: '\x7b' :: (Nat.toDigits 16 c.toNat ++ '\x7d' :: rest)) =
          some (c, rest) := escapedCode_eq c rest
      rw [shown, quotedRest, bind_eq (next_eq _ _)]
      exact bind_eq (f := fun d => quotedRest escaped steps (d :: past)) code
    next =>
      have shown : c.toString.toList ++ rest = c :: rest := by simp
      rw [shown, quotedRest, bind_eq (next_eq _ _)]
      split
      · exact absurd rfl quote
      · exact absurd rfl slash
      · rfl

theorem quotedRest_texts (cs past rest : List Char) {steps : Nat} (enough : cs.length < steps) :
    quotedRest escaped steps past
        ((String.join (cs.map Settings.charText)).toList ++ '"' :: rest) =
      some (past.reverse ++ cs, rest) := by
  induction cs generalizing past steps with
  | nil =>
    obtain ⟨steps, rfl⟩ : ∃ n, steps = n + 1 := ⟨steps - 1, by omega⟩
    rw [List.append_nil]
    rfl
  | cons c cs ih =>
    obtain ⟨steps, rfl⟩ : ∃ n, steps = n + 1 := ⟨steps - 1, by omega⟩
    have fewer : cs.length < steps := Nat.lt_of_succ_lt_succ enough
    rw [List.map_cons, String.join_cons, String.toList_append, List.append_assoc,
      quotedRest_charText, ih (c :: past) fewer, List.reverse_cons, List.append_assoc]
    rfl

theorem length_le_join (cs : List Char) :
    cs.length ≤ (String.join (cs.map Settings.charText)).toList.length := by
  have some (c : Char) : 0 < (Settings.charText c).toList.length := by
    unfold Settings.charText
    split
    · decide
    · decide
    · decide
    · decide
    · decide
    · decide
    · decide
    · split
      · simp [Settings.codeText]
      · simp
  induction cs with
  | nil => exact Nat.zero_le _
  | cons c cs ih =>
    have first := some c
    rw [List.map_cons, String.join_cons, String.toList_append, List.length_append, List.length_cons]
    omega

theorem text_reads (t : String) : Reads Scan.text (Settings.quotedText t).toList t := by
  have shown : (Settings.quotedText t).toList =
      '"' :: ((String.join (t.toList.map Settings.charText)).toList ++ ['"']) := by
    simp [Settings.quotedText]
  rw [shown]
  refine ⟨rfl, fun rest => ?_⟩
  have enough := length_le_join t.toList
  have unmarked (rest : List Char) : takeChar 'r' ('"' :: rest) = some (false, '"' :: rest) := rfl
  have quoted : quoted escaped ('"' :: ((String.join (t.toList.map Settings.charText)).toList ++
      '"' :: ',' :: rest)) = some (t.toList, ',' :: rest) := by
    rw [Scan.quoted, bind_eq (expect_eq _ _), bind_eq (get_eq _), quotedRest_texts]
    · rfl
    · rw [List.length_append]
      omega
  rw [List.cons_append, List.append_assoc, List.singleton_append, Scan.text, bind_eq (unmarked _),
    if_neg Bool.false_ne_true, bind_eq quoted, String.ofList_toList]
  rfl

end Scan

end GameClient

import GameClient.Number.Decimal
import GameClient.Text.Identifier

/-! # The words of a settings text

A settings text is a list of characters. A scan takes characters off its front, or refuses the
text; here are the scans that know nothing of settings: blanks and comments, identifiers, numbers,
quoted texts. A refusal has no cause: a text that is refused is malformed, and no more is said. -/

namespace GameClient

abbrev Scan := StateT (List Char) Option

namespace Scan

/-! ## Single characters and words -/

def peek : Scan (Option Char) := fun text => some (text.head?, text)

def next : Scan Char
  | [] => none
  | c :: rest => some (c, rest)

/-- Takes `c` if it comes next, and says whether it did. -/
def takeChar (c : Char) : Scan Bool
  | [] => some (false, [])
  | d :: rest => some (if c = d then (true, rest) else (false, d :: rest))

def takeWhile (p : Char → Bool) : Scan (List Char) := fun text =>
  some (text.takeWhile p, text.dropWhile p)

/-- Takes `word` if it comes next. -/
def takeText (word : String) : Scan Bool := fun text =>
  if word.toList.isPrefixOf text then some (true, text.drop word.length) else some (false, text)

def expect (c : Char) : Scan Unit := do
  if !(← takeChar c) then failure

def expectText (word : String) : Scan Unit := do
  if !(← takeText word) then failure

/-- `word` comes next, and no identifier goes on after it. -/
def startsWithWord (word : String) (text : List Char) : Bool :=
  word.toList.isPrefixOf text &&
    match text.drop word.length with
    | c :: _ => !Text.identifierContinue.contains c
    | [] => true

def takeWord (word : String) : Scan Bool := fun text =>
  if startsWithWord word text then some (true, text.drop word.length) else some (false, text)

/-- The first of some words that comes next, with its value. -/
def takeFirstWord {α : Type} : List (String × α) → Scan (Option α)
  | [] => return none
  | (word, a) :: more => do if ← takeWord word then return some a else takeFirstWord more

/-! ## Blanks and comments -/

def isBlank (c : Char) : Bool :=
  c == ' ' || (0x09 ≤ c.toNat && c.toNat ≤ 0x0D) || c.toNat == 0x85 || c.toNat == 0x200E ||
    c.toNat == 0x200F || c.toNat == 0x2028 || c.toNat == 0x2029

inductive BlankMode where
  | plain
  | lineComment
  /-- Block comments nest; there are `depth` more around this one. -/
  | blockComment (depth : Nat)

/-- What is left after blanks and comments. A slash that begins no comment, and a block comment
that is not closed, are refused. -/
def afterBlanks : BlankMode → List Char → Option (List Char)
  | .plain, '/' :: '/' :: rest => afterBlanks .lineComment rest
  | .plain, '/' :: '*' :: rest => afterBlanks (.blockComment 0) rest
  | .plain, '/' :: _ => none
  | .plain, c :: rest => if isBlank c then afterBlanks .plain rest else some (c :: rest)
  | .lineComment, '\n' :: rest => afterBlanks .plain rest
  | .lineComment, _ :: rest => afterBlanks .lineComment rest
  | .blockComment depth, '/' :: '*' :: rest => afterBlanks (.blockComment (depth + 1)) rest
  | .blockComment 0, '*' :: '/' :: rest => afterBlanks .plain rest
  | .blockComment (depth + 1), '*' :: '/' :: rest => afterBlanks (.blockComment depth) rest
  | .blockComment depth, _ :: rest => afterBlanks (.blockComment depth) rest
  | .blockComment _, [] => none
  | _, [] => some []

def blanks : Scan Unit := fun text => (afterBlanks .plain text).map ((), ·)

/-- A comma with blanks on both sides. -/
def takeComma : Scan Bool := do
  blanks
  if ← takeChar ',' then
    blanks
    return true
  else return false

/-! ## Identifiers -/

def isIdentifierStart (c : Char) : Bool := c == '_' || Text.identifierStart.contains c

/-- Characters of a raw identifier, which is marked by `r#`. -/
def isRawIdentifierChar (c : Char) : Bool :=
  c == '.' || c == '+' || c == '-' || Text.identifierContinue.contains c

/-- Beginnings of quoted texts and bytes, which look like identifiers. -/
def quoteMarks : List String := ["b\"", "b'", "br\"", "br#", "r\"", "r#\"", "r##"]

/-- An identifier, if one comes next. -/
def takeIdentifier : Scan (Option String) := fun text =>
  if quoteMarks.any (·.toList.isPrefixOf text) then some (none, text)
  else if "r#".toList.isPrefixOf text then
    let name := (text.drop 2).takeWhile isRawIdentifierChar
    if name.isEmpty then some (none, text)
    else some (some (String.ofList name), (text.drop 2).dropWhile isRawIdentifierChar)
  else match text with
    | c :: rest =>
      if isIdentifierStart c then
        some (some (String.ofList (c :: rest.takeWhile Text.identifierContinue.contains)),
          rest.dropWhile Text.identifierContinue.contains)
      else some (none, text)
    | [] => some (none, [])

/-- An identifier that no character of a raw identifier follows. -/
def identifier : Scan String := do
  let some name ← takeIdentifier | failure
  match ← peek with
  | some c => if isRawIdentifierChar c then failure else return name
  | none => return name

/-! ## Whole numbers -/

structure IntegerType where
  signed : Bool
  width : Nat
deriving DecidableEq

namespace IntegerType

attribute [local instance] intPower

def name (t : IntegerType) : String := (if t.signed then "i" else "u") ++ toString t.width

def holds (t : IntegerType) (n : Int) : Bool :=
  if t.signed then decide (-2 ^ (t.width - 1) ≤ n ∧ n < 2 ^ (t.width - 1))
  else decide (0 ≤ n ∧ n < 2 ^ t.width)

def all : List IntegerType :=
  [8, 16, 32, 64, 128].map (⟨true, ·⟩) ++ [8, 16, 32, 64, 128].map (⟨false, ·⟩)

end IntegerType

/-- A whole number, with the type that marks it at its end, if any. -/
structure Integer where
  negative : Bool
  magnitude : Nat
  mark : Option IntegerType

def Integer.value (n : Integer) : Int := if n.negative then -n.magnitude else n.magnitude

/-- The value of a hexadecimal digit of either case. -/
def digitValue? (c : Char) : Option Nat :=
  if '0' ≤ c ∧ c ≤ '9' then some (c.toNat - '0'.toNat)
  else if 'a' ≤ c ∧ c ≤ 'f' then some (c.toNat - 'a'.toNat + 10)
  else if 'A' ≤ c ∧ c ≤ 'F' then some (c.toNat - 'A'.toNat + 10)
  else none

def isIntegerChar (c : Char) : Bool := (digitValue? c).isSome || c == '_'

def takeBase : Scan Nat := do
  if ← takeText "0b" then return 2
  else if ← takeText "0o" then return 8
  else if ← takeText "0x" then return 16
  else return 10

/-- Digits below `base`, with underscores among them. -/
def magnitude? (base : Nat) : (sum : Nat) → List Char → Option Nat
  | sum, [] => some sum
  | sum, '_' :: rest => magnitude? base sum rest
  | sum, c :: rest => do
    let digit ← digitValue? c
    if digit < base then magnitude? base (base * sum + digit) rest else none

/-- A minus sign is taken and reported, a plus sign taken. -/
def takeSign : Scan Bool := fun text => some (Decimal.takeSign text)

def integer : Scan Integer := do
  let negative ← takeSign
  let afterRun := (← get).dropWhile isIntegerChar
  let mark := IntegerType.all.find? fun t => startsWithWord t.name afterRun
  let base ← takeBase
  let digits ← takeWhile isIntegerChar
  if digits.isEmpty || digits.head? = some '_' then failure
  let some magnitude := magnitude? base 0 digits | failure
  match mark with
  | some t => expectText t.name
  | none => pure ()
  return { negative, magnitude, mark }

/-- A whole number of the given type; a mark names that type. -/
def integerOf (t : IntegerType) : Scan Nat := do
  let n ← integer
  if n.mark.all (· == t) && t.holds n.value then return n.magnitude else failure

/-! ## Real numbers -/

def isRealChar (c : Char) : Bool :=
  c.isDigit || c == 'e' || c == 'E' || c == '.' || c == '+' || c == '-' || c == '_'

/-- Without underscores. One may stand after a digit or an exponent mark, not after a point. -/
def withoutUnderscores : (allowed : Bool) → List Char → Option (List Char)
  | _, [] => some []
  | allowed, '_' :: rest => if allowed then withoutUnderscores true rest else none
  | _, '.' :: rest => (withoutUnderscores false rest).map ('.' :: ·)
  | allowed, c :: rest =>
    (withoutUnderscores (allowed || c.isDigit || c == 'e' || c == 'E') rest).map (c :: ·)

/-- Numbers that are written by a word. -/
def realWords : List (String × Binary64) :=
  let named (name : String) (value : Binary64) := [(name, value), ("+" ++ name, value)]
  named "inf" (.infinity false) ++ [("-inf", .infinity true)] ++
    named "NaN" .nan ++ [("-NaN", ⟨0xFFF8000000000000⟩)]

/-- A mark for precision: 32 or 64 bits. -/
def takePrecision : Scan (Option Nat) := takeFirstWord [("f32", 32), ("f64", 64)]

/-- A word for a number, with or without a mark for precision. -/
def takeRealWord : Scan (Option (Binary64 × Option Nat)) :=
  takeFirstWord (realWords.flatMap fun (word, value) =>
    [(word, (value, none)), (word ++ "f32", (value, some 32)), (word ++ "f64", (value, some 64))])

def real : Scan (Binary64 × Option Nat) := do
  if let some result ← takeRealWord then return result
  let digits ← takeWhile isRealChar
  let some plain := withoutUnderscores false digits | failure
  let some numeral := Decimal.Numeral.ofChars? plain | failure
  return (numeral.toBinary64, ← takePrecision)

def double : Scan Binary64 := do
  let (value, precision) ← real
  if precision = some 32 then failure else return value

def boolean : Scan Bool := do
  let some value ← takeFirstWord [("true", true), ("false", false)] | failure
  return value

/-! ## Quoted texts -/

def hexDigit : Scan Nat := do
  let some digit := digitValue? (← next) | failure
  return digit

def hexByte : Scan UInt8 := do
  let high ← hexDigit
  let low ← hexDigit
  return UInt8.ofNat (16 * high + low)

/-- So many bytes more, each with its own escape. -/
def escapedBytes : Nat → Scan (List UInt8)
  | 0 => return []
  | n + 1 => do
    expectText "\\x"
    let byte ← hexByte
    return byte :: (← escapedBytes n)

/-- The number of bytes that follow the first one of a character. -/
def followers? (lead : UInt8) : Option Nat :=
  if lead < 0x80 then some 0
  else if lead < 0xC0 then none
  else if lead < 0xE0 then some 1
  else if lead < 0xF0 then some 2
  else some 3

/-- A character given by the bytes that encode it. -/
def escapedByteChar : Scan Char := do
  let lead ← hexByte
  let some count := followers? lead | failure
  let bytes := lead :: (← escapedBytes count)
  let some text := String.fromUTF8? ⟨bytes.toArray⟩ | failure
  let some c := text.toList.head? | failure
  return c

/-- A character given by its code, in one to six hexadecimal digits between braces. -/
def escapedCode : Scan Char := do
  expect '\x7b'
  let digits ← takeWhile fun c => (digitValue? c).isSome
  if digits.isEmpty || 6 < digits.length then failure
  let some code := magnitude? 16 0 digits | failure
  expect '\x7d'
  if code.isValidChar then return Char.ofNat code else failure

/-- What stands after a backslash. -/
def escaped : Scan Char := do
  match ← next with
  | '\'' => return '\''
  | '"' => return '"'
  | '\\' => return '\\'
  | 'n' => return '\n'
  | 'r' => return '\r'
  | 't' => return '\t'
  | '0' => return '\x00'
  | 'x' => escapedByteChar
  | 'u' => escapedCode
  | _ => failure

/-- The rest of a quoted text, with `escape` for what stands after a backslash. A backslash at the
end of a line leaves out the break and the blanks after it. -/
def quotedRest (escape : Scan Char) : (steps : Nat) → (past : List Char) → Scan (List Char)
  | 0, _ => failure
  | steps + 1, past => do
    match ← next with
    | '"' => return past.reverse
    | '\\' =>
      if ← takeChar '\n' then
        let _ ← takeWhile isBlank
        quotedRest escape steps past
      else
        let c ← escape
        quotedRest escape steps (c :: past)
    | c => quotedRest escape steps (c :: past)

def quoted (escape : Scan Char) : Scan (List Char) := do
  expect '"'
  quotedRest escape ((← get).length + 1) []

/-- All before the first `mark`, which is taken too. -/
def upTo (mark : List Char) : (past : List Char) → Scan (List Char)
  | past, c :: rest =>
    if mark.isPrefixOf (c :: rest) then some (past.reverse, (c :: rest).drop mark.length)
    else upTo mark (c :: past) rest
  | _, [] => none

/-- A text between quotes and equally many hash signs, without escapes. -/
def rawQuoted : Scan (List Char) := do
  let hashes ← takeWhile (· == '#')
  expect '"'
  upTo ('"' :: hashes) []

def text : Scan String := do
  if ← takeChar 'r' then return String.ofList (← rawQuoted)
  else return String.ofList (← quoted escaped)

def character : Scan Char := do
  expect '\''
  let c ← next
  let c ← if c = '\\' then escaped else pure c
  expect '\''
  return c

/-- What stands after a backslash where bytes are quoted: a byte has two digits of its own. -/
def escapedByte : Scan Char := do
  if ← takeChar 'x' then return Char.ofNat (← hexByte).toNat else escaped

/-- A byte in single quotes: an ASCII character or an escape that is not a code. -/
def byte : Scan Unit := do
  expect '\''
  let c ← next
  if c = '\\' then
    if (← peek) = some 'u' then failure
    let _ ← escapedByte
  else if 0x80 ≤ c.toNat then failure
  expect '\''

/-- Bytes in quotes, raw after an `r`. -/
def bytes : Scan Unit := do
  if ← takeChar 'r' then
    let _ ← rawQuoted
  else
    let _ ← quoted escapedByte

end Scan

end GameClient

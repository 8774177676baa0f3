import GameClient.Settings.Scan

/-! # Values in a settings text

A settings text may hold settings that are not known here. Their values are read over: numbers,
words, quoted texts, characters and bytes, sequences, tables, tuples and records, each nested only
so deep. -/

namespace GameClient

namespace Scan

/-- Features that a settings text may turn on at its head. -/
structure Features where
  /-- An optional value may be written without its wrapping. -/
  implicitSome : Bool := false
  /-- Each record has its name before it. -/
  recordNames : Bool := false

/-- Items with commas between them, and perhaps one after the last, up to a closing character. -/
def itemsWithin {σ : Type} (closing : Char) (item : σ → Scan σ) : (steps : Nat) → σ → Scan σ
  | 0, _ => failure
  | steps + 1, state => do
    blanks
    if ← takeChar closing then return state
    let state ← item state
    if ← takeComma then itemsWithin closing item steps state
    else
      expect closing
      return state

def items {σ : Type} (closing : Char) (item : σ → Scan σ) (start : σ) : Scan σ := do
  itemsWithin closing item ((← get).length + 1) start

def itemsOver (closing : Char) (item : Scan Unit) : Scan Unit := items closing (fun _ => item) ()

/-- The colon after a name or a key. -/
def colon : Scan Unit := do
  blanks
  expect ':'
  blanks

/-- A record's first field comes next: a name and a colon after it. -/
def fieldComesNext : Scan Bool := do
  let text ← get
  blanks
  let name ← takeIdentifier
  if name.isSome then blanks
  let found ← takeChar ':'
  set text
  return name.isSome && found

/-- The fields of a record, or the items of a tuple, if a parenthesis comes next. -/
def recordOver (inner : Scan Unit) : Scan Unit := do
  if ← takeChar '(' then
    if ← fieldComesNext then
      itemsOver ')' do
        let _ ← identifier
        colon
        inner
    else itemsOver ')' inner

def optionalOver (features : Features) (inner : Scan Unit) : Scan Unit := do
  blanks
  if ← takeChar '(' then
    blanks
    inner
    let _ ← takeComma
    expect ')'
  else if features.implicitSome then inner
  else failure

/-- The integers that have a type: any marked one in its range, else 128 bits. -/
def fitsSomeType (n : Integer) : Bool :=
  match n.mark with
  | some t => t.holds n.value
  | none => IntegerType.holds ⟨n.negative, 128⟩ n.value

/-- A number. Of two readings the longer is taken; an integer that fits no type is a real number. -/
def numberOver : Scan Unit := do
  let body := (Decimal.takeSign (← get)).2
  let realNext := (body.takeWhile isIntegerChar).length < (body.takeWhile isRealChar).length
  let whole : Scan Unit := do
    if !fitsSomeType (← integer) then failure
  let fractional : Scan Unit := do
    let _ ← real
  if realNext then fractional else whole <|> fractional

/-- Words that are values by themselves. -/
def plainWords : List (String × Unit) :=
  (["true", "false", "None"] ++
    ["inf", "NaN"].flatMap fun word => [word, word ++ "f32", word ++ "f64"]).map (·, ())

/-- A value that begins with no word. -/
def signOver (inner : Scan Unit) : Scan Unit := do
  match ← peek with
  | none => failure
  | some c =>
    if c = '(' then recordOver inner
    else if c = '[' then
      let _ ← next
      itemsOver ']' inner
    else if c = '{' then
      let _ ← next
      itemsOver '}' do
        inner
        colon
        inner
    else if c.isDigit || c == '+' || c == '-' || c == '.' then numberOver
    else if c = '"' ∨ c = 'r' then
      let _ ← text
    else if c = '\'' then
      let _ ← character
    else if c = 'b' then
      let _ ← next
      if (← peek) = some '\'' then byte else bytes
    else failure

/-- One value, with `inner` for the values inside it. -/
def valueOver (features : Features) (inner : Scan Unit) : Scan Unit := do
  if (← takeFirstWord plainWords).isSome then return ()
  else if ← takeWord "Some" then optionalOver features inner
  else if ← takeText "()" then return ()
  else if (← takeIdentifier).isSome then
    blanks
    recordOver inner
  else signOver inner

/-- Reads over a value in which values are nested at most `depth` deep. -/
def skipValue (features : Features) : (depth : Nat) → Scan Unit
  | 0 => valueOver features failure
  | depth + 1 => valueOver features (skipValue features depth)

end Scan

end GameClient

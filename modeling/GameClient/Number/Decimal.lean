import GameClient.Number.Binary64

/-! # Doubles as decimal text

`shortest?` finds the fewest digits that read back as the same double, and of those the nearest
ones. A `Layout` says how digits and exponent are written. `Numeral` is decimal text taken apart;
its double is the nearest one. -/

namespace GameClient

namespace Decimal

/-- The number of decimal digits of `n`, one for zero. -/
def digitCount (n : Nat) : Nat := (Nat.toDigits 10 n).length

/-- The least `p` with `num / den < 10 ^ p`, for a positive quotient. -/
def pointPosition (num den : Nat) : Int :=
  if den ≤ num then digitCount (num / den)
  else 1 - (digitCount ((den + num - 1) / num - 1) : Int)

/-- A positive double and the ends of the interval of reals that round to it, over one
denominator. -/
structure Neighbourhood where
  low : Nat
  center : Nat
  high : Nat
  den : Nat
  /-- The ends round to the double too. -/
  closed : Bool

def neighbourhood (significand : Nat) (exponent : Int) : Neighbourhood :=
  let up := 2 ^ (exponent - 2).toNat
  let below := if significand = 2 ^ 52 ∧ -1074 < exponent then 1 else 2
  { low := (4 * significand - below) * up
    center := 4 * significand * up
    high := (4 * significand + 2) * up
    den := 2 ^ (2 - exponent).toNat
    closed := significand % 2 == 0 }

/-- Of the two multiples of `10 ^ unit` around the double, the one that reads back as it; of two,
the nearer, and the upper one if both are equally near. -/
def onGrid (n : Neighbourhood) (unit : Int) : Option Nat :=
  let scale := 10 ^ (-unit).toNat
  let step := n.den * 10 ^ unit.toNat
  let inside (c : Nat) : Bool :=
    if n.closed then n.low * scale ≤ c * step && c * step ≤ n.high * scale
    else n.low * scale < c * step && c * step < n.high * scale
  let floor := n.center * scale / step
  let rest := n.center * scale % step
  match inside floor, inside (floor + 1) with
  | false, false => none
  | true, false => some floor
  | false, true => some (floor + 1)
  | true, true => some (if 2 * rest < step then floor else floor + 1)

/-- The fewest digits `d` and the exponent `u` such that `d * 10 ^ u` reads back as the double
`significand * 2 ^ exponent`, which is not zero. Seventeen digits always do. -/
def shortest? (significand : Nat) (exponent : Int) : Option (Nat × Int) :=
  let n := neighbourhood significand exponent
  let point := pointPosition n.center n.den
  (List.range 17).findSome? fun i =>
    let unit := point - (i + 1 : Nat)
    (onGrid n unit).map fun digits => (digits, unit)

/-- How a number is spelled. Positional notation is kept while the point stands after at most
`maxPoint` and at least `minPoint` digits; beyond, one digit is written before the point. -/
structure Layout where
  minPoint : Int
  maxPoint : Int
  exponentMark : String
  /-- What follows a whole number in positional notation. -/
  wholeMark : String
  nan : String
  infinity : String

def zeros (n : Nat) : String := String.ofList (List.replicate n '0')

def Layout.magnitude (layout : Layout) (digits : Nat) (unit : Int) : String :=
  let text := (Nat.toDigits 10 digits).reverse.dropWhile (· == '0') |>.reverse
  let point : Int := digitCount digits + unit
  if layout.minPoint ≤ point ∧ point ≤ layout.maxPoint then
    if point ≤ 0 then "0." ++ zeros (-point).toNat ++ String.ofList text
    else if text.length ≤ point.toNat then
      String.ofList text ++ zeros (point.toNat - text.length) ++ layout.wholeMark
    else String.ofList (text.take point.toNat) ++ "." ++ String.ofList (text.drop point.toNat)
  else
    let fraction := if text.length ≤ 1 then "" else "." ++ String.ofList (text.drop 1)
    String.ofList (text.take 1) ++ fraction ++ layout.exponentMark ++ toString (point - 1)

def Layout.text (layout : Layout) (x : Binary64) : String :=
  let sign := if x.isNegative then "-" else ""
  match x.value with
  | .nan => sign ++ layout.nan
  | .infinite _ => sign ++ layout.infinity
  | .finite _ significand exponent =>
    if significand = 0 then sign ++ "0" ++ layout.wholeMark
    else match shortest? significand exponent with
      | some (digits, unit) => sign ++ layout.magnitude digits unit
      | none => sign ++ "0" ++ layout.wholeMark

/-- Decimal text taken apart: `± digits * 10 ^ exponent`. -/
structure Numeral where
  negative : Bool
  digits : Nat
  exponent : Int
deriving DecidableEq

def digitsValue (digits : List Char) : Nat :=
  digits.foldl (fun n c => 10 * n + (c.toNat - '0'.toNat)) 0

/-- An optional sign, and whether it is a minus. -/
def takeSign : List Char → Bool × List Char
  | '+' :: rest => (false, rest)
  | '-' :: rest => (true, rest)
  | rest => (false, rest)

def exponentOf? (text : List Char) : Option Int :=
  let (negative, digits) := takeSign text
  if digits.isEmpty || !digits.all Char.isDigit then none
  else if negative then some (-(digitsValue digits : Int)) else some (digitsValue digits)

/-- The digits after a point, if one comes next, and what is left. -/
def fractionAfter : List Char → List Char × List Char
  | '.' :: rest => (rest.takeWhile Char.isDigit, rest.dropWhile Char.isDigit)
  | rest => ([], rest)

/-- The exponent at the end of a number, which may be absent. -/
def exponentAfter? : List Char → Option Int
  | [] => some 0
  | mark :: rest => if mark = 'e' ∨ mark = 'E' then exponentOf? rest else none

/-- Reads a sign, digits with at most one point among them, and an exponent; the sign and the
exponent may be absent, and at least one digit stands beside the point. -/
def Numeral.ofChars? (text : List Char) : Option Numeral :=
  let (negative, unsigned) := takeSign text
  let whole := unsigned.takeWhile Char.isDigit
  let (fraction, tail) := fractionAfter (unsigned.dropWhile Char.isDigit)
  if whole.isEmpty && fraction.isEmpty then none
  else do
    let exponent ← exponentAfter? tail
    return {
      negative
      digits := digitsValue (whole ++ fraction)
      exponent := exponent - fraction.length }

/-- The nearest double. Numbers outside every double's reach are settled by their size alone, so
a huge exponent is never expanded. -/
def Numeral.toBinary64 (n : Numeral) : Binary64 :=
  let point : Int := digitCount n.digits + n.exponent
  if n.digits = 0 ∨ point < -400 then .ofSignMagnitude n.negative 0
  else if 400 < point then .infinity n.negative
  else .ofRatio n.negative (n.digits * 10 ^ n.exponent.toNat) (10 ^ (-n.exponent).toNat)

end Decimal

end GameClient

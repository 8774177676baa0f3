import GameClient.Number.Binary64

/-! # Durations

A duration is a count of nanoseconds. It has a number of seconds as a double, and a double that is
a possible number of seconds has a duration, the nearest one in nanoseconds. -/

namespace GameClient

structure Duration where
  nanos : Nat
deriving DecidableEq

namespace Duration

def nanosPerSecond : Nat := 1000000000

def nanosPerMilli : Nat := 1000000

def ofSecs (n : Nat) : Duration := ⟨n * nanosPerSecond⟩

def ofMillis (n : Nat) : Duration := ⟨n * nanosPerMilli⟩

instance : LE Duration := ⟨fun a b => a.nanos ≤ b.nanos⟩

instance (a b : Duration) : Decidable (a ≤ b) := inferInstanceAs (Decidable (a.nanos ≤ b.nanos))

instance : Min Duration := ⟨fun a b => if a ≤ b then a else b⟩

theorem le_def {a b : Duration} : a ≤ b ↔ a.nanos ≤ b.nanos := Iff.rfl

theorem min_def (a b : Duration) : min a b = if a ≤ b then a else b := rfl

/-- The whole seconds and the fraction, each rounded, then added and rounded. -/
def seconds (d : Duration) : Binary64 :=
  (Binary64.ofNat (d.nanos / nanosPerSecond)).add
    (.ofRatio false (d.nanos % nanosPerSecond) nanosPerSecond)

/-- The nearest whole number of nanoseconds, ties to even. Numbers that are negative, not finite,
or not below `2 ^ 64` seconds have no duration. -/
def ofSeconds? (x : Binary64) : Option Duration :=
  match x.value with
  | .finite negative significand exponent =>
    let num := significand * 2 ^ exponent.toNat
    let den := 2 ^ (-exponent).toNat
    if negative ∧ significand ≠ 0 then none
    else if 2 ^ 64 * den ≤ num then none
    else some ⟨divNearest (num * nanosPerSecond) den⟩
  | _ => none

/-- The duration times a factor, computed in doubles. -/
def scale? (d : Duration) (factor : Binary64) : Option Duration := ofSeconds? (factor.mul d.seconds)

/-- `whole` units and `fraction / 10 ^ places` of one, without zeros at the end. -/
def decimalText (whole fraction places : Nat) : String :=
  let digits := Nat.toDigits 10 (10 ^ places + fraction) |>.drop 1
  let kept := (digits.reverse.dropWhile (· == '0')).reverse
  toString whole ++ (if kept.isEmpty then "" else "." ++ String.ofList kept)

/-- The duration in the largest unit of which it has at least one, nanoseconds else. -/
def text (d : Duration) : String :=
  if nanosPerSecond ≤ d.nanos then
    decimalText (d.nanos / nanosPerSecond) (d.nanos % nanosPerSecond) 9 ++ "s"
  else if nanosPerMilli ≤ d.nanos then
    decimalText (d.nanos / nanosPerMilli) (d.nanos % nanosPerMilli) 6 ++ "ms"
  else if 1000 ≤ d.nanos then decimalText (d.nanos / 1000) (d.nanos % 1000) 3 ++ "µs"
  else toString d.nanos ++ "ns"

end Duration

end GameClient

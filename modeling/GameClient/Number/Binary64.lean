import GameClient.Number.Nearest
import GameClient.Number.Power

/-! # Double precision numbers as words

A number is its sixty-four bits. Every operation decodes its arguments into exact values,
computes exactly, and rounds once to the nearest double, ties to the even significand. -/

namespace GameClient

structure Binary64 where
  bits : UInt64
deriving DecidableEq

namespace Binary64

/-- What the bits stand for; a finite value is `± significand * 2 ^ exponent`. -/
inductive Value where
  | nan
  | infinite (negative : Bool)
  | finite (negative : Bool) (significand : Nat) (exponent : Int)
deriving DecidableEq

def isNegative (x : Binary64) : Bool := decide (2 ^ 63 ≤ x.bits.toNat)

def value (x : Binary64) : Value :=
  let biased : Nat := x.bits.toNat / 2 ^ 52 % 2 ^ 11
  let fraction := x.bits.toNat % 2 ^ 52
  if biased = 2047 then
    if fraction = 0 then .infinite x.isNegative else .nan
  else if biased = 0 then .finite x.isNegative fraction (-1074)
  else .finite x.isNegative (2 ^ 52 + fraction) ((biased : Int) - 1075)

/-- A sign over the sixty-three bits of a magnitude. -/
def ofSignMagnitude (negative : Bool) (magnitude : Nat) : Binary64 :=
  ⟨UInt64.ofNat ((if negative then 2 ^ 63 else 0) + magnitude)⟩

def opposite (x : Binary64) : Binary64 := ofSignMagnitude (!x.isNegative) (x.bits.toNat % 2 ^ 63)

def infinityMagnitude : Nat := 2047 * 2 ^ 52

def infinity (negative : Bool) : Binary64 := ofSignMagnitude negative infinityMagnitude

def zero : Binary64 := ⟨0⟩

def one : Binary64 := ⟨0x3FF0000000000000⟩

def nan : Binary64 := ⟨0x7FF8000000000000⟩

def isNaN (x : Binary64) : Bool := x.value == .nan

/-- The exponent of the last place of the doubles near `num / den`. -/
def lastPlace (num den : Nat) : Int :=
  let coarse := max (-1074) ((num.log2 : Int) - den.log2 - 53)
  if 2 ^ 53 * (den * 2 ^ coarse.toNat) ≤ num * 2 ^ (-coarse).toNat then coarse + 1 else coarse

/-- The double nearest to `± num / den`, infinity where the magnitude is too large. -/
def ofRatio (negative : Bool) (num den : Nat) : Binary64 :=
  if num = 0 ∨ den = 0 then ofSignMagnitude negative 0
  else
    let place := lastPlace num den
    let significand := divNearest (num * 2 ^ (-place).toNat) (den * 2 ^ place.toNat)
    ofSignMagnitude negative (min infinityMagnitude ((place + 1074).toNat * 2 ^ 52 + significand))

def ofDyadic (negative : Bool) (significand : Nat) (exponent : Int) : Binary64 :=
  ofRatio negative (significand * 2 ^ exponent.toNat) (2 ^ (-exponent).toNat)

def ofNat (n : Nat) : Binary64 := ofRatio false n 1

def mul (a b : Binary64) : Binary64 :=
  match a.value, b.value with
  | .nan, _ => nan
  | _, .nan => nan
  | .infinite s, .infinite t => infinity (s != t)
  | .infinite s, .finite t m _ => if m = 0 then nan else infinity (s != t)
  | .finite s m _, .infinite t => if m = 0 then nan else infinity (s != t)
  | .finite s m e, .finite t n f => ofDyadic (s != t) (m * n) (e + f)

/-- The whole number `± significand * 2 ^ (exponent - base)`, for an exponent not below `base`. -/
def signedAt (negative : Bool) (significand : Nat) (exponent base : Int) : Int :=
  let magnitude : Int := (significand * 2 ^ (exponent - base).toNat : Nat)
  if negative then -magnitude else magnitude

def add (a b : Binary64) : Binary64 :=
  match a.value, b.value with
  | .nan, _ => nan
  | _, .nan => nan
  | .infinite s, .infinite t => if s = t then infinity s else nan
  | .infinite s, .finite .. => infinity s
  | .finite .., .infinite t => infinity t
  | .finite s m e, .finite t n f =>
    let base := min e f
    let sum := signedAt s m e base + signedAt t n f base
    if sum = 0 then ofSignMagnitude (s && t) 0 else ofDyadic (decide (sum < 0)) sum.natAbs base

/-- The order of the numbers as whole numbers; both zeros have the same place. -/
def rank (x : Binary64) : Int :=
  if x.isNegative then -((x.bits.toNat - 2 ^ 63 : Nat) : Int) else x.bits.toNat

/-- No comparison with NaN holds. -/
def lt (a b : Binary64) : Bool := !a.isNaN && !b.isNaN && decide (a.rank < b.rank)

/-- Equality of numbers: both zeros are equal, NaN differs from itself. -/
def equal (a b : Binary64) : Bool := !a.isNaN && !b.isNaN && a.rank == b.rank

/-- The larger of `x` and one; one where `x` is NaN. -/
def atLeastOne (x : Binary64) : Binary64 := if one.lt x then x else one

/-- The double with the value of a single precision number. -/
def ofBinary32 (bits : UInt32) : Binary64 :=
  let negative := decide (2 ^ 31 ≤ bits.toNat)
  let biased : Nat := bits.toNat / 2 ^ 23 % 2 ^ 8
  let fraction := bits.toNat % 2 ^ 23
  if biased = 255 then
    if fraction = 0 then infinity negative else nan
  else if biased = 0 then ofDyadic negative fraction (-149)
  else ofDyadic negative (2 ^ 23 + fraction) ((biased : Int) - 150)

end Binary64

end GameClient

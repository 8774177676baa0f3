import GameClient.Number.Power

/-! # Byte strings

A frame is a list of bytes. Numbers travel least significant byte first; logs and files show
bytes as two lower case hexadecimal digits each. Main statements: a number below `256 ^ width`
survives `ofNat` and `toNat`, every byte string is the encoding of its number, and hexadecimal
text reads back. -/

namespace GameClient

abbrev Bytes := List UInt8

namespace Bytes

/-- The `width` low bytes of `n`, least significant first. -/
def ofNat : (width : Nat) → (n : Nat) → Bytes
  | 0, _ => []
  | width + 1, n => UInt8.ofNat n :: ofNat width (n / 256)

/-- The number written by these bytes, least significant first. -/
def toNat : Bytes → Nat
  | [] => 0
  | b :: bs => b.toNat + 256 * toNat bs

@[simp] theorem length_ofNat (width n : Nat) : (ofNat width n).length = width := by
  induction width generalizing n with
  | zero => rfl
  | succ width ih => simp [ofNat, ih]

theorem toNat_lt (bs : Bytes) : toNat bs < 256 ^ bs.length := by
  induction bs with
  | nil => exact Nat.one_pos
  | cons b bs ih =>
    have hb := b.toNat_lt
    simp only [toNat, List.length_cons, Nat.pow_succ]
    omega

@[simp] theorem toNat_ofNat (width n : Nat) : toNat (ofNat width n) = n % 256 ^ width := by
  induction width generalizing n with
  | zero => simp [ofNat, toNat, Nat.mod_one]
  | succ width ih =>
    rw [Nat.pow_succ', Nat.mod_mul]
    simp [ofNat, toNat, ih]

@[simp] theorem ofNat_toNat (bs : Bytes) : ofNat bs.length (toNat bs) = bs := by
  induction bs with
  | nil => rfl
  | cons b bs ih =>
    have hb := b.toNat_lt
    have low : UInt8.ofNat (b.toNat + 256 * toNat bs) = b := by
      apply UInt8.toNat_inj.mp
      simp only [UInt8.toNat_ofNat']
      omega
    have high : (b.toNat + 256 * toNat bs) / 256 = toNat bs := by omega
    simp only [List.length_cons, ofNat, toNat, low, high, ih]

/-- Two lower case hexadecimal digits for each byte. -/
def toHexChars : Bytes → List Char
  | [] => []
  | b :: bs => Nat.digitChar (b.toNat / 16) :: Nat.digitChar (b.toNat % 16) :: toHexChars bs

def toHex (bs : Bytes) : String := String.ofList (toHexChars bs)

def hexValue? (c : Char) : Option Nat :=
  if '0' ≤ c ∧ c ≤ '9' then some (c.toNat - '0'.toNat)
  else if 'a' ≤ c ∧ c ≤ 'f' then some (c.toNat - 'a'.toNat + 10)
  else none

/-- Reads pairs of lower case hexadecimal digits. -/
def ofHexChars? : List Char → Option Bytes
  | [] => some []
  | [_] => none
  | high :: low :: rest => do
    let h ← hexValue? high
    let l ← hexValue? low
    let bs ← ofHexChars? rest
    return UInt8.ofNat (16 * h + l) :: bs

def ofHex? (text : String) : Option Bytes := ofHexChars? text.toList

@[simp] theorem length_toHexChars (bs : Bytes) : (toHexChars bs).length = 2 * bs.length := by
  induction bs with
  | nil => rfl
  | cons b bs ih => simp only [toHexChars, List.length_cons, ih]; omega

theorem hexValue?_digitChar : ∀ n < 16, hexValue? (Nat.digitChar n) = some n := by decide

@[simp] theorem ofHexChars?_toHexChars (bs : Bytes) : ofHexChars? (toHexChars bs) = some bs := by
  induction bs with
  | nil => rfl
  | cons b bs ih =>
    have hb := b.toNat_lt
    have value : UInt8.ofNat (16 * (b.toNat / 16) + b.toNat % 16) = b := by
      rw [Nat.div_add_mod, UInt8.ofNat_toNat]
    simp only [toHexChars, ofHexChars?, hexValue?_digitChar (b.toNat / 16) (by omega),
      hexValue?_digitChar (b.toNat % 16) (by omega), ih, bind, pure, Option.bind_some, value]

end Bytes

end GameClient

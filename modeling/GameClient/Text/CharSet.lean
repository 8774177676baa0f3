/-! # Sets of characters -/

namespace GameClient

/-- A set of characters, given by the code points at which membership changes, in ascending order.
Below the first change nothing is in the set. -/
structure CharSet where
  changes : List Nat

namespace CharSet

/-- Membership of `n`, where all changes before those listed leave it as `inside`. -/
def memberFrom (n : Nat) : (inside : Bool) → List Nat → Bool
  | inside, [] => inside
  | inside, change :: rest => if change ≤ n then memberFrom n (!inside) rest else inside

def contains (s : CharSet) (c : Char) : Bool := memberFrom c.toNat false s.changes

end CharSet

end GameClient

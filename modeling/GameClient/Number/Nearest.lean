/-! # Quotients rounded to the nearest whole number -/

namespace GameClient

/-- The whole number nearest to `num / den`; of two equally near ones, the even one. -/
def divNearest (num den : Nat) : Nat :=
  let q := num / den
  let r := num % den
  if 2 * r < den then q else if den < 2 * r then q + 1 else q + q % 2

end GameClient

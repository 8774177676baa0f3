/-! # Powers of whole numbers

A library may bring a power of its own for whole numbers. The modules here mean the core one,
whatever else is in scope. -/

namespace GameClient

@[default_instance high, reducible] instance natPower : Pow Nat Nat := instPowNat

/-- Integers have the same choice, made where they are raised to a power. -/
@[reducible] def intPower : Pow Int Nat := instPowNat

end GameClient

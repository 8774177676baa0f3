import GameClient.Transport

/-! # A bot that walks squares

The bot holds each of up, right, down and left for the same number of samples, over and over,
until it is released. Its sample counter wraps at `2 ^ 32`. -/

namespace GameClient

structure Bot where
  samplesPerLeg : UInt32
  samples : UInt32 := 0
  released : Bool := false
deriving DecidableEq

namespace Bot

/-- A leg of no samples counts as one of a single sample. -/
def new (samplesPerLeg : UInt32 := 30) : Bot := { samplesPerLeg := max samplesPerLeg 1 }

/-- The direction of each leg; the fifth leg is the first again. -/
def direction (leg : UInt32) : KeyMask :=
  match leg.toNat % 4 with
  | 0 => .up
  | 1 => .right
  | 2 => .down
  | _ => .left

def sample (b : Bot) : KeyMask × Bot :=
  if b.released then (.none, b)
  else (direction (b.samples / b.samplesPerLeg), { b with samples := b.samples + 1 })

instance : Sampler Bot := ⟨sample, fun b => { b with released := true }⟩

end Bot

end GameClient

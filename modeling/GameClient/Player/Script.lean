import GameClient.Player.Bot

/-! # Other players -/

namespace GameClient

/-- Holds each mask of a list for one sample, and `held` from then on. -/
structure KeyScript where
  masks : List KeyMask := []
  held : KeyMask := .none
deriving DecidableEq

def KeyScript.sample (s : KeyScript) : KeyMask × KeyScript :=
  match s.masks with
  | [] => (s.held, s)
  | mask :: masks => (mask, { s with masks })

instance : Sampler KeyScript := ⟨KeyScript.sample, id⟩

inductive Player where
  | idle
  | bot (bot : Bot)
  | script (script : KeyScript)
deriving DecidableEq

namespace Player

/-- An idle player never holds a key. -/
def sample : Player → KeyMask × Player
  | idle => (.none, idle)
  | bot b => let (keys, b) := Sampler.sample b; (keys, bot b)
  | script s => let (keys, s) := Sampler.sample s; (keys, script s)

def release : Player → Player
  | idle => idle
  | bot b => bot (Sampler.release b)
  | script s => script (Sampler.release s)

instance : Sampler Player := ⟨sample, release⟩

end Player

end GameClient

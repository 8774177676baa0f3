import GameClient.Wire.Input

/-! # What a client is attached to

A transport carries frames and reports events; a sampler says which keys are held. Both are
given by their answers, so a statement for every transport covers every pattern of failures. -/

namespace GameClient

inductive TransportError where
  | notConnected
  | closed
  | noRuntime
deriving DecidableEq

def TransportError.message : TransportError → String
  | notConnected => "transport is not connected"
  | closed => "transport connection closed"
  | noRuntime => "no tokio runtime available to drive the connection"

inductive Answer where
  | accepted
  | refused (error : TransportError)
deriving DecidableEq

inductive Event where
  | connected
  | disconnected
  | frame (bytes : Bytes)
deriving DecidableEq

class Transport (τ : Type) where
  /-- Asks for a link. The outcome arrives as an event, sometimes at once: the answer comes with
  the events reported during the call. -/
  connect : τ → Answer × List Event × τ
  send : Bytes → τ → Answer × τ
  disconnect : τ → τ

class Sampler (ι : Type) where
  sample : ι → KeyMask × ι
  release : ι → ι

end GameClient

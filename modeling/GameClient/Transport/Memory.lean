import GameClient.Transport

/-! # A transport in memory

Connects at once, or refuses the way an unreachable server does, and keeps every frame it takes.
Whoever holds it sees the same state, so it is also the means to watch and disturb a client. -/

namespace GameClient

structure Memory where
  /-- Connection outcomes and drops are reported. -/
  reports : Bool := false
  isUp : Bool := false
  /-- The number of connect calls, refused ones included, in a word of 32 bits that goes round, as
  it does where overflow is not checked. -/
  connects : UInt32 := 0
  failsSends : Bool := false
  refusesConnects : Bool := false
  /-- The frames taken and not yet drained, oldest first. -/
  sent : Array Bytes := #[]
deriving DecidableEq

namespace Memory

def report (m : Memory) (event : Event) : List Event := if m.reports then [event] else []

def connect (m : Memory) : Answer × List Event × Memory :=
  (.accepted, m.report (if m.refusesConnects then .disconnected else .connected),
    { m with connects := m.connects + 1, isUp := !m.refusesConnects })

def send (frame : Bytes) (m : Memory) : Answer × Memory :=
  if !m.isUp then (.refused .notConnected, m)
  else if m.failsSends then (.refused .closed, m)
  else (.accepted, { m with sent := m.sent.push frame })

/-- Closes the link; nothing is reported. -/
def disconnect (m : Memory) : Memory := { m with isUp := false }

instance : Transport Memory := ⟨connect, send, disconnect⟩

/-- The peer goes away. -/
def dropLink (m : Memory) : List Event × Memory :=
  (m.report .disconnected, { m with isUp := false })

/-- The recorded frames, which are recorded no longer. -/
def drain (m : Memory) : Array Bytes × Memory := (m.sent, { m with sent := #[] })

end Memory

/-- A transport behind a list of answers to its next connect calls. A refusal keeps the call from
the transport. -/
structure Gated (τ : Type) where
  answers : List Answer := []
  inner : τ

namespace Gated

variable {τ : Type} [Transport τ]

def connect (g : Gated τ) : Answer × List Event × Gated τ :=
  let pass (rest : List Answer) : Answer × List Event × Gated τ :=
    let (answer, events, inner) := Transport.connect g.inner
    (answer, events, ⟨rest, inner⟩)
  match g.answers with
  | [] => pass []
  | .accepted :: rest => pass rest
  | .refused error :: rest => (.refused error, [], { g with answers := rest })

instance : Transport (Gated τ) where
  connect := connect
  send frame g :=
    let (answer, inner) := Transport.send frame g.inner
    (answer, { g with inner })
  disconnect g := { g with inner := Transport.disconnect g.inner }

end Gated

end GameClient

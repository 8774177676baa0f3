import GameClient.Loop

/-! # Settings

What a user may set, in three sections, each with defaults. A file or a command line names some of
the settings: the file gives a draft, whose gaps are filled with defaults, and the command line
gives overrides, which replace what they name and nothing else. -/

namespace GameClient

namespace Settings

structure Network where
  serverUrl : String := "ws://localhost:9090/ws"
  /-- Ticks in a second. -/
  tickRate : UInt32 := 60
deriving DecidableEq

structure Reconnect where
  enabled : Bool := true
  initialDelayMs : UInt64 := 1000
  multiplier : Binary64 := ⟨0x4000000000000000⟩
  maxDelayMs : UInt64 := 30000
  maxAttempts : UInt32 := 20
  jitter : Binary64 := ⟨0x3FD0000000000000⟩
deriving DecidableEq

structure Diagnostics where
  logLevel : String := "info"
deriving DecidableEq

end Settings

structure Settings where
  network : Settings.Network := {}
  reconnect : Settings.Reconnect := {}
  diagnostics : Settings.Diagnostics := {}
deriving DecidableEq

namespace Settings

/-- The sections of a file, each with the settings it names. -/
structure NetworkDraft where
  serverUrl : Option String := none
  tickRate : Option UInt32 := none
deriving DecidableEq

structure ReconnectDraft where
  enabled : Option Bool := none
  initialDelayMs : Option UInt64 := none
  multiplier : Option Binary64 := none
  maxDelayMs : Option UInt64 := none
  maxAttempts : Option UInt32 := none
  jitter : Option Binary64 := none
deriving DecidableEq

structure DiagnosticsDraft where
  logLevel : Option String := none
deriving DecidableEq

structure Draft where
  network : Option NetworkDraft := none
  reconnect : Option ReconnectDraft := none
  diagnostics : Option DiagnosticsDraft := none
deriving DecidableEq

def NetworkDraft.complete (d : NetworkDraft) : Network :=
  let standard : Network := {}
  { serverUrl := d.serverUrl.getD standard.serverUrl
    tickRate := d.tickRate.getD standard.tickRate }

def ReconnectDraft.complete (d : ReconnectDraft) : Reconnect :=
  let standard : Reconnect := {}
  { enabled := d.enabled.getD standard.enabled
    initialDelayMs := d.initialDelayMs.getD standard.initialDelayMs
    multiplier := d.multiplier.getD standard.multiplier
    maxDelayMs := d.maxDelayMs.getD standard.maxDelayMs
    maxAttempts := d.maxAttempts.getD standard.maxAttempts
    jitter := d.jitter.getD standard.jitter }

def DiagnosticsDraft.complete (d : DiagnosticsDraft) : Diagnostics :=
  let standard : Diagnostics := {}
  { logLevel := d.logLevel.getD standard.logLevel }

/-- Fills every gap with the default of its section. -/
def Draft.complete (d : Draft) : Settings where
  network := (d.network.getD {}).complete
  reconnect := (d.reconnect.getD {}).complete
  diagnostics := (d.diagnostics.getD {}).complete

/-- What a command line sets. Reconnecting can be turned off, not on. -/
structure Overrides where
  serverUrl : Option String := none
  tickRate : Option UInt32 := none
  logLevel : Option String := none
  noReconnect : Bool := false
deriving DecidableEq

def override (s : Settings) (o : Overrides) : Settings where
  network := {
    serverUrl := o.serverUrl.getD s.network.serverUrl
    tickRate := o.tickRate.getD s.network.tickRate }
  reconnect := { s.reconnect with enabled := s.reconnect.enabled && !o.noReconnect }
  diagnostics := { logLevel := o.logLevel.getD s.diagnostics.logLevel }

/-- Both overrides in one, the second where they differ. -/
def Overrides.andThen (a b : Overrides) : Overrides where
  serverUrl := b.serverUrl.or a.serverUrl
  tickRate := b.tickRate.or a.tickRate
  logLevel := b.logLevel.or a.logLevel
  noReconnect := a.noReconnect || b.noReconnect

@[simp] theorem override_none (s : Settings) : s.override {} = s := by
  simp [override]

def Reconnect.policy (r : Reconnect) : Backoff.Policy where
  initialDelay := .ofMillis r.initialDelayMs.toNat
  multiplier := r.multiplier
  maxDelay := .ofMillis r.maxDelayMs.toNat
  maxAttempts := r.maxAttempts
  jitter := r.jitter

def loopConfig (s : Settings) : LoopConfig where
  tickRate := s.network.tickRate
  reconnect := if s.reconnect.enabled then some s.reconnect.policy else none

/-- Equal settings, where numbers are compared as numbers: both zeros are equal, and NaN differs
from itself. -/
def same (a b : Settings) : Bool :=
  a.network == b.network && a.diagnostics == b.diagnostics &&
    a.reconnect.multiplier.equal b.reconnect.multiplier &&
    a.reconnect.jitter.equal b.reconnect.jitter &&
    { a.reconnect with multiplier := .zero, jitter := .zero } ==
      { b.reconnect with multiplier := .zero, jitter := .zero }

end Settings

end GameClient

import GameClient.Wire.SessionId

/-! # Session state

A client is disconnected, connected, or connected with a session id from the server. The sequence
counter outlives sessions and wraps at `2 ^ 32`. -/

namespace GameClient

inductive ConnectionState where
  | disconnected
  | connected
deriving DecidableEq

structure Session where
  connection : ConnectionState := .disconnected
  id : Option SessionId := none
  /-- The number that the next outbound frame carries. -/
  seq : UInt32 := 0
deriving DecidableEq

namespace Session

def isReady (s : Session) : Bool := s.connection == .connected && s.id.isSome

/-- The id under which frames may be sent. -/
def readyId (s : Session) : Option SessionId := if s.connection = .connected then s.id else none

/-- The link came up. An id that is still held stays. -/
def connected (s : Session) : Session := { s with connection := .connected }

/-- The link went away, and the id with it; the counter stays. -/
def disconnected (s : Session) : Session := { s with connection := .disconnected, id := none }

def assign (s : Session) (id : SessionId) : Session := { s with id := some id }

/-- Uses up one sequence number. -/
def advance (s : Session) : Session := { s with seq := s.seq + 1 }

@[simp] theorem seq_connected (s : Session) : s.connected.seq = s.seq := rfl

@[simp] theorem seq_disconnected (s : Session) : s.disconnected.seq = s.seq := rfl

@[simp] theorem seq_assign (s : Session) (id : SessionId) : (s.assign id).seq = s.seq := rfl

@[simp] theorem readyId_disconnected (s : Session) : s.disconnected.readyId = none := rfl

theorem isReady_eq_isSome_readyId (s : Session) : s.isReady = s.readyId.isSome := by
  cases h : s.connection <;> simp [isReady, readyId, h]

end Session

end GameClient

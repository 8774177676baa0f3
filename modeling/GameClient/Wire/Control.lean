import GameClient.Wire.Header
import GameClient.Wire.SessionId

/-! # Control frames

The server's ASSIGN frame carries a session id. The client's JOIN and LEAVE frames carry the id
and a sequence number. Bytes after the last field are ignored. The length is checked first, then
the data type tag, then the sub type tag. -/

namespace GameClient

namespace Assign

def frameLength : Nat := 18

def encode (id : SessionId) : Bytes :=
  DataType.control.toByte :: ControlKind.assign.toByte :: id.bytes

def decode (frame : Bytes) : Except DecodeError SessionId := do
  let (dataTag, subTag, body) ← openFrame frameLength frame
  requireDataType .control dataTag
  if ControlKind.ofByte subTag ≠ .assign then throw (.unexpectedSubType subTag)
  SessionId.ofBytes (body.take 16)

@[simp] theorem length_encode (id : SessionId) : (encode id).length = frameLength := by
  simp [encode, frameLength, id.length_eq]

end Assign

structure Control where
  kind : ControlKind
  sessionId : SessionId
  seq : UInt32
deriving DecidableEq

namespace Control

def frameLength : Nat := 22

def encode (m : Control) : Bytes :=
  DataType.control.toByte :: m.kind.toByte :: (m.sessionId.bytes ++ Bytes.ofNat 4 m.seq.toNat)

/-- Reads a JOIN or LEAVE frame; no other control kind is accepted. -/
def decode (frame : Bytes) : Except DecodeError Control := do
  let (dataTag, subTag, body) ← openFrame frameLength frame
  requireDataType .control dataTag
  let kind := ControlKind.ofByte subTag
  if kind ≠ .join ∧ kind ≠ .leave then throw (.unexpectedSubType subTag)
  let sessionId ← SessionId.ofBytes (body.take 16)
  return { kind, sessionId, seq := UInt32.ofNat (Bytes.toNat ((body.drop 16).take 4)) }

@[simp] theorem length_encode (m : Control) : (encode m).length = frameLength := by
  simp [encode, frameLength, m.sessionId.length_eq]

end Control

end GameClient

import GameClient.Wire.Header
import GameClient.Wire.SessionId

/-! # Actor broadcasts

The server sends the whole list of visible actors in one frame: a count in two bytes, then one
record of twenty-four bytes for each actor. Coordinates are the bits of single precision
numbers; they are carried, never computed with. A list too long for its count is cut. -/

namespace GameClient

structure Actor where
  sessionId : SessionId
  x : UInt32
  y : UInt32
deriving DecidableEq

namespace Actor

def recordLength : Nat := 24

/-- The actor is the one that the local session plays. -/
def isLocal (actor : Actor) (localId : Option SessionId) : Bool := localId == some actor.sessionId

def toRecord (actor : Actor) : Bytes :=
  actor.sessionId.bytes ++ Bytes.ofNat 4 actor.x.toNat ++ Bytes.ofNat 4 actor.y.toNat

def ofRecord (record : Bytes) : Except DecodeError Actor := do
  let sessionId ← SessionId.ofBytes (record.take 16)
  return {
    sessionId
    x := UInt32.ofNat (Bytes.toNat ((record.drop 16).take 4))
    y := UInt32.ofNat (Bytes.toNat ((record.drop 20).take 4)) }

@[simp] theorem length_toRecord (actor : Actor) : actor.toRecord.length = recordLength := by
  simp [toRecord, recordLength, actor.sessionId.length_eq]

end Actor

namespace Broadcast

/-- The greatest number of actors in one broadcast. -/
def capacity : Nat := 65535

def preludeLength : Nat := 4

def encode (actors : List Actor) : Bytes :=
  let kept := actors.take capacity
  DataType.actor.toByte :: 0 :: (Bytes.ofNat 2 kept.length ++ kept.flatMap Actor.toRecord)

def readRecords : (count : Nat) → Bytes → Except DecodeError (List Actor)
  | 0, _ => .ok []
  | count + 1, body => do
    let actor ← Actor.ofRecord (body.take Actor.recordLength)
    let rest ← readRecords count (body.drop Actor.recordLength)
    return actor :: rest

/-- Reads as many records as the count says; the sub type byte and the bytes after the last
record are ignored. -/
def decode (frame : Bytes) : Except DecodeError (List Actor) := do
  let (dataTag, _, body) ← openFrame preludeLength frame
  requireDataType .actor dataTag
  let count := Bytes.toNat (body.take 2)
  let needed := preludeLength + count * Actor.recordLength
  if frame.length < needed then throw (.truncated needed frame.length)
  readRecords count (body.drop 2)

end Broadcast

end GameClient

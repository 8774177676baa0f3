import GameClient.Wire.Header
import GameClient.Wire.SessionId

/-! # Input frames

A key mask has one bit for each held key. An INPUT frame carries the session id, a sequence
number and the mask; its sub type byte is written as zero and not read. -/

namespace GameClient

structure KeyMask where
  bits : UInt16
deriving DecidableEq

namespace KeyMask

def none : KeyMask := ⟨0⟩
def up : KeyMask := ⟨1⟩
def down : KeyMask := ⟨2⟩
def left : KeyMask := ⟨4⟩
def right : KeyMask := ⟨8⟩
def action : KeyMask := ⟨16⟩

def isEmpty (mask : KeyMask) : Bool := mask.bits == 0

/-- Every key of `other` is held in `mask`. -/
def contains (mask other : KeyMask) : Bool := mask.bits &&& other.bits == other.bits

def union (a b : KeyMask) : KeyMask := ⟨a.bits ||| b.bits⟩

end KeyMask

structure Input where
  sessionId : SessionId
  seq : UInt32
  keys : KeyMask
deriving DecidableEq

namespace Input

def frameLength : Nat := 24

def encode (m : Input) : Bytes :=
  DataType.input.toByte :: 0 ::
    (m.sessionId.bytes ++ Bytes.ofNat 4 m.seq.toNat ++ Bytes.ofNat 2 m.keys.bits.toNat)

def decode (frame : Bytes) : Except DecodeError Input := do
  let (dataTag, _, body) ← openFrame frameLength frame
  requireDataType .input dataTag
  let sessionId ← SessionId.ofBytes (body.take 16)
  return {
    sessionId
    seq := UInt32.ofNat (Bytes.toNat ((body.drop 16).take 4))
    keys := ⟨UInt16.ofNat (Bytes.toNat ((body.drop 20).take 2))⟩ }

@[simp] theorem length_encode (m : Input) : (encode m).length = frameLength := by
  simp [encode, frameLength, m.sessionId.length_eq]

end Input

end GameClient

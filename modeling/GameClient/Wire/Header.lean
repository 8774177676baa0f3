import GameClient.Wire.DecodeError

/-! # Frame headers

Every frame starts with a data type tag and a sub type tag. Tags that have no name here are kept
as they are, so each byte has exactly one reading and `ofByte` followed by `toByte` is the
identity. -/

namespace GameClient

def headerLength : Nat := 2

inductive DataType where
  | control
  | actor
  | input
  | unknown (tag : UInt8)
deriving DecidableEq

namespace DataType

def toByte : DataType → UInt8
  | control => 1
  | actor => 2
  | input => 3
  | unknown tag => tag

def ofByte (tag : UInt8) : DataType :=
  if tag = 1 then control else if tag = 2 then actor else if tag = 3 then input else unknown tag

@[simp] theorem toByte_ofByte (tag : UInt8) : (ofByte tag).toByte = tag := by
  unfold ofByte
  split
  · simp_all [toByte]
  split
  · simp_all [toByte]
  split <;> simp_all [toByte]

end DataType

/-- What a control frame asks for. The server assigns, the client joins and leaves. -/
inductive ControlKind where
  | assign
  | join
  | leave
  | unknown (tag : UInt8)
deriving DecidableEq

namespace ControlKind

def toByte : ControlKind → UInt8
  | assign => 1
  | join => 2
  | leave => 3
  | unknown tag => tag

def ofByte (tag : UInt8) : ControlKind :=
  if tag = 1 then assign else if tag = 2 then join else if tag = 3 then leave else unknown tag

@[simp] theorem toByte_ofByte (tag : UInt8) : (ofByte tag).toByte = tag := by
  unfold ofByte
  split
  · simp_all [toByte]
  split
  · simp_all [toByte]
  split <;> simp_all [toByte]

end ControlKind

/-- The data type of a frame, unless the frame is empty. -/
def peekDataType (frame : Bytes) : Option DataType := frame.head?.map .ofByte

/-- The second tag of a frame read as a control kind, whatever the first one says. -/
def peekControlKind (frame : Bytes) : Option ControlKind := frame.tail.head?.map .ofByte

/-- Splits off the two tags of a frame that has at least `needed` bytes. -/
def openFrame (needed : Nat) (frame : Bytes) : Except DecodeError (UInt8 × UInt8 × Bytes) :=
  if frame.length < needed then .error (.truncated needed frame.length)
  else match frame with
    | dataTag :: subTag :: body => .ok (dataTag, subTag, body)
    | _ => .error (.truncated needed frame.length)

def requireDataType (expected : DataType) (tag : UInt8) : Except DecodeError Unit :=
  if DataType.ofByte tag = expected then .ok () else .error (.unexpectedDataType tag)

end GameClient

import GameClient.Wire.DecodeError

/-! # Session identifiers

The server names a session by sixteen bytes. They are shown as thirty-two hexadecimal digits and
ordered byte by byte, the first byte first. -/

namespace GameClient

structure SessionId where
  bytes : Bytes
  length_eq : bytes.length = 16
deriving DecidableEq

namespace SessionId

def width : Nat := 16

/-- Exactly sixteen bytes make an identifier. -/
def ofBytes (bytes : Bytes) : Except DecodeError SessionId :=
  if h : bytes.length = 16 then .ok ⟨bytes, h⟩ else .error (.invalidSessionIdLength bytes.length)

@[simp] theorem ofBytes_bytes (id : SessionId) : ofBytes id.bytes = .ok id := by
  simp [ofBytes, id.length_eq]

def text (id : SessionId) : String := Bytes.toHex id.bytes

/-- The text for diagnostics, which names the type. -/
def debugText (id : SessionId) : String := "SessionId(" ++ id.text ++ ")"

/-- Lexicographic order of byte strings. -/
def orderBytes : Bytes → Bytes → Ordering
  | [], [] => .eq
  | [], _ :: _ => .lt
  | _ :: _, [] => .gt
  | a :: as, b :: bs => if a < b then .lt else if b < a then .gt else orderBytes as bs

def order (a b : SessionId) : Ordering := orderBytes a.bytes b.bytes

end SessionId

end GameClient

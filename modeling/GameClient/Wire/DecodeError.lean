import GameClient.Bytes

/-! # Reasons to refuse a frame -/

namespace GameClient

inductive DecodeError where
  /-- The frame has `actual` bytes where its kind takes at least `needed`. -/
  | truncated (needed actual : Nat)
  | unexpectedDataType (tag : UInt8)
  | unexpectedSubType (tag : UInt8)
  | invalidSessionIdLength (length : Nat)
deriving DecidableEq

namespace DecodeError

def tagText (tag : UInt8) : String := "0x" ++ Bytes.toHex [tag]

def message : DecodeError → String
  | truncated needed actual => s!"truncated frame: need {needed} bytes, got {actual}"
  | unexpectedDataType tag => "unexpected data type tag: " ++ tagText tag
  | unexpectedSubType tag => "unexpected control sub type tag: " ++ tagText tag
  | invalidSessionIdLength length => s!"session id must be 16 bytes, got {length}"

end DecodeError

end GameClient

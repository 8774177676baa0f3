import GameClient.Number.Decimal
import GameClient.Settings
import GameClient.Text.Hidden

/-! # Settings as text

Every setting is written on a line of its own, with a comma after it, and sections are indented. -/

namespace GameClient

namespace Settings

/-- Reals have the fewest digits that read back, and an exponent from `1e16` on and below `1e-4`. -/
def realLayout : Decimal.Layout where
  minPoint := -3
  maxPoint := 16
  exponentMark := "e"
  wholeMark := ".0"
  nan := "NaN"
  infinity := "inf"

/-- A character as its code in hexadecimal digits. -/
def codeText (c : Char) : String :=
  "\\u\x7b" ++ String.ofList (Nat.toDigits 16 c.toNat) ++ "\x7d"

def charText (c : Char) : String :=
  match c with
  | '\x00' => "\\0"
  | '\t' => "\\t"
  | '\r' => "\\r"
  | '\n' => "\\n"
  | '\'' => "\\'"
  | '"' => "\\\""
  | '\\' => "\\\\"
  | c => if Text.hidden.contains c then codeText c else c.toString

def quotedText (s : String) : String := "\"" ++ String.join (s.toList.map charText) ++ "\""

def indentation (depth : Nat) : String := String.ofList (List.replicate (4 * depth) ' ')

/-- A record of named values that are text already, `depth` levels deep. -/
def recordText (depth : Nat) (fields : List (String × String)) : String :=
  let line : String × String → String := fun (name, value) =>
    indentation (depth + 1) ++ name ++ ": " ++ value ++ ",\n"
  "(\n" ++ String.join (fields.map line) ++ indentation depth ++ ")"

def Network.text (s : Network) : String :=
  recordText 1 [("server_url", quotedText s.serverUrl), ("tick_rate_hz", toString s.tickRate.toNat)]

def Reconnect.text (s : Reconnect) : String :=
  recordText 1 [("enabled", if s.enabled then "true" else "false"),
    ("initial_delay_ms", toString s.initialDelayMs.toNat),
    ("backoff_multiplier", realLayout.text s.multiplier),
    ("max_delay_ms", toString s.maxDelayMs.toNat),
    ("max_attempts", toString s.maxAttempts.toNat),
    ("jitter", realLayout.text s.jitter)]

def Diagnostics.text (s : Diagnostics) : String :=
  recordText 1 [("log_level", quotedText s.logLevel)]

def text (s : Settings) : String :=
  recordText 0 [("network", s.network.text), ("reconnect", s.reconnect.text),
    ("debug", s.diagnostics.text)]

end Settings

end GameClient

import GameClient.Settings

/-! # The command line

Options take a value, in the next word or after an equals sign; switches take none. Each is given
at most once. A value in a word of its own is taken up only when the next option or switch, or the
end, is reached; so of two faults the one in a value may be found after a later one. -/

namespace GameClient

structure Arguments extends Settings.Overrides where
  /-- The directory of the settings. -/
  directory : Option String := none
  bot : Bool := false
deriving DecidableEq

namespace CommandLine

inductive Refusal where
  | help
  | unknownArgument
  /-- An option without a value. -/
  | missingValue
  | malformedValue
  /-- An option or switch that was given before. -/
  | repeated
  /-- A switch with a value. -/
  | unneededValue
deriving DecidableEq

/-- Asking for help is no failure. -/
def Refusal.exitCode : Refusal → Nat
  | help => 0
  | _ => 2

inductive Opt where
  | serverUrl
  | tickRate
  | logLevel
  | directory
deriving DecidableEq

inductive Switch where
  | noReconnect
  | bot
  | help
deriving DecidableEq

/-- What a word on the command line is, before its name is looked up. -/
inductive Word where
  /-- Two hyphens alone: no options follow. -/
  | terminator
  | long (name : List Char) (value : Option (List Char))
  | short (letters : List Char)
  | plain
deriving DecidableEq

def Word.ofChars : List Char → Word
  | ['-', '-'] => terminator
  | '-' :: '-' :: rest =>
    match rest.dropWhile (· != '=') with
    | _ :: value => long (rest.takeWhile (· != '=')) (some value)
    | [] => long rest none
  | ['-'] => plain
  | '-' :: letters => short letters
  | _ => plain

def options : List (String × Opt) :=
  [("server-url", .serverUrl), ("tick-rate", .tickRate), ("log-level", .logLevel),
    ("config", .directory)]

def switches : List (String × Switch) :=
  [("no-reconnect", .noReconnect), ("bot", .bot), ("help", .help)]

/-- A whole number of thirty-two bits, with a sign before it or without. -/
def rate? (text : List Char) : Option UInt32 :=
  let (negative, digits) := match text with
    | '-' :: rest => (true, rest)
    | '+' :: rest => (false, rest)
    | _ => (false, text)
  if digits.isEmpty || !digits.all Char.isDigit then none
  else
    let value := digits.foldl (fun n c => 10 * n + (c.toNat - '0'.toNat)) 0
    if value < 2 ^ 32 ∧ (negative → value = 0) then some (UInt32.ofNat value) else none

/-- How far a command line has been read. -/
structure State where
  arguments : Arguments := {}
  /-- An option whose value is not yet taken up; the value may still be missing. -/
  pending : Option (Opt × Option String) := none

/-- Records a value that is not there yet. -/
def once {α : Type} (there : Option α) (value : Except Refusal Arguments) :
    Except Refusal Arguments :=
  if there.isSome then .error .repeated else value

def assign (a : Arguments) (option : Opt) (value : String) : Except Refusal Arguments :=
  match option with
  | .serverUrl => once a.serverUrl (.ok { a with serverUrl := some value })
  | .logLevel => once a.logLevel (.ok { a with logLevel := some value })
  | .directory =>
    once a.directory <|
      if value.isEmpty then .error .missingValue else .ok { a with directory := some value }
  | .tickRate =>
    once a.tickRate <|
      match rate? value.toList with
      | some rate => .ok { a with tickRate := some rate }
      | none => .error .malformedValue

def settle (s : State) : Except Refusal Arguments :=
  match s.pending with
  | none => .ok s.arguments
  | some (_, none) => .error .missingValue
  | some (option, some value) => assign s.arguments option value

def throwSwitch (a : Arguments) : Switch → Except Refusal Arguments
  | .help => .error .help
  | .noReconnect => if a.noReconnect then .error .repeated else .ok { a with noReconnect := true }
  | .bot => if a.bot then .error .repeated else .ok { a with bot := true }

/-- A word that begins with two hyphens. -/
def readLong (s : State) (name : String) (value : Option (List Char)) : Except Refusal State := do
  match options.lookup name, switches.lookup name, value with
  | some option, _, some value =>
    return { arguments := ← assign (← settle s) option (String.ofList value) }
  | some option, _, none => return { arguments := ← settle s, pending := some (option, none) }
  | none, some _, some _ => throw .unneededValue
  | none, some switch, none => return { arguments := ← throwSwitch (← settle s) switch }
  | none, none, _ => throw .unknownArgument

/-- Letters after one hyphen; help is the only one that is known. -/
def readShort (s : State) (letters : List Char) : Except Refusal State := do
  if letters.head? = some 'h' then return { arguments := ← throwSwitch (← settle s) .help }
  else throw .unknownArgument

/-- A word that begins no option is the value of the option before it. -/
def readPlain (s : State) (word : String) : Except Refusal State :=
  match s.pending with
  | some (option, none) => .ok { s with pending := some (option, some word) }
  | _ => .error .unknownArgument

def read (s : State) : List String → Except Refusal Arguments
  | [] => settle s
  | word :: words => do
    match Word.ofChars word.toList with
    | .terminator => if words.isEmpty then settle s else throw .unknownArgument
    | .long name value => read (← readLong s (String.ofList name) value) words
    | .short letters => read (← readShort s letters) words
    | .plain => read (← readPlain s word) words

end CommandLine

/-- The words that a command line may hold. -/
def CommandLine.usage : String :=
  "Usage: withered" ++
    String.join (CommandLine.options.map fun (name, _) => " [--" ++ name ++ " <VALUE>]") ++
    String.join (CommandLine.switches.map fun (name, _) => " [--" ++ name ++ "]")

/-- Reads the words after the program's name. -/
def Arguments.ofWords (words : List String) : Except CommandLine.Refusal Arguments :=
  CommandLine.read {} words

end GameClient

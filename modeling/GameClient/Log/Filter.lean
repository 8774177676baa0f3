import GameClient.Disk
import GameClient.Log.Level
import GameClient.Settings
import GameClient.Text.Alphanumeric

/-! # Log filters

A filter is a list of directives, each of which sets the level for the targets that begin with its
own target. The longest such target decides, and of equal ones the last. Where no directive
decides, nothing gets through. -/

namespace GameClient

namespace Log

structure Directive where
  /-- Without a target a directive is for all. -/
  target : Option String
  /-- The greatest verbosity that gets through. -/
  limit : Nat
  /-- It holds inside certain spans only, so for no event outside them. -/
  inSpans : Bool := false
deriving DecidableEq

namespace Directive

def all (limit : Nat) : Directive := { target := none, limit }

/-- The characters with the property White_Space. -/
def isSpace (c : Char) : Bool :=
  let n := c.toNat
  n == 0x20 || (0x09 ≤ n && n ≤ 0x0D) || n == 0x85 || n == 0xA0 || n == 0x1680 ||
    (0x2000 ≤ n && n ≤ 0x200A) || n == 0x2028 || n == 0x2029 || n == 0x202F || n == 0x205F ||
    n == 0x3000

def trim (text : List Char) : List Char :=
  ((text.dropWhile isSpace).reverse.dropWhile isSpace).reverse

def levelNames : List (String × Nat) :=
  ("off", 0) :: LogLevel.all.map fun level => (level.name, level.verbosity)

/-- A level's name in letters of either case, or its number, which may have a plus sign. -/
def limit? (text : List Char) : Option Nat :=
  let digits := match text with
    | '+' :: rest => rest
    | _ => text
  if !digits.isEmpty && digits.all Char.isDigit then
    let value := digits.foldl (fun n c => 10 * n + (c.toNat - '0'.toNat)) 0
    if value ≤ LogLevel.trace.verbosity then some value else none
  else levelNames.lookup (String.ofList (text.map Char.toLower))

/-- What stands after an equals sign; nothing there lets everything through. -/
def limitAfterSign? : List Char → Option Nat
  | [] => some LogLevel.trace.verbosity
  | text => limit? text

/-- A directive may begin with a letter, a number, or one of these three. -/
def canBegin (c : Char) : Bool :=
  c == '-' || c == ':' || c == '_' || Text.alphanumeric.contains c

/-- A directive without an equals sign: a level for all targets, or a target without a limit. -/
def ofWord (word : List Char) : Directive :=
  match limit? word with
  | some limit => all limit
  | none => { target := some (String.ofList word), limit := LogLevel.trace.verbosity }

/-- What is left after the fields of a span, which stand between braces and are not empty. -/
def afterFields? (text : List Char) : Option (List Char) :=
  match text.takeWhile (· != '\x7d'), text.dropWhile (· != '\x7d') with
  | [], _ => none
  | _, '\x7d' :: ']' :: rest => some rest
  | _, _ => none

/-- What is left after a span, from its name on. -/
def afterSpan? (text : List Char) : Option (List Char) :=
  match text.dropWhile fun c => c != ']' && c != '\x7b' with
  | ']' :: rest => some rest
  | '\x7b' :: rest => afterFields? rest
  | _ => none

/-- A directive for spans, whose text is `tail` after the opening bracket. -/
def ofSpan? (spaced : Bool) (target tail : List Char) : Option Directive := do
  let limit ← match ← afterSpan? tail with
    | [] => some LogLevel.trace.verbosity
    | '=' :: rest => if spaced then none else limitAfterSign? rest
    | _ => none
  return { target := some (String.ofList target), limit, inSpans := true }

/-- Reads one directive. Blanks around it are no part of its first and last character, but of what
it names; so a level never stands beside blanks. -/
def ofText? (source : String) : Option Directive := do
  let text := source.toList
  let trimmed := trim text
  let spaced := (text.head?.map isSpace).getD false
  let first ← trimmed.head?
  if first != '[' && !canBegin first then none
  else
    let target := trimmed.takeWhile fun c => c != '=' && c != '['
    match trimmed.drop target.length with
    | '=' :: _ =>
      if spaced then none
      else
        let limit ← limitAfterSign? (text.drop (target.length + 1))
        return { target := some (String.ofList target), limit }
    | '[' :: rest => ofSpan? spaced target rest
    | _ => return ofWord text

def concerns (d : Directive) (target : String) : Bool :=
  !d.inSpans && (d.target.map (·.toList.isPrefixOf target.toList)).getD true

/-- How narrowly a directive is aimed. -/
def precision (d : Directive) : Nat := (d.target.map (·.length + 1)).getD 0

end Directive

structure Filter where
  directives : List Directive
deriving DecidableEq

namespace Filter

/-- The directives of a text with commas between them; empty ones are left out. -/
def parts (text : String) : List String := (text.splitOn ",").filter (!·.isEmpty)

/-- A filter without directives lets errors through. -/
def ofDirectives (directives : List Directive) : Filter :=
  ⟨if directives.isEmpty then [.all LogLevel.error.verbosity] else directives⟩

/-- The filter of a text, each of whose directives is well formed. -/
def ofText? (text : String) : Option Filter := ((parts text).mapM Directive.ofText?).map ofDirectives

/-- The filter of a text, without its malformed directives. -/
def ofTextLeniently (text : String) : Filter :=
  ofDirectives ((parts text).filterMap Directive.ofText?)

/-- The directive that decides about a target: the most precise one, of equals the last. -/
def decisive? (f : Filter) (target : String) : Option Directive :=
  (f.directives.filter (·.concerns target)).foldl
    (fun best d => match best with
      | some b => if b.precision ≤ d.precision then some d else some b
      | none => some d)
    none

def passes (f : Filter) (target : String) (level : LogLevel) : Bool :=
  match f.decisive? target with
  | some d => decide (level.verbosity ≤ d.limit)
  | none => false

/-- The filter's text under a log level from the settings: the transport's own chatter is kept
out. -/
def textFor (logLevel : Option String) : String :=
  let level := (logLevel.filter (!·.isEmpty)).getD "info"
  level ++ ",tungstenite=warn,tokio_tungstenite=warn"

/-- The filter in force: the one of the environment if it is well formed, else that of the
settings. -/
def inForce (environment logLevel : Option String) : Filter :=
  (environment.bind ofText?).getD (ofTextLeniently (textFor logLevel))

end Filter

def fileName : String := "withered.log"

/-- A log file is kept by debug builds only, and only if it can be made. -/
def hasFile (debugBuild : Bool) (place : Option Disk.Place) : Bool :=
  debugBuild && (place.map fun p => (p.write ByteArray.empty).1.toBool).getD false

end Log

end GameClient

import GameClient.Settings
import GameClient.Settings.Value

/-! # Settings from text

A settings text is a record of three sections, each a record of settings. Fields come in any order,
each at most once; a record's name may stand before it; unknown fields are read over. Before the
record, features may be turned on. -/

namespace GameClient

namespace Scan

/-- How deep values may be nested. -/
def nestingLimit : Nat := 128

/-! ## Features -/

def feature? : String → Option (Features → Features)
  | "unwrap_newtypes" => some id
  | "implicit_some" => some fun f => { f with implicitSome := true }
  | "unwrap_variant_newtypes" => some id
  | "explicit_struct_names" => some fun f => { f with recordNames := true }
  | _ => none

/-- Words with blanks after each. -/
def expectWords : List String → Scan Unit
  | [] => return ()
  | word :: words => do
    expectText word
    blanks
    expectWords words

def featureNames : (steps : Nat) → Features → Scan Features
  | 0, _ => failure
  | steps + 1, features => do
    let some turnOn := feature? (← identifier) | failure
    let features := turnOn features
    let comma ← takeComma
    let more := ((← peek).map isIdentifierStart).getD false
    if comma && more then featureNames steps features else return features

/-- The lines that turn features on, if any. -/
def featureLines : (steps : Nat) → Features → Scan Features
  | 0, _ => failure
  | steps + 1, features => do
    if (← peek) = some '#' then
      expectWords ["#", "!", "[", "enable", "("]
      let features ← featureNames ((← get).length + 1) features
      blanks
      expectWords [")", "]"]
      featureLines steps features
    else return features

/-! ## Records -/

/-- A record's own name, which may be left out unless the features ask for it. -/
def recordName (features : Features) (name : String) : Scan Unit := do
  let named := ((← peek).map Text.identifierContinue.contains).getD false
  let matching ← if named then (· == name) <$> identifier else pure !features.recordNames
  if matching then blanks else failure

/-- A named value of a record. `field` reads the value of a known field into what was read so far;
values of other fields are nested at most `depth` deep. -/
def entry {σ : Type} (features : Features) (depth : Nat) (field : String → Option (σ → Scan σ))
    (state : σ) : Scan σ := do
  let key ← identifier
  colon
  match field key with
  | some read => read state
  | none =>
    skipValue features depth
    return state

def record {σ : Type} (features : Features) (depth : Nat) (name : String)
    (field : String → Option (σ → Scan σ)) (start : σ) : Scan σ := do
  recordName features name
  expect '('
  items ')' (entry features depth field) start

/-- Reads a field that was not there yet. -/
def once {α σ : Type} (there : Option α) (read : Scan α) (put : α → σ) : Scan σ := do
  if there.isSome then failure
  return put (← read)

def word32 : Scan UInt32 := UInt32.ofNat <$> integerOf ⟨false, 32⟩

def word64 : Scan UInt64 := UInt64.ofNat <$> integerOf ⟨false, 64⟩

end Scan

namespace Settings

open Scan

def NetworkDraft.field? : String → Option (NetworkDraft → Scan NetworkDraft)
  | "server_url" => some fun d => once d.serverUrl Scan.text fun v => { d with serverUrl := some v }
  | "tick_rate_hz" => some fun d => once d.tickRate word32 fun v => { d with tickRate := some v }
  | _ => none

def ReconnectDraft.field? : String → Option (ReconnectDraft → Scan ReconnectDraft)
  | "enabled" => some fun d => once d.enabled boolean fun v => { d with enabled := some v }
  | "initial_delay_ms" =>
    some fun d => once d.initialDelayMs word64 fun v => { d with initialDelayMs := some v }
  | "backoff_multiplier" =>
    some fun d => once d.multiplier double fun v => { d with multiplier := some v }
  | "max_delay_ms" => some fun d => once d.maxDelayMs word64 fun v => { d with maxDelayMs := some v }
  | "max_attempts" => some fun d => once d.maxAttempts word32 fun v => { d with maxAttempts := some v }
  | "jitter" => some fun d => once d.jitter double fun v => { d with jitter := some v }
  | _ => none

def DiagnosticsDraft.field? : String → Option (DiagnosticsDraft → Scan DiagnosticsDraft)
  | "log_level" => some fun d => once d.logLevel Scan.text fun v => { d with logLevel := some v }
  | _ => none

/-- Unknown values in a section are two levels below the text. -/
def Draft.field? (features : Features) : String → Option (Draft → Scan Draft)
  | "network" => some fun d =>
    once d.network (record features (nestingLimit - 2) "NetworkConfig" NetworkDraft.field? {})
      fun v => { d with network := some v }
  | "reconnect" => some fun d =>
    once d.reconnect (record features (nestingLimit - 2) "ReconnectSettings" ReconnectDraft.field? {})
      fun v => { d with reconnect := some v }
  | "debug" => some fun d =>
    once d.diagnostics
      (record features (nestingLimit - 2) "DebugConfig" DiagnosticsDraft.field? {})
      fun v => { d with diagnostics := some v }
  | _ => none

def Draft.scan : Scan Draft := do
  blanks
  let features ← featureLines ((← get).length + 1) {}
  let draft ← record features (nestingLimit - 1) "Config" (Draft.field? features) {}
  blanks
  return draft

/-- What a whole text says. -/
def Draft.ofText? (source : String) : Option Draft :=
  match Draft.scan source.toList with
  | some (draft, []) => some draft
  | _ => none

/-- The settings of a text, with defaults for what it does not name. -/
def ofText? (source : String) : Option Settings := (Draft.ofText? source).map Draft.complete

end Settings

end GameClient

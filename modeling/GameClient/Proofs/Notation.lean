import GameClient.Proofs.Words

/-! # Written settings read back

A written record is a line for each field, between parentheses. It is read line by line: a name and
its colon, a value that the scan of the field reads, a comma and the blanks up to the next line. So
whatever settings are written, their text is read as the same settings, up to the bits that no text
shows of a number that is none. -/

namespace GameClient

namespace Scan

/-! ## Lines -/

def lines (indent : List Char) (entries : List (List Char)) (rest : List Char) : List Char :=
  match entries with
  | [] => rest
  | entry :: entries => indent ++ (entry ++ ',' :: '\n' :: lines indent entries rest)

/-- Items are read one after the other. -/
inductive Chain {σ : Type} (item : σ → Scan σ) : List (List Char) → σ → σ → Prop
  | nil (s : σ) : Chain item [] s s
  | cons {entry : List Char} {entries : List (List Char)} {s s' s'' : σ} :
      Reads (item s) entry s' → Chain item entries s' s'' → Chain item (entry :: entries) s s''

theorem takeComma_lineEnd {chars out : List Char} (h : blanks chars = some ((), out)) :
    takeComma (',' :: '\n' :: chars) = some (true, out) := by
  have solid : blanks (',' :: '\n' :: chars) = some ((), ',' :: '\n' :: chars) := rfl
  have taken : takeChar ',' (',' :: '\n' :: chars) = some (true, '\n' :: chars) := rfl
  have lineEnd : blanks ('\n' :: chars) = some ((), out) := h
  rw [takeComma, bind_eq solid, bind_eq taken, if_pos rfl, bind_eq lineEnd]
  rfl

section Lines

variable {σ : Type} {item : σ → Scan σ} {indent outdent : List Char}
  (blank : ∀ c ∈ indent, isBlank c = true) (blank' : ∀ c ∈ outdent, isBlank c = true)

include blank blank'

theorem blanks_lines {entries : List (List Char)} {s s' : σ} (chain : Chain item entries s s')
    (rest : List Char) :
    ∃ out, blanks (lines indent entries (outdent ++ ')' :: rest)) = some ((), out) ∧
      blanks out = some ((), out) := by
  cases chain with
  | nil =>
    have here : blanks (')' :: rest) = some ((), ')' :: rest) := rfl
    exact ⟨')' :: rest, (blanks_gap blank' _).trans here, here⟩
  | cons read _ =>
    have here := blanks_solid read.solid
    exact ⟨_, (blanks_gap blank _).trans (here _), here _⟩

theorem itemsWithin_lines {entries : List (List Char)} {s s' : σ} (chain : Chain item entries s s')
    {steps : Nat} (enough : entries.length < steps) {chars rest : List Char}
    (same : blanks chars = blanks (lines indent entries (outdent ++ ')' :: rest))) :
    itemsWithin ')' item steps s chars = some (s', rest) := by
  induction chain generalizing steps chars with
  | nil s =>
    obtain ⟨steps, rfl⟩ : ∃ n, steps = n + 1 := ⟨steps - 1, by omega⟩
    have closing : blanks chars = some ((), ')' :: rest) := same.trans (blanks_gap blank' _)
    rw [itemsWithin, bind_eq closing]
    rfl
  | @cons entry entries s s' s'' read chain ih =>
    obtain ⟨steps, rfl⟩ : ∃ n, steps = n + 1 := ⟨steps - 1, by omega⟩
    obtain ⟨out, stripped, settled⟩ := blanks_lines blank blank' chain rest
    have here := (same.trans (blanks_gap blank _)).trans (blanks_solid read.solid _)
    have opened := takeChar_solid read.solid
      (',' :: '\n' :: lines indent entries (outdent ++ ')' :: rest))
    have comma : takeComma (',' :: '\n' :: lines indent entries (outdent ++ ')' :: rest)) =
        some (true, out) := takeComma_lineEnd stripped
    rw [itemsWithin, bind_eq here, bind_eq opened, if_neg Bool.false_ne_true,
      bind_eq (read.takes _), bind_eq comma, if_pos rfl]
    exact ih (Nat.lt_of_succ_lt_succ enough) (settled.trans stripped.symm)

end Lines

/-! ## Records -/

/-- A field is read into what was read so far: its name stands for itself before a colon, and its
value is read. -/
structure Fills {σ : Type} (field : String → Option (σ → Scan σ)) (name value : String) (s s' : σ) :
    Prop where
  solid : isSolid name.toList = true
  named : ∀ rest, identifier (name.toList ++ ':' :: rest) = some (name, ':' :: rest)
  read : ∃ read, field name = some read ∧ Reads (read s) value.toList s'

/-- Fields are read into what was read so far, one after the other. -/
inductive FillsAll {σ : Type} (field : String → Option (σ → Scan σ)) :
    List (String × String) → σ → σ → Prop
  | nil (s : σ) : FillsAll field [] s s
  | cons {name value : String} {fields : List (String × String)} {s s' s'' : σ} :
      Fills field name value s s' → FillsAll field fields s' s'' →
        FillsAll field ((name, value) :: fields) s s''

theorem FillsAll.append {σ : Type} {field : String → Option (σ → Scan σ)}
    {front back : List (String × String)} {s s' s'' : σ} (first : FillsAll field front s s')
    (second : FillsAll field back s' s'') : FillsAll field (front ++ back) s s'' := by
  induction first with
  | nil s => exact second
  | cons one _ ih => exact .cons one (ih second)

/-- A name and a value on one line. -/
def entryChars (field : String × String) : List Char :=
  field.1.toList ++ ':' :: ' ' :: field.2.toList

variable {σ : Type} {field : String → Option (σ → Scan σ)}

theorem isSolid_append {chars : List Char} (h : isSolid chars = true) (rest : List Char) :
    isSolid (chars ++ rest) = true := by
  cases chars with
  | nil => cases h
  | cons c chars => exact h

theorem colon_eq {chars : List Char} (solid : isSolid chars = true) (rest : List Char) :
    colon (':' :: ' ' :: (chars ++ rest)) = some ((), chars ++ rest) := by
  have before : blanks (':' :: ' ' :: (chars ++ rest)) = some ((), ':' :: ' ' :: (chars ++ rest)) :=
    rfl
  have after : blanks (' ' :: (chars ++ rest)) = some ((), chars ++ rest) := blanks_solid solid rest
  rw [colon, bind_eq before, bind_eq (expect_eq _ _)]
  exact after

theorem entry_reads {features : Features} {depth : Nat} {name value : String} {s s' : σ}
    (fills : Fills field name value s s') :
    Reads (entry features depth field s) (entryChars (name, value)) s' := by
  obtain ⟨solid, named, read, known, taken⟩ := fills
  refine ⟨isSolid_append solid _, fun rest => ?_⟩
  rw [entryChars, List.append_assoc, entry, List.cons_append, List.cons_append, bind_eq (named _),
    bind_eq (colon_eq taken.solid _), known]
  exact taken.takes rest

theorem chain_entry {features : Features} {depth : Nat} {fields : List (String × String)} {s s' : σ}
    (fills : FillsAll field fields s s') :
    Chain (entry features depth field) (fields.map entryChars) s s' := by
  induction fills with
  | nil s => exact .nil s
  | cons one _ ih => exact .cons (entry_reads one) ih

theorem toList_join_lines (depth : Nat) (fields : List (String × String)) (rest : List Char) :
    (String.join (fields.map fun (name, value) =>
        Settings.indentation (depth + 1) ++ name ++ ": " ++ value ++ ",\n")).toList ++ rest =
      lines (List.replicate (4 * (depth + 1)) ' ') (fields.map entryChars) rest := by
  induction fields with
  | nil => rfl
  | cons field fields ih =>
    rw [List.map_cons, List.map_cons, String.join_cons, String.toList_append, List.append_assoc, ih,
      lines]
    simp [Settings.indentation, entryChars]

theorem toList_recordText (depth : Nat) (fields : List (String × String)) (rest : List Char) :
    (Settings.recordText depth fields).toList ++ rest =
      '(' :: '\n' :: lines (List.replicate (4 * (depth + 1)) ' ') (fields.map entryChars)
        (List.replicate (4 * depth) ' ' ++ ')' :: rest) := by
  rw [← toList_join_lines]
  simp [Settings.recordText, Settings.indentation]

theorem length_le_lines (indent : List Char) (entries : List (List Char)) (rest : List Char) :
    entries.length ≤ (lines indent entries rest).length := by
  induction entries with
  | nil => exact Nat.zero_le _
  | cons entry entries ih =>
    rw [lines, List.length_append, List.length_append, List.length_cons, List.length_cons,
      List.length_cons]
    omega

/-- A written record is read as what its fields are read into. -/
theorem record_recordText {depth nesting : Nat} {name : String} {fields : List (String × String)}
    {s s' : σ} (fills : FillsAll field fields s s') (rest : List Char) :
    record {} nesting name field s ((Settings.recordText depth fields).toList ++ rest) =
      some (s', rest) := by
  have unnamed (chars : List Char) :
      recordName {} name ('(' :: chars) = some ((), '(' :: chars) := rfl
  have space (n : Nat) (c : Char) (h : c ∈ List.replicate n ' ') : isBlank c = true := by
    rw [List.eq_of_mem_replicate h]
    rfl
  rw [toList_recordText, record, bind_eq (unnamed _), bind_eq (expect_eq _ _), items,
    bind_eq (get_eq _)]
  have enough := length_le_lines (List.replicate (4 * (depth + 1)) ' ') (fields.map entryChars)
    (List.replicate (4 * depth) ' ' ++ ')' :: rest)
  refine itemsWithin_lines (space (4 * (depth + 1))) (space (4 * depth)) (chain_entry fills) ?_ rfl
  rw [List.length_cons]
  omega

theorem record_reads {depth nesting : Nat} {name : String} {fields : List (String × String)}
    {s s' : σ} (fills : FillsAll field fields s s') :
    Reads (record {} nesting name field s) (Settings.recordText depth fields).toList s' where
  solid := by
    rw [← List.append_nil (String.toList _), toList_recordText]
    rfl
  takes rest := record_recordText fills _

theorem once_reads {α : Type} {p : Scan α} {chars : List Char} {a : α} (read : Reads p chars a)
    (put : α → σ) : Reads (once none p put) chars (put a) where
  solid := read.solid
  takes rest := by
    rw [once, Option.isSome_none, if_neg Bool.false_ne_true]
    dsimp only
    rw [bind_eq (read.takes rest)]
    rfl

end Scan

namespace Settings

open Scan

/-! ## Named settings -/

/-- The line of a setting, if it is named. -/
def lineOf {α : Type} (name : String) (text : α → String) (value : Option α) :
    List (String × String) :=
  (value.map fun a => (name, text a)).toList

def booleanText (b : Bool) : String := if b then "true" else "false"

def word32Text (w : UInt32) : String := toString w.toNat

def word64Text (w : UInt64) : String := toString w.toNat

/-- The text of a section that names just these settings. -/
def NetworkDraft.text (d : NetworkDraft) : String :=
  recordText 1 (lineOf "server_url" quotedText d.serverUrl ++
    lineOf "tick_rate_hz" word32Text d.tickRate)

def ReconnectDraft.text (d : ReconnectDraft) : String :=
  recordText 1 (lineOf "enabled" booleanText d.enabled ++
    (lineOf "initial_delay_ms" word64Text d.initialDelayMs ++
    (lineOf "backoff_multiplier" realLayout.text d.multiplier ++
    (lineOf "max_delay_ms" word64Text d.maxDelayMs ++
    (lineOf "max_attempts" word32Text d.maxAttempts ++
    lineOf "jitter" realLayout.text d.jitter)))))

def DiagnosticsDraft.text (d : DiagnosticsDraft) : String :=
  recordText 1 (lineOf "log_level" quotedText d.logLevel)

def Draft.text (d : Draft) : String :=
  recordText 0 (lineOf "network" NetworkDraft.text d.network ++
    (lineOf "reconnect" ReconnectDraft.text d.reconnect ++
    lineOf "debug" DiagnosticsDraft.text d.diagnostics))

def ReconnectDraft.canonical (d : ReconnectDraft) : ReconnectDraft where
  enabled := d.enabled
  initialDelayMs := d.initialDelayMs
  multiplier := d.multiplier.map (·.canonical)
  maxDelayMs := d.maxDelayMs
  maxAttempts := d.maxAttempts
  jitter := d.jitter.map (·.canonical)

/-- The settings as they are written and read. -/
def Draft.canonical (d : Draft) : Draft where
  network := d.network
  reconnect := d.reconnect.map (·.canonical)
  diagnostics := d.diagnostics

/-- A setting is read if it is named; if not, it stays as it was, which is not named. -/
theorem fillsAll_lineOf {σ α β : Type} {field : String → Option (σ → Scan σ)} {name : String}
    {text : α → String} {p : Scan β} {reading : α → β} {value : Option α} {target : Option β}
    (put : Option β → σ) (solid : isSolid name.toList = true)
    (named : ∀ rest, identifier (name.toList ++ ':' :: rest) = some (name, ':' :: rest))
    (known : ∃ read, field name = some read ∧ read (put none) = once none p fun b => put (some b))
    (reads : ∀ a, Reads p (text a).toList (reading a)) (same : value.map reading = target) :
    FillsAll field (lineOf name text value) (put none) (put target) := by
  subst same
  cases value with
  | none => exact .nil _
  | some a =>
    obtain ⟨read, known, once⟩ := known
    refine .cons ⟨solid, named, read, known, ?_⟩ (.nil _)
    rw [once]
    exact once_reads (reads a) _

theorem NetworkDraft.text_reads (d : NetworkDraft) :
    Reads (record {} (nestingLimit - 2) "NetworkConfig" NetworkDraft.field? {}) d.text.toList d := by
  apply record_reads
  refine .append (fillsAll_lineOf (NetworkDraft.mk · none) rfl (fun _ => rfl) ⟨_, rfl, rfl⟩
    Scan.text_reads (congrFun Option.map_id _)) ?_
  exact fillsAll_lineOf (NetworkDraft.mk d.serverUrl ·) rfl (fun _ => rfl) ⟨_, rfl, rfl⟩
    word32_reads (congrFun Option.map_id _)

theorem ReconnectDraft.text_reads (d : ReconnectDraft) :
    Reads (record {} (nestingLimit - 2) "ReconnectSettings" ReconnectDraft.field? {}) d.text.toList
      d.canonical := by
  let c := d.canonical
  apply record_reads
  refine .append (fillsAll_lineOf (ReconnectDraft.mk · none none none none none) rfl (fun _ => rfl)
    ⟨_, rfl, rfl⟩ boolean_reads (congrFun Option.map_id _)) ?_
  refine .append (fillsAll_lineOf (ReconnectDraft.mk c.enabled · none none none none) rfl
    (fun _ => rfl) ⟨_, rfl, rfl⟩ word64_reads (congrFun Option.map_id _)) ?_
  refine .append (fillsAll_lineOf (ReconnectDraft.mk c.enabled c.initialDelayMs · none none none) rfl
    (fun _ => rfl) ⟨_, rfl, rfl⟩ double_reads rfl) ?_
  refine .append (fillsAll_lineOf (ReconnectDraft.mk c.enabled c.initialDelayMs c.multiplier ·
    none none) rfl (fun _ => rfl) ⟨_, rfl, rfl⟩ word64_reads (congrFun Option.map_id _)) ?_
  refine .append (fillsAll_lineOf (ReconnectDraft.mk c.enabled c.initialDelayMs c.multiplier
    c.maxDelayMs · none) rfl (fun _ => rfl) ⟨_, rfl, rfl⟩ word32_reads
    (congrFun Option.map_id _)) ?_
  exact fillsAll_lineOf (ReconnectDraft.mk c.enabled c.initialDelayMs c.multiplier c.maxDelayMs
    c.maxAttempts ·) rfl (fun _ => rfl) ⟨_, rfl, rfl⟩ double_reads rfl

theorem DiagnosticsDraft.text_reads (d : DiagnosticsDraft) :
    Reads (record {} (nestingLimit - 2) "DebugConfig" DiagnosticsDraft.field? {}) d.text.toList d :=
  record_reads (fillsAll_lineOf DiagnosticsDraft.mk rfl (fun _ => rfl) ⟨_, rfl, rfl⟩
    Scan.text_reads (congrFun Option.map_id _))

/-- The three sections of a text, each of which may be missing. -/
theorem Draft.fillsAll (d : Draft) :
    FillsAll (Draft.field? {})
      (lineOf "network" NetworkDraft.text d.network ++
        (lineOf "reconnect" ReconnectDraft.text d.reconnect ++
          lineOf "debug" DiagnosticsDraft.text d.diagnostics)) {} d.canonical := by
  let c := d.canonical
  refine .append (fillsAll_lineOf (Draft.mk · none none) rfl (fun _ => rfl) ⟨_, rfl, rfl⟩
    NetworkDraft.text_reads (congrFun Option.map_id _)) ?_
  refine .append (fillsAll_lineOf (Draft.mk c.network · none) rfl (fun _ => rfl) ⟨_, rfl, rfl⟩
    ReconnectDraft.text_reads rfl) ?_
  exact fillsAll_lineOf (Draft.mk c.network c.reconnect ·) rfl (fun _ => rfl) ⟨_, rfl, rfl⟩
    DiagnosticsDraft.text_reads (congrFun Option.map_id _)

/-- Whichever settings a text names, it is read as these. -/
theorem Draft.ofText?_text (d : Draft) : Draft.ofText? d.text = some d.canonical := by
  have record : record {} (nestingLimit - 1) "Config" (Draft.field? {}) {} (d.text.toList ++ []) =
      some (d.canonical, []) := record_recordText d.fillsAll []
  obtain ⟨rest, opened⟩ : ∃ rest, d.text.toList ++ [] = '(' :: rest := ⟨_, toList_recordText ..⟩
  rw [List.append_nil] at record opened
  have solid : blanks d.text.toList = some ((), d.text.toList) := by
    rw [opened]
    rfl
  have plain : featureLines (d.text.toList.length + 1) {} d.text.toList =
      some ({}, d.text.toList) := by
    rw [opened]
    rfl
  rw [Draft.ofText?, Draft.scan, bind_eq solid, bind_eq (get_eq _), bind_eq plain, bind_eq record]
  rfl

/-! ## All settings -/

def draft (s : Settings) : Draft where
  network := some { serverUrl := some s.network.serverUrl, tickRate := some s.network.tickRate }
  reconnect := some {
    enabled := some s.reconnect.enabled
    initialDelayMs := some s.reconnect.initialDelayMs
    multiplier := some s.reconnect.multiplier
    maxDelayMs := some s.reconnect.maxDelayMs
    maxAttempts := some s.reconnect.maxAttempts
    jitter := some s.reconnect.jitter }
  diagnostics := some { logLevel := some s.diagnostics.logLevel }

/-- The settings as they are written and read. -/
def canonical (s : Settings) : Settings where
  network := s.network
  reconnect := { s.reconnect with
    multiplier := s.reconnect.multiplier.canonical
    jitter := s.reconnect.jitter.canonical }
  diagnostics := s.diagnostics

/-- What is written is read back. -/
theorem ofText?_text (s : Settings) : Settings.ofText? s.text = some s.canonical := by
  have same : s.text = s.draft.text := rfl
  rw [same, ofText?, Draft.ofText?_text]
  rfl

end Settings

end GameClient

import GameClient.Proofs.Persistence
import GameClient.Proofs.Rates

/-! # Settings in layers

Each setting comes from the first layer that names it: the command line, the file, the defaults. A
file may leave out sections and, in a section, settings; a command line may name three settings and
turn reconnecting off. So overriding twice is overriding once, the later names before the earlier
ones. A loop is made from the outcome and keeps to it for as long as it runs. -/

namespace GameClient

namespace Loop

variable {τ ι : Type} {config : LoopConfig} {l l' : Loop τ ι}

/-! ## The policy of a loop -/

def policy (l : Loop τ ι) : Option Backoff.Policy := l.backoff.map (·.policy)

theorem policy_schedule (l : Loop τ ι) (draw : Binary64) :
    (l.schedule draw).1.policy = l.policy := by
  unfold schedule
  split
  · rfl
  next backoff held =>
    have kept := backoff.policy_nextWith Duration.scale? draw
    have policy : l.policy = some backoff.policy := congrArg (Option.map Backoff.policy) held
    rw [← Backoff.next] at kept
    rw [policy]
    split
    next => exact policy
    next later next =>
      rw [next] at kept
      exact congrArg some kept
    next delay later next =>
      rw [next] at kept
      dsimp only
      split <;> exact congrArg some kept

theorem policy_react (l : Loop τ ι) (draw : Binary64) (why : TransportError → Notice)
    (answer : Answer) : (l.react draw why answer).1.policy = l.policy := by
  cases answer with
  | accepted => rfl
  | refused error => exact l.policy_schedule draw

theorem policy_heed (l : Loop τ ι) (draw : Binary64) (event : Event) :
    (l.heed draw event).1.policy = l.policy := by
  cases event with
  | connected => exact Option.map_map ..
  | disconnected => exact l.policy_schedule draw
  | frame bytes => rfl

variable [Transport τ] [Sampler ι]

theorem policy_perform (l : Loop τ ι) (draw : Binary64) (turn : Turn) :
    (l.perform draw turn).1.policy = l.policy := by
  cases turn with
  | begin =>
    have reacted := l.begun.policy_react draw .firstConnectRefused l.client.start.1
    simp only [perform, begin_eq]
    split <;> exact reacted
  | stop => rfl
  | tick => rfl
  | event event =>
    have heard := congrArg (Option.map Backoff.policy) (l.heard draw event).backoff
    exact heard.trans (policy_heed { l with queue := l.queue.tail } draw event)
  | channelClosed => rfl
  | reconnect =>
    rw [perform, reconnect_eq]
    exact l.retried.policy_react draw .reconnectRefused l.client.reconnect.1

/-- Whatever happens to a loop, it keeps its period and its policy. -/
theorem keeps_config (config : LoopConfig) (client : Client τ ι) (moves : List (Move τ ι)) :
    ((Loop.new config client).after moves).period = config.tickPeriod ∧
      ((Loop.new config client).after moves).policy = config.reconnect := by
  refine ⟨((configured_new config client).after moves).period, ?_⟩
  have first : (Loop.new config client).policy = config.reconnect :=
    (Option.map_map ..).trans Option.map_id'
  refine invariant_after (P := fun l => l.policy = config.reconnect) ?_ ?_ first moves
  · intro l turn draw same next
    exact (l.policy_perform draw turn).trans same
  · intro l l' same aside
    exact (congrArg (Option.map Backoff.policy) aside.backoff).trans same

end Loop

namespace Settings

/-! ## Layers -/

theorem getD_section {δ α : Type} {empty : δ} {field : δ → Option α} (nothing : field empty = none)
    (part : Option δ) (standard : α) :
    (field (part.getD empty)).getD standard = (part.bind field).getD standard := by
  cases part with
  | none => rw [Option.getD_none, nothing, Option.bind_none]
  | some part => rfl

/-- The value of a setting by its three layers. -/
def layered {α : Type} (named written : Option α) (standard : α) : α :=
  (named.or written).getD standard

theorem getD_layered {δ α : Type} {empty : δ} {field : δ → Option α}
    (nothing : field empty = none) (named : Option α) (part : Option δ) (standard : α) :
    named.getD ((field (part.getD empty)).getD standard) =
      layered named (part.bind field) standard := by
  rw [getD_section nothing, layered, Option.getD_or]

/-- The settings are those of a file under a command line, by what each of them names. -/
structure Layered (d : Draft) (o : Overrides) (s : Settings) : Prop where
  serverUrl : s.network.serverUrl =
    layered o.serverUrl (d.network.bind (·.serverUrl)) "ws://localhost:9090/ws"
  tickRate : s.network.tickRate = layered o.tickRate (d.network.bind (·.tickRate)) 60
  logLevel : s.diagnostics.logLevel = layered o.logLevel (d.diagnostics.bind (·.logLevel)) "info"
  enabled : s.reconnect.enabled = (!o.noReconnect && (d.reconnect.bind (·.enabled)).getD true)
  initialDelayMs : s.reconnect.initialDelayMs = (d.reconnect.bind (·.initialDelayMs)).getD 1000
  multiplier : s.reconnect.multiplier =
    (d.reconnect.bind (·.multiplier)).getD ⟨0x4000000000000000⟩
  maxDelayMs : s.reconnect.maxDelayMs = (d.reconnect.bind (·.maxDelayMs)).getD 30000
  maxAttempts : s.reconnect.maxAttempts = (d.reconnect.bind (·.maxAttempts)).getD 20
  jitter : s.reconnect.jitter = (d.reconnect.bind (·.jitter)).getD ⟨0x3FD0000000000000⟩

theorem layered_override (d : Draft) (o : Overrides) : Layered d o (d.complete.override o) where
  serverUrl := getD_layered rfl o.serverUrl d.network _
  tickRate := getD_layered rfl o.tickRate d.network _
  logLevel := getD_layered rfl o.logLevel d.diagnostics _
  enabled := by
    have written : d.complete.reconnect.enabled = (d.reconnect.bind (·.enabled)).getD true :=
      getD_section rfl d.reconnect true
    rw [← written, Bool.and_comm]
    rfl
  initialDelayMs := getD_section rfl d.reconnect _
  multiplier := getD_section rfl d.reconnect _
  maxDelayMs := getD_section rfl d.reconnect _
  maxAttempts := getD_section rfl d.reconnect _
  jitter := getD_section rfl d.reconnect _

/-! ## What a loop is made of -/

/-- The duration is a number of milliseconds, to the nanosecond, and within the range of durations. -/
def IsMillis (ms : UInt64) (d : Duration) : Prop :=
  d.nanos = ms.toNat * 1000000 ∧ d.nanos < 2 ^ 64 * Duration.nanosPerSecond

theorem isMillis_ofMillis (ms : UInt64) : IsMillis ms (.ofMillis ms.toNat) := by
  have range := ms.toNat_lt
  refine ⟨rfl, ?_⟩
  simp only [Duration.ofMillis, Duration.nanosPerMilli, Duration.nanosPerSecond]
  omega

/-- The policy has the settings of the file, and the defaults in its gaps. -/
structure Written (d : Draft) (p : Backoff.Policy) : Prop where
  initialDelay : IsMillis ((d.reconnect.bind (·.initialDelayMs)).getD 1000) p.initialDelay
  multiplier : p.multiplier = (d.reconnect.bind (·.multiplier)).getD ⟨0x4000000000000000⟩
  maxDelay : IsMillis ((d.reconnect.bind (·.maxDelayMs)).getD 30000) p.maxDelay
  maxAttempts : p.maxAttempts = (d.reconnect.bind (·.maxAttempts)).getD 20
  jitter : p.jitter = (d.reconnect.bind (·.jitter)).getD ⟨0x3FD0000000000000⟩

/-- The configuration of a loop is that of a file under a command line. -/
structure Configures (d : Draft) (o : Overrides) (config : LoopConfig) : Prop where
  tickRate : config.tickRate = layered o.tickRate (d.network.bind (·.tickRate)) 60
  absent : config.reconnect = none ↔
    o.noReconnect = true ∨ d.reconnect.bind (·.enabled) = some false
  present : ∀ p, config.reconnect = some p → Written d p

theorem Layered.written {d : Draft} {o : Overrides} {s : Settings} (h : Layered d o s) :
    Written d s.reconnect.policy where
  initialDelay := by
    rw [← h.initialDelayMs]
    exact isMillis_ofMillis s.reconnect.initialDelayMs
  multiplier := h.multiplier
  maxDelay := by
    rw [← h.maxDelayMs]
    exact isMillis_ofMillis s.reconnect.maxDelayMs
  maxAttempts := h.maxAttempts
  jitter := h.jitter

theorem Layered.configures {d : Draft} {o : Overrides} {s : Settings} (h : Layered d o s) :
    Configures d o s.loopConfig where
  tickRate := h.tickRate
  absent := by
    have off : s.loopConfig.reconnect = none ↔ s.reconnect.enabled = false := by
      cases enabled : s.reconnect.enabled <;> simp [loopConfig, enabled]
    rw [off, h.enabled]
    cases o.noReconnect with
    | true => simp
    | false => rcases d.reconnect.bind (·.enabled) with _ | _ | _ <;> simp
  present p made := by
    unfold loopConfig at made
    split at made
    · cases made
      exact h.written
    · cases made

/-! ## Overriding twice -/

theorem override_override (s : Settings) (a b : Overrides) :
    (s.override a).override b = s.override (a.andThen b) := by
  simp only [override, Overrides.andThen, Option.getD_or, Bool.not_or, Bool.and_assoc]

theorem Overrides.andThen_self (o : Overrides) : o.andThen o = o := by
  simp only [andThen, Option.or_self, Bool.or_self]

/-- Settings that a command line does not name are the same. -/
structure Spared (o : Overrides) (s t : Settings) : Prop where
  serverUrl : o.serverUrl = none → t.network.serverUrl = s.network.serverUrl
  tickRate : o.tickRate = none → t.network.tickRate = s.network.tickRate
  logLevel : o.logLevel = none → t.diagnostics.logLevel = s.diagnostics.logLevel
  enabled : o.noReconnect = false → t.reconnect.enabled = s.reconnect.enabled
  /-- No command line names one of these. -/
  others : { t.reconnect with enabled := s.reconnect.enabled } = s.reconnect

theorem spared_override (s : Settings) (o : Overrides) : Spared o s (s.override o) where
  serverUrl unnamed := by rw [override, unnamed]; rfl
  tickRate unnamed := by rw [override, unnamed]; rfl
  logLevel unnamed := by rw [override, unnamed]; rfl
  enabled unnamed := by rw [override, unnamed, Bool.not_false, Bool.and_true]
  others := rfl

/-! ## Main result -/

theorem holds_of_draft {d : Draft} {source : String} {content : ByteArray}
    (decoded : String.fromUTF8? content = some source) (read : Draft.ofText? source = some d) :
    Directory.Holds .standard d.complete (.directory (.file content)) := by
  have settings : Settings.ofText? source = some d.complete := congrArg (Option.map _) read
  refine ⟨content, rfl, ?_⟩
  unfold Directory.parse Format.standard
  rw [decoded]
  dsimp only
  rw [settings]

/-- The program starts with the settings of the file under those of the command line, layer by layer,
and a loop that is made from them keeps to them. A file may name any of the settings and leave out the
others. Overriding is associative with the later names first, and touches nothing else. -/
theorem in_layers (d : Draft) (o : Overrides) :
    let s := d.complete.override o
    Layered d o s ∧
    Configures d o s.loopConfig ∧
    (∀ around words arguments content source,
      Arguments.ofWords words = .ok arguments → arguments.toOverrides = o →
      around.mishap = .none →
      around.disk (Startup.directoryFor arguments around) = .directory (.file content) →
      String.fromUTF8? content = some source → Draft.ofText? source = some d →
      (Startup.run .standard around words).1 =
        .ready arguments (Startup.directoryFor arguments around) s) ∧
    Draft.ofText? d.text = some d.canonical ∧
    (∀ {τ ι : Type} [Transport τ] [Sampler ι] (client : Client τ ι) (moves : List (Loop.Move τ ι)),
      ((Loop.new s.loopConfig client).after moves).period = s.loopConfig.tickPeriod ∧
        ((Loop.new s.loopConfig client).after moves).policy = s.loopConfig.reconnect) ∧
    (∀ (t : Settings) (a b : Overrides), (t.override a).override b = t.override (a.andThen b)) ∧
    (∀ t : Settings, (t.override o).override o = t.override o) ∧
    ∀ t : Settings, Spared o t (t.override o) := by
  intro s
  refine ⟨layered_override d o, (layered_override d o).configures, ?_, d.ofText?_text,
    Loop.keeps_config s.loopConfig, override_override, fun t => ?_, fun t => spared_override t o⟩
  · intro around words arguments content source named overrides well there decoded read
    have held : Directory.Holds .standard d.complete
        (around.disk (Startup.directoryFor arguments around)) :=
      there ▸ holds_of_draft decoded read
    rw [held.run named well, overrides]
  · rw [override_override, Overrides.andThen_self]

/-- The file names some settings of two sections, and one that is not known; the command line names
one of them again. -/
theorem in_layers_partial :
    let source := "(network: (tick_rate_hz: 30), reconnect: (max_attempts: 3), later: [1, 2])"
    let around : Surroundings :=
      { home := "/home/player", disk := fun _ => .directory (.file source.toUTF8) }
    ∃ (arguments : Arguments) (directory : String) (s : Settings),
      (Startup.run .standard around ["--tick-rate", "50"]).1 = .ready arguments directory s ∧
      s = { network := { tickRate := 50 }, reconnect := { maxAttempts := 3 } } ∧
      s.override arguments.toOverrides = s ∧ (s.override {}).network.serverUrl = s.network.serverUrl := by
  intro source around
  let d : Draft := {
    network := some { tickRate := some 30 }
    reconnect := some { maxAttempts := some 3 } }
  have named : Arguments.ofWords ["--tick-rate", "50"] = .ok { tickRate := some 50 } := rfl
  have read : Draft.ofText? source = some d := by decide +kernel
  have decoded : String.fromUTF8? source.toUTF8 = some source := dif_pos source.isValidUTF8
  obtain ⟨-, -, starts, -, -, -, again, -⟩ := in_layers d { tickRate := some 50 }
  refine ⟨_, _, _, starts around _ _ _ source named rfl rfl rfl decoded read, rfl, ?_, ?_⟩
  · exact again d.complete
  · exact ((in_layers d {}).2.2.2.2.2.2.2 _).serverUrl rfl

end Settings

end GameClient

import GameClient.Proofs.Traffic

/-! # Links that are given up

The owner of a link that is given up knows, so the link has no more to say: a late report would be
taken for one of the next link. A task that waits keeps to this, for it notices the shutdown before
anything else. While it opens the link the end of the attempt may be noticed first, and while a
frame is on its way the frame may still fail, and then there is a late report. -/

namespace GameClient

namespace SocketTask

/-- Nobody listens, or a shutdown is noticed before anything else, or it has been. -/
def Hushed (heard : Bool) (t : SocketTask) : Prop :=
  heard = false ∨ (t.phase = .waiting ∧ t.shutdownRequested = true) ∨ t.course = .ended

section

variable {heard : Bool} {t t' : SocketTask} {step : Step} {outputs : List Output}

theorem Move.eq_nil_of_deaf {events : List Event} (h : Move false t step t' events) :
    events = [] := by
  cases h with
  | run => rfl
  | connected _ heard => cases heard
  | received _ _ heard => cases heard
  | skipped => rfl
  | taken => rfl
  | sent => rfl
  | lost _ heard => cases heard
  | unheard => rfl
  | silent => rfl

theorem flushing_of_asked (waiting : t.phase = .waiting) (asked : t.shutdownRequested = true)
    (stepped : t.step? heard step = some (t', outputs)) : t'.phase = .flushing ∧ outputs = [] := by
  cases step with
  | shutdown =>
    simp only [step?, waiting, asked] at stepped
    cases stepped
    exact ⟨rfl, rfl⟩
  | take => simp [step?, waiting, asked] at stepped
  | receive message => simp [step?, waiting, asked] at stepped
  | run => simp [step?, waiting] at stepped
  | connected => simp [step?, waiting] at stepped
  | refused => simp [step?, waiting] at stepped
  | sent => simp [step?, waiting] at stepped
  | sendFailed => simp [step?, waiting] at stepped
  | close => simp [step?, waiting] at stepped

theorem Hushed.stepped (h : Hushed heard t) (stepped : t.step? heard step = some (t', outputs)) :
    Hushed heard t' ∧ reports outputs = [] := by
  rcases h with deaf | ⟨waiting, asked⟩ | ended
  · subst deaf
    exact ⟨.inl rfl, (move_of_step stepped).eq_nil_of_deaf⟩
  · obtain ⟨flushing, rfl⟩ := flushing_of_asked waiting asked stepped
    refine ⟨.inr (.inr ?_), rfl⟩
    rw [course, flushing]
  · obtain ⟨ended', silence⟩ := (move_of_step stepped).ended ended
    exact ⟨.inr (.inr ended'), silence⟩

/-- The attempt to connect and a frame on its way can fail at any time. -/
theorem exists_lost (h : t.phase = .connecting ∨ ∃ frame, t.phase = .sending frame) :
    ∃ step t' outputs, step.message? = none ∧ t.step? true step = some (t', outputs) ∧
      .disconnected ∈ reports outputs := by
  have loud (notice : Notice) : .disconnected ∈ reports (t.lose true [.note notice]).2 := by
    simp [lose, finish, reports, Output.event?]
  rcases h with connecting | ⟨frame, sending⟩
  · exact ⟨.refused "", _, _, rfl, by simp only [step?, connecting]; rfl, loud _⟩
  · exact ⟨.sendFailed "", _, _, rfl, by simp only [step?, sending]; rfl, loud _⟩

end

end SocketTask

/-- The owner gives up its link, alone or for a new one. -/
inductive WebSocket.LetGo (s : WebSocket) : WebSocket → Prop
  | disconnected : LetGo s s.disconnect
  | replaced : s.connect.1 = .accepted → LetGo s s.connect.2

theorem WebSocket.LetGo.former {s s' : WebSocket} {task : SocketTask} (h : LetGo s s')
    (current : s.current = some task) :
    s'.former[s.former.length]? = some { task with shutdownRequested := true } := by
  cases h with
  | disconnected => exact former_disconnect_of_current current
  | replaced accepted =>
    unfold connect at accepted ⊢
    split
    · exact former_disconnect_of_current current
    · next noRuntime =>
      rw [if_neg noRuntime] at accepted
      cases accepted

namespace Traffic

/-- The link reports neither that it is up nor that it is gone. -/
def Silent (link : Nat) (more : List Deed) : Prop :=
  .connected ∉ (record link more).reports ∧ .disconnected ∉ (record link more).reports

instance (link : Nat) (more : List Deed) : Decidable (Silent link more) :=
  inferInstanceAs (Decidable (_ ∧ _))

section

variable {s s' : Traffic} {more : List Deed} {link : Nat} {t t' : SocketTask}
  {step : SocketTask.Step} {outputs : List SocketTask.Output}

theorem Run.reports_of_hushed (run : Run s more s') (found : s.socket.former[link]? = some t)
    (hushed : t.Hushed s.heard) : (record link more).reports = [] := by
  -- Along the run the task stays hushed, and only its own steps can report.
  induction run generalizing t with
  | nil => rfl
  | @cons s m s' deed more step _ ih =>
    rw [reports_cons]
    cases step.aftermath found with
    | apart passes found' heard =>
      rw [passes.outputs]
      refine ih found' ?_
      rcases heard with same | deaf
      · rw [same]
        exact hushed
      · exact .inl deaf
    | stepped own stepped found' heard =>
      subst own
      obtain ⟨hushed', silence⟩ := hushed.stepped stepped
      rw [Deed.outputs, if_pos rfl, silence]
      exact ih found' (heard ▸ hushed')

/-- A step of its task is a step that a former link can make. -/
theorem exists_step_of_former (found : s.socket.former[link]? = some t)
    (unread : step.message? = none) (stepped : t.step? s.heard step = some (t', outputs)) :
    ∃ s', Step s (.task link step outputs) s' ∧ s'.socket.former[link]? = some t' ∧
      s'.heard = s.heard := by
  have inside : link < s.socket.former.length := (List.getElem?_eq_some_iff.mp found).1
  let socket : WebSocket := { s.socket with former := s.socket.former.set link t' }
  have possible : s.socket.stepLink? link s.heard step = some (socket, outputs) := by
    rw [WebSocket.stepLink?, if_pos inside]
    simp [WebSocket.stepFormer?, found, stepped, socket]
  exact ⟨{ s with socket }, .task unread possible, List.getElem?_set_self inside, rfl⟩

theorem exists_run_not_silent (found : s.socket.former[link]? = some t) (heard : s.heard = true)
    (unsettled : t.phase = .connecting ∨ ∃ frame, t.phase = .sending frame) :
    ∃ more s', Run s more s' ∧ ¬Silent link more := by
  obtain ⟨step, t', outputs, unread, stepped, loud⟩ := SocketTask.exists_lost unsettled
  obtain ⟨s', step, -, -⟩ := exists_step_of_former found unread (heard ▸ stepped)
  refine ⟨_, s', .cons step (.nil s'), fun silent => silent.2 ?_⟩
  rw [reports_cons, Deed.outputs, if_pos rfl]
  exact List.mem_append_left _ loud

theorem not_silent_cons {deed : Deed} (h : ¬Silent link more) : ¬Silent link (deed :: more) := by
  intro silent
  rw [Silent, reports_cons] at silent
  exact h ⟨fun up => silent.1 (List.mem_append_right _ up),
    fun gone => silent.2 (List.mem_append_right _ gone)⟩

/-- A task that has not run yet runs first, whether it is asked to shut down or not. -/
theorem exists_run_not_silent_of_spawned (found : s.socket.former[link]? = some t)
    (heard : s.heard = true) (spawned : t.phase = .spawned) :
    ∃ more s', Run s more s' ∧ ¬Silent link more := by
  have ran : t.step? s.heard .run =
      some ({ t with phase := .connecting }, [.note (.socketConnecting t.url)]) := by
    simp only [SocketTask.step?, spawned]
  obtain ⟨m, step, found', heard'⟩ := exists_step_of_former found rfl ran
  obtain ⟨more, s', run, loud⟩ := exists_run_not_silent found' (heard'.trans heard) (.inl rfl)
  exact ⟨_, s', .cons step run, not_silent_cons loud⟩

end

/-- A link that is given up reports nothing more if nobody listens, if its task waits, or if it
has said all. In any other case it can report that it is gone. -/
theorem silent_iff {s : Traffic} {task : SocketTask} {socket : WebSocket}
    (current : s.socket.current = some task) (gone : s.socket.LetGo socket) :
    (∀ more s', Run { s with socket } more s' → Silent s.socket.former.length more) ↔
      s.heard = false ∨ task.phase = .waiting ∨ task.course = .ended := by
  have found := gone.former current
  constructor
  · intro silent
    have quiet : ¬∃ more s', Run { s with socket } more s' ∧
        ¬Silent s.socket.former.length more := by
      rintro ⟨more, s', run, loud⟩
      exact loud (silent more s' run)
    cases heard : s.heard with
    | false => exact .inl rfl
    | true =>
      cases phase : task.phase with
      | spawned => exact (quiet (exists_run_not_silent_of_spawned found heard phase)).elim
      | connecting => exact (quiet (exists_run_not_silent found heard (.inl phase))).elim
      | waiting => exact .inr (.inl rfl)
      | sending frame =>
        exact (quiet (exists_run_not_silent found heard (.inr ⟨frame, phase⟩))).elim
      | flushing => exact .inr (.inr (by rw [SocketTask.course, phase]))
      | closing => exact .inr (.inr (by rw [SocketTask.course, phase]))
      | finished => exact .inr (.inr (by rw [SocketTask.course, phase]))
  · intro condition more s' run
    have hushed : SocketTask.Hushed s.heard { task with shutdownRequested := true } := by
      rcases condition with deaf | waiting | ended
      · exact .inl deaf
      · exact .inr (.inl ⟨waiting, rfl⟩)
      · exact .inr (.inr ended)
    have none := run.reports_of_hushed found hushed
    rw [Silent, none]
    exact ⟨List.not_mem_nil, List.not_mem_nil⟩

/-- A link is up, and a frame waits for it. -/
def oneWaiting : Traffic :=
  { socket := {
      url := "ws://server"
      current := some { url := "ws://server", phase := .waiting, outbox := [[7]] } } }

theorem silent_iff_oneWaiting :
    (∃ past, Run (start "ws://server" true) past oneWaiting) ∧
      (∀ more s', Run { oneWaiting with socket := oneWaiting.socket.disconnect } more s' →
        Silent 0 more) ∧
      ∀ more s', Run { oneWaiting with socket := oneWaiting.socket.connect.2 } more s' →
        Silent 0 more := by
  have run : Run (start "ws://server" true)
      [.connect .accepted, .task 0 .run [.note (.socketConnecting "ws://server")],
        .task 0 .connected [.note (.socketEstablished "ws://server"), .report .connected],
        .send 0 [7] .accepted] oneWaiting :=
    .cons (.connect _) <| .cons (.task rfl rfl) <| .cons (.task rfl rfl) <|
      .cons (.send _ _) <| .nil _
  exact ⟨⟨_, run⟩, (silent_iff rfl .disconnected).mpr (.inr (.inl rfl)),
    (silent_iff rfl (.replaced rfl)).mpr (.inr (.inl rfl))⟩

/-- Not every link that is given up is silent: here the attempt to connect to no address fails at
once, and the task notices this before the shutdown. -/
theorem not_silent_of_failedAttempt :
    ¬∀ (past more : List Deed) (s s' : Traffic) (task : SocketTask) (socket : WebSocket),
      Run (start "" true) past s → s.socket.current = some task → s.socket.LetGo socket →
      Run { s with socket } more s' → Silent s.socket.former.length more := by
  intro silent
  have run : Run (start "" true) [.connect .accepted] _ := .cons (.connect _) (.nil _)
  have late : Run { start "" true with socket := (start "" true).socket.connect.2.disconnect }
      [.task 0 .run [.note (.socketConnecting "")],
        .task 0 (.refused "no address")
          [.note (.socketRefused "" "no address"), .report .disconnected]] _ :=
    .cons (.task rfl rfl) <| .cons (.task rfl rfl) <| .nil _
  exact absurd (silent _ _ _ _ _ _ run rfl .disconnected late) (by decide)

end Traffic

end GameClient

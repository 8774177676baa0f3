import GameClient.Proofs.Traffic

/-! # What a link reports

A link says first that it is up and last that it is gone, and in between it hands on the frames of
its server. It reorders none and skips none. When it ends by itself it says so, and every frame
that was read has been reported by then. -/

namespace GameClient

def Event.frame? : Event → Option Bytes
  | frame bytes => some bytes
  | _ => none

/-- What a link can have reported, by the messages from its server. -/
inductive Reported (messages : List Inbound) : List Event → Prop
  | nothing : Reported messages []
  | refused : Reported messages [.disconnected]
  | up {frames : List Bytes} : frames <+: Inbound.binaries messages →
      Reported messages (.connected :: frames.map .frame)
  | ended {frames : List Bytes} : frames <+: Inbound.binaries messages →
      Reported messages (.connected :: frames.map .frame ++ [.disconnected])

theorem Inbound.binaries_prefix {messages more : List Inbound} (h : messages <+: more) :
    binaries messages <+: binaries more :=
  h.filterMap _

namespace Reported

variable {messages more : List Inbound} {events later : List Event}

theorem mono (h : Reported messages events) (longer : messages <+: more) :
    Reported more events := by
  cases h with
  | nothing => exact .nothing
  | refused => exact .refused
  | up frames => exact .up (frames.trans (Inbound.binaries_prefix longer))
  | ended frames => exact .ended (frames.trans (Inbound.binaries_prefix longer))

theorem disconnected_not_mem_dropLast (h : Reported messages events) :
    .disconnected ∉ events.dropLast := by
  have unsaid (frames : List Bytes) :
      Event.disconnected ∉ Event.connected :: frames.map .frame := by simp
  cases h with
  | nothing => exact List.not_mem_nil
  | refused => exact List.not_mem_nil
  | up => exact fun said => unsaid _ ((List.dropLast_sublist _).subset said)
  | ended =>
    rw [List.dropLast_concat]
    exact unsaid _

theorem eq_nil_of_disconnected_mem (h : Reported messages (events ++ later))
    (said : .disconnected ∈ events) : later = [] := by
  by_contra more
  apply h.disconnected_not_mem_dropLast
  rw [List.dropLast_append_of_ne_nil more]
  exact List.mem_append_left _ said

end Reported

namespace SocketTask

variable {heard : Bool} {r : Record} {t : SocketTask}

theorem reported_of_told (h : r.Told) : Reported r.readings r.reports := by
  rw [h]
  exact .up List.prefix_rfl

theorem Stage.reported (h : Stage heard r t) : Reported r.readings r.reports := by
  have ahead (h : r.reports = []) : Reported r.readings r.reports := by
    rw [h]
    exact .nothing
  unfold Stage at h
  split at h
  · exact ahead h.reports
  · exact ahead h.reports
  · exact reported_of_told h.told
  · exact reported_of_told h.told
  · exact reported_of_told h.1.told
  · exact reported_of_told h.1
  · cases h with
    | abandoned _ reports => exact ahead reports
    | refused reports =>
      rw [reports]
      exact .refused
    | unheard _ reports =>
      rcases List.prefix_cons_iff.mp reports with none | ⟨rest, some, rest_prefix⟩
      · exact ahead none
      · obtain ⟨frames, frames_prefix, rfl⟩ := List.prefix_map_iff.mp rest_prefix
        rw [some]
        exact .up frames_prefix
    | closed _ told => exact reported_of_told told
    | lost reports =>
      rw [reports]
      exact .ended List.prefix_rfl

/-- A link that ended by itself, before somebody who listens, has reported all of it. -/
theorem Stage.ended (h : Stage true r t) (finished : t.phase = .finished)
    (unasked : t.shutdownRequested = false) :
    r.reports.count .disconnected = 1 ∧ r.reports.filterMap Event.frame? = r.frames := by
  have told : (r.frames.map Event.frame).filterMap Event.frame? = r.frames := by
    simp [List.filterMap_map, Function.comp_def, Event.frame?]
  rw [Stage, finished] at h
  cases h with
  | abandoned asked =>
    rw [unasked] at asked
    cases asked
  | refused reports frames =>
    rw [reports, frames]
    exact ⟨rfl, rfl⟩
  | unheard deaf => cases deaf
  | closed asked =>
    rw [unasked] at asked
    cases asked
  | lost reports =>
    rw [reports]
    constructor
    · simp [List.count_eq_zero]
    · rw [List.cons_append, List.filterMap_cons, List.filterMap_append, told]
      exact List.append_nil _

end SocketTask

namespace Traffic

variable {url : String} {hasRuntime : Bool} {past : List Deed} {s : Traffic}

theorem Run.reported (run : Run (start url hasRuntime) past s) (link : Nat) :
    Reported (served link past) (record link past).reports := by
  cases found : s.socket.links[link]? with
  | none =>
    have unopened : record link past = {} :=
      ((lived_start url hasRuntime).run run).blank link (List.getElem?_eq_none_iff.mp found)
    rw [unopened]
    exact .nothing
  | some task => exact (run.life found).stage.reported.mono (run.readings_prefix link)

/-- In every run, what a link reports is in order, and nothing follows the report of its end. A
link that ended by itself has reported its end once and every frame that was read. -/
theorem reports_in_order (run : Run (start url hasRuntime) past s) (link : Nat) :
    Reported (served link past) (record link past).reports ∧
      (∀ more s', Run s more s' → .disconnected ∈ (record link past).reports →
        (record link more).reports = []) ∧
      ∀ task, s.socket.links[link]? = some task → task.phase = .finished →
        task.shutdownRequested = false → s.heard = true →
        (record link past).reports.count .disconnected = 1 ∧
          (record link past).reports.filterMap Event.frame? =
            Inbound.binaries (record link past).readings := by
  refine ⟨run.reported link, ?_, ?_⟩
  · intro more s' continued said
    have whole := (run.append continued).reported link
    have reports : (record link (past ++ more)).reports =
        (record link past).reports ++ (record link more).reports := by
      rw [record_append]
      exact SocketTask.reports_append _ _
    rw [reports] at whole
    exact whole.eq_nil_of_disconnected_mem said
  · intro task found finished unasked heard
    have stage := (run.life found).stage
    rw [heard] at stage
    exact stage.ended finished unasked

/-- The server greets, sends a frame more than is read, and closes while a frame is on its way. -/
def closedByServer : List Deed :=
  [.connect .accepted, .serve 0 (.binary [1, 2]), .serve 0 .other,
    .task 0 .run [.note (.socketConnecting "ws://server")],
    .task 0 .connected [.note (.socketEstablished "ws://server"), .report .connected],
    .task 0 (.receive (.binary [1, 2])) [.report (.frame [1, 2])],
    .send 0 [7] .accepted, .serve 0 (.binary [3]), .serve 0 .close, .serve 0 (.binary [4]),
    .task 0 .take [], .task 0 .sent [.transmit [7]], .task 0 (.receive .other) [],
    .task 0 (.receive (.binary [3])) [.report (.frame [3])],
    .task 0 (.receive .close) [.note .serverClosed, .report .disconnected]]

theorem reports_in_order_closedByServer :
    (record 0 closedByServer).reports =
        [.connected, .frame [1, 2], .frame [3], .disconnected] ∧
      Inbound.binaries (served 0 closedByServer) = [[1, 2], [3], [4]] ∧
      (record 0 closedByServer).reports.count .disconnected = 1 ∧
      (record 0 closedByServer).reports.filterMap Event.frame? =
        Inbound.binaries (record 0 closedByServer).readings := by
  have run : Run (start "ws://server" true) closedByServer _ :=
    .cons (.connect _) <| .cons (.serve _ _ _) <| .cons (.serve _ _ _) <| .cons (.task rfl rfl) <|
      .cons (.task rfl rfl) <| .cons (.read rfl rfl) <| .cons (.send _ _) <| .cons (.serve _ _ _) <|
      .cons (.serve _ _ _) <| .cons (.serve _ _ _) <| .cons (.task rfl rfl) <|
      .cons (.task rfl rfl) <| .cons (.read rfl rfl) <| .cons (.read rfl rfl) <|
      .cons (.read rfl rfl) <| .nil _
  obtain ⟨once, all⟩ := (reports_in_order run 0).2.2 _ rfl rfl rfl rfl
  exact ⟨by decide, by decide, once, all⟩

end Traffic

end GameClient

import GameClient.Player.Script
import GameClient.Proofs.Operations
import GameClient.Proofs.Traffic

/-! # What is left with a link is sent

A link that is given up sends what was left with it, and then says so to the server. It makes no
difference whether a frame was taken up before or after, or left before the link was up. A client
that is torn down leaves a LEAVE last, so that is the last frame the server is sent. -/

namespace GameClient

/-- The LEAVE of a teardown is handed over before the transport is disconnected. -/
theorem Client.teardown_of_send_mem {τ ι : Type} [Transport τ] [Sampler ι] {c : Client τ ι}
    {frame : Bytes} {answer : Answer} (h : .send frame answer ∈ c.teardown.2) :
    (Transport.send frame c.transport).1 = answer ∧
      c.teardown.1.transport = Transport.disconnect (Transport.send frame c.transport).2 := by
  cases torn : c.tornDown with
  | true =>
    rw [teardown_of_tornDown torn] at h
    cases h
  | false =>
    cases ready : c.session.readyId with
    | none =>
      rw [teardown_snd torn, leave_of_not_ready (c := c.tearing) ready] at h
      simp at h
    | some id =>
      rw [teardown_fst torn, leave_fst (c := c.tearing) ready]
      rw [teardown_snd torn, leave, show c.tearing.session.readyId = some id from ready] at h
      dsimp only at h
      split at h
      · next handed =>
        obtain ⟨rfl, rfl⟩ : frame = Control.encode ⟨.leave, id, c.session.seq⟩ ∧
            answer = .accepted := by simpa [tearing] using h
        exact ⟨congrArg Prod.fst handed, rfl⟩
      · next error _ handed =>
        obtain ⟨rfl, rfl⟩ : frame = Control.encode ⟨.leave, id, c.session.seq⟩ ∧
            answer = .refused error := by simpa [tearing] using h
        exact ⟨congrArg Prod.fst handed, rfl⟩

theorem WebSocket.current_of_accepted {frame : Bytes} {s : WebSocket}
    (h : (s.send frame).1 = .accepted) : ∃ task, (s.send frame).2.current = some task := by
  unfold send at h ⊢
  split at h
  · cases h
  · split at h
    · cases h
    · next unfinished =>
      rw [if_neg unfinished]
      exact ⟨_, rfl⟩

namespace SocketTask

variable {r : Record} {t : SocketTask}

theorem Stage.flushed (h : Stage true r t) (up : .connected ∈ r.reports) (unbroken : ¬r.Broken)
    (finished : t.phase = .finished) : r.parcels = r.accepted.map .binary ++ [.close] := by
  rw [Stage, finished] at h
  cases h with
  | abandoned _ reports => simp [reports] at up
  | refused reports => simp [reports] at up
  | unheard deaf => cases deaf
  | closed _ _ sent => exact sent.resolve_left unbroken
  | lost _ broken => exact absurd broken unbroken

end SocketTask

namespace Traffic

/-- The link came up and is over. All the time somebody listened, and neither did the server end
it nor did a frame fail to get through. -/
structure Concluded (s : Traffic) (past : List Deed) (link : Nat) : Prop where
  up : .connected ∈ (record link past).reports
  heard : s.heard = true
  unbroken : ¬(record link past).Broken
  finished : ∃ task, s.socket.links[link]? = some task ∧ task.phase = .finished

section

variable {s s' : Traffic} {more : List Deed} {link : Nat}

theorem Run.accepted_of_former (run : Run s more s') {task : SocketTask}
    (found : s.socket.former[link]? = some task) : (record link more).accepted = [] := by
  induction run generalizing task with
  | nil => rfl
  | @cons s m s' deed more step _ ih =>
    obtain ⟨none, later, found'⟩ : deed.accepted? link = none ∧
        ∃ task', m.socket.former[link]? = some task' := by
      cases step.aftermath found with
      | apart passes found' => exact ⟨passes.accepted, task, found'⟩
      | stepped own _ found' =>
        subst own
        exact ⟨rfl, _, found'⟩
    rw [record, List.filterMap_cons_none none]
    exact ih found'

end

variable {ι : Type} [Sampler ι] {url : String} {hasRuntime : Bool} {past : List Deed} {s : Traffic}

theorem Run.flushed (run : Run (start url hasRuntime) past s) {link : Nat}
    (concluded : Concluded s past link) :
    (record link past).parcels = (record link past).accepted.map .binary ++ [.close] := by
  obtain ⟨task, found, finished⟩ := concluded.finished
  have stage := (run.life found).stage
  rw [concluded.heard] at stage
  exact stage.flushed concluded.up concluded.unbroken finished

/-- A link that was up and was then given up has sent the server each frame that was accepted for
it, once and in order, then Close, and nothing after it. The last of the frames is the LEAVE, if a
teardown gave up the link. -/
theorem flushed_before_close (run : Run (start url hasRuntime) past s) :
    (∀ link, Concluded s past link →
      (record link past).parcels = (record link past).accepted.map .binary ++ [.close]) ∧
    ∀ (c : Client WebSocket ι) (id : SessionId) (since : List Deed) (s' : Traffic),
      let link := s.socket.former.length
      let leave := Control.encode ⟨.leave, id, c.session.seq⟩
      let whole := past ++ .send link leave .accepted :: .disconnect :: since
      c.transport = s.socket → .send leave .accepted ∈ c.teardown.2 →
      Run { s with socket := c.teardown.1.transport } since s' → Concluded s' whole link →
      (record link whole).parcels =
        (record link past).accepted.map .binary ++ [.binary leave, .close] := by
  refine ⟨fun link => run.flushed, ?_⟩
  intro c id since s' link leave whole attached left continued concluded
  obtain ⟨answered, transport⟩ := Client.teardown_of_send_mem left
  rw [attached] at answered transport
  rw [transport] at continued
  -- A teardown is a send and a disconnect for the transport, so all of it is one run.
  have sent : Step s (.send link leave .accepted)
      { s with socket := (s.socket.send leave).2 } := by
    have step := Step.send s leave
    rw [show (s.socket.send leave).1 = .accepted from answered] at step
    exact step
  have flushed := (run.append (.cons sent (.cons (.disconnect _) continued))).flushed concluded
  have none : (record link since).accepted = [] := by
    obtain ⟨task, current⟩ := WebSocket.current_of_accepted answered
    have former := WebSocket.former_disconnect_of_current current
    rw [WebSocket.former_send] at former
    exact continued.accepted_of_former former
  have accepted : (record link whole).accepted = (record link past).accepted ++ [leave] := by
    have last : (record link (.send link leave .accepted :: .disconnect :: since)).accepted =
        leave :: (record link since).accepted := by
      have first : (Deed.send link leave .accepted).accepted? link = some leave := if_pos rfl
      rw [record, List.filterMap_cons_some first, List.filterMap_cons_none rfl]
      rfl
    rw [record_append, last, none]
  rw [flushed, accepted, List.map_append, List.append_assoc]
  rfl

/-- A frame is left before the link is up, and it is on its way when the client is torn down. -/
def untilTeardown : List Deed :=
  [.connect .accepted, .send 0 [9] .accepted,
    .task 0 .run [.note (.socketConnecting "ws://server")],
    .task 0 .connected [.note (.socketEstablished "ws://server"), .report .connected],
    .task 0 .take []]

/-- The state in which the client is torn down. -/
def duringSend : Traffic :=
  { socket := {
      url := "ws://server"
      current := some { url := "ws://server", phase := .sending [9] } } }

def playing : Client WebSocket KeyScript where
  transport := duringSend.socket
  input := {}
  session := { connection := .connected, id := some ⟨List.replicate 16 0, rfl⟩, seq := 4 }

def farewell : Bytes := Control.encode ⟨.leave, ⟨List.replicate 16 0, rfl⟩, 4⟩

def sinceTeardown : List Deed :=
  [.task 0 .sent [.transmit [9]], .task 0 .shutdown [], .task 0 .sent [.transmit farewell],
    .task 0 .close [.transmitClose, .note (.socketClosed "ws://server")]]

theorem flushed_before_close_duringSend :
    let whole := untilTeardown ++ .send 0 farewell .accepted :: .disconnect :: sinceTeardown
    (record 0 whole).parcels = [.binary [9], .binary farewell, .close] := by
  intro whole
  have run : Run (start "ws://server" true) untilTeardown duringSend :=
    .cons (.connect _) <| .cons (.send _ _) <| .cons (.task rfl rfl) <| .cons (.task rfl rfl) <|
      .cons (.task rfl rfl) <| .nil _
  have since : Run { duringSend with socket := playing.teardown.1.transport } sinceTeardown _ :=
    .cons (.task rfl rfl) <| .cons (.task rfl rfl) <| .cons (.task rfl rfl) <|
      .cons (.task rfl rfl) <| .nil _
  exact (flushed_before_close run).2 playing ⟨List.replicate 16 0, rfl⟩ sinceTeardown _ rfl
    (by decide) since ⟨by decide, rfl, by decide, _, rfl, rfl⟩

end Traffic

end GameClient

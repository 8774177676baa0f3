import GameClient.Proofs.Trail

/-! # What a call may do

Each kind of call has its own repertoire. Only a start or a reconnect asks for a link, only a tick
samples and renders, and only a teardown gives up the link and the input. What a loop says about its
timer and its channel its client never says. -/

namespace GameClient

/-- The loop says so, not its client. -/
def Notice.isLoops : Notice → Bool
  | .firstConnectRefused _ => true
  | .reconnectRefused _ => true
  | .channelClosed => true
  | .attemptsExhausted _ => true
  | .reconnectScheduled .. => true
  | _ => false

/-- A call of this kind may have the effect. -/
def Call.allows {τ ι : Type} (call : Call τ ι) : Effect → Bool
  | .connect _ | .report _ => match call with
    | .start | .reconnect => true
    | _ => false
  | .send .. => match call with
    | .handle _ | .tick | .teardown => true
    | _ => false
  | .sample _ | .render .. => match call with
    | .tick => true
    | _ => false
  | .disconnect | .release => match call with
    | .teardown => true
    | _ => false
  | .note notice => !notice.isLoops
  | .publish _ => false

namespace Client

variable {τ ι : Type} [Transport τ]

theorem allows_send {call : Call τ ι} (c : Client τ ι) (frame : Bytes) {notices : List Notice}
    (sends : ∀ answer, call.allows (.send frame answer) = true)
    (own : ∀ notice ∈ notices, notice.isLoops = false) :
    ∀ effect ∈ (c.send frame notices).2, call.allows effect = true := by
  intro effect done
  unfold send at done
  split at done
  · rcases List.mem_cons.mp done with rfl | noted
    · exact sends _
    · obtain ⟨notice, listed, rfl⟩ := List.mem_map.mp noted
      simp [Call.allows, own notice listed]
  · simp only [List.mem_cons, List.not_mem_nil, or_false] at done
    rcases done with rfl | rfl
    · exact sends _
    · rfl

theorem allows_onFrame (c : Client τ ι) (frame : Bytes) :
    ∀ effect ∈ (c.onFrame frame).2, (Call.handle (.frame frame) : Call τ ι).allows effect = true := by
  have joins (c : Client τ ι) (id : SessionId) : ∀ effect ∈ (c.join id).2,
      (Call.handle (.frame frame) : Call τ ι).allows effect = true := by
    intro effect done
    rcases List.mem_cons.mp done with rfl | sent
    · rfl
    · exact allows_send _ _ (fun _ => rfl) (by simp [Notice.isLoops]) effect sent
  unfold onFrame onControl onAssign onBroadcast
  intro effect done
  dsimp only at done
  split at done
  · split at done
    · split at done
      · simp_all [drop, Call.allows, Notice.isLoops]
      · split at done
        · exact joins _ _ effect done
        · simp_all [drop, Call.allows, Notice.isLoops]
    · simp_all [ignore, Call.allows, Notice.isLoops]
    · simp_all [drop, Call.allows, Notice.isLoops]
  · split at done <;> simp_all [drop, Call.allows, Notice.isLoops]
  · simp_all [ignore, Call.allows, Notice.isLoops]
  · simp_all [drop, Call.allows, Notice.isLoops]

variable [Sampler ι]

theorem allows_tick (c : Client τ ι) :
    ∀ effect ∈ c.tick.2, (Call.tick : Call τ ι).allows effect = true := by
  intro effect done
  cases ready : c.session.readyId with
  | none =>
    rw [tick_of_not_ready ready, List.mem_singleton] at done
    rw [done]
    rfl
  | some id =>
    rw [tick_of_ready ready, List.mem_append, List.mem_cons, List.mem_singleton] at done
    rcases done with (rfl | sent) | rfl
    · rfl
    · unfold sendKeys at sent
      split at sent
      · cases sent
      · exact allows_send _ _ (fun _ => rfl) (by simp) effect sent
    · rfl

theorem allows_teardown (c : Client τ ι) :
    ∀ effect ∈ c.teardown.2, (Call.teardown : Call τ ι).allows effect = true := by
  intro effect done
  unfold teardown at done
  split at done
  · cases done
  · rcases List.mem_append.mp done with left | closed
    · unfold leave at left
      split at left
      · cases left
      · dsimp only at left
        split at left <;> simp_all <;> rcases left with rfl | rfl <;> rfl
    · simp only [List.mem_cons, List.not_mem_nil, or_false] at closed
      rcases closed with rfl | rfl | rfl <;> rfl

/-- A client does only what the call allows. -/
theorem allows_of_mem_perform (c : Client τ ι) (call : Call τ ι) :
    ∀ effect ∈ (c.perform call).2, call.allows effect = true := by
  cases call with
  | start =>
    intro effect done
    simp only [perform, start, connect, List.mem_cons, List.mem_map] at done
    rcases done with rfl | rfl | ⟨event, -, rfl⟩ <;> rfl
  | reconnect =>
    intro effect done
    simp only [perform, reconnect, connect, List.mem_cons, List.mem_map] at done
    rcases done with rfl | rfl | ⟨event, -, rfl⟩ <;> rfl
  | handle event =>
    cases event with
    | connected =>
      intro effect done
      cases List.mem_singleton.mp done
      rfl
    | disconnected =>
      intro effect done
      cases List.mem_singleton.mp done
      rfl
    | frame bytes => exact c.allows_onFrame bytes
  | tick => exact c.allows_tick
  | teardown => exact c.allows_teardown
  | disturb transport input => exact fun _ done => nomatch done

/-- What no effect that the call allows shows, the call does not show. -/
theorem filterMap_perform_eq_nil {β : Type} {f : Effect → Option β} {call : Call τ ι}
    (idle : ∀ effect, call.allows effect = true → f effect = none) (c : Client τ ι) :
    (c.perform call).2.filterMap f = [] := by
  rw [List.filterMap_eq_nil_iff]
  exact fun effect done => idle effect (c.allows_of_mem_perform call effect done)

end Client

end GameClient

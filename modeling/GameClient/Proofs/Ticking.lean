import GameClient.Proofs.Grammar
import GameClient.Proofs.Rendering

/-! # Ticks, samples and INPUTs

A run ticks, samples its input and hands over INPUTs, and the three go together: each tick renders
once, a tick that finds a session ready samples once, and the INPUTs are the samples with a key held,
each under the id of its tick. All three are read off the states in which the ticks find the client. -/

namespace GameClient

/-- The id and the keys of an INPUT. -/
def pressed? (frame : Bytes) : Option (SessionId × KeyMask) :=
  match Input.decode frame with
  | .ok input => some (input.sessionId, input.keys)
  | .error _ => none

@[simp] theorem pressed?_input (input : Input) :
    pressed? input.encode = some (input.sessionId, input.keys) := by
  rw [pressed?, Input.decode_encode]

theorem pressed?_of_control {frame : Bytes} {m : Control} (control : Control.decode frame = .ok m) :
    pressed? frame = none := by
  unfold pressed?
  split
  · next keys => exact (not_both_decode control keys).elim
  · rfl

theorem Session.Move.unpressed {s s' : Session} {marks : List Mark} (h : Move s marks s')
    (unsampled : Mark.samples marks = []) : (Mark.frames marks).filterMap pressed? = [] := by
  cases h with
  | stay => rfl
  | up => rfl
  | lost => rfl
  | join id _ =>
    have joined := pressed?_of_control (Control.decode_encode ⟨.join, id, s.seq⟩ (.inl rfl))
    exact List.filterMap_cons_none joined
  | silent => cases unsampled
  | keys => cases unsampled
  | @leave id _ =>
    have left := pressed?_of_control (Control.decode_encode ⟨.leave, id, s.seq⟩ (.inr rfl))
    exact List.filterMap_cons_none left
  | close => rfl

/-- The call is a tick. -/
def Call.isTick {τ ι : Type} : Call τ ι → Bool
  | tick => true
  | _ => false

open Effect

namespace Client

variable {τ ι : Type} [Transport τ] [Sampler ι]

/-! ## One tick -/

/-- What the next tick samples, with the id of the session that is ready for it. -/
def sampled? (c : Client τ ι) : Option (SessionId × KeyMask) :=
  c.session.readyId.map fun id => (id, c.heldKeys)

theorem samples_tick_eq (c : Client τ ι) :
    samples c.tick.2 = (c.sampled?.map Prod.snd).toList := by
  unfold sampled?
  cases ready : c.session.readyId with
  | none =>
    rw [tick_of_not_ready ready]
    rfl
  | some id => exact samples_tick ready

theorem pressed_tick (c : Client τ ι) : (frames c.tick.2).filterMap pressed? =
    (c.sampled?.filter fun sample => !sample.2.isEmpty).toList := by
  unfold sampled?
  cases ready : c.session.readyId with
  | none =>
    rw [tick_of_not_ready ready]
    rfl
  | some id =>
    rw [frames_tick ready, Option.map_some, Option.filter_some]
    cases empty : c.heldKeys.isEmpty with
    | true => simp
    | false => simp

omit [Sampler ι] in
theorem input_sendKeys (c : Client τ ι) (id : SessionId) (keys : KeyMask) :
    (c.sendKeys id keys).1.input = c.input := by
  cases empty : keys.isEmpty with
  | true => rw [sendKeys_of_isEmpty c id empty]
  | false =>
    rw [sendKeys_fst c id empty]
    rfl

theorem rendered_tick (c : Client τ ι) :
    ∃ before, c.tick.2 = before ++ [.render c.tick.1.actors c.tick.1.session.id] ∧
      pictures before = [] := by
  cases ready : c.session.readyId with
  | none =>
    rw [tick_of_not_ready ready]
    exact ⟨[], rfl, rfl⟩
  | some id =>
    rw [tick_of_ready ready]
    exact ⟨_, rfl, c.sampling.pictures_sendKeys id c.heldKeys⟩

theorem id_tick (c : Client τ ι) : c.tick.1.session.id = c.session.id := by
  rcases c.ticked.session with same | advanced
  · rw [same]
  · rw [advanced, Session.advance]

theorem input_tick (c : Client τ ι) :
    c.tick.1.input = if c.session.isReady then (Sampler.sample c.input).2 else c.input := by
  rw [c.session.isReady_eq_isSome_readyId]
  cases ready : c.session.readyId with
  | none =>
    rw [tick_of_not_ready ready]
    rfl
  | some id =>
    rw [tick_of_ready ready]
    exact c.sampling.input_sendKeys id c.heldKeys

/-- Without keys only the input can tell that there was a tick. -/
theorem tick_of_isEmpty {c : Client τ ι} {id : SessionId} (ready : c.session.readyId = some id)
    (empty : c.heldKeys.isEmpty = true) :
    c.tick = (c.sampling, [.sample c.heldKeys, .render c.actors c.session.id]) := by
  rw [tick_of_ready ready, sendKeys_of_isEmpty _ _ empty]
  rfl

theorem samples_perform {call : Call τ ι} (other : call ≠ .tick) (c : Client τ ι) :
    samples (c.perform call).2 = [] := by
  refine c.filterMap_perform_eq_nil ?_
  intro effect allowed
  cases effect with
  | sample => cases call <;> simp_all [Call.allows]
  | _ => rfl

theorem pressed_perform {call : Call τ ι} (other : call ≠ .tick) (c : Client τ ι) :
    (frames (c.perform call).2).filterMap pressed? = [] := by
  have unsampled := samples_perform other c
  rw [← samples_marks] at unsampled
  rw [← frames_marks]
  exact (c.step_perform call).session.unpressed unsampled

/-- What one tick does. -/
structure TicksOnce (c : Client τ ι) : Prop where
  /-- It renders when all else is done, and not before. -/
  rendered : ∃ before, c.tick.2 = before ++ [.render c.actors c.session.id] ∧ pictures before = []
  actors : c.tick.1.actors = c.actors
  id : c.tick.1.session.id = c.session.id
  sampled : samples c.tick.2 = if c.session.isReady then [c.heldKeys] else []
  input : c.tick.1.input = if c.session.isReady then (Sampler.sample c.input).2 else c.input
  /-- Without a session it does nothing else. -/
  idle : c.session.isReady = false → c.tick = (c, [.render c.actors c.session.id])
  /-- Without keys it does nothing else but sample. -/
  silent : c.session.isReady = true → c.heldKeys.isEmpty = true →
    c.tick = (c.sampling, [.sample c.heldKeys, .render c.actors c.session.id])
  /-- With keys it hands over one INPUT under the next number, whatever becomes of it. -/
  pressed : ∀ id, c.session.readyId = some id → c.heldKeys.isEmpty = false →
    frames c.tick.2 = [Input.encode ⟨id, c.session.seq, c.heldKeys⟩] ∧
      c.tick.1.session = c.session.advance

theorem ticksOnce (c : Client τ ι) : c.TicksOnce where
  rendered := by
    have rendered := c.rendered_tick
    rw [c.ticked.actors, c.id_tick] at rendered
    exact rendered
  actors := c.ticked.actors
  id := c.id_tick
  sampled := by
    rw [samples_tick_eq, sampled?, c.session.isReady_eq_isSome_readyId]
    cases c.session.readyId with
    | none => rfl
    | some id => rfl
  input := c.input_tick
  idle unready := by
    rw [c.session.isReady_eq_isSome_readyId, Option.isSome_eq_false_iff,
      Option.isNone_iff_eq_none] at unready
    exact tick_of_not_ready unready
  silent ready empty := by
    rw [c.session.isReady_eq_isSome_readyId] at ready
    obtain ⟨id, ready⟩ := Option.isSome_iff_exists.mp ready
    exact tick_of_isEmpty ready empty
  pressed id ready pressed := by
    constructor
    · rw [frames_tick ready, pressed]
      rfl
    · rw [tick_of_ready ready, sendKeys_fst _ _ pressed]
      rfl

/-! ## All ticks of a run -/

/-- The states in which the ticks of a run find the client. -/
def ticks : Client τ ι → List (Call τ ι) → List (Client τ ι)
  | _, [] => []
  | c, call :: calls => (if call.isTick then [c] else []) ++ (c.perform call).1.ticks calls

theorem length_ticks (c : Client τ ι) (calls : List (Call τ ι)) :
    (c.ticks calls).length = calls.countP Call.isTick := by
  induction calls generalizing c with
  | nil => rfl
  | cons call calls ih =>
    rw [ticks, List.length_append, ih, List.countP_cons, Nat.add_comm]
    split <;> rfl

/-- What is only done in ticks, a run does in each of its ticks. -/
theorem filterMap_effects_eq {β : Type} {f : Effect → Option β} {g : Client τ ι → Option β}
    (tick : ∀ c : Client τ ι, c.tick.2.filterMap f = (g c).toList)
    (other : ∀ call : Call τ ι, call ≠ .tick → ∀ c : Client τ ι, (c.perform call).2.filterMap f = [])
    (c : Client τ ι) (calls : List (Call τ ι)) :
    (c.effects calls).filterMap f = (c.ticks calls).filterMap g := by
  induction calls generalizing c with
  | nil => rfl
  | cons call calls ih =>
    rw [effects, ticks, List.filterMap_append, List.filterMap_append, ih]
    refine congrArg (· ++ _) ?_
    cases call with
    | tick =>
      calc (c.perform .tick).2.filterMap f = (g c).toList := tick c
        _ = (g c).toList ++ [].filterMap g := (List.append_nil _).symm
        _ = [c].filterMap g := (filterMap_cons_eq g c []).symm
    | _ => exact other _ (by intro same; cases same) c

theorem pictures_effects (c : Client τ ι) (calls : List (Call τ ι)) :
    pictures (c.effects calls) = (c.ticks calls).map fun d => (d.actors, d.session.id) := by
  rw [← List.filterMap_eq_map]
  refine filterMap_effects_eq ?_ (fun _ other => pictures_perform other) c calls
  intro c
  have shown := c.pictures_tick
  rw [c.ticked.actors, c.id_tick] at shown
  exact shown

theorem samples_effects (c : Client τ ι) (calls : List (Call τ ι)) :
    samples (c.effects calls) = ((c.ticks calls).filterMap sampled?).map Prod.snd := by
  rw [List.map_filterMap]
  exact filterMap_effects_eq samples_tick_eq (fun _ other => samples_perform other) c calls

theorem pressed_effects (c : Client τ ι) (calls : List (Call τ ι)) :
    (frames (c.effects calls)).filterMap pressed? =
      ((c.ticks calls).filterMap sampled?).filter fun sample => !sample.2.isEmpty := by
  rw [frames, List.filterMap_filterMap, List.filter_filterMap]
  refine filterMap_effects_eq ?_ ?_ c calls
  · intro c
    rw [← List.filterMap_filterMap]
    exact c.pressed_tick
  · intro call other c
    rw [← List.filterMap_filterMap]
    exact pressed_perform other c

/-- Each tick of a run renders once. The samples are those of the ticks that find a session ready, and
the INPUTs are the samples in which a key is held, in their order and with the ids of these sessions. -/
theorem ticks_end_to_end (transport : τ) (input : ι) (calls : List (Call τ ι)) :
    let c : Client τ ι := new transport input
    (∀ before rest, calls = before ++ .tick :: rest → (c.after before).TicksOnce) ∧
    (pictures (c.effects calls)).length = calls.countP Call.isTick ∧
    pictures (c.effects calls) = (c.ticks calls).map (fun d => (d.actors, d.session.id)) ∧
    samples (c.effects calls) = ((c.ticks calls).filterMap sampled?).map Prod.snd ∧
    (frames (c.effects calls)).filterMap pressed? =
      ((c.ticks calls).filterMap sampled?).filter (fun sample => !sample.2.isEmpty) := by
  intro c
  refine ⟨fun before _ _ => (c.after before).ticksOnce, ?_, c.pictures_effects calls,
    c.samples_effects calls, c.pressed_effects calls⟩
  rw [pictures_effects, List.length_map, length_ticks]

end Client

end GameClient

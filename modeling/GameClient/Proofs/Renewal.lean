import GameClient.Player.Script
import GameClient.Proofs.Grammar
import GameClient.Transport.Memory

/-! # New links and old sessions

A link that comes up should find the client without a session. Whether it does is decided by the
history: an id that was assigned stays until its link is reported lost or the client is torn down,
and a transport may replace a link without a word. -/

namespace GameClient

/-- The id that is held after these marks: the last one assigned, unless its session ended. -/
def heldAfter : Option SessionId → List Mark → Option SessionId
  | held, [] => held
  | _, .assigned id :: marks => heldAfter (some id) marks
  | held, .sampled _ :: marks => heldAfter held marks
  | held, .handed _ :: marks => heldAfter held marks
  | _, .lost :: marks => heldAfter none marks
  | _, .tornDown :: marks => heldAfter none marks

theorem heldAfter_append (held : Option SessionId) (marks more : List Mark) :
    heldAfter held (marks ++ more) = heldAfter (heldAfter held marks) more := by
  induction marks generalizing held with
  | nil => rfl
  | cons mark marks ih =>
    cases mark with
    | assigned id => exact ih (some id)
    | sampled keys => exact ih held
    | handed frame => exact ih held
    | lost => exact ih none
    | tornDown => exact ih none

theorem Session.Move.heldAfter_eq {s s' : Session} {marks : List Mark} (h : Move s marks s') :
    heldAfter s.id marks = s'.id := by
  cases h <;> rfl

/-- Without an id and without an ASSIGN, nothing is sampled or handed over. -/
theorem Grammar.quiet {marks : List Mark} (h : Grammar none marks)
    (unassigned : Mark.ids marks = []) :
    Mark.frames marks = [] ∧ Mark.samples marks = [] := by
  -- The index is made a variable for the induction; a production under an id then contradicts it.
  generalize same : (none : Option SessionId) = held at h
  induction h with
  | done held => exact ⟨rfl, rfl⟩
  | join held id seq _ _ => cases unassigned
  | silent keys _ _ => cases same
  | keys seq _ _ _ => cases same
  | leave seq _ _ => cases same
  | lost held _ ih => exact ih unassigned rfl
  | close _ ih => exact ih unassigned rfl

namespace Client

variable {τ ι : Type} [Transport τ] [Sampler ι]

theorem heldAfter_trail (c : Client τ ι) (calls : List (Call τ ι)) :
    heldAfter c.session.id (c.trail calls) = (c.after calls).session.id := by
  induction calls generalizing c with
  | nil => rfl
  | cons call calls ih =>
    rw [trail, heldAfter_append, (c.step_perform call).session.heldAfter_eq, ih]
    rfl

/-- The client is on a link without a session: until the next accepted ASSIGN no run samples the
keys or hands over a frame. -/
structure Renewed (c : Client τ ι) : Prop where
  up : c.session.connection = .connected
  unassigned : c.session.id = none
  quiet : ∀ calls : List (Call τ ι), Mark.ids (c.trail calls) = [] →
    Effect.frames (c.effects calls) = [] ∧ Effect.samples (c.effects calls) = []

theorem renewed_of_unassigned {c : Client τ ι} (up : c.session.connection = .connected)
    (unassigned : c.session.id = none) : Renewed c := by
  refine ⟨up, unassigned, ?_⟩
  intro calls none
  have grammar := c.grammar_trail (fun _ => up) calls
  rw [unassigned] at grammar
  have quiet := grammar.quiet none
  rw [frames_trail, samples_trail] at quiet
  exact quiet

/-- The client goes on under the session `id`: a tick samples the keys and sends them, and a
teardown says LEAVE. -/
structure GoesOn (id : SessionId) (c : Client τ ι) : Prop where
  samples : Effect.samples c.tick.2 = [c.heldKeys]
  inputs : Effect.frames c.tick.2 =
    if c.heldKeys.isEmpty then [] else [Input.encode ⟨id, c.session.seq, c.heldKeys⟩]
  leaves : Effect.frames c.teardown.2 =
    if c.tornDown then [] else [Control.encode ⟨.leave, id, c.session.seq⟩]

theorem goesOn_of_held {c : Client τ ι} {id : SessionId} (up : c.session.connection = .connected)
    (held : c.session.id = some id) : GoesOn id c := by
  have ready : c.session.readyId = some id := by
    rw [Session.readyId, if_pos up, held]
  exact ⟨samples_tick ready, frames_tick ready, frames_teardown ready⟩

/-- A link that comes up leaves the id as the history of the run has it. So the client starts anew
exactly when the last session before has ended, and else goes on under its id. -/
theorem renewed_iff (transport : τ) (input : ι) (calls : List (Call τ ι)) :
    (Renewed (((new transport input).after calls).handle .connected).1 ↔
      heldAfter none ((new transport input).trail calls) = none) ∧
    ∀ id, heldAfter none ((new transport input).trail calls) = some id →
      GoesOn id (((new transport input).after calls).handle .connected).1 := by
  have held : heldAfter none _ = _ := heldAfter_trail (new transport input) calls
  rw [held]
  refine ⟨⟨?_, ?_⟩, ?_⟩
  · intro renewed
    exact renewed.unassigned
  · intro unassigned
    exact renewed_of_unassigned rfl unassigned
  · intro id still
    exact goesOn_of_held rfl still

/-- Reconnecting with a live session: the transport replaces its link and reports only that the
new one is up. -/
def liveReconnect : List (Call Memory KeyScript) :=
  [.start, .handle .connected, .handle (.frame zeroAssign), .reconnect]

/-- The id of the old link is still held on the new one, and the next tick sends under it. -/
theorem not_renewed_of_liveReconnect :
    ¬ Renewed (((new (τ := Memory) {} ({ held := .up } : KeyScript)).after
      liveReconnect).handle .connected).1 := by
  intro renewed
  exact absurd renewed.unassigned (by decide)

end Client

end GameClient

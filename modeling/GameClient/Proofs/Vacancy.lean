import GameClient.Proofs.Accounts
import GameClient.Proofs.Delivery
import GameClient.Proofs.News
import Mathlib.Data.List.Induction

/-! # Who is shown without a link

The loss of a link and a teardown clear the list of actors, and an ASSIGN without a link is dropped.
A broadcast is not: whenever it can be read, its actors replace those that are shown. So a client
without a link shows nobody exactly as long as it is sent no broadcast of somebody. -/

namespace GameClient

theorem Call.broadcast?_eq_some_iff {τ ι : Type} {call : Call τ ι} {actors : List Actor} :
    call.broadcast? = some actors ↔
      ∃ frame, call = .handle (.frame frame) ∧ Broadcast.decode frame = .ok actors := by
  have toOption {frame : Bytes} :
      (Broadcast.decode frame).toOption = some actors ↔ Broadcast.decode frame = .ok actors := by
    cases Broadcast.decode frame <;> simp [Except.toOption]
  constructor
  · intro broadcast
    obtain ⟨frame, framed, read⟩ := Option.bind_eq_some_iff.mp broadcast
    unfold frame? at framed
    split at framed
    · cases framed
      exact ⟨frame, rfl, toOption.mp read⟩
    · cases framed
  · rintro ⟨frame, rfl, read⟩
    exact toOption.mpr read

namespace Client

variable {τ ι : Type}

/-- What a call makes of the actors and the link. -/
inductive Recast (c : Client τ ι) (call : Call τ ι) (c' : Client τ ι) : Prop
  | taken {actors : List Actor} : call.broadcast? = some actors → c'.actors = actors →
      c'.session = c.session → Recast c call c'
  | cleared : c'.actors = [] → Recast c call c'
  | up : c'.session.connection = .connected → Recast c call c'
  | kept : c'.actors = c.actors → c'.session.connection = c.session.connection → Recast c call c'

variable [Transport τ]

theorem actors_onControl (c : Client τ ι) (frame : Bytes) :
    (c.onControl frame).1.actors = c.actors := by
  unfold onControl
  split
  · unfold onAssign
    split
    · rfl
    · split
      · rw [join_fst]
        rfl
      · rfl
  · rfl
  · rfl

theorem actors_onFrame (c : Client τ ι) (bytes : Bytes) :
    (c.onFrame bytes).1.actors = c.actors ∨
      ∃ actors, Broadcast.decode bytes = .ok actors ∧ (c.onFrame bytes).1.actors = actors ∧
        (c.onFrame bytes).1.session = c.session := by
  unfold onFrame
  dsimp only
  split
  · exact .inl (c.counting.actors_onControl bytes)
  · unfold onBroadcast
    split
    · next actors read => exact .inr ⟨actors, read, rfl, rfl⟩
    · exact .inl rfl
  · exact .inl rfl
  · exact .inl rfl

theorem recast_frame (c : Client τ ι) (bytes : Bytes) :
    Recast c (.handle (.frame bytes)) (c.handle (.frame bytes)).1 := by
  rcases c.actors_onFrame bytes with same | ⟨actors, read, taken, session⟩
  · exact .kept same (c.connection_handle (.frame bytes))
  · exact .taken (Call.broadcast?_eq_some_iff.mpr ⟨bytes, rfl, read⟩) taken session

variable [Sampler ι]

theorem recast_perform (c : Client τ ι) (call : Call τ ι) :
    Recast c call (c.perform call).1 := by
  cases call with
  | start => exact .kept rfl rfl
  | reconnect => exact .kept rfl rfl
  | handle event =>
    cases event with
    | connected => exact .up rfl
    | disconnected => exact .cleared rfl
    | frame bytes => exact c.recast_frame bytes
  | tick => exact .kept c.ticked.actors c.connection_tick
  | teardown =>
    rw [perform]
    cases torn : c.tornDown with
    | true =>
      rw [teardown_of_tornDown torn]
      exact .kept rfl rfl
    | false =>
      rw [teardown_fst torn]
      exact .cleared rfl
  | disturb transport input => exact .kept rfl rfl

/-- A broadcast that can be read is taken, with a link and without one. -/
theorem perform_of_broadcast {c : Client τ ι} {call : Call τ ι} {actors : List Actor}
    (h : call.broadcast? = some actors) : (c.perform call).1 = { c.counting with actors } := by
  obtain ⟨frame, rfl, read⟩ := Call.broadcast?_eq_some_iff.mp h
  obtain ⟨subTag, rest, rfl, -⟩ := Broadcast.eq_append_of_decode read
  rw [perform, handle_broadcast, onBroadcast, read]

/-- The client has nobody to show, and shows so. -/
structure ShowsNobody (c : Client τ ι) : Prop where
  actors : c.actors = []
  tick : c.tick.2 = [.render [] none]

theorem showsNobody_of_down {c : Client τ ι} (down : c.session.Down) (none : c.actors = []) :
    c.ShowsNobody := by
  refine ⟨none, ?_⟩
  rw [tick_of_not_ready down.readyId, none, down.id]

theorem down_after {transport : τ} {input : ι} {calls : List (Call τ ι)}
    (h : ((new transport input).after calls).session.connection = .disconnected) :
    ((new transport input).after calls).session.Down := by
  refine ⟨h, ?_⟩
  have coherent : ((new transport input).after calls).session.Coherent :=
    coherent_after _ calls fun held => nomatch held
  cases id : ((new transport input).after calls).session.id with
  | none => rfl
  | some held =>
    have up := coherent (by rw [id]; rfl)
    cases h.symm.trans up

/-- A client without a link shows nobody, in all states of a run, exactly if each broadcast that
is handled without a link is one of nobody. -/
theorem showsNobody_iff (transport : τ) (input : ι) (calls : List (Call τ ι)) :
    (∀ before, before <+: calls →
      ((new transport input).after before).session.connection = .disconnected →
      ((new transport input).after before).ShowsNobody) ↔
    ∀ before call actors, before ++ [call] <+: calls →
      ((new transport input).after before).session.connection = .disconnected →
      call.broadcast? = some actors → actors = [] := by
  constructor
  · intro shows before call actors made down broadcast
    have taken : (new transport input).after (before ++ [call]) =
        { ((new transport input).after before).counting with actors } := by
      rw [after_append]
      exact perform_of_broadcast broadcast
    have nobody := shows (before ++ [call]) made (by rw [taken]; exact down)
    have none := nobody.actors
    rw [taken] at none
    exact none
  · intro quiet before made down
    refine showsNobody_of_down (down_after down) ?_
    -- From the end: a client without a link had none before the last call either, or that call
    -- has cleared the actors.
    induction before using List.reverseRecOn with
    | nil => rfl
    | append_singleton before call ih =>
      have earlier : before <+: calls := (List.prefix_append before [call]).trans made
      rw [after_append] at down ⊢
      cases ((new transport input).after before).recast_perform call with
      | taken broadcast actors session =>
        have before_down := congrArg Session.connection session
        exact actors.trans (quiet before call _ made (before_down.symm.trans down) broadcast)
      | cleared none => exact none
      | up up => cases down.symm.trans up
      | kept actors link => exact actors.trans (ih earlier (link.symm.trans down))

/-- A broadcast of one actor comes when the link is lost. -/
def strayBroadcast : List (Call Memory KeyScript) :=
  [.start, .handle .connected, .handle .disconnected,
    .handle (.frame (2 :: 0 :: 1 :: 0 :: List.replicate 24 0))]

/-- The actor is shown without a link. -/
theorem not_showsNobody_of_strayBroadcast :
    ¬∀ calls : List (Call Memory KeyScript),
      ((new (τ := Memory) {} ({} : KeyScript)).after calls).session.connection = .disconnected →
      ((new (τ := Memory) {} ({} : KeyScript)).after calls).ShowsNobody := by
  intro nobody
  exact absurd (nobody strayBroadcast (by decide)).actors (by decide)

end Client

end GameClient

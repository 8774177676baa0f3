import GameClient.Proofs.Online

/-! # Runs of a loop

A loop with any transport and any input is run in a world that posts events, acts on the transport
and the input, lets time pass and asks for a stop, all of it whenever it likes. A turn is possible
as soon as there is something to do, so the runs here are more than those of the clock.

A run is known by the calls that the loop makes of its client. Apart from notices and the
publication of states, the loop does nothing of its own, so these calls tell where its client is
and what was done outside. -/

namespace GameClient

namespace Effect

/-- It shows at the transport, the input or the screen. -/
def isOutward : Effect → Bool
  | note _ => false
  | publish _ => false
  | _ => true

def outward (effects : List Effect) : List Effect := effects.filter isOutward

@[simp] theorem outward_append (a b : List Effect) : outward (a ++ b) = outward a ++ outward b :=
  List.filter_append a b

@[simp] theorem outward_notes (notices : List Notice) : outward (notices.map note) = [] := by
  rw [outward, List.filter_eq_nil_iff]
  intro effect noted
  obtain ⟨notice, -, rfl⟩ := List.mem_map.mp noted
  simp [isOutward]

theorem outward_note_cons (notice : Notice) (effects : List Effect) :
    outward (note notice :: effects) = outward effects := rfl

/-- What shows outside is not changed by leaving out what does not. -/
theorem filterMap_outward {β : Type} {f : Effect → Option β}
    (shows : ∀ effect, effect.isOutward = false → f effect = none) (effects : List Effect) :
    (outward effects).filterMap f = effects.filterMap f := by
  rw [outward, List.filterMap_filter]
  refine congrArg (effects.filterMap ·) (funext fun effect => ?_)
  split
  · rfl
  · next inward => exact (shows effect (by simpa using inward)).symm

end Effect

open Effect

namespace Client

variable {τ ι : Type} [Transport τ] [Sampler ι]

theorem after_append (c : Client τ ι) (calls more : List (Call τ ι)) :
    c.after (calls ++ more) = (c.after calls).after more := by
  induction calls generalizing c with
  | nil => rfl
  | cons call calls ih => exact ih _

theorem effects_append (c : Client τ ι) (calls more : List (Call τ ι)) :
    c.effects (calls ++ more) = c.effects calls ++ (c.after calls).effects more := by
  induction calls generalizing c with
  | nil => rfl
  | cons call calls ih =>
    rw [List.cons_append, effects, effects, ih, List.append_assoc]
    rfl

theorem filterMap_effects {β : Type} {f : Effect → Option β} {calls : List (Call τ ι)}
    (silent : ∀ call ∈ calls, ∀ c : Client τ ι, (c.perform call).2.filterMap f = [])
    (c : Client τ ι) : (c.effects calls).filterMap f = [] := by
  induction calls generalizing c with
  | nil => rfl
  | cons call calls ih =>
    obtain ⟨first, rest⟩ := List.forall_mem_cons.mp silent
    rw [effects, List.filterMap_append, first, ih rest, List.nil_append]

end Client

namespace Loop

variable {τ ι : Type}

/-! ## Calls of the client -/

/-- What the loop asks of its client in a turn. The client does not hear of an event over which the
loop fails. -/
def calls (draw : Binary64) (l : Loop τ ι) : Turn → List (Call τ ι)
  | .begin => [.start]
  | .stop => [.teardown]
  | .tick => [.tick]
  | .event event =>
    if ({ l with queue := l.queue.tail }.heed draw event).1.status = .running then [.handle event]
    else []
  | .channelClosed => []
  | .reconnect => [.reconnect]

variable [Transport τ] [Sampler ι]

/-- The client is where the calls lead it, and what shows of the effects is what they do. -/
structure Drives (l : Loop τ ι) (calls : List (Call τ ι)) (effects : List Effect)
    (l' : Loop τ ι) : Prop where
  client : l'.client = l.client.after calls
  outward : outward effects = outward (l.client.effects calls)

variable {l l' : Loop τ ι} {calls : List (Call τ ι)} {effects : List Effect}

theorem Drives.schedule (h : Drives l calls effects l') (draw : Binary64) (why : Notice) :
    Drives l calls (effects ++ .note why :: (l'.schedule draw).2) (l'.schedule draw).1 := by
  have scheduled := l'.scheduled draw
  obtain ⟨notices, noted⟩ := scheduled.notices
  constructor
  · rw [scheduled.client, h.client]
  · rw [outward_append, noted, outward_note_cons, outward_notes, List.append_nil, h.outward]

theorem Drives.fail (h : Drives l calls effects l') (fault : Fault) :
    Drives l calls effects (l'.fail fault) :=
  ⟨h.client, h.outward⟩

theorem drives_begin (draw : Binary64) (l : Loop τ ι) :
    Drives l [.start] (l.begin draw).2 (l.begin draw).1 := by
  have started : Drives l [.start] l.client.start.2.2
      { l.adopt l.client.start.2.1 l.client.start.2.2 with status := .running, nextTick := l.now } :=
    ⟨rfl, congrArg Effect.outward (List.append_nil _).symm⟩
  unfold Loop.begin
  dsimp only
  split
  · rw [List.append_nil]
    split
    · exact started.fail _
    · exact started
  · next error _ =>
    have scheduled := started.schedule draw (.firstConnectRefused error)
    split
    · exact scheduled.fail _
    · exact scheduled

theorem drives_reconnect (draw : Binary64) (l : Loop τ ι) :
    Drives l [.reconnect] (l.reconnect draw).2 (l.reconnect draw).1 := by
  have asked : Drives l [.reconnect] l.client.reconnect.2.2
      { l.adopt l.client.reconnect.2.1 l.client.reconnect.2.2 with reconnectAt := none } :=
    ⟨rfl, congrArg Effect.outward (List.append_nil _).symm⟩
  unfold Loop.reconnect
  dsimp only
  split
  · exact asked
  · next error _ => exact asked.schedule draw (.reconnectRefused error)

theorem drives_handle (draw : Binary64) (l : Loop τ ι) (event : Event) :
    Drives l (l.calls draw (.event event)) (l.handle draw event).2 (l.handle draw event).1 := by
  have heeded := heeded draw { l with queue := l.queue.tail } event
  have handled := l.handle_eq draw event
  rw [Loop.calls]
  obtain ⟨notices, noted⟩ := heeded.notices
  generalize ({ l with queue := l.queue.tail } : Loop τ ι).heed draw event = heed at *
  obtain ⟨m, effects⟩ := heed
  dsimp only at handled heeded noted ⊢
  subst noted
  rw [handled]
  by_cases going : m.status = .running
  · rw [if_neg (not_not_intro going), if_pos going, heeded.client]
    refine ⟨rfl, ?_⟩
    rw [outward_append, outward_append, outward_notes, List.nil_append]
    have published : outward [.publish (l.client.handle event).1.session.connection] = [] := rfl
    have handled : l.client.effects [.handle event] = (l.client.handle event).2 ++ [] := rfl
    rw [published, handled, List.append_nil, List.append_nil]
  · rw [if_pos going, if_neg going]
    exact ⟨heeded.client, outward_notes notices⟩

theorem drives_stop (l : Loop τ ι) : Drives l [.teardown] l.stop.2 l.stop.1 := by
  have effects : l.stop.2 =
      l.client.teardown.2 ++ [.publish l.client.teardown.1.session.connection] := rfl
  have torn : l.client.effects [.teardown] = l.client.teardown.2 ++ [] := rfl
  refine ⟨rfl, ?_⟩
  rw [effects, torn, outward_append, outward_append]
  rfl

theorem drives_tick (l : Loop τ ι) : Drives l [.tick] l.tick.2 l.tick.1 := by
  have ticked : l.client.effects [.tick] = l.client.tick.2 ++ [] := rfl
  refine ⟨rfl, ?_⟩
  rw [ticked, List.append_nil]
  rfl

/-- Each turn drives the client by its calls. -/
theorem drives_perform (draw : Binary64) (l : Loop τ ι) (turn : Turn) :
    Drives l (l.calls draw turn) (l.perform draw turn).2 (l.perform draw turn).1 := by
  cases turn with
  | begin => exact l.drives_begin draw
  | stop => exact l.drives_stop
  | tick => exact l.drives_tick
  | event event => exact l.drives_handle draw event
  | channelClosed => exact ⟨rfl, rfl⟩
  | reconnect => exact l.drives_reconnect draw

/-- What shows outside of a turn is what its calls do. -/
theorem filterMap_perform {β : Type} {f : Effect → Option β}
    (shows : ∀ effect, effect.isOutward = false → f effect = none) (draw : Binary64)
    (l : Loop τ ι) (turn : Turn) :
    (l.perform draw turn).2.filterMap f = (l.client.effects (l.calls draw turn)).filterMap f := by
  rw [← filterMap_outward shows, (l.drives_perform draw turn).outward, filterMap_outward shows]

/-! ## Runs -/

/-- One turn of the loop, or one step of the world around it. The clock may show any instant. -/
inductive Step : Loop τ ι → List (Call τ ι) → List Effect → Loop τ ι → Prop
  | turn {l : Loop τ ι} {turn : Turn} (draw : Binary64) : l.MayTake turn →
      Step l (l.calls draw turn) (l.perform draw turn).2 (l.perform draw turn).1
  | post (l : Loop τ ι) (event : Event) : Step l [] [] (l.post event).2
  | closeChannel (l : Loop τ ι) : Step l [] [] l.closeChannel
  | requestStop (l : Loop τ ι) : Step l [] [] l.requestStop
  | disturb (l : Loop τ ι) (act : τ → List Event × τ) :
      Step l [.disturb (act l.client.transport).2 l.client.input] [] (l.disturb act)
  | press (l : Loop τ ι) (input : ι) :
      Step l [.disturb l.client.transport input] [] { l with client := { l.client with input } }
  | clock (l : Loop τ ι) (now : Nat) : Step l [] [] { l with now }

/-- The runs from a first state, with the calls of the client and the effects. -/
inductive Run (first : Loop τ ι) : List (Call τ ι) → List Effect → Loop τ ι → Prop
  | nil : Run first [] [] first
  | snoc {calls more : List (Call τ ι)} {past effects : List Effect} {l l' : Loop τ ι} :
      Run first calls past l → Step l more effects l' →
      Run first (calls ++ more) (past ++ effects) l'

theorem Step.drives (h : Step l calls effects l') : Drives l calls effects l' := by
  cases h with
  | turn draw _ => exact l.drives_perform draw _
  | post event =>
    refine ⟨?_, rfl⟩
    unfold Loop.post
    split <;> rfl
  | closeChannel => exact ⟨rfl, rfl⟩
  | requestStop => exact ⟨rfl, rfl⟩
  | disturb act =>
    refine ⟨?_, rfl⟩
    unfold Loop.disturb
    dsimp only
    split <;> rfl
  | press input => exact ⟨rfl, rfl⟩
  | clock now => exact ⟨rfl, rfl⟩

theorem Run.drives {first : Loop τ ι} (run : Run first calls effects l) :
    Drives first calls effects l := by
  induction run with
  | nil => exact ⟨rfl, rfl⟩
  | snoc _ step ih =>
    have later := step.drives
    constructor
    · rw [later.client, ih.client, Client.after_append]
    · rw [outward_append, Client.effects_append, outward_append, ih.outward, later.outward,
        ih.client]

/-! ## The clock -/

/-- The calls that the loop makes until `limit`, turn by turn. -/
def calling (draw : Binary64) (limit : Nat) : (steps : Nat) → Loop τ ι → List (Call τ ι)
  | 0, _ => []
  | steps + 1, l =>
    match l.turn? with
    | some turn => l.calls draw turn ++ calling draw limit steps (l.perform draw turn).1
    | none =>
      match l.nextWake? with
      | some instant => if instant < limit then calling draw limit steps { l with now := instant }
        else []
      | none => []

/-- The loop with its clock and its order of turns runs as described here. -/
theorem Run.advance {first : Loop τ ι} {past : Array Effect} (draw : Binary64) (limit steps : Nat)
    (run : Run first calls past.toList l) :
    Run first (calls ++ calling draw limit steps l)
      (Loop.advance draw limit steps (l, past)).2.toList
      (Loop.advance draw limit steps (l, past)).1 := by
  induction steps generalizing calls past l with
  | zero =>
    rw [calling, List.append_nil]
    exact run
  | succ steps ih =>
    unfold Loop.advance calling
    dsimp only
    cases next : l.turn? with
    | some turn =>
      have stepped := run.snoc (.turn draw (mayTake_of_turn? next))
      have added : (past ++ (l.perform draw turn).2).toList =
          past.toList ++ (l.perform draw turn).2 := Array.toList_appendList
      rw [← added] at stepped
      rw [← List.append_assoc]
      exact ih stepped
    | none =>
      cases timer : l.nextWake? with
      | some instant =>
        dsimp only
        have waited := run.snoc (.clock l instant)
        have ended := run.snoc (.clock l limit)
        rw [List.append_nil, List.append_nil] at waited ended
        split
        · exact ih waited
        · rw [List.append_nil]
          exact ended
      | none =>
        have ended := run.snoc (.clock l limit)
        rw [List.append_nil, List.append_nil] at ended
        rw [List.append_nil]
        exact ended

end Loop

end GameClient

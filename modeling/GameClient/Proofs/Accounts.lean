import GameClient.Proofs.Decoders
import GameClient.Proofs.Identity

/-! # Accounts of received frames

A frame that reaches a client is dropped, ignored or accepted, and its bytes and the connection
decide which. A frame that is not accepted changes one count besides that of received frames, and
nothing else. So the counts of a run add up: each frame was dropped or ignored, or it was an ASSIGN
or a broadcast that the client took. -/

namespace GameClient

/-- What becomes of a received frame. -/
inductive Fate where
  | dropped
  | ignored
  | accepted
deriving DecidableEq

/-- The fate of a frame under this connection. -/
inductive Meets (connection : ConnectionState) : Bytes → Fate → Prop
  | empty : Meets connection [] .dropped
  | bare : Meets connection [1] .dropped
  | early (rest : Bytes) : connection ≠ .connected → Meets connection (1 :: 1 :: rest) .dropped
  | short (rest : Bytes) : (1 :: 1 :: rest : Bytes).length < 18 →
      Meets connection (1 :: 1 :: rest) .dropped
  | rejected (rest : Bytes) (error : DecodeError) : Broadcast.decode (2 :: rest) = .error error →
      Meets connection (2 :: rest) .dropped
  | otherType (tag : UInt8) (rest : Bytes) : tag ≠ 1 → tag ≠ 2 →
      Meets connection (tag :: rest) .ignored
  | otherKind (tag : UInt8) (rest : Bytes) : tag ≠ 1 → Meets connection (1 :: tag :: rest) .ignored
  | assign (rest : Bytes) : connection = .connected → 18 ≤ (1 :: 1 :: rest : Bytes).length →
      Meets connection (1 :: 1 :: rest) .accepted
  | broadcast (rest : Bytes) (actors : List Actor) : Broadcast.decode (2 :: rest) = .ok actors →
      Meets connection (2 :: rest) .accepted

theorem exists_meets (connection : ConnectionState) (frame : Bytes) :
    ∃ fate, Meets connection frame fate := by
  cases frame with
  | nil => exact ⟨_, .empty⟩
  | cons tag rest =>
    by_cases control : tag = 1
    · subst control
      cases rest with
      | nil => exact ⟨_, .bare⟩
      | cons subTag body =>
        by_cases assign : subTag = 1
        · subst assign
          by_cases up : connection = .connected
          · by_cases short : (1 :: 1 :: body : Bytes).length < 18
            · exact ⟨_, .short body short⟩
            · exact ⟨_, .assign body up (Nat.le_of_not_lt short)⟩
          · exact ⟨_, .early body up⟩
        · exact ⟨_, .otherKind subTag body assign⟩
    · by_cases actor : tag = 2
      · subst actor
        cases read : Broadcast.decode (2 :: rest) with
        | ok actors => exact ⟨_, .broadcast rest actors read⟩
        | error error => exact ⟨_, .rejected rest error read⟩
      · exact ⟨_, .otherType tag rest control actor⟩

theorem IsAssign.exists_eq_cons {frame : Bytes} {id : SessionId} (h : IsAssign frame id) :
    ∃ rest, frame = 1 :: 1 :: rest := by
  have header : 2 ≤ frame.length := Nat.le_trans (by decide) h.long
  obtain ⟨dataTag, subTag, rest, rfl⟩ := exists_cons_of_le_length frame header
  obtain ⟨rfl, rfl⟩ : dataTag = 1 ∧ subTag = 1 := by simpa using h.tags
  exact ⟨rest, rfl⟩

theorem IsAssign.meets {connection : ConnectionState} {frame : Bytes} {id : SessionId}
    (h : IsAssign frame id) (up : connection = .connected) : Meets connection frame .accepted := by
  obtain ⟨rest, rfl⟩ := h.exists_eq_cons
  exact .assign rest up h.long

theorem Broadcast.meets {frame : Bytes} {actors : List Actor} (h : decode frame = .ok actors)
    (connection : ConnectionState) : Meets connection frame .accepted := by
  obtain ⟨subTag, rest, rfl, -⟩ := eq_append_of_decode h
  exact .broadcast _ actors h

theorem exists_isAssign {rest : Bytes} (h : 18 ≤ (1 :: 1 :: rest : Bytes).length) :
    ∃ id, IsAssign (1 :: 1 :: rest) id := by
  simp only [List.length_cons] at h
  obtain ⟨id, tail, rfl⟩ := SessionId.exists_append rest (by omega)
  refine ⟨id, rfl, ?_, List.take_left' id.length_eq⟩
  simp only [List.length_cons]
  omega

namespace Call

variable {τ ι : Type}

def frame? : Call τ ι → Option Bytes
  | handle (.frame bytes) => some bytes
  | _ => none

/-- The actors of a broadcast that is handled and can be read. -/
def broadcast? (call : Call τ ι) : Option (List Actor) :=
  call.frame?.bind fun frame => (Broadcast.decode frame).toOption

end Call

namespace Client

variable {τ ι : Type}

/-- What a client makes of a frame that meets its fate. -/
def Treats (c : Client τ ι) (frame : Bytes) (result : Client τ ι × List Effect) : Fate → Prop
  | .dropped => ∃ why, result =
      ({ c with stats :=
          { c.stats with received := c.stats.received + 1, dropped := c.stats.dropped + 1 } },
        [.note why])
  | .ignored => ∃ why, result =
      ({ c with stats :=
          { c.stats with received := c.stats.received + 1, ignored := c.stats.ignored + 1 } },
        [.note why])
  | .accepted =>
    result.1.stats.received = c.stats.received + 1 ∧
    result.1.stats.dropped = c.stats.dropped ∧ result.1.stats.ignored = c.stats.ignored ∧
    ((∃ id, c.session.connection = .connected ∧ IsAssign frame id ∧
        result.1.session = (c.session.assign id).advance ∧
        Effect.frames result.2 = [Control.encode ⟨.join, id, c.session.seq⟩]) ∨
      ∃ actors, Broadcast.decode frame = .ok actors ∧
        result = ({ c.counting with actors }, [.note (.broadcast actors.length)]))

theorem Treats.counts {c : Client τ ι} {frame : Bytes} {result : Client τ ι × List Effect}
    {fate : Fate} (h : c.Treats frame result fate) :
    result.1.stats.received = c.stats.received + 1 ∧
      result.1.stats.dropped = c.stats.dropped + (if fate = .dropped then 1 else 0) ∧
      result.1.stats.ignored = c.stats.ignored + (if fate = .ignored then 1 else 0) := by
  cases fate with
  | dropped =>
    obtain ⟨why, rfl⟩ := h
    exact ⟨rfl, rfl, rfl⟩
  | ignored =>
    obtain ⟨why, rfl⟩ := h
    exact ⟨rfl, rfl, rfl⟩
  | accepted => exact ⟨h.1, h.2.1, h.2.2.1⟩

/-- The counts tell what a frame has met. -/
theorem Treats.unique {c : Client τ ι} {frame : Bytes} {result : Client τ ι × List Effect}
    {fate other : Fate} (h : c.Treats frame result fate) (h' : c.Treats frame result other) :
    fate = other := by
  have counts := h.counts
  have counts' := h'.counts
  cases fate <;> cases other <;> simp at counts counts' ⊢ <;> omega

structure SameInbound (c c' : Client τ ι) : Prop where
  received : c'.stats.received = c.stats.received
  dropped : c'.stats.dropped = c.stats.dropped
  ignored : c'.stats.ignored = c.stats.ignored

variable [Transport τ]

/-! ## One frame -/

theorem hand_inbound (c : Client τ ι) (frame : Bytes) : SameInbound c (c.hand frame).2 := by
  cases h : (Transport.send frame c.transport).1 with
  | accepted => constructor <;> simp [hand, h]
  | refused error => constructor <;> simp [hand, h]

/-- Two bytes tell that a frame is an ASSIGN. -/
theorem handle_assign (c : Client τ ι) (rest : Bytes) :
    c.handle (.frame (1 :: 1 :: rest)) = c.counting.onAssign (1 :: 1 :: rest) := rfl

theorem handle_broadcast (c : Client τ ι) (rest : Bytes) :
    c.handle (.frame (2 :: rest)) = c.counting.onBroadcast (2 :: rest) := rfl

theorem handle_otherType (c : Client τ ι) {tag : UInt8} (rest : Bytes) (control : tag ≠ 1)
    (actor : tag ≠ 2) :
    ∃ why, c.handle (.frame (tag :: rest)) = c.counting.ignore why := by
  have notControl := mt (DataType.ofByte_eq_iff tag .control rfl).mp control
  have notActor := mt (DataType.ofByte_eq_iff tag .actor rfl).mp actor
  refine ⟨.unhandledDataType (DataType.ofByte tag).toByte, ?_⟩
  simp only [handle, onFrame, peekDataType, List.head?_cons, Option.map_some]
  rfl

theorem handle_otherKind (c : Client τ ι) {tag : UInt8} (rest : Bytes) (assign : tag ≠ 1) :
    ∃ why, c.handle (.frame (1 :: tag :: rest)) = c.counting.ignore why := by
  have notAssign := mt (ControlKind.ofByte_eq_iff tag .assign rfl).mp assign
  refine ⟨.unhandledControl (ControlKind.ofByte tag).toByte, ?_⟩
  have control : c.handle (.frame (1 :: tag :: rest)) = c.counting.onControl (1 :: tag :: rest) :=
    rfl
  rw [control]
  simp only [onControl, peekControlKind, List.tail_cons, List.head?_cons, Option.map_some]

theorem handle_of_meets {c : Client τ ι} {frame : Bytes} {fate : Fate}
    (h : Meets c.session.connection frame fate) :
    c.Treats frame (c.handle (.frame frame)) fate := by
  cases h with
  | empty => exact ⟨.emptyFrame, rfl⟩
  | bare => exact ⟨.bareControl 1, rfl⟩
  | early rest down =>
    have unlinked : c.counting.session.connection ≠ .connected := down
    rw [handle_assign, onAssign, if_pos unlinked]
    exact ⟨_, rfl⟩
  | short rest short =>
    have refused := Decoder.decode_of_short (d := .assign) short
    rw [handle_assign, onAssign]
    split
    · exact ⟨_, rfl⟩
    · simp only [Decoder.decode] at refused
      rw [refused]
      exact ⟨_, rfl⟩
  | rejected rest error refused =>
    rw [handle_broadcast, onBroadcast, refused]
    exact ⟨_, rfl⟩
  | otherType tag rest control actor =>
    obtain ⟨why, ignored⟩ := c.handle_otherType rest control actor
    rw [ignored]
    exact ⟨why, rfl⟩
  | otherKind tag rest assign =>
    obtain ⟨why, ignored⟩ := c.handle_otherKind rest assign
    rw [ignored]
    exact ⟨why, rfl⟩
  | assign rest up long =>
    obtain ⟨id, assign⟩ := exists_isAssign long
    have joined : c.handle (.frame (1 :: 1 :: rest)) = c.counting.join id :=
      onFrame_of_accepted up (assignedId?_eq_some_iff.mpr assign)
    obtain ⟨received, dropped, ignored⟩ :=
      hand_inbound { c.counting with session := (c.session.assign id).advance }
        (Control.encode ⟨.join, id, c.session.seq⟩)
    rw [joined, Treats, join_fst, frames_join]
    exact ⟨received, dropped, ignored, .inl ⟨id, up, assign, rfl, rfl⟩⟩
  | broadcast rest actors read =>
    rw [handle_broadcast, onBroadcast, read]
    exact ⟨rfl, rfl, rfl, .inr ⟨actors, read, rfl⟩⟩

theorem fate_unique {c : Client τ ι} {frame : Bytes} {fate other : Fate}
    (h : Meets c.session.connection frame fate) (h' : Meets c.session.connection frame other) :
    fate = other :=
  (handle_of_meets h).unique (handle_of_meets h')

/-! ## Other calls -/

variable [Sampler ι]

theorem tick_inbound (c : Client τ ι) : SameInbound c c.tick.1 := by
  cases ready : c.session.readyId with
  | none =>
    rw [tick_of_not_ready ready]
    exact ⟨rfl, rfl, rfl⟩
  | some id =>
    rw [tick_of_ready ready]
    cases empty : c.heldKeys.isEmpty with
    | true =>
      rw [sendKeys_of_isEmpty _ _ empty]
      exact ⟨rfl, rfl, rfl⟩
    | false =>
      rw [sendKeys_fst _ _ empty]
      obtain ⟨received, dropped, ignored⟩ := hand_inbound
        { c.sampling with session := c.sampling.session.advance }
        (Input.encode ⟨id, c.sampling.session.seq, c.heldKeys⟩)
      exact ⟨received, dropped, ignored⟩

theorem teardown_inbound (c : Client τ ι) : SameInbound c c.teardown.1 := by
  cases torn : c.tornDown with
  | true =>
    rw [teardown_of_tornDown torn]
    exact ⟨rfl, rfl, rfl⟩
  | false =>
    rw [teardown_fst torn]
    cases ready : c.session.readyId with
    | none =>
      rw [leave_of_not_ready (c := c.tearing) ready]
      exact ⟨rfl, rfl, rfl⟩
    | some id =>
      rw [leave_fst (c := c.tearing) ready]
      obtain ⟨received, dropped, ignored⟩ := hand_inbound
        { c.tearing with session := c.tearing.session.advance }
        (Control.encode ⟨.leave, id, c.tearing.session.seq⟩)
      exact ⟨received, dropped, ignored⟩

theorem perform_inbound {c : Client τ ι} {call : Call τ ι}
    (h : ∀ frame, call ≠ .handle (.frame frame)) : SameInbound c (c.perform call).1 := by
  cases call with
  | start => exact ⟨rfl, rfl, rfl⟩
  | reconnect => exact ⟨rfl, rfl, rfl⟩
  | handle event =>
    cases event with
    | connected => exact ⟨rfl, rfl, rfl⟩
    | disconnected => exact ⟨rfl, rfl, rfl⟩
    | frame bytes => exact absurd rfl (h bytes)
  | tick => exact c.tick_inbound
  | teardown => exact c.teardown_inbound
  | disturb transport input => exact ⟨rfl, rfl, rfl⟩

/-! ## Runs -/

def acceptances (c : Client τ ι) (call : Call τ ι) : Nat :=
  (call.acceptedId? c.session).toList.length + call.broadcast?.toList.length

omit [Sampler ι] in
theorem acceptances_of_meets {c : Client τ ι} {frame : Bytes} {fate : Fate}
    (h : Meets c.session.connection frame fate) :
    c.acceptances (.handle (.frame frame)) = if fate = .accepted then 1 else 0 := by
  cases accepted : (Call.handle (.frame frame) : Call τ ι).acceptedId? c.session with
  | some id =>
    obtain ⟨up, other, same, assign⟩ := acceptedId?_eq_some_iff.mp accepted
    cases same
    have taken : fate = .accepted := fate_unique h (assign.meets up)
    have unread : (Call.handle (.frame frame) : Call τ ι).broadcast? = none := by
      cases read : Broadcast.decode frame with
      | ok actors =>
        obtain ⟨rest, rfl⟩ := assign.exists_eq_cons
        have other : (1 : UInt8) = 2 := Option.some.inj (Broadcast.head?_of_decode read)
        exact absurd other (by decide)
      | error error => rw [Call.broadcast?, Call.frame?, Option.bind_some, read, Except.toOption]
    rw [acceptances, accepted, unread, if_pos taken]
    rfl
  | none =>
    cases read : Broadcast.decode frame with
    | ok actors =>
      have taken : fate = .accepted := fate_unique h (Broadcast.meets read _)
      rw [acceptances, accepted, if_pos taken, Call.broadcast?, Call.frame?, Option.bind_some, read]
      rfl
    | error error =>
      have refused : fate ≠ .accepted := by
        rintro rfl
        cases h with
        | assign rest up long =>
          obtain ⟨id, assign⟩ := exists_isAssign long
          have present := acceptedId?_eq_some_iff.mpr ⟨up, _, rfl, assign⟩
          exact nomatch accepted.symm.trans present
        | broadcast rest actors other => exact nomatch read.symm.trans other
      rw [acceptances, accepted, if_neg refused, Call.broadcast?, Call.frame?, Option.bind_some,
        read]
      rfl

/-- Each frame was counted once, and so many of them were accepted. -/
structure Accounted (c : Client τ ι) (frames accepted : Nat) : Prop where
  received : c.stats.received = frames
  sum : c.stats.received = c.stats.dropped + c.stats.ignored + accepted

theorem accounted_perform {c : Client τ ι} {frames accepted : Nat}
    (h : c.Accounted frames accepted) (call : Call τ ι) :
    (c.perform call).1.Accounted (frames + call.frame?.toList.length)
      (accepted + c.acceptances call) := by
  obtain ⟨counted, sum⟩ := h
  by_cases received : ∃ frame, call = .handle (.frame frame)
  · obtain ⟨frame, rfl⟩ := received
    obtain ⟨fate, meets⟩ := exists_meets c.session.connection frame
    have treated : c.Treats frame (c.perform (.handle (.frame frame))) fate :=
      handle_of_meets meets
    obtain ⟨received, dropped, ignored⟩ := treated.counts
    rw [acceptances_of_meets meets]
    constructor
    · rw [received, counted]
      rfl
    · rw [received, dropped, ignored, sum]
      cases fate <;> simp <;> omega
  · have unframed : call.frame? = none := by
      unfold Call.frame?
      split
      · next frame => exact absurd ⟨frame, rfl⟩ received
      · rfl
    have unassigned : call.acceptedId? c.session = none := by
      unfold Call.acceptedId?
      split
      · next frame => exact absurd ⟨frame, rfl⟩ received
      · rfl
    have same : SameInbound c (c.perform call).1 := by
      apply perform_inbound
      intro frame framed
      exact received ⟨frame, framed⟩
    rw [acceptances, unassigned, Call.broadcast?, unframed]
    constructor
    · rw [same.received, counted]
      rfl
    · rw [same.received, same.dropped, same.ignored, sum]
      rfl

theorem accounted_after {c : Client τ ι} {frames accepted : Nat}
    (h : c.Accounted frames accepted) (calls : List (Call τ ι)) :
    (c.after calls).Accounted (frames + (calls.filterMap Call.frame?).length)
      (accepted + (Mark.ids (c.trail calls)).length + (calls.filterMap Call.broadcast?).length) := by
  induction calls generalizing c frames accepted with
  | nil => exact h
  | cons call calls ih =>
    have later := ih (accounted_perform h call)
    rw [after, trail, Mark.ids_append, ids_marks, filterMap_cons_eq, filterMap_cons_eq]
    simp only [List.length_append]
    rw [acceptances] at later
    constructor
    · rw [later.received, Nat.add_assoc]
    · rw [later.sum]
      omega

/-- Each frame meets one fate, and the client treats it accordingly. After a run each frame that
was handled is counted once, as dropped, as ignored, as an ASSIGN that was accepted or as a
broadcast that was. -/
theorem frames_accounted :
    (∀ (c : Client τ ι) (frame : Bytes), ∃ fate, Meets c.session.connection frame fate ∧
      (∀ other, Meets c.session.connection frame other → other = fate) ∧
      c.Treats frame (c.handle (.frame frame)) fate) ∧
    ∀ (transport : τ) (input : ι) (calls : List (Call τ ι)),
      ((new transport input).after calls).stats.received = (calls.filterMap Call.frame?).length ∧
      ((new transport input).after calls).stats.received =
        ((new transport input).after calls).stats.dropped +
          ((new transport input).after calls).stats.ignored +
          (Mark.ids ((new transport input).trail calls)).length +
          (calls.filterMap Call.broadcast?).length := by
  constructor
  · intro c frame
    obtain ⟨fate, meets⟩ := exists_meets c.session.connection frame
    refine ⟨fate, meets, ?_, handle_of_meets meets⟩
    intro other meets'
    exact fate_unique meets' meets
  · intro transport input calls
    have fresh : (new transport input).Accounted 0 0 := ⟨rfl, rfl⟩
    have accounted := accounted_after fresh calls
    constructor
    · rw [accounted.received, Nat.zero_add]
    · rw [accounted.sum, Nat.zero_add, Nat.add_assoc _ (List.length _) (List.length _)]

end Client

end GameClient

import GameClient.Client
import GameClient.Proofs.Decoders

/-! # One reading for each frame

A frame is accepted by one decoder at most, because the tags that the decoders ask for differ, and
each message is read back whatever follows it. So no message is written as the beginning of
another, and messages that are written one after the other can be told apart again. A client asks
the decoder that the tags name, so the only fault that is left for the decoder to find is that a
frame is too short. -/

namespace GameClient

/-! ## Tags -/

/-- The two tags of a frame, as far as its kind fixes them. -/
def Decoder.Tagged (frame : Bytes) : (d : Decoder) → d.Result → Prop
  | assign, _ => peekDataType frame = some .control ∧ peekControlKind frame = some .assign
  | control, m =>
    peekDataType frame = some .control ∧ peekControlKind frame = some m.kind ∧
      (m.kind = .join ∨ m.kind = .leave)
  | input, _ => peekDataType frame = some .input ∧ (peekControlKind frame).isSome
  | broadcast, _ => peekDataType frame = some .actor ∧ (peekControlKind frame).isSome

theorem Control.kind_of_decode {frame : Bytes} {m : Control} (h : decode frame = .ok m) :
    m.kind = .join ∨ m.kind = .leave := by
  obtain ⟨rest, rfl⟩ := eq_append_of_decode h
  rw [decode_encode_append] at h
  obtain ⟨asked, read⟩ := of_ite_error_eq_ok h
  have kind : ControlKind.ofByte m.kind.toByte = m.kind :=
    congrArg Control.kind (Except.ok.inj read)
  by_cases join : m.kind.toByte = 2
  · rw [join] at kind
    exact .inl kind.symm
  · have leave : m.kind.toByte = 3 := by
      apply Decidable.byContradiction
      intro other
      exact asked ⟨join, other⟩
    rw [leave] at kind
    exact .inr kind.symm

namespace Decoder

theorem tagged_of_decode {d : Decoder} {frame : Bytes} {result : d.Result}
    (h : d.decode frame = .ok result) : d.Tagged frame result := by
  cases d with
  | assign =>
    obtain ⟨rest, rfl⟩ := Assign.eq_append_of_decode h
    exact ⟨rfl, rfl⟩
  | control =>
    have kind := Control.kind_of_decode h
    obtain ⟨rest, rfl⟩ := Control.eq_append_of_decode h
    refine ⟨rfl, ?_, kind⟩
    rcases kind with join | leave
    · simp [Control.encode, peekControlKind, join, ControlKind.toByte, ControlKind.ofByte]
    · simp [Control.encode, peekControlKind, leave, ControlKind.toByte, ControlKind.ofByte]
  | input =>
    obtain ⟨subTag, rest, rfl⟩ := Input.eq_append_of_decode h
    exact ⟨rfl, rfl⟩
  | broadcast =>
    obtain ⟨subTag, rest, rfl, -⟩ := Broadcast.eq_append_of_decode h
    exact ⟨rfl, rfl⟩

/-- At most one decoder accepts a frame. -/
theorem eq_of_accepts {d e : Decoder} {frame : Bytes} (accepts : d.Accepts frame)
    (accepts' : e.Accepts frame) : d = e := by
  obtain ⟨result, read⟩ := accepts
  obtain ⟨result', read'⟩ := accepts'
  have tagged := tagged_of_decode read
  have tagged' := tagged_of_decode read'
  -- Two decoders with one data type are the two for control frames, and they ask for other kinds.
  cases d <;> cases e <;> grind [Tagged]

end Decoder

/-! ## Messages -/

/-- A message of either side. A broadcast has no more actors than its count can say. -/
inductive Packet where
  | assign (id : SessionId)
  | join (id : SessionId) (seq : UInt32)
  | leave (id : SessionId) (seq : UInt32)
  | input (id : SessionId) (seq : UInt32) (keys : KeyMask)
  | broadcast (actors : List Actor) (fits : actors.length ≤ 65535)

namespace Packet

def encode : Packet → Bytes
  | assign id => Assign.encode id
  | join id seq => Control.encode ⟨.join, id, seq⟩
  | leave id seq => Control.encode ⟨.leave, id, seq⟩
  | input id seq keys => Input.encode ⟨id, seq, keys⟩
  | broadcast actors _ => Broadcast.encode actors

def reading : Packet → (d : Decoder) × d.Result
  | assign id => ⟨.assign, id⟩
  | join id seq => ⟨.control, ⟨.join, id, seq⟩⟩
  | leave id seq => ⟨.control, ⟨.leave, id, seq⟩⟩
  | input id seq keys => ⟨.input, ⟨id, seq, keys⟩⟩
  | broadcast actors _ => ⟨.broadcast, actors⟩

theorem reading_injective {p q : Packet} (h : p.reading = q.reading) : p = q := by
  cases p <;> cases q <;> cases h <;> rfl

theorem decode_encode_append (p : Packet) (tail : Bytes) :
    p.reading.1.decode (p.encode ++ tail) = .ok p.reading.2 := by
  cases p with
  | assign id => exact Assign.decode_encode_append id tail
  | join id seq => exact Control.decode_encode_append ⟨.join, id, seq⟩ tail
  | leave id seq => exact Control.decode_encode_append ⟨.leave, id, seq⟩ tail
  | input id seq keys => exact Input.decode_encode_append ⟨id, seq, keys⟩ tail
  | broadcast actors fits =>
    have whole : actors.take 65535 = actors := List.take_of_length_le fits
    have read := Broadcast.decode_encode_append actors tail
    rw [whole] at read
    exact read

theorem encode_ne_nil (p : Packet) : p.encode ≠ [] := by
  cases p <;> exact List.cons_ne_nil _ _

/-- What a frame starts with can be read in one way only. -/
theorem eq_of_encode_append {p q : Packet} {rest rest' : Bytes}
    (h : p.encode ++ rest = q.encode ++ rest') : p = q := by
  have read := p.decode_encode_append rest
  have read' := q.decode_encode_append rest'
  rw [← h] at read'
  apply reading_injective
  have same : p.reading.1 = q.reading.1 := Decoder.eq_of_accepts ⟨_, read⟩ ⟨_, read'⟩
  generalize p.reading = a at *
  generalize q.reading = b at *
  obtain ⟨d, result⟩ := a
  obtain ⟨e, result'⟩ := b
  dsimp only at same
  subst same
  rw [read] at read'
  cases read'
  rfl

theorem eq_of_prefix {p q : Packet} (h : p.encode <+: q.encode) : p = q := by
  obtain ⟨rest, split⟩ := h
  rw [← List.append_nil q.encode] at split
  exact eq_of_encode_append split

/-- Messages that were written one after the other can be told apart. -/
theorem eq_of_flatMap_encode {ps qs : List Packet} (h : ps.flatMap encode = qs.flatMap encode) :
    ps = qs := by
  induction ps generalizing qs with
  | nil =>
    cases qs with
    | nil => rfl
    | cons q qs =>
      have empty := List.append_eq_nil_iff.mp h.symm
      exact absurd empty.1 q.encode_ne_nil
  | cons p ps ih =>
    cases qs with
    | nil =>
      have empty := List.append_eq_nil_iff.mp h
      exact absurd empty.1 p.encode_ne_nil
    | cons q qs =>
      rw [List.flatMap_cons, List.flatMap_cons] at h
      have first : p = q := eq_of_encode_append h
      rw [first] at h ⊢
      rw [ih (List.append_cancel_left h)]

end Packet

/-! ## The decoders that a client asks -/

/-- The refusal of a decoder that a notice speaks of. -/
def Notice.rejection? : Notice → Option (Decoder × DecodeError)
  | malformedAssign error => some (.assign, error)
  | malformedBroadcast error => some (.broadcast, error)
  | _ => none

/-- The refusals of decoders that show in these effects. -/
def rejections (effects : List Effect) : List (Decoder × DecodeError) :=
  (effects.filterMap Effect.notice?).filterMap Notice.rejection?

namespace Client

variable {τ ι : Type}

/-- The client asks this decoder about a frame. The one for assignments is asked on a link only. -/
def Asks (c : Client τ ι) (frame : Bytes) : Decoder → Prop
  | .assign =>
    peekDataType frame = some .control ∧ peekControlKind frame = some .assign ∧
      c.session.connection = .connected
  | .broadcast => peekDataType frame = some .actor
  | .control => False
  | .input => False

/-- The tags are what the decoder asks for, so it can only find that bytes are missing. -/
theorem truncated_of_asks {c : Client τ ι} {frame : Bytes} {d : Decoder} {error : DecodeError}
    (asks : c.Asks frame d) (refused : d.decode frame = .error error) :
    frame.length < d.needs frame ∧ error = .truncated (d.needs frame) frame.length := by
  by_cases short : frame.length < d.needs frame
  · rw [Decoder.decode_of_short short] at refused
    cases refused
    exact ⟨short, rfl⟩
  · have long := Nat.le_of_not_lt short
    cases d with
    | assign =>
      obtain ⟨data, kind, -⟩ := asks
      obtain ⟨dataTag, subTag, id, rest, rfl⟩ := Assign.exists_fields long
      obtain rfl := (DataType.ofByte_eq_iff dataTag .control rfl).mp (Option.some.inj data)
      obtain rfl := (ControlKind.ofByte_eq_iff subTag .assign rfl).mp (Option.some.inj kind)
      have read : Decoder.assign.decode _ = .ok id := Assign.decode_encode_append id rest
      exact nomatch refused.symm.trans read
    | broadcast =>
      obtain ⟨dataTag, subTag, low, high, body, rfl⟩ :=
        Broadcast.exists_prelude (Nat.le_trans (Decoder.le_needs _ _) long)
      obtain rfl := (DataType.ofByte_eq_iff dataTag .actor rfl).mp (Option.some.inj asks)
      obtain ⟨actors, rest, count, rfl⟩ := Decoder.exists_records long
      have read : Decoder.broadcast.decode _ = .ok actors :=
        Broadcast.decode_records subTag low high actors rest count.symm
      exact nomatch refused.symm.trans read
    | control => exact asks.elim
    | input => exact asks.elim

@[simp] theorem rejections_drop (c : Client τ ι) (why : Notice) :
    rejections (c.drop why).2 = why.rejection?.toList := by
  cases h : why.rejection? <;> simp [drop, rejections, Effect.notice?, h]

@[simp] theorem rejections_ignore (c : Client τ ι) (why : Notice) :
    rejections (c.ignore why).2 = why.rejection?.toList := by
  cases h : why.rejection? <;> simp [ignore, rejections, Effect.notice?, h]

def refusal (d : Decoder) (frame : Bytes) : List (Decoder × DecodeError) :=
  match d.decode frame with
  | .ok _ => []
  | .error error => [(d, error)]

theorem mem_refusal {d asked : Decoder} {frame : Bytes} {error : DecodeError} :
    (d, error) ∈ refusal asked frame ↔ d = asked ∧ d.decode frame = .error error := by
  unfold refusal
  split
  · next result accepted =>
    constructor
    · intro absent
      cases absent
    · rintro ⟨rfl, refused⟩
      cases accepted.symm.trans refused
  · next other refused =>
    constructor
    · intro reported
      cases List.mem_singleton.mp reported
      exact ⟨rfl, refused⟩
    · rintro ⟨rfl, refused'⟩
      cases refused.symm.trans refused'
      exact List.mem_cons_self

theorem asks_iff {c : Client τ ι} {frame : Bytes} {d : Decoder} :
    c.Asks frame d ↔
      d = .assign ∧ peekDataType frame = some .control ∧ peekControlKind frame = some .assign ∧
        c.session.connection = .connected ∨
      d = .broadcast ∧ peekDataType frame = some .actor := by
  cases d <;> simp [Asks]

theorem rejections_onBroadcast (c : Client τ ι) (frame : Bytes) :
    rejections (c.onBroadcast frame).2 = refusal .broadcast frame := by
  unfold onBroadcast refusal
  simp only [Decoder.decode]
  cases Broadcast.decode frame with
  | ok actors => rfl
  | error error => rfl

variable [Transport τ]

@[simp] theorem rejections_join (c : Client τ ι) (id : SessionId) :
    rejections (c.join id).2 = [] := by
  simp only [join, send]
  split <;> rfl

theorem rejections_onAssign (c : Client τ ι) (frame : Bytes) :
    rejections (c.onAssign frame).2 =
      if c.session.connection = .connected then refusal .assign frame else [] := by
  unfold onAssign refusal
  by_cases up : c.session.connection = .connected
  · rw [if_neg (not_not_intro up), if_pos up]
    simp only [Decoder.decode]
    cases Assign.decode frame with
    | ok id => exact c.rejections_join id
    | error error => rfl
  · rw [if_pos up, if_neg up]
    rfl

/-- The client reports a refusal exactly when it has asked the decoder, and the decoder refused. -/
theorem mem_rejections_onFrame (c : Client τ ι) (frame : Bytes) (d : Decoder)
    (error : DecodeError) :
    (d, error) ∈ rejections (c.onFrame frame).2 ↔
      c.Asks frame d ∧ d.decode frame = .error error := by
  rw [asks_iff]
  unfold onFrame
  dsimp only
  split
  · next data =>
    unfold onControl
    split
    · next kind =>
      rw [rejections_onAssign]
      split
      · next up => simp [mem_refusal, data, kind, show c.session.connection = .connected from up]
      · next down => simp [data, show c.session.connection ≠ .connected from down]
    · next other kind => simp_all [Notice.rejection?]
    · next kind => simp [Notice.rejection?, data, kind]
  · next data =>
    rw [rejections_onBroadcast]
    simp [mem_refusal, data]
  · next other data _ => simp_all [Notice.rejection?]
  · next data => simp [Notice.rejection?, data]

end Client

/-- No message is written as the beginning of another, and messages in a row can be told apart. At
most one decoder accepts a frame, and the tags of the frame are those of its kind. A client that
asks a decoder and reports its refusal reports that the frame is too short. -/
theorem frames_unambiguous {τ ι : Type} [Transport τ] :
    (∀ p q : Packet, p.encode <+: q.encode → p = q) ∧
    (∀ ps qs : List Packet, ps.flatMap Packet.encode = qs.flatMap Packet.encode → ps = qs) ∧
    (∀ (frame : Bytes) (d e : Decoder), d.Accepts frame → e.Accepts frame → d = e) ∧
    (∀ (frame : Bytes) (d : Decoder) (result : d.Result), d.decode frame = .ok result →
      d.Tagged frame result) ∧
    (∀ (c : Client τ ι) (frame : Bytes) (d : Decoder) (error : DecodeError),
      (d, error) ∈ rejections (c.onFrame frame).2 ↔
        c.Asks frame d ∧ d.decode frame = .error error) ∧
    ∀ (c : Client τ ι) (frame : Bytes) (d : Decoder) (error : DecodeError),
      c.Asks frame d → d.decode frame = .error error →
        frame.length < d.needs frame ∧ error = .truncated (d.needs frame) frame.length := by
  refine ⟨fun p q => Packet.eq_of_prefix, fun ps qs => Packet.eq_of_flatMap_encode, ?_, ?_, ?_, ?_⟩
  · intro frame d e accepts accepts'
    exact Decoder.eq_of_accepts accepts accepts'
  · intro frame d result accepted
    exact Decoder.tagged_of_decode accepted
  · intro c frame d error
    exact c.mem_rejections_onFrame frame d error
  · intro c frame d error asks refused
    exact Client.truncated_of_asks asks refused

end GameClient

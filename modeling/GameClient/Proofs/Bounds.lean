import GameClient.Proofs.Decoders

/-! # Reading within bounds

The decoders once more, place by place and in the order of their checks. Here a byte that is not
there is a fault of the reader and no refusal of the frame. No frame leads to a fault, and each
reader answers what its decoder answers; for broadcasts this completes the account of the decoder. -/

namespace GameClient

/-- A reading of a frame. It is `none` if a byte was asked for that is not there. -/
abbrev Reading (α : Type) := ExceptT DecodeError Option α

namespace Reading

variable {α β : Type}

def answer (result : Except DecodeError α) : Reading α := .mk (some result)

/-- Refuses the frame if this holds. -/
def refuse (p : Prop) [Decidable p] (error : DecodeError) : Reading Unit :=
  answer (if p then .error error else .ok ())

/-- Refuses a frame that has fewer bytes than are needed. -/
def require (needed : Nat) (frame : Bytes) : Reading Unit :=
  refuse (frame.length < needed) (.truncated needed frame.length)

def byte (frame : Bytes) (place : Nat) : Reading UInt8 := .mk (frame[place]?.map .ok)

/-- The bytes from the place `first` to the one before `last`. -/
def slice (frame : Bytes) (first last : Nat) : Reading Bytes :=
  if first ≤ last ∧ last ≤ frame.length then answer (.ok ((frame.drop first).take (last - first)))
  else .mk none

theorem answer_bind (a : α) (next : α → Reading β) : (answer (.ok a) >>= next) = next a := rfl

theorem refuse_bind (p : Prop) [Decidable p] (error : DecodeError) (next : Unit → Reading β) :
    (refuse p error >>= next) = if p then answer (.error error) else next () := by
  unfold refuse
  split <;> rfl

theorem require_bind (needed : Nat) (frame : Bytes) (next : Unit → Reading β) :
    (require needed frame >>= next) =
      if frame.length < needed then answer (.error (.truncated needed frame.length))
      else next () :=
  refuse_bind ..

theorem answer_ite (p : Prop) [Decidable p] (yes no : Except DecodeError α) :
    answer (if p then yes else no) = if p then answer yes else answer no :=
  apply_ite answer p yes no

theorem slice_append (first middle last : Bytes) {start stop : Nat} (hstart : first.length = start)
    (hstop : first.length + middle.length = stop) :
    slice (first ++ (middle ++ last)) start stop = answer (.ok middle) := by
  subst hstart hstop
  have inside : first.length ≤ first.length + middle.length ∧
      first.length + middle.length ≤ (first ++ (middle ++ last)).length := by
    simp only [List.length_append]
    omega
  rw [slice, if_pos inside, List.drop_left, Nat.add_sub_cancel_left, List.take_left]

theorem slice_first (first last : Bytes) {stop : Nat} (hstop : first.length = stop) :
    slice (first ++ last) 0 stop = answer (.ok first) :=
  slice_append [] first last rfl (by rw [hstop, List.length_nil, Nat.zero_add])

theorem slice_rest (first last : Bytes) {start : Nat} (hstart : first.length = start) :
    slice (first ++ last) start (first ++ last).length = answer (.ok last) := by
  have whole := slice_append first last [] hstart List.length_append.symm
  rw [List.append_nil] at whole
  exact whole

end Reading

open Reading

/-! ## The readers -/

def Assign.read (frame : Bytes) : Reading SessionId := do
  require 18 frame
  let dataTag ← byte frame 0
  refuse (DataType.ofByte dataTag ≠ .control) (.unexpectedDataType dataTag)
  let subTag ← byte frame 1
  refuse (ControlKind.ofByte subTag ≠ .assign) (.unexpectedSubType subTag)
  answer (SessionId.ofBytes (← slice frame 2 18))

def Control.read (frame : Bytes) : Reading Control := do
  require 22 frame
  let dataTag ← byte frame 0
  refuse (DataType.ofByte dataTag ≠ .control) (.unexpectedDataType dataTag)
  let subTag ← byte frame 1
  let kind := ControlKind.ofByte subTag
  refuse (kind ≠ .join ∧ kind ≠ .leave) (.unexpectedSubType subTag)
  let sessionId ← answer (SessionId.ofBytes (← slice frame 2 18))
  let seq ← slice frame 18 22
  answer (.ok { kind, sessionId, seq := UInt32.ofNat (Bytes.toNat seq) })

def Input.read (frame : Bytes) : Reading Input := do
  require 24 frame
  let dataTag ← byte frame 0
  refuse (DataType.ofByte dataTag ≠ .input) (.unexpectedDataType dataTag)
  let sessionId ← answer (SessionId.ofBytes (← slice frame 2 18))
  let seq ← slice frame 18 22
  let keys ← slice frame 22 24
  answer (.ok {
    sessionId
    seq := UInt32.ofNat (Bytes.toNat seq)
    keys := ⟨UInt16.ofNat (Bytes.toNat keys)⟩ })

def Actor.read (record : Bytes) : Reading Actor := do
  let sessionId ← answer (SessionId.ofBytes (← slice record 0 16))
  let x ← slice record 16 20
  let y ← slice record 20 24
  answer (.ok {
    sessionId
    x := UInt32.ofNat (Bytes.toNat x)
    y := UInt32.ofNat (Bytes.toNat y) })

namespace Broadcast

/-- Reads the next `count` records, which must all be there. -/
def readAll : (count : Nat) → Bytes → Reading (List Actor)
  | 0, _ => answer (.ok [])
  | count + 1, body => do
    let actor ← Actor.read (← slice body 0 24)
    let rest ← readAll count (← slice body 24 body.length)
    answer (.ok (actor :: rest))

def read (frame : Bytes) : Reading (List Actor) := do
  require 4 frame
  let dataTag ← byte frame 0
  refuse (DataType.ofByte dataTag ≠ .actor) (.unexpectedDataType dataTag)
  let low ← byte frame 2
  let high ← byte frame 3
  let body ← slice frame 4 frame.length
  let count := low.toNat + 256 * high.toNat
  require (4 + 24 * count) frame
  readAll count body

end Broadcast

/-- The reader of the frames that this decoder takes. -/
def Decoder.read : (d : Decoder) → Bytes → Reading d.Result
  | assign => Assign.read
  | control => Control.read
  | input => Input.read
  | broadcast => Broadcast.read

/-! ## Fields in their places -/

theorem slice_id (dataTag subTag : UInt8) (id : SessionId) (rest : Bytes) :
    slice (dataTag :: subTag :: (id.bytes ++ rest)) 2 18 = answer (.ok id.bytes) :=
  slice_append [dataTag, subTag] id.bytes rest rfl (by rw [id.length_eq]; rfl)

theorem slice_seq (dataTag subTag : UInt8) (id : SessionId) (seq : UInt32) (rest : Bytes) :
    slice (dataTag :: subTag :: (id.bytes ++ (Bytes.ofNat 4 seq.toNat ++ rest))) 18 22 =
      answer (.ok (Bytes.ofNat 4 seq.toNat)) := by
  have start : (dataTag :: subTag :: id.bytes).length = 18 := by
    rw [List.length_cons, List.length_cons, id.length_eq]
  have stop : (dataTag :: subTag :: id.bytes).length + (Bytes.ofNat 4 seq.toNat).length = 22 := by
    rw [start, Bytes.length_ofNat]
  exact slice_append (dataTag :: subTag :: id.bytes) _ rest start stop

theorem slice_keys (dataTag subTag : UInt8) (id : SessionId) (seq : UInt32) (keys : UInt16)
    (rest : Bytes) :
    slice (dataTag :: subTag :: (id.bytes ++
      (Bytes.ofNat 4 seq.toNat ++ (Bytes.ofNat 2 keys.toNat ++ rest)))) 22 24 =
      answer (.ok (Bytes.ofNat 2 keys.toNat)) := by
  have start : (dataTag :: subTag :: (id.bytes ++ Bytes.ofNat 4 seq.toNat)).length = 22 := by
    simp only [List.length_cons, List.length_append, id.length_eq, Bytes.length_ofNat]
  have stop : (dataTag :: subTag :: (id.bytes ++ Bytes.ofNat 4 seq.toNat)).length +
      (Bytes.ofNat 2 keys.toNat).length = 24 := by
    rw [start, Bytes.length_ofNat]
  rw [← List.append_assoc id.bytes]
  exact slice_append (dataTag :: subTag :: (id.bytes ++ Bytes.ofNat 4 seq.toNat)) _ rest start stop

theorem Actor.read_toRecord (actor : Actor) : read actor.toRecord = answer (.ok actor) := by
  have id := actor.sessionId.length_eq
  have name : slice actor.toRecord 0 16 = answer (.ok actor.sessionId.bytes) := by
    rw [toRecord, List.append_assoc]
    exact slice_first _ _ id
  have first : slice actor.toRecord 16 20 = answer (.ok (Bytes.ofNat 4 actor.x.toNat)) := by
    rw [toRecord, List.append_assoc]
    exact slice_append _ _ _ id (by rw [id, Bytes.length_ofNat])
  have second : slice actor.toRecord 20 24 = answer (.ok (Bytes.ofNat 4 actor.y.toNat)) := by
    have start : (actor.sessionId.bytes ++ Bytes.ofNat 4 actor.x.toNat).length = 20 := by
      rw [List.length_append, id, Bytes.length_ofNat]
    have field := slice_append _ (Bytes.ofNat 4 actor.y.toNat) [] start
      (by rw [start, Bytes.length_ofNat])
    rw [List.append_nil] at field
    exact field
  simp only [read, name, first, second, answer_bind, SessionId.ofBytes_bytes,
    Bytes.ofNat_toNat_seq]

/-! ## No faults -/

/-- A frame that is too short is refused by both. -/
theorem Decoder.require_needs_bind {d : Decoder} {frame : Bytes} (next : Unit → Reading d.Result)
    (h : d.needs frame ≤ frame.length → next () = answer (d.decode frame)) :
    (require (d.needs frame) frame >>= next) = answer (d.decode frame) := by
  rw [require_bind]
  split
  · next short => rw [decode_of_short short]
  · next long => exact h (Nat.le_of_not_lt long)

theorem Assign.read_eq (frame : Bytes) : read frame = answer (decode frame) := by
  apply Decoder.require_needs_bind (d := .assign)
  intro long
  obtain ⟨dataTag, subTag, id, rest, rfl⟩ := Assign.exists_fields long
  have first : byte (dataTag :: subTag :: (id.bytes ++ rest)) 0 = answer (.ok dataTag) := rfl
  have second : byte (dataTag :: subTag :: (id.bytes ++ rest)) 1 = answer (.ok subTag) := rfl
  have data := DataType.ofByte_eq_iff dataTag .control rfl
  have kind := ControlKind.ofByte_eq_iff subTag .assign rfl
  simp only [DataType.toByte, ControlKind.toByte] at data kind
  simp only [first, second, slice_id, answer_bind, refuse_bind, ne_eq, data, kind, Decoder.decode,
    decode_fields, SessionId.ofBytes_bytes, answer_ite]

theorem Control.read_eq (frame : Bytes) : read frame = answer (decode frame) := by
  apply Decoder.require_needs_bind (d := .control)
  intro long
  obtain ⟨dataTag, subTag, id, seq, rest, rfl⟩ := Control.exists_fields long
  have first : byte (dataTag :: subTag :: (id.bytes ++ (Bytes.ofNat 4 seq.toNat ++ rest))) 0 =
      answer (.ok dataTag) := rfl
  have second : byte (dataTag :: subTag :: (id.bytes ++ (Bytes.ofNat 4 seq.toNat ++ rest))) 1 =
      answer (.ok subTag) := rfl
  have data := DataType.ofByte_eq_iff dataTag .control rfl
  have join := ControlKind.ofByte_eq_iff subTag .join rfl
  have leave := ControlKind.ofByte_eq_iff subTag .leave rfl
  simp only [DataType.toByte, ControlKind.toByte] at data join leave
  simp only [first, second, slice_id, slice_seq, answer_bind, refuse_bind, ne_eq, data, join,
    leave, Decoder.decode, decode_cons, SessionId.ofBytes_bytes, Bytes.ofNat_toNat_seq, answer_ite]

theorem Input.read_eq (frame : Bytes) : read frame = answer (decode frame) := by
  apply Decoder.require_needs_bind (d := .input)
  intro long
  obtain ⟨dataTag, subTag, id, seq, keys, rest, rfl⟩ := Input.exists_fields long
  have first : byte (dataTag :: subTag :: (id.bytes ++
      (Bytes.ofNat 4 seq.toNat ++ (Bytes.ofNat 2 keys.toNat ++ rest)))) 0 =
      answer (.ok dataTag) := rfl
  have data := DataType.ofByte_eq_iff dataTag .input rfl
  simp only [DataType.toByte] at data
  simp only [first, slice_id, slice_seq, slice_keys, answer_bind, refuse_bind, ne_eq, data,
    Decoder.decode, decode_cons, SessionId.ofBytes_bytes, Bytes.ofNat_toNat_seq,
    Bytes.ofNat_toNat_keys, answer_ite]

namespace Broadcast

theorem readAll_records (actors : List Actor) (rest : Bytes) :
    readAll actors.length (actors.flatMap Actor.toRecord ++ rest) = answer (.ok actors) := by
  induction actors with
  | nil => rfl
  | cons actor actors ih =>
    have width : actor.toRecord.length = 24 := Actor.length_toRecord actor
    have record := slice_first actor.toRecord (actors.flatMap Actor.toRecord ++ rest) width
    have later := slice_rest actor.toRecord (actors.flatMap Actor.toRecord ++ rest) width
    rw [List.flatMap_cons, List.append_assoc, List.length_cons, readAll, record, answer_bind,
      Actor.read_toRecord, answer_bind, later, answer_bind, ih, answer_bind]

theorem read_eq (frame : Bytes) : read frame = answer (decode frame) := by
  by_cases bare : frame.length < 4
  · rw [read, require_bind, if_pos bare, decode_of_lt bare]
  · obtain ⟨dataTag, subTag, low, high, body, rfl⟩ := exists_prelude (Nat.le_of_not_lt bare)
    have first : byte (dataTag :: subTag :: low :: high :: body) 0 = answer (.ok dataTag) := rfl
    have third : byte (dataTag :: subTag :: low :: high :: body) 2 = answer (.ok low) := rfl
    have fourth : byte (dataTag :: subTag :: low :: high :: body) 3 = answer (.ok high) := rfl
    have records : slice (dataTag :: subTag :: low :: high :: body) 4
        (dataTag :: subTag :: low :: high :: body).length = answer (.ok body) :=
      slice_rest [dataTag, subTag, low, high] body rfl
    have data := DataType.ofByte_eq_iff dataTag .actor rfl
    simp only [DataType.toByte] at data
    rw [read, require_bind, if_neg bare, first, answer_bind, refuse_bind, decode_cons]
    by_cases other : dataTag ≠ 2
    · rw [if_pos other, if_pos (mt data.mp other)]
    rw [if_neg other, if_neg (not_not_intro (data.mpr (Decidable.not_not.mp other))), third,
      answer_bind, fourth, answer_bind, records, answer_bind]
    dsimp only
    rw [require_bind]
    have length : (dataTag :: subTag :: low :: high :: body).length = body.length + 4 := rfl
    rw [length]
    by_cases cut : body.length < 24 * (low.toNat + 256 * high.toNat)
    · rw [if_pos cut, if_pos (by omega)]
    · rw [if_neg cut, if_neg (by omega)]
      obtain ⟨actors, rest, same, rfl⟩ := exists_records_append _ body (Nat.le_of_not_lt cut)
      rw [← same, readAll_records, readRecords_records]

/-- The decoder reads the actors at the places that the count announces, and refuses a frame for
its length or its first tag only. A list that it returns is written as the frame was, up to the sub
type byte and what follows the last record. It asks for no byte that is not there. -/
theorem decode_exact (frame : Bytes) :
    (decode frame =
      if frame.length < 4 then .error (.truncated 4 frame.length)
      else if byteAt frame 0 ≠ 2 then .error (.unexpectedDataType (byteAt frame 0))
      else if frame.length < 4 + 24 * announced frame then
        .error (.truncated (4 + 24 * announced frame) frame.length)
      else .ok ((List.range (announced frame)).map fun i => actorAt frame (4 + 24 * i))) ∧
    (∀ actors, decode frame = .ok actors →
      encode actors = [2, 0] ++ (frame.drop 2).take (2 + 24 * announced frame)) ∧
    read frame = answer (decode frame) := by
  refine ⟨decode_eq frame, ?_, read_eq frame⟩
  intro actors accepted
  obtain ⟨subTag, rest, shape, length⟩ := eq_append_of_decode accepted
  have fields : ((encode actors).drop 2).length = 2 + 24 * announced frame := by
    rw [List.length_drop, length]
    omega
  have dropped : frame.drop 2 = (encode actors).drop 2 ++ rest := congrArg (List.drop 2) shape
  rw [dropped, List.take_left' fields]
  rfl

/-- No actors, a sub type byte that means nothing here, and a byte too many. -/
example : decode [2, 9, 0, 0, 7] = .ok [] := rfl

end Broadcast

theorem Decoder.read_eq (d : Decoder) (frame : Bytes) :
    d.read frame = answer (d.decode frame) := by
  cases d with
  | assign => exact Assign.read_eq frame
  | control => exact Control.read_eq frame
  | input => exact Input.read_eq frame
  | broadcast => exact Broadcast.read_eq frame

end GameClient

import GameClient.Wire.Control
import GameClient.Wire.Input

/-! # Reading frames back

A frame of fixed size reads back whatever bytes follow it. An ASSIGN is read exactly when its two
tags and its length say so. Every byte string that is long enough starts with the fields of some
frame, so a decoder is known by what it makes of these. -/

namespace GameClient

/-! ## Steps of a decoder -/

theorem ok_bind {ε α β : Type} (a : α) (next : α → Except ε β) : (.ok a >>= next) = next a := rfl

theorem error_bind {ε α β : Type} (error : ε) (next : α → Except ε β) :
    (.error error >>= next) = .error error := rfl

theorem throw_bind {ε α β : Type} (error : ε) (next : α → Except ε β) :
    (throw error >>= next) = .error error := rfl

theorem of_ite_error_eq_ok {ε α : Type} {p : Prop} [Decidable p] {error : ε} {a : α}
    {result : Except ε α} (h : (if p then .error error else result) = .ok a) :
    ¬ p ∧ result = .ok a := by
  split at h
  · cases h
  · next passed => exact ⟨passed, h⟩

theorem openFrame_of_lt {needed : Nat} {frame : Bytes} (h : frame.length < needed) :
    openFrame needed frame = .error (.truncated needed frame.length) := by
  unfold openFrame
  rw [if_pos h]

theorem openFrame_cons (needed : Nat) (dataTag subTag : UInt8) (body : Bytes)
    (h : needed ≤ body.length + 2) :
    openFrame needed (dataTag :: subTag :: body) = .ok (dataTag, subTag, body) := by
  have long : ¬ (dataTag :: subTag :: body).length < needed := by
    simp only [List.length_cons]
    omega
  rw [openFrame, if_neg long]

theorem exists_cons_of_le_length (frame : Bytes) (h : 2 ≤ frame.length) :
    ∃ dataTag subTag body, frame = dataTag :: subTag :: body := by
  match frame, h with
  | dataTag :: subTag :: body, _ => exact ⟨dataTag, subTag, body, rfl⟩

theorem le_length_of_openFrame {α : Type} {needed : Nat} {frame : Bytes} {a : α}
    {next : UInt8 × UInt8 × Bytes → Except DecodeError α}
    (h : (openFrame needed frame >>= next) = .ok a) : needed ≤ frame.length := by
  apply Nat.le_of_not_lt
  intro short
  rw [openFrame_of_lt short, error_bind] at h
  cases h

theorem DataType.ofByte_eq_iff (tag : UInt8) (type : DataType) (h : ofByte type.toByte = type) :
    ofByte tag = type ↔ tag = type.toByte := by
  constructor
  · rintro rfl
    exact (toByte_ofByte tag).symm
  · rintro rfl
    exact h

theorem ControlKind.ofByte_eq_iff (tag : UInt8) (kind : ControlKind)
    (h : ofByte kind.toByte = kind) : ofByte tag = kind ↔ tag = kind.toByte := by
  constructor
  · rintro rfl
    exact (toByte_ofByte tag).symm
  · rintro rfl
    exact h

theorem requireDataType_bind {α : Type} (type : DataType)
    (known : DataType.ofByte type.toByte = type) (tag : UInt8)
    (next : Unit → Except DecodeError α) :
    (requireDataType type tag >>= next) =
      if tag ≠ type.toByte then .error (.unexpectedDataType tag) else next () := by
  have required := DataType.ofByte_eq_iff tag type known
  unfold requireDataType
  by_cases same : tag = type.toByte
  · rw [if_pos (required.mpr same), if_neg (not_not_intro same), ok_bind]
  · rw [if_neg (mt required.mp same), if_pos same, error_bind]

/-! ## Fields -/

/-- An id between its neighbours in a frame is read back. -/
theorem SessionId.ofBytes_take_append (id : SessionId) (tail : Bytes) :
    SessionId.ofBytes ((id.bytes ++ tail).take 16) = .ok id := by
  rw [List.take_left' id.length_eq, SessionId.ofBytes_bytes]

theorem drop_id_append (id : SessionId) (tail : Bytes) : (id.bytes ++ tail).drop 16 = tail :=
  List.drop_left' id.length_eq

theorem Bytes.ofNat_toNat_seq (seq : UInt32) :
    UInt32.ofNat (Bytes.toNat (Bytes.ofNat 4 seq.toNat)) = seq := by
  have fits : seq.toNat < 256 ^ 4 := seq.toNat_lt
  rw [Bytes.toNat_ofNat, Nat.mod_eq_of_lt fits, UInt32.ofNat_toNat]

theorem Bytes.ofNat_toNat_keys (keys : UInt16) :
    UInt16.ofNat (Bytes.toNat (Bytes.ofNat 2 keys.toNat)) = keys := by
  have fits : keys.toNat < 256 ^ 2 := keys.toNat_lt
  rw [Bytes.toNat_ofNat, Nat.mod_eq_of_lt fits, UInt16.ofNat_toNat]

theorem SessionId.exists_append (body : Bytes) (h : 16 ≤ body.length) :
    ∃ (id : SessionId) (rest : Bytes), body = id.bytes ++ rest :=
  ⟨⟨body.take 16, List.length_take_of_le h⟩, body.drop 16, (List.take_append_drop 16 body).symm⟩

/-- A number below `256 ^ width` is what `width` bytes say. -/
theorem Bytes.exists_ofNat_append (width : Nat) (body : Bytes) (h : width ≤ body.length) :
    ∃ (n : Nat) (rest : Bytes), n < 256 ^ width ∧ body = ofNat width n ++ rest := by
  have exact_width : (body.take width).length = width := List.length_take_of_le h
  refine ⟨toNat (body.take width), body.drop width, ?_, ?_⟩
  · have bound := toNat_lt (body.take width)
    rw [exact_width] at bound
    exact bound
  · have again := ofNat_toNat (body.take width)
    rw [exact_width] at again
    rw [again, List.take_append_drop]

theorem Bytes.exists_word_append (body : Bytes) (h : 4 ≤ body.length) :
    ∃ (word : UInt32) (rest : Bytes), body = ofNat 4 word.toNat ++ rest := by
  obtain ⟨n, rest, bound, rfl⟩ := exists_ofNat_append 4 body h
  exact ⟨UInt32.ofNat n, rest, by rw [UInt32.toNat_ofNat_of_lt' bound]⟩

theorem Bytes.exists_keys_append (body : Bytes) (h : 2 ≤ body.length) :
    ∃ (keys : UInt16) (rest : Bytes), body = ofNat 2 keys.toNat ++ rest := by
  obtain ⟨n, rest, bound, rfl⟩ := exists_ofNat_append 2 body h
  exact ⟨UInt16.ofNat n, rest, by rw [UInt16.toNat_ofNat_of_lt' bound]⟩

/-- Frames that are long enough have the fields of an ASSIGN, of a control frame or of an INPUT,
whatever their tags say. -/
theorem Assign.exists_fields {frame : Bytes} (h : 18 ≤ frame.length) :
    ∃ dataTag subTag id rest, frame = dataTag :: subTag :: (SessionId.bytes id ++ rest) := by
  obtain ⟨dataTag, subTag, body, rfl⟩ := exists_cons_of_le_length frame (by omega)
  simp only [List.length_cons] at h
  obtain ⟨id, rest, rfl⟩ := SessionId.exists_append body (by omega)
  exact ⟨dataTag, subTag, id, rest, rfl⟩

theorem Control.exists_fields {frame : Bytes} (h : 22 ≤ frame.length) :
    ∃ dataTag subTag id seq rest, frame =
      dataTag :: subTag :: (SessionId.bytes id ++ (Bytes.ofNat 4 (UInt32.toNat seq) ++ rest)) := by
  have start : 18 ≤ frame.length := by omega
  obtain ⟨dataTag, subTag, id, fields, rfl⟩ := Assign.exists_fields start
  simp only [List.length_cons, List.length_append, id.length_eq] at h
  obtain ⟨seq, rest, rfl⟩ := Bytes.exists_word_append fields (by omega)
  exact ⟨dataTag, subTag, id, seq, rest, rfl⟩

theorem Input.exists_fields {frame : Bytes} (h : 24 ≤ frame.length) :
    ∃ dataTag subTag id seq keys rest, frame = dataTag :: subTag :: (SessionId.bytes id ++
      (Bytes.ofNat 4 (UInt32.toNat seq) ++ (Bytes.ofNat 2 (UInt16.toNat keys) ++ rest))) := by
  have start : 22 ≤ frame.length := by omega
  obtain ⟨dataTag, subTag, id, seq, fields, rfl⟩ := Control.exists_fields start
  simp only [List.length_cons, List.length_append, id.length_eq, Bytes.length_ofNat] at h
  obtain ⟨keys, rest, rfl⟩ := Bytes.exists_keys_append fields (by omega)
  exact ⟨dataTag, subTag, id, seq, keys, rest, rfl⟩

/-! ## Assignments -/

/-- The id in a frame of at least eighteen bytes with the tags 1 and 1: its sixteen bytes after
the tags. -/
def assignedId? (frame : Bytes) : Option SessionId :=
  if h : 18 ≤ frame.length ∧ frame.take 2 = [1, 1] then
    some ⟨(frame.drop 2).take 16, by simp only [List.length_take, List.length_drop]; omega⟩
  else none

theorem Assign.decode_cons {body : Bytes} (dataTag subTag : UInt8) (h : 16 ≤ body.length) :
    decode (dataTag :: subTag :: body) =
      if dataTag ≠ 1 then .error (.unexpectedDataType dataTag)
      else if subTag ≠ 1 then .error (.unexpectedSubType subTag)
      else SessionId.ofBytes (body.take 16) := by
  have opened := openFrame_cons frameLength dataTag subTag body (by rw [frameLength]; omega)
  have kind := ControlKind.ofByte_eq_iff subTag .assign rfl
  simp only [ControlKind.toByte] at kind
  simp only [decode, opened, ok_bind, requireDataType_bind .control rfl, DataType.toByte, ne_eq,
    kind, throw_bind]

theorem Assign.decode_fields (dataTag subTag : UInt8) (id : SessionId) (tail : Bytes) :
    decode (dataTag :: subTag :: (id.bytes ++ tail)) =
      if dataTag ≠ 1 then .error (.unexpectedDataType dataTag)
      else if subTag ≠ 1 then .error (.unexpectedSubType subTag)
      else .ok id := by
  have long : 16 ≤ (id.bytes ++ tail).length := by
    rw [List.length_append, id.length_eq]
    exact Nat.le_add_right 16 _
  rw [decode_cons dataTag subTag long, SessionId.ofBytes_take_append]

theorem Assign.decode_eq_ok_iff {frame : Bytes} {id : SessionId} :
    Assign.decode frame = .ok id ↔ assignedId? frame = some id := by
  by_cases short : frame.length < frameLength
  · have none : assignedId? frame = none := dif_neg (by rw [frameLength] at short; omega)
    rw [decode, openFrame_of_lt short, error_bind, none]
    simp
  · rw [frameLength] at short
    obtain ⟨dataTag, subTag, body, rfl⟩ := exists_cons_of_le_length frame (by omega)
    have long : 16 ≤ body.length := by
      simp only [List.length_cons] at short
      omega
    rw [Assign.decode_cons dataTag subTag long]
    by_cases data : dataTag = 1 <;> by_cases sub : subTag = 1 <;>
      simp [assignedId?, SessionId.ofBytes, data, sub, long]

def zeroAssign : Bytes := 1 :: 1 :: List.replicate 16 0

/-! ## Messages of the client -/

theorem Control.decode_cons (dataTag subTag : UInt8) (id : SessionId) (seq : UInt32)
    (tail : Bytes) :
    decode (dataTag :: subTag :: (id.bytes ++ (Bytes.ofNat 4 seq.toNat ++ tail))) =
      if dataTag ≠ 1 then .error (.unexpectedDataType dataTag)
      else if subTag ≠ 2 ∧ subTag ≠ 3 then .error (.unexpectedSubType subTag)
      else .ok ⟨.ofByte subTag, id, seq⟩ := by
  have opened := openFrame_cons frameLength dataTag subTag
    (id.bytes ++ (Bytes.ofNat 4 seq.toNat ++ tail)) (by
      simp only [List.length_append, id.length_eq, Bytes.length_ofNat, frameLength]
      omega)
  have join := ControlKind.ofByte_eq_iff subTag .join rfl
  have leave := ControlKind.ofByte_eq_iff subTag .leave rfl
  have width : (Bytes.ofNat 4 seq.toNat).length = 4 := Bytes.length_ofNat ..
  simp only [ControlKind.toByte] at join leave
  simp only [decode, opened, ok_bind, requireDataType_bind .control rfl, DataType.toByte, ne_eq,
    join, leave, throw_bind, SessionId.ofBytes_take_append, drop_id_append, List.take_left' width,
    Bytes.ofNat_toNat_seq]
  rfl

/-- A frame with the fields of an INPUT is read by its first tag only. -/
theorem Input.decode_cons (dataTag subTag : UInt8) (id : SessionId) (seq : UInt32) (keys : UInt16)
    (tail : Bytes) :
    decode (dataTag :: subTag ::
        (id.bytes ++ (Bytes.ofNat 4 seq.toNat ++ (Bytes.ofNat 2 keys.toNat ++ tail)))) =
      if dataTag ≠ 3 then .error (.unexpectedDataType dataTag) else .ok ⟨id, seq, ⟨keys⟩⟩ := by
  have opened := openFrame_cons frameLength dataTag subTag
    (id.bytes ++ (Bytes.ofNat 4 seq.toNat ++ (Bytes.ofNat 2 keys.toNat ++ tail))) (by
      simp only [List.length_append, id.length_eq, Bytes.length_ofNat, frameLength]
      omega)
  have width : (Bytes.ofNat 4 seq.toNat).length = 4 := Bytes.length_ofNat ..
  have narrow : (Bytes.ofNat 2 keys.toNat).length = 2 := Bytes.length_ofNat ..
  have past :
      (id.bytes ++ (Bytes.ofNat 4 seq.toNat ++ (Bytes.ofNat 2 keys.toNat ++ tail))).drop 20 =
      Bytes.ofNat 2 keys.toNat ++ tail := by
    rw [← List.append_assoc]
    exact List.drop_left' (by simp [id.length_eq])
  simp only [decode, opened, ok_bind, requireDataType_bind .input rfl, DataType.toByte, ne_eq,
    SessionId.ofBytes_take_append, drop_id_append, past, List.take_left' width,
    List.take_left' narrow, Bytes.ofNat_toNat_seq, Bytes.ofNat_toNat_keys]
  rfl

theorem Control.encode_append (m : Control) (tail : Bytes) :
    encode m ++ tail =
      1 :: m.kind.toByte :: (m.sessionId.bytes ++ (Bytes.ofNat 4 m.seq.toNat ++ tail)) := by
  simp only [encode, DataType.toByte, List.cons_append, List.append_assoc]

theorem Input.encode_append (m : Input) (tail : Bytes) :
    encode m ++ tail = 3 :: 0 :: (m.sessionId.bytes ++
      (Bytes.ofNat 4 m.seq.toNat ++ (Bytes.ofNat 2 m.keys.bits.toNat ++ tail))) := by
  simp only [encode, DataType.toByte, List.cons_append, List.append_assoc]

theorem Control.decode_encode_append (m : Control) (tail : Bytes) :
    decode (encode m ++ tail) =
      if m.kind.toByte ≠ 2 ∧ m.kind.toByte ≠ 3 then .error (.unexpectedSubType m.kind.toByte)
      else .ok ⟨.ofByte m.kind.toByte, m.sessionId, m.seq⟩ := by
  rw [encode_append, decode_cons, if_neg (not_not_intro rfl)]

theorem Input.decode_encode_append (m : Input) (tail : Bytes) :
    decode (encode m ++ tail) = .ok m := by
  rw [encode_append, decode_cons, if_neg (not_not_intro rfl)]

theorem Control.decode_encode (m : Control) (h : m.kind = .join ∨ m.kind = .leave) :
    decode (encode m) = .ok m := by
  have read := decode_encode_append m []
  rw [List.append_nil] at read
  obtain ⟨kind, id, seq⟩ := m
  rcases h with rfl | rfl
  · exact read
  · exact read

theorem Input.decode_encode (m : Input) : decode (encode m) = .ok m := by
  simpa using decode_encode_append m []

/-! ## Fields by their place -/

/-- The bytes where the frames of a client carry their session id. -/
def idField (frame : Bytes) : Bytes := (frame.drop 2).take 16

/-- The bytes where the frames of a client carry their sequence number. -/
def seqField (frame : Bytes) : Bytes := (frame.drop 18).take 4

@[simp] theorem idField_control (m : Control) : idField m.encode = m.sessionId.bytes := by
  simp only [idField, Control.encode, List.drop_succ_cons, List.drop_zero]
  exact List.take_left' m.sessionId.length_eq

@[simp] theorem idField_input (m : Input) : idField m.encode = m.sessionId.bytes := by
  simp only [idField, Input.encode, List.drop_succ_cons, List.drop_zero, List.append_assoc]
  exact List.take_left' m.sessionId.length_eq

@[simp] theorem seqField_control (m : Control) :
    seqField m.encode = Bytes.ofNat 4 m.seq.toNat := by
  simp only [seqField, Control.encode, List.drop_succ_cons, drop_id_append]
  exact List.take_of_length_le (by simp)

@[simp] theorem seqField_input (m : Input) : seqField m.encode = Bytes.ofNat 4 m.seq.toNat := by
  simp only [seqField, Input.encode, List.drop_succ_cons, List.append_assoc, drop_id_append]
  exact List.take_left' (Bytes.length_ofNat ..)

end GameClient

import GameClient.Proofs.Codec
import GameClient.Wire.Actor

/-! # Actor broadcasts, both ways

A broadcast is read back whatever follows it, and a part of it that was cut off is refused with the
length that it lacks. `actorAt` says what the bytes of a record mean, place by place; the decoder
returns the actors of the places that the count announces, and nothing else (`decode_eq`). -/

namespace GameClient

/-! ## Places of a frame -/

/-- The byte at this place. Behind the end of a frame there are zeros. -/
def byteAt (frame : Bytes) (place : Nat) : UInt8 := frame.getD place 0

/-- The number that four bytes say from this place on, the least significant one first. -/
def wordAt (frame : Bytes) (place : Nat) : Nat :=
  (byteAt frame place).toNat + 256 * (byteAt frame (place + 1)).toNat +
    256 ^ 2 * (byteAt frame (place + 2)).toNat + 256 ^ 3 * (byteAt frame (place + 3)).toNat

/-- The actor that twenty-four bytes say from this place on. -/
def actorAt (frame : Bytes) (place : Nat) : Actor where
  sessionId := ⟨(List.range 16).map fun i => byteAt frame (place + i), by simp⟩
  x := UInt32.ofNat (wordAt frame (place + 16))
  y := UInt32.ofNat (wordAt frame (place + 20))

/-- The number of actors that a broadcast announces. -/
def announced (frame : Bytes) : Nat :=
  (byteAt frame 2).toNat + 256 * (byteAt frame 3).toNat

theorem byteAt_append (first second : Bytes) (place : Nat) :
    byteAt (first ++ second) (first.length + place) = byteAt second place := by
  rw [byteAt, byteAt, List.getD_eq_getElem?_getD, List.getD_eq_getElem?_getD,
    List.getElem?_append_right (Nat.le_add_right _ _), Nat.add_sub_cancel_left]

theorem wordAt_append (first second : Bytes) (place : Nat) :
    wordAt (first ++ second) (first.length + place) = wordAt second place := by
  simp only [wordAt, Nat.add_assoc, byteAt_append]

theorem actorAt_append (first second : Bytes) (place : Nat) :
    actorAt (first ++ second) (first.length + place) = actorAt second place := by
  simp only [actorAt, Nat.add_assoc, byteAt_append, wordAt_append]

theorem wordAt_ofNat (word : UInt32) (rest : Bytes) :
    wordAt (Bytes.ofNat 4 word.toNat ++ rest) 0 = word.toNat := by
  have bound : word.toNat < 256 ^ 4 := word.toNat_lt
  simp only [wordAt, byteAt, Bytes.ofNat, List.cons_append, List.nil_append, List.getD_cons_zero,
    List.getD_cons_succ, Nat.zero_add, UInt8.toNat_ofNat']
  omega

theorem bytesAt_id (id : SessionId) (rest : Bytes) :
    (List.range 16).map (fun i => byteAt (id.bytes ++ rest) (0 + i)) = id.bytes := by
  apply List.ext_getElem
  · rw [List.length_map, List.length_range, id.length_eq]
  · intro i _ inside
    rw [List.getElem_map, List.getElem_range, Nat.zero_add, byteAt, List.getD_eq_getElem?_getD,
      List.getElem?_append_left inside, List.getElem?_eq_getElem inside, Option.getD_some]

/-! ## Records -/

namespace Actor

theorem toRecord_append (actor : Actor) (rest : Bytes) :
    actor.toRecord ++ rest = actor.sessionId.bytes ++
      (Bytes.ofNat 4 actor.x.toNat ++ (Bytes.ofNat 4 actor.y.toNat ++ rest)) := by
  simp only [toRecord, List.append_assoc]

theorem actorAt_toRecord (actor : Actor) (rest : Bytes) :
    actorAt (actor.toRecord ++ rest) 0 = actor := by
  have x := wordAt_append actor.sessionId.bytes
    (Bytes.ofNat 4 actor.x.toNat ++ (Bytes.ofNat 4 actor.y.toNat ++ rest)) 0
  have y := wordAt_append (actor.sessionId.bytes ++ Bytes.ofNat 4 actor.x.toNat)
    (Bytes.ofNat 4 actor.y.toNat ++ rest) 0
  rw [wordAt_ofNat, actor.sessionId.length_eq] at x
  rw [wordAt_ofNat, List.length_append, actor.sessionId.length_eq, Bytes.length_ofNat,
    List.append_assoc] at y
  rw [toRecord_append]
  simp only [actorAt, bytesAt_id]
  rw [x, y, UInt32.ofNat_toNat, UInt32.ofNat_toNat]

theorem ofRecord_toRecord (actor : Actor) : ofRecord actor.toRecord = .ok actor := by
  have word : ∀ word : UInt32, (Bytes.ofNat 4 word.toNat).length = 4 :=
    fun _ => Bytes.length_ofNat ..
  have past : (actor.sessionId.bytes ++
      (Bytes.ofNat 4 actor.x.toNat ++ (Bytes.ofNat 4 actor.y.toNat ++ []))).drop 20 =
      Bytes.ofNat 4 actor.y.toNat ++ [] := by
    rw [← List.append_assoc]
    exact List.drop_left' (by simp [actor.sessionId.length_eq])
  rw [← List.append_nil actor.toRecord, toRecord_append, ofRecord,
    SessionId.ofBytes_take_append, ok_bind, past, drop_id_append, List.take_left' (word actor.x),
    List.take_left' (word actor.y), Bytes.ofNat_toNat_seq, Bytes.ofNat_toNat_seq]
  rfl

theorem exists_append (body : Bytes) (h : 24 ≤ body.length) :
    ∃ (actor : Actor) (rest : Bytes), body = actor.toRecord ++ rest := by
  obtain ⟨id, words, rfl⟩ := SessionId.exists_append body (by omega)
  rw [List.length_append, id.length_eq] at h
  obtain ⟨x, last, rfl⟩ := Bytes.exists_word_append words (by omega)
  rw [List.length_append, Bytes.length_ofNat] at h
  obtain ⟨y, rest, rfl⟩ := Bytes.exists_word_append last (by omega)
  exact ⟨⟨id, x, y⟩, rest, (toRecord_append ⟨id, x, y⟩ rest).symm⟩

end Actor

namespace Broadcast

/-! ## Lists of records -/

@[simp] theorem length_records (actors : List Actor) :
    (actors.flatMap Actor.toRecord).length = 24 * actors.length := by
  induction actors with
  | nil => rfl
  | cons actor actors ih =>
    rw [List.flatMap_cons, List.length_append, Actor.length_toRecord, ih, Actor.recordLength,
      List.length_cons]
    omega

theorem readRecords_records (actors : List Actor) (tail : Bytes) :
    readRecords actors.length (actors.flatMap Actor.toRecord ++ tail) = .ok actors := by
  induction actors with
  | nil => rfl
  | cons actor actors ih =>
    have width := Actor.length_toRecord actor
    rw [List.flatMap_cons, List.append_assoc, List.length_cons, readRecords,
      List.take_left' width, List.drop_left' width, Actor.ofRecord_toRecord, ok_bind, ih]
    rfl

theorem actorAt_records (actors : List Actor) (tail : Bytes) (i : Nat) (h : i < actors.length) :
    actorAt (actors.flatMap Actor.toRecord ++ tail) (24 * i) = actors[i] := by
  induction actors generalizing i with
  | nil => exact absurd h (Nat.not_lt_zero i)
  | cons actor actors ih =>
    rw [List.flatMap_cons, List.append_assoc]
    cases i with
    | zero => exact actor.actorAt_toRecord _
    | succ i =>
      have place : 24 * (i + 1) = actor.toRecord.length + 24 * i := by
        rw [Actor.length_toRecord, Actor.recordLength]
        omega
      rw [place, actorAt_append, List.getElem_cons_succ]
      exact ih i (Nat.lt_of_succ_lt_succ h)

theorem exists_records_append (count : Nat) (body : Bytes) (h : 24 * count ≤ body.length) :
    ∃ (actors : List Actor) (rest : Bytes),
      actors.length = count ∧ body = actors.flatMap Actor.toRecord ++ rest := by
  induction count generalizing body with
  | zero => exact ⟨[], body, rfl, rfl⟩
  | succ count ih =>
    obtain ⟨actor, later, rfl⟩ := Actor.exists_append body (by omega)
    rw [List.length_append, Actor.length_toRecord, Actor.recordLength] at h
    obtain ⟨actors, rest, length, rfl⟩ := ih later (by omega)
    refine ⟨actor :: actors, rest, by rw [List.length_cons, length], ?_⟩
    rw [List.flatMap_cons, List.append_assoc]

/-! ## Whole frames -/

theorem exists_prelude {frame : Bytes} (h : 4 ≤ frame.length) :
    ∃ dataTag subTag low high body, frame = dataTag :: subTag :: low :: high :: body := by
  obtain ⟨dataTag, subTag, fields, rfl⟩ := exists_cons_of_le_length frame (by omega)
  simp only [List.length_cons] at h
  obtain ⟨low, high, body, rfl⟩ := exists_cons_of_le_length fields (by omega)
  exact ⟨dataTag, subTag, low, high, body, rfl⟩

theorem decode_of_lt {frame : Bytes} (h : frame.length < 4) :
    decode frame = .error (.truncated 4 frame.length) := by
  have short : frame.length < preludeLength := h
  rw [decode, openFrame_of_lt short, error_bind, preludeLength]

/-- A frame with a count is read by its tag and by the room for its records. -/
theorem decode_cons (dataTag subTag low high : UInt8) (body : Bytes) :
    decode (dataTag :: subTag :: low :: high :: body) =
      if dataTag ≠ 2 then .error (.unexpectedDataType dataTag)
      else if body.length < 24 * (low.toNat + 256 * high.toNat) then
        .error (.truncated (4 + 24 * (low.toNat + 256 * high.toNat)) (body.length + 4))
      else readRecords (low.toNat + 256 * high.toNat) body := by
  have opened := openFrame_cons preludeLength dataTag subTag (low :: high :: body) (by
    simp only [List.length_cons, preludeLength]
    omega)
  have count : Bytes.toNat ((low :: high :: body).take 2) = low.toNat + 256 * high.toNat := rfl
  have room : preludeLength + (low.toNat + 256 * high.toNat) * Actor.recordLength =
      4 + 24 * (low.toNat + 256 * high.toNat) := by
    rw [preludeLength, Actor.recordLength, Nat.mul_comm]
  have length : (dataTag :: subTag :: low :: high :: body).length = body.length + 4 := rfl
  have cut : body.length + 4 < 4 + 24 * (low.toNat + 256 * high.toNat) ↔
      body.length < 24 * (low.toNat + 256 * high.toNat) := by omega
  simp only [decode, opened, ok_bind, requireDataType_bind .actor rfl, DataType.toByte, count, room,
    length, cut, throw_bind, List.drop_succ_cons, List.drop_zero]

theorem toNat_count {n : Nat} (h : n ≤ 65535) :
    (UInt8.ofNat n).toNat + 256 * (UInt8.ofNat (n / 256)).toNat = n := by
  simp only [UInt8.toNat_ofNat']
  omega

theorem encode_eq_cons (actors : List Actor) :
    encode actors =
      2 :: 0 :: UInt8.ofNat (actors.take 65535).length ::
        UInt8.ofNat ((actors.take 65535).length / 256) ::
        (actors.take 65535).flatMap Actor.toRecord :=
  rfl

theorem length_kept (actors : List Actor) : (actors.take 65535).length ≤ 65535 :=
  List.length_take_le ..

theorem length_encode (actors : List Actor) :
    (encode actors).length = 4 + 24 * (actors.take 65535).length := by
  simp only [encode_eq_cons, List.length_cons, length_records]
  omega

theorem decode_records (subTag low high : UInt8) (actors : List Actor) (tail : Bytes)
    (count : low.toNat + 256 * high.toNat = actors.length) :
    decode (2 :: subTag :: low :: high :: (actors.flatMap Actor.toRecord ++ tail)) =
      .ok actors := by
  have room : ¬ (actors.flatMap Actor.toRecord ++ tail).length < 24 * actors.length := by
    rw [List.length_append, length_records]
    omega
  rw [decode_cons, if_neg (not_not_intro rfl), count, if_neg room, readRecords_records]

/-- A broadcast is read back up to the cut of a list that is too long. -/
theorem decode_encode_append (actors : List Actor) (tail : Bytes) :
    decode (encode actors ++ tail) = .ok (actors.take 65535) := by
  rw [encode_eq_cons]
  exact decode_records 0 _ _ _ tail (toNat_count (length_kept actors))

/-- A broadcast that lost some of its records, but none of its prelude. -/
theorem decode_take {actors : List Actor} {n : Nat} (h : n < 24 * (actors.take 65535).length) :
    decode ((encode actors).take (n + 4)) =
      .error (.truncated (4 + 24 * (actors.take 65535).length) (n + 4)) := by
  have left : (((actors.take 65535).flatMap Actor.toRecord).take n).length = n := by
    rw [List.length_take, length_records]
    omega
  rw [encode_eq_cons]
  simp only [List.take_succ_cons]
  rw [decode_cons, if_neg (not_not_intro rfl), toNat_count (length_kept actors), left, if_pos h]

/-- A broadcast survives bytes that follow it, up to the cut of a list that is too long, and each
part of it is refused for the bytes that it lacks. -/
theorem decode_resized (actors : List Actor) :
    (encode actors).length = 4 + 24 * (actors.take 65535).length ∧
    (∀ tail, decode (encode actors ++ tail) = .ok (actors.take 65535)) ∧
    ∀ part, part <+: encode actors → part ≠ encode actors →
      decode part = .error (.truncated
        (if part.length < 4 then 4 else 4 + 24 * (actors.take 65535).length) part.length) := by
  refine ⟨length_encode actors, decode_encode_append actors, ?_⟩
  intro part within proper
  have shorter : part.length < (encode actors).length :=
    Nat.lt_of_le_of_ne within.length_le fun same => proper (within.eq_of_length same)
  rw [length_encode] at shorter
  by_cases bare : part.length < 4
  · rw [if_pos bare, decode_of_lt bare]
  · obtain ⟨n, length⟩ := Nat.exists_eq_add_of_le' (Nat.le_of_not_lt bare)
    have taken := List.prefix_iff_eq_take.mp within
    rw [if_neg bare, length]
    rw [length] at taken
    rw [taken, decode_take (by omega)]

theorem map_actorAt_records (dataTag subTag low high : UInt8) (actors : List Actor)
    (rest : Bytes) :
    (List.range actors.length).map (fun i =>
      actorAt (dataTag :: subTag :: low :: high :: (actors.flatMap Actor.toRecord ++ rest))
        (4 + 24 * i)) = actors := by
  apply List.ext_getElem
  · rw [List.length_map, List.length_range]
  · intro i _ inside
    rw [List.getElem_map, List.getElem_range]
    have place := actorAt_append [dataTag, subTag, low, high]
      (actors.flatMap Actor.toRecord ++ rest) (24 * i)
    exact place.trans (actorAt_records actors rest i inside)

/-- The decoder reads the actors at the places that the count announces. -/
theorem decode_eq (frame : Bytes) :
    decode frame =
      if frame.length < 4 then .error (.truncated 4 frame.length)
      else if byteAt frame 0 ≠ 2 then .error (.unexpectedDataType (byteAt frame 0))
      else if frame.length < 4 + 24 * announced frame then
        .error (.truncated (4 + 24 * announced frame) frame.length)
      else .ok ((List.range (announced frame)).map fun i => actorAt frame (4 + 24 * i)) := by
  by_cases bare : frame.length < 4
  · rw [if_pos bare, decode_of_lt bare]
  · obtain ⟨dataTag, subTag, low, high, body, rfl⟩ := exists_prelude (Nat.le_of_not_lt bare)
    have first : byteAt (dataTag :: subTag :: low :: high :: body) 0 = dataTag := rfl
    have count : announced (dataTag :: subTag :: low :: high :: body) =
        low.toNat + 256 * high.toNat := rfl
    have length : (dataTag :: subTag :: low :: high :: body).length = body.length + 4 := rfl
    rw [first, count, length, if_neg (by omega), decode_cons]
    by_cases other : dataTag ≠ 2
    · rw [if_pos other, if_pos other]
    rw [if_neg other, if_neg other]
    by_cases cut : body.length < 24 * (low.toNat + 256 * high.toNat)
    · rw [if_pos cut, if_pos (by omega), Nat.add_comm 4]
    · rw [if_neg cut, if_neg (by omega)]
      obtain ⟨actors, rest, same, rfl⟩ := exists_records_append _ body (Nat.le_of_not_lt cut)
      rw [← same, readRecords_records, map_actorAt_records]

/-- Two bytes count at most as many actors as fit into a broadcast, so nothing is cut. -/
theorem encode_of_count {low high : UInt8} {actors : List Actor}
    (count : actors.length = low.toNat + 256 * high.toNat) :
    encode actors = 2 :: 0 :: low :: high :: actors.flatMap Actor.toRecord := by
  have fits : actors.length ≤ 65535 := by
    have bound := low.toNat_lt
    have bound' := high.toNat_lt
    omega
  have bytes : Bytes.ofNat 2 actors.length = [low, high] := by
    rw [count]
    exact Bytes.ofNat_toNat [low, high]
  rw [encode, capacity, List.take_of_length_le fits, bytes]
  rfl

/-- The sub type byte is free, and so is what follows the last record. -/
theorem eq_append_of_decode {frame : Bytes} {actors : List Actor} (h : decode frame = .ok actors) :
    ∃ subTag rest, frame = 2 :: subTag :: ((encode actors).drop 2 ++ rest) ∧
      (encode actors).length = 4 + 24 * announced frame := by
  obtain ⟨dataTag, subTag, low, high, body, rfl⟩ := exists_prelude (le_length_of_openFrame h)
  rw [decode_cons] at h
  obtain ⟨data, h⟩ := of_ite_error_eq_ok h
  obtain ⟨room, h⟩ := of_ite_error_eq_ok h
  obtain ⟨others, rest, count, rfl⟩ := exists_records_append _ body (Nat.le_of_not_lt room)
  rw [← count, readRecords_records] at h
  cases h
  rw [Decidable.not_not.mp data, encode_of_count count]
  refine ⟨subTag, rest, rfl, ?_⟩
  simp only [List.length_cons, length_records, count]
  exact Nat.add_comm _ 4

theorem head?_of_decode {frame : Bytes} {actors : List Actor} (h : decode frame = .ok actors) :
    frame.head? = some 2 := by
  obtain ⟨subTag, rest, rfl, -⟩ := eq_append_of_decode h
  rfl

end Broadcast

end GameClient

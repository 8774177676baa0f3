import GameClient.Proofs.Codec

/-! # Frames of fixed size, both ways

An ASSIGN, a control frame and an INPUT are read back from their encoding, whatever follows it.
Conversely a frame that is accepted starts with the encoding of what was read, up to the sub type
byte of an INPUT, which no one reads. A control kind survives as far as its tag does: one that was
written as an unknown kind under the tag of a JOIN is read as a JOIN. -/

namespace GameClient

/-! ## Assignments -/

theorem Assign.decode_encode_append (id : SessionId) (tail : Bytes) :
    decode (encode id ++ tail) = .ok id := by
  have read := decode_fields 1 1 id tail
  rw [if_neg (not_not_intro rfl), if_neg (not_not_intro rfl)] at read
  exact read

theorem Assign.eq_append_of_decode {frame : Bytes} {id : SessionId}
    (h : decode frame = .ok id) : ∃ rest, frame = encode id ++ rest := by
  obtain ⟨dataTag, subTag, other, rest, rfl⟩ := exists_fields (le_length_of_openFrame h)
  rw [decode_fields] at h
  obtain ⟨data, h⟩ := of_ite_error_eq_ok h
  obtain ⟨sub, h⟩ := of_ite_error_eq_ok h
  cases h
  rw [Decidable.not_not.mp data, Decidable.not_not.mp sub]
  exact ⟨rest, rfl⟩

/-! ## Control frames -/

theorem Control.eq_append_of_decode {frame : Bytes} {m : Control} (h : decode frame = .ok m) :
    ∃ rest, frame = encode m ++ rest := by
  obtain ⟨dataTag, subTag, id, seq, rest, rfl⟩ := exists_fields (le_length_of_openFrame h)
  rw [decode_cons] at h
  obtain ⟨data, h⟩ := of_ite_error_eq_ok h
  obtain ⟨-, h⟩ := of_ite_error_eq_ok h
  cases h
  refine ⟨rest, ?_⟩
  rw [Decidable.not_not.mp data, encode_append, ControlKind.toByte_ofByte]

theorem Control.head?_of_decode {frame : Bytes} {m : Control} (h : decode frame = .ok m) :
    frame.head? = some 1 := by
  obtain ⟨rest, rfl⟩ := eq_append_of_decode h
  rfl

/-! ## Inputs -/

theorem Input.eq_append_of_decode {frame : Bytes} {m : Input} (h : decode frame = .ok m) :
    ∃ subTag rest, frame = 3 :: subTag :: ((encode m).drop 2 ++ rest) := by
  obtain ⟨dataTag, subTag, id, seq, keys, rest, rfl⟩ := exists_fields (le_length_of_openFrame h)
  rw [decode_cons] at h
  obtain ⟨data, h⟩ := of_ite_error_eq_ok h
  cases h
  refine ⟨subTag, rest, ?_⟩
  rw [Decidable.not_not.mp data]
  simp only [encode, List.drop_succ_cons, List.drop_zero, List.append_assoc]

theorem Input.head?_of_decode {frame : Bytes} {m : Input} (h : decode frame = .ok m) :
    frame.head? = some 3 := by
  obtain ⟨subTag, rest, rfl⟩ := eq_append_of_decode h
  rfl

/-! ## Both ways -/

/-- What is encoded is read back, and what is read is what the frame starts with. -/
theorem fixed_frames_inverse :
    (∀ id tail, Assign.decode (Assign.encode id ++ tail) = .ok id) ∧
    (∀ id seq keys tail, Input.decode (Input.encode ⟨id, seq, keys⟩ ++ tail) =
      .ok ⟨id, seq, keys⟩) ∧
    (∀ id seq kind tail, Control.decode (Control.encode ⟨kind, id, seq⟩ ++ tail) =
      if kind.toByte = 2 ∨ kind.toByte = 3 then .ok ⟨.ofByte kind.toByte, id, seq⟩
      else .error (.unexpectedSubType kind.toByte)) ∧
    (∀ frame id, Assign.decode frame = .ok id → Assign.encode id = frame.take 18) ∧
    (∀ frame m, Control.decode frame = .ok m → Control.encode m = frame.take 22) ∧
    (∀ frame m, Input.decode frame = .ok m →
      Input.encode m = [3, 0] ++ (frame.drop 2).take 22) := by
  refine ⟨Assign.decode_encode_append, ?_, ?_, ?_, ?_, ?_⟩
  · intro id seq keys tail
    exact Input.decode_encode_append ⟨id, seq, keys⟩ tail
  · intro id seq kind tail
    rw [Control.decode_encode_append]
    by_cases asked : kind.toByte = 2 ∨ kind.toByte = 3
    · rw [if_pos asked, if_neg fun neither => asked.elim neither.1 neither.2]
    · rw [if_neg asked, if_pos (not_or.mp asked)]
  · intro frame id accepted
    obtain ⟨rest, rfl⟩ := Assign.eq_append_of_decode accepted
    exact (List.take_left' (Assign.length_encode id)).symm
  · intro frame m accepted
    obtain ⟨rest, rfl⟩ := Control.eq_append_of_decode accepted
    exact (List.take_left' (Control.length_encode m)).symm
  · intro frame m accepted
    obtain ⟨subTag, rest, rfl⟩ := Input.eq_append_of_decode accepted
    have fields : ((Input.encode m).drop 2).length = 22 := by
      rw [List.length_drop, Input.length_encode, Input.frameLength]
    rw [List.drop_succ_cons, List.drop_succ_cons, List.drop_zero, List.take_left' fields]
    rfl

end GameClient

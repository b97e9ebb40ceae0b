import ClusterClient.Wire.Reply

/-!
# Reading replies

A frame is read from its start: the header depends on the first sixteen bytes only, and a reply on
as many as its header tells. What follows in the stream makes no difference.

    decode (frame.take size) max = decode frame max                                 (decode_take)
    decode (h.bytes ++ rest) max = ok h, if its length is possible and allowed
                                                                           (decode_bytes_append)
    decodeReply frame id max = ok reply → decodeReply (frame ++ rest) id max = ok reply
                                                                              (decodeReply_append)
-/

namespace ClusterClient

namespace Bytes

theorem readInt32_append_of_le {bs : Bytes} (h : 4 ≤ bs.length) (rest : Bytes) :
    readInt32 (bs ++ rest) = readInt32 bs := by
  rw [readInt32, readInt32, readUInt32, readUInt32, List.take_append_of_le_length h]

end Bytes

namespace Header

/-! ## Headers -/

variable {frame : Bytes} {max : Nat} {h : Header}

theorem decode_append {start : Bytes} (whole : size ≤ start.length) (rest : Bytes) (max : Nat) :
    decode (start ++ rest) max = decode start max := by
  have fields : ∀ n, n + 4 ≤ size →
      Bytes.readInt32 ((start ++ rest).drop n) = Bytes.readInt32 (start.drop n) := by
    intro n hn
    rw [List.drop_append_of_le_length (by omega)]
    refine Bytes.readInt32_append_of_le ?_ rest
    rw [List.length_drop]
    omega
  have length_eq : Bytes.readInt32 (start ++ rest) = Bytes.readInt32 start :=
    fields 0 (by decide)
  have notShort : ¬(start.take size).length < size := by
    rw [List.length_take]
    omega
  simp only [decode, List.take_append_of_le_length whole, if_neg notShort, length_eq,
    fields 4 (by decide), fields 8 (by decide), fields 12 (by decide)]

theorem decode_take (frame : Bytes) (max : Nat) :
    decode (frame.take size) max = decode frame max := by
  by_cases whole : size ≤ frame.length
  · have taken : size ≤ (frame.take size).length := by
      rw [List.length_take]
      omega
    have := decode_append taken (frame.drop size) max
    rw [List.take_append_drop] at this
    exact this.symm
  · rw [List.take_of_length_le (by omega)]

/-- The number that stands this far behind the start of a frame. -/
def field (frame : Bytes) (offset : Nat) : Int32 := Bytes.readInt32 (frame.drop offset)

theorem field_bytes_append (h : Header) (rest : Bytes) :
    field (h.bytes ++ rest) 0 = h.length ∧ field (h.bytes ++ rest) 4 = h.requestId ∧
      field (h.bytes ++ rest) 8 = h.responseTo ∧ field (h.bytes ++ rest) 12 = h.opCode.code := by
  have front₈ : (Bytes.ofInt32 h.length ++ Bytes.ofInt32 h.requestId).length = 8 := by simp
  have front₁₂ : (Bytes.ofInt32 h.length ++ Bytes.ofInt32 h.requestId ++
      Bytes.ofInt32 h.responseTo).length = 12 := by simp
  refine ⟨?_, ?_, ?_, ?_⟩
  · simp only [field, List.drop_zero, bytes, List.append_assoc, Bytes.readInt32_append]
  · simp only [field, bytes, List.append_assoc]
    rw [List.drop_left' (Bytes.length_ofInt32 _), Bytes.readInt32_append]
  · rw [field, bytes, List.append_assoc, List.append_assoc, List.drop_left' front₈,
      Bytes.readInt32_append]
  · rw [field, bytes, List.append_assoc, List.drop_left' front₁₂, Bytes.readInt32_append]

/-- What was written as a header is read back, if the length that it tells is possible. -/
theorem decode_bytes_append (whole : (size : Int) ≤ h.length.toInt)
    (allowed : h.length.toInt.toNat ≤ max) (rest : Bytes) :
    decode (h.bytes ++ rest) max = .ok h := by
  have notShort : ¬((h.bytes ++ rest).take size).length < size := by
    rw [List.take_left' h.length_bytes, length_bytes]
    omega
  obtain ⟨length_eq, requestId_eq, responseTo_eq, code_eq⟩ := h.field_bytes_append rest
  simp only [field, List.drop_zero] at length_eq requestId_eq responseTo_eq code_eq
  simp only [decode, length_eq, requestId_eq, responseTo_eq, code_eq]
  rw [if_neg notShort, if_neg (by omega), if_neg (by omega), OpCode.ofCode?_code]

theorem size_le_of_decode (decoded : decode frame max = .ok h) : size ≤ frame.length := by
  simp only [decode] at decoded
  split at decoded
  · cases decoded
  · next notShort =>
    rw [List.length_take] at notShort
    omega

/-- The length that a header tells is that of the whole frame. -/
theorem length_eq_of_decode (decoded : decode frame max = .ok h) :
    h.length.toInt.toNat = size + h.bodyLength := by
  have told : size ≤ h.length.toInt.toNat := by
    simp only [decode] at decoded
    split at decoded
    · cases decoded
    · split at decoded
      · cases decoded
      · next notSmall =>
        split at decoded
        · cases decoded
        · split at decoded
          · cases decoded
          · cases decoded
            show size ≤ (Bytes.readInt32 frame).toInt.toNat
            omega
  rw [bodyLength]
  omega

/-- If there are as many bytes as the header tells, they start with a frame. -/
theorem exists_frame_of_decode {bytes : Bytes} (decoded : decode bytes max = .ok h)
    (full : h.bodyLength ≤ (bytes.drop size).length) :
    ∃ frame, bytes = frame ++ (bytes.drop size).drop h.bodyLength ∧
      frame.length = h.length.toInt.toNat := by
  rw [List.length_drop] at full
  have whole := size_le_of_decode decoded
  refine ⟨bytes.take (size + h.bodyLength), ?_, ?_⟩
  · rw [List.drop_drop, List.take_append_drop]
  · rw [length_eq_of_decode decoded, List.length_take]
    omega

end Header

/-! ## Replies -/

section

variable {frame : Bytes} {id : Int32} {max : Nat} {h : Header}

theorem decodeReply_of_error {e : FramingError} (decoded : Header.decode frame max = .error e)
    (id : Int32) : decodeReply frame id max = .error e := by
  rw [decodeReply, decoded]
  rfl

theorem decodeReply_of_ok (decoded : Header.decode frame max = .ok h) (id : Int32) :
    decodeReply frame id max =
      if ((frame.drop Header.size).take h.bodyLength).length < h.bodyLength then
        .error (.truncatedBody h.bodyLength ((frame.drop Header.size).take h.bodyLength).length)
      else (h.checkResponseTo id).map fun _ => (h, (frame.drop Header.size).take h.bodyLength) := by
  rw [decodeReply, decoded]
  simp only [bind, Except.bind, pure, Except.pure, throw, throwThe, MonadExceptOf.throw]
  split
  · rfl
  · cases h.checkResponseTo id <;> rfl

theorem decodeReply_append {reply : Header × Bytes} (decoded : decodeReply frame id max = .ok reply)
    (rest : Bytes) : decodeReply (frame ++ rest) id max = .ok reply := by
  cases hd : Header.decode frame max with
  | error e =>
    rw [decodeReply_of_error hd] at decoded
    cases decoded
  | ok h =>
    have whole := Header.size_le_of_decode hd
    have hd' := (Header.decode_append whole rest max).trans hd
    rw [decodeReply_of_ok hd] at decoded
    rw [decodeReply_of_ok hd']
    split at decoded
    · cases decoded
    · next full =>
      have body_le : h.bodyLength ≤ (frame.drop Header.size).length := by
        rw [List.length_take] at full
        omega
      have same : ((frame ++ rest).drop Header.size).take h.bodyLength =
          (frame.drop Header.size).take h.bodyLength := by
        rw [List.drop_append_of_le_length whole, List.take_append_of_le_length body_le]
      rw [same, if_neg full, decoded]

end

end ClusterClient

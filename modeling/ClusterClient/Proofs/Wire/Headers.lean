import ClusterClient.Proofs.Wire.Reply

/-!
# Headers

A header takes sixteen bytes, and it is the only one that is written with them: what was read is
written back as it stood, and what was written is read again, whatever comes after it. Bytes that
no header is written with are refused, and of several faults that they may have the first one is
reported, in the order of `Decoded`.

    decode frame max = r ↔ Decoded frame max r                                      (decode_eq_iff)
    decode frame max = ok h → h.bytes = frame.take size                           (inverse_decode)
    decode (h.bytes ++ rest) max = ok h, if its length is possible and allowed    (inverse_decode)
-/

namespace ClusterClient

/-! ## Numbers -/

namespace Bytes

variable {bs : Bytes}

theorem ofUInt32_readUInt32 (whole : 4 ≤ bs.length) : ofUInt32 (readUInt32 bs) = bs.take 4 := by
  have width : (bs.take 4).length = 4 := by
    rw [List.length_take]
    omega
  have fits : toNat (bs.take 4) < UInt32.size := by
    have lt := toNat_lt (bs.take 4)
    rw [width] at lt
    exact lt
  rw [readUInt32, ofUInt32, UInt32.toNat_ofNat_of_lt' fits]
  have written := ofNat_toNat (bs.take 4)
  rwa [width] at written

theorem ofInt32_readInt32 (whole : 4 ≤ bs.length) : ofInt32 (readInt32 bs) = bs.take 4 := by
  rw [ofInt32, readInt32, UInt32.toUInt32_toInt32, ofUInt32_readUInt32 whole]

end Bytes

/-! ## Codes -/

namespace OpCode

variable {code : Int32}

theorem ofCode?_eq_some_iff {op : OpCode} : ofCode? code = some op ↔ op.code = code := by
  constructor
  · intro found
    simpa using List.find?_some found
  · rintro rfl
    exact ofCode?_code op

theorem ofCode?_eq_none_iff : ofCode? code = none ↔ ∀ op : OpCode, op.code ≠ code := by
  rw [Option.eq_none_iff_forall_ne_some]
  exact forall_congr' fun op => not_congr ofCode?_eq_some_iff

end OpCode

/-! ## Headers -/

namespace Header

variable {frame : Bytes} {max : Nat} {h : Header} {r : Except FramingError Header}

/-- What comes of reading a header: each fault is reported only if there is none of those before
it, and a header is read from the bytes that it is written with. -/
inductive Decoded (frame : Bytes) (max : Nat) : Except FramingError Header → Prop where
  | truncated (short : frame.length < size) :
      Decoded frame max (.error (.truncatedHeader frame.length))
  | invalid (whole : size ≤ frame.length) (small : (field frame 0).toInt < size) :
      Decoded frame max (.error (.invalidLength (field frame 0)))
  | tooLarge (whole : size ≤ frame.length) (possible : size ≤ (field frame 0).toInt)
      (large : max < (field frame 0).toInt) :
      Decoded frame max (.error (.messageTooLarge (field frame 0).toInt.toNat max))
  | unknown (whole : size ≤ frame.length) (possible : size ≤ (field frame 0).toInt)
      (allowed : (field frame 0).toInt ≤ max)
      (unknown : ∀ op : OpCode, op.code ≠ field frame 12) :
      Decoded frame max (.error (.unknownOpCode (field frame 12)))
  | ok {h : Header} (possible : size ≤ h.length.toInt) (allowed : h.length.toInt ≤ max)
      (written : h.bytes = frame.take size) : Decoded frame max (.ok h)

theorem take_drop_eq_ofInt32 {offset : Nat} (whole : offset + 4 ≤ frame.length) :
    (frame.drop offset).take 4 = Bytes.ofInt32 (field frame offset) := by
  refine (Bytes.ofInt32_readInt32 ?_).symm
  rw [List.length_drop]
  omega

/-- Sixteen bytes are four numbers. -/
theorem take_size_eq (whole : size ≤ frame.length) : frame.take size =
    Bytes.ofInt32 (field frame 0) ++ Bytes.ofInt32 (field frame 4) ++
      Bytes.ofInt32 (field frame 8) ++ Bytes.ofInt32 (field frame 12) := by
  unfold size at whole
  have split : frame.take size = (frame.drop 0).take 4 ++ (frame.drop 4).take 4 ++
      (frame.drop 8).take 4 ++ (frame.drop 12).take 4 := by
    rw [List.drop_zero, ← List.take_add, ← List.take_add, ← List.take_add]
    rfl
  rw [split, take_drop_eq_ofInt32 (by omega), take_drop_eq_ofInt32 (by omega),
    take_drop_eq_ofInt32 (by omega), take_drop_eq_ofInt32 (by omega)]

theorem decode_of_short (short : frame.length < size) :
    decode frame max = .error (.truncatedHeader frame.length) := by
  have cut : (frame.take size).length < size := by
    rw [List.length_take]
    omega
  rw [decode, if_pos cut]

theorem decode_of_whole (whole : size ≤ frame.length) : decode frame max =
    if (field frame 0).toInt < size then .error (.invalidLength (field frame 0))
    else if max < (field frame 0).toInt.toNat then
      .error (.messageTooLarge (field frame 0).toInt.toNat max)
    else match OpCode.ofCode? (field frame 12) with
      | none => .error (.unknownOpCode (field frame 12))
      | some op => .ok ⟨field frame 0, field frame 4, field frame 8, op⟩ := by
  have notCut : ¬(frame.take size).length < size := by
    rw [List.length_take]
    omega
  rw [decode, if_neg notCut]
  rfl

/-! ## Reading and writing -/

theorem decoded_decode (frame : Bytes) (max : Nat) : Decoded frame max (decode frame max) := by
  rcases Nat.lt_or_ge frame.length size with short | whole
  · rw [decode_of_short short]
    exact .truncated short
  · rw [decode_of_whole whole]
    split
    · next small => exact .invalid whole small
    · next possible =>
      rw [Int.not_lt] at possible
      split
      · next large => exact .tooLarge whole possible (by omega)
      · next notLarge =>
        have allowed : (field frame 0).toInt ≤ max := by omega
        split
        · next none => exact .unknown whole possible allowed (OpCode.ofCode?_eq_none_iff.1 none)
        · next op found =>
          refine .ok possible allowed ?_
          rw [take_size_eq whole, bytes, OpCode.ofCode?_eq_some_iff.1 found]

theorem decode_of_decoded (decoded : Decoded frame max r) : decode frame max = r := by
  cases decoded with
  | truncated short => exact decode_of_short short
  | invalid whole small => rw [decode_of_whole whole, if_pos small]
  | tooLarge whole possible large =>
    rw [decode_of_whole whole, if_neg (by omega), if_pos (by omega)]
  | unknown whole possible allowed unknown =>
    rw [decode_of_whole whole, if_neg (by omega), if_neg (by omega),
      OpCode.ofCode?_eq_none_iff.2 unknown]
  | @ok h possible allowed written =>
    have split : frame = h.bytes ++ frame.drop size := by rw [written, List.take_append_drop]
    rw [split]
    exact decode_bytes_append possible (by omega) _

theorem decode_eq_iff : decode frame max = r ↔ Decoded frame max r := by
  constructor
  · rintro rfl
    exact decoded_decode frame max
  · exact decode_of_decoded

/-- A header is read if its length is possible and allowed and its code is known. -/
theorem exists_decode_iff : (∃ h, decode frame max = .ok h) ↔
    size ≤ frame.length ∧ size ≤ (field frame 0).toInt ∧ (field frame 0).toInt ≤ max ∧
      ∃ op : OpCode, op.code = field frame 12 := by
  constructor
  · rintro ⟨h, decoded⟩
    cases decode_eq_iff.1 decoded with
    | ok possible allowed written =>
      have whole := size_le_of_decode decoded
      have split : frame = h.bytes ++ frame.drop size := by rw [written, List.take_append_drop]
      obtain ⟨length_eq, -, -, code_eq⟩ := h.field_bytes_append (frame.drop size)
      rw [← split] at length_eq code_eq
      rw [length_eq]
      exact ⟨whole, possible, allowed, h.opCode, code_eq.symm⟩
  · rintro ⟨whole, possible, allowed, op, known⟩
    rw [decode_of_whole whole, if_neg (by omega), if_neg (by omega),
      OpCode.ofCode?_eq_some_iff.2 known]
    exact ⟨_, rfl⟩

/-! ## Main result -/

/-- Reading and writing headers undo each other, if messages of up to `max` bytes are allowed. -/
structure Inverse (max : Nat) : Prop where
  ok_iff : ∀ frame, (∃ h, decode frame max = .ok h) ↔
    size ≤ frame.length ∧ size ≤ (field frame 0).toInt ∧ (field frame 0).toInt ≤ max ∧
      ∃ op : OpCode, op.code = field frame 12
  /-- This is also the order in which faults are reported. -/
  decode_eq_iff : ∀ frame r, decode frame max = r ↔ Decoded frame max r
  rewritten : ∀ frame h, decode frame max = .ok h → h.bytes = frame.take size
  /-- What remains for the body is what the length tells, less the header. -/
  bodyLength_eq : ∀ frame h, decode frame max = .ok h →
    (h.bodyLength : Int) = h.length.toInt - size
  reread : ∀ h : Header, size ≤ h.length.toInt → h.length.toInt ≤ max →
    ∀ rest, decode (h.bytes ++ rest) max = .ok h

theorem inverse_decode (max : Nat) : Inverse max where
  ok_iff frame := exists_decode_iff
  decode_eq_iff frame r := Header.decode_eq_iff
  rewritten frame h decoded := by
    cases Header.decode_eq_iff.1 decoded with
    | ok possible allowed written => exact written
  bodyLength_eq frame h decoded := by
    have told := length_eq_of_decode decoded
    have positive : 0 < size := by decide
    omega
  reread h possible allowed rest := decode_bytes_append possible (by omega) rest

/-- Too large, and of an unknown code: the length is reported. -/
example : decode (Bytes.ofInt32 21 ++ Bytes.ofInt32 1 ++ Bytes.ofInt32 7 ++ Bytes.ofInt32 42) 20 =
    .error (.messageTooLarge 21 20) :=
  rfl

end Header

end ClusterClient

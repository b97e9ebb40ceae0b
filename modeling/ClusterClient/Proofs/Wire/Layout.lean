import ClusterClient.Proofs.Wire.Admission
import ClusterClient.Wire.Response
import Mathlib.Data.Nat.Bitwise

/-!
# Layout of replies

A reply is a header, a few fixed fields that depend on its kind, and its documents one behind the
other, each with its length in front. A reader takes it apart again and finds what was laid out,
whatever comes after it; of a reply that is cut short it finds out how short.

    decodeReply (l.frame ++ surplus) l.responseTo max = ok (l.header, l.body)
                                                                  (decodeReply_bytes_append)
    decodeReply (l.frame.take n) id max = truncated …, for n < l.frame.length   (decodeReply_take)
    Document.all (documents.flatten ++ rest) = documents, if no document follows
                                                                        (all_flatten_append)
-/

namespace ClusterClient

/-! ## Documents -/

namespace Document

variable {bs d rest : Bytes}

theorem next?_append (h : SelfDelimiting d) (rest : Bytes) :
    next? (d ++ rest) = some (d, rest) := by
  obtain ⟨big, told⟩ := h
  have length_eq : statedLength (d ++ rest) = d.length := by rw [statedLength_append big, told]
  have sound : ¬((d ++ rest).length < minSize ∨ (d.length : Int) < minSize ∨
      (d ++ rest).length < (d.length : Int)) := by
    rw [List.length_append]
    omega
  simp only [next?, length_eq, if_neg sound, Int.toNat_natCast, List.splitAt_eq, List.take_left,
    List.drop_left]

theorem all_of_none (h : next? bs = none) : all bs = [] := by
  rw [all]
  split
  · rfl
  · next found =>
    rw [h] at found
    cases found

theorem all_of_some (h : next? bs = some (d, rest)) : all bs = d :: all rest := by
  rw [all]
  split
  · next none =>
    rw [h] at none
    cases none
  · next found =>
    rw [h] at found
    cases found
    rfl

/-- Documents that tell their lengths are found one after the other, as many as there are. -/
theorem all_flatten_append {documents : List Bytes} (h : ∀ d ∈ documents, SelfDelimiting d)
    (none : next? rest = none) : all (documents.flatten ++ rest) = documents := by
  induction documents with
  | nil => exact all_of_none none
  | cons d documents ih =>
    rw [List.forall_mem_cons] at h
    rw [List.flatten_cons, List.append_assoc, all_of_some (next?_append h.1 _), ih h.2]

end Document

/-! ## Fixed fields -/

/-- One bit of a number, looked at through a mask. -/
theorem and_ne_zero_eq_testBit {mask : UInt32} {i : Nat} (one : mask.toNat = 2 ^ i) (n : UInt32) :
    (n &&& mask != 0) = n.toNat.testBit i := by
  have zero_iff : n &&& mask = 0 ↔ n.toNat &&& 2 ^ i = 0 := by
    rw [← UInt32.toNat_inj, UInt32.toNat_and, one, UInt32.toNat_zero]
  rw [Bool.eq_iff_iff, bne_iff_ne, ne_eq, zero_iff, Nat.and_two_pow]
  have := Nat.two_pow_pos i
  cases n.toNat.testBit i <;> simp

namespace ReplyPrefix

theorem length_bytes (p : ReplyPrefix) : p.bytes.length = size := by
  simp [bytes, size]

theorem read_append (p : ReplyPrefix) (rest : Bytes) : read (p.bytes ++ rest) = .ok p := by
  have whole : ¬(p.bytes ++ rest).length < size := by
    rw [List.length_append, length_bytes]
    omega
  have flags_eq : Bytes.readUInt32 (p.bytes ++ rest) = p.flags := by
    simp only [bytes, List.append_assoc, Bytes.readUInt32_append]
  have cursorId_eq : Bytes.readInt64 ((p.bytes ++ rest).drop 4) = p.cursorId := by
    simp only [bytes, List.append_assoc]
    rw [List.drop_left' (Bytes.length_ofUInt32 _), Bytes.readInt64_append]
  have startingFrom_eq : Bytes.readInt32 ((p.bytes ++ rest).drop 12) = p.startingFrom := by
    have front : (Bytes.ofUInt32 p.flags ++ Bytes.ofInt64 p.cursorId).length = 12 := by simp
    rw [bytes, List.append_assoc, List.append_assoc, List.drop_left' front, Bytes.readInt32_append]
  have numberReturned_eq : Bytes.readInt32 ((p.bytes ++ rest).drop 16) = p.numberReturned := by
    have front : (Bytes.ofUInt32 p.flags ++ Bytes.ofInt64 p.cursorId ++
        Bytes.ofInt32 p.startingFrom).length = 16 := by simp
    rw [bytes, List.append_assoc, List.drop_left' front, Bytes.readInt32_append]
  rw [read, if_neg whole, flags_eq, cursorId_eq, startingFrom_eq, numberReturned_eq]

end ReplyPrefix

/-- What stands between the header of a reply and its documents. -/
inductive Preamble where
  | reply (fields : ReplyPrefix)
  /-- Flags, and the byte that tells what kind of section the documents are. -/
  | msg (flags : UInt32) (kind : UInt8)

namespace Preamble

def opCode : Preamble → OpCode
  | reply _ => .reply
  | msg .. => .msg

def bytes : Preamble → Bytes
  | reply fields => fields.bytes
  | msg flags kind => Bytes.ofUInt32 flags ++ [kind]

theorem length_bytes (p : Preamble) : p.bytes.length = p.opCode.documentOffset := by
  cases p with
  | reply fields => exact fields.length_bytes
  | msg flags kind => simp [bytes, opCode, OpCode.documentOffset]

end Preamble

/-! ## Frames -/

section

variable {h : Header} {body : Bytes} {max : Nat}

theorem bodyLength_of_told (told : h.length.toInt = (Header.size + body.length : Nat)) :
    h.bodyLength = body.length := by
  rw [Header.bodyLength, told, Int.toNat_natCast, Nat.add_sub_cancel_left]

theorem decode_of_told (told : h.length.toInt = (Header.size + body.length : Nat))
    (allowed : Header.size + body.length ≤ max) (rest : Bytes) :
    Header.decode (h.bytes ++ rest) max = .ok h :=
  Header.decode_bytes_append (by omega) (by omega) rest

theorem decodeReply_bytes_append (told : h.length.toInt = (Header.size + body.length : Nat))
    (allowed : Header.size + body.length ≤ max) (surplus : Bytes) :
    decodeReply (h.bytes ++ body ++ surplus) h.responseTo max = .ok (h, body) := by
  have decoded := decode_of_told told allowed (body ++ surplus)
  rw [List.append_assoc, decodeReply_of_ok decoded, bodyLength_of_told told,
    List.drop_left' h.length_bytes, List.take_left, if_neg (Nat.lt_irrefl _),
    Header.checkResponseTo, if_pos rfl]
  rfl

/-- What a reader reports when only `n` bytes of a frame are there. -/
def shortfall (frame : Bytes) (n : Nat) : FramingError :=
  if n < Header.size then .truncatedHeader n
  else .truncatedBody (frame.length - Header.size) (n - Header.size)

/-- Before the frame is complete nobody asks which request it answers. -/
theorem decodeReply_take (told : h.length.toInt = (Header.size + body.length : Nat))
    (allowed : Header.size + body.length ≤ max) {n : Nat} (short : n < (h.bytes ++ body).length)
    (id : Int32) :
    decodeReply ((h.bytes ++ body).take n) id max = .error (shortfall (h.bytes ++ body) n) := by
  have length_eq : ((h.bytes ++ body).take n).length = n := by
    rw [List.length_take]
    omega
  unfold shortfall
  split
  · next early =>
    refine decodeReply_of_error ?_ id
    have cut : (((h.bytes ++ body).take n).take Header.size).length < Header.size := by
      rw [List.length_take, length_eq]
      omega
    simp only [Header.decode, if_pos cut, length_eq]
  · next late =>
    have split : (h.bytes ++ body).take n = h.bytes ++ body.take (n - Header.size) := by
      rw [List.take_append, h.length_bytes, List.take_of_length_le]
      rw [h.length_bytes]
      omega
    have missing : (body.take (n - Header.size)).length < body.length := by
      rw [List.length_append, h.length_bytes] at short
      rw [List.length_take]
      omega
    have read : ((h.bytes ++ body.take (n - Header.size)).drop Header.size).take body.length =
        body.take (n - Header.size) := by
      rw [List.drop_left' h.length_bytes, List.take_of_length_le (Nat.le_of_lt missing)]
    rw [split, decodeReply_of_ok (decode_of_told told allowed _), bodyLength_of_told told, read,
      if_pos missing, List.length_append, h.length_bytes, Nat.add_sub_cancel_left,
      List.length_take, Nat.min_eq_left]
    rw [List.length_append, h.length_bytes] at short
    omega

end

/-- What a server puts into a reply. -/
structure Layout where
  requestId : Int32
  responseTo : Int32
  preamble : Preamble
  documents : List Bytes

namespace Layout

def body (l : Layout) : Bytes := l.preamble.bytes ++ l.documents.flatten

def header (l : Layout) : Header where
  length := Int32.ofNat (Header.size + l.body.length)
  requestId := l.requestId
  responseTo := l.responseTo
  opCode := l.preamble.opCode

def frame (l : Layout) : Bytes := l.header.bytes ++ l.body

theorem length_frame (l : Layout) : l.frame.length = Header.size + l.body.length := by
  rw [frame, List.length_append, Header.length_bytes]

/-- What a reader makes of the frame, if frames of up to `max` bytes are allowed. -/
structure Recovered (l : Layout) (max : Nat) : Prop where
  decoded : ∀ surplus,
    decodeReply (l.frame ++ surplus) l.responseTo max = .ok (l.header, l.body)
  length_eq : l.header.length.toInt = l.frame.length
  fields : ∀ p, l.preamble = .reply p → ∀ r : Response, r.body = l.body →
    r.replyPrefix = .ok p ∧ p.isCursorNotFound = p.flags.toNat.testBit 0 ∧
      p.isQueryFailure = p.flags.toNat.testBit 1
  documents : ∀ r : Response, r.header = l.header → r.body = l.body → r.documents = l.documents
  cut : ∀ n < l.frame.length, ∀ id,
    decodeReply (l.frame.take n) id max = .error (shortfall l.frame n)

theorem recovered_of_fits (l : Layout) (delimited : ∀ d ∈ l.documents, Document.SelfDelimiting d)
    (possible : l.frame.length ≤ Request.longestFrame) {max : Nat}
    (allowed : l.frame.length ≤ max) : l.Recovered max := by
  rw [length_frame] at possible allowed
  have told : l.header.length.toInt = (Header.size + l.body.length : Nat) :=
    Request.toInt_ofNat_of_le possible
  refine ⟨fun surplus => decodeReply_bytes_append told allowed surplus, ?_, ?_, ?_,
    fun n short id => decodeReply_take told allowed short id⟩
  · rw [told, length_frame]
  · intro p reply r body_eq
    have front : r.body = p.bytes ++ l.documents.flatten := by rw [body_eq, body, reply]; rfl
    refine ⟨?_, and_ne_zero_eq_testBit rfl p.flags, and_ne_zero_eq_testBit rfl p.flags⟩
    rw [Response.replyPrefix, front, ReplyPrefix.read_append]
  · intro r header_eq body_eq
    have offset : l.preamble.bytes.length = r.header.opCode.documentOffset := by
      rw [header_eq, l.preamble.length_bytes]
      rfl
    rw [Response.documents, Response.documentSection, body_eq, body, List.drop_left' offset,
      ← List.append_nil l.documents.flatten]
    exact Document.all_flatten_append delimited rfl

/-- The smallest request number, a failure that is flagged, a cursor below zero and two documents,
in exactly as many bytes as are allowed. -/
theorem recovered_of_fits_failure :
    let p : ReplyPrefix := ⟨2, -1, 0, 2⟩
    let l : Layout := ⟨Int32.minValue, 7, .reply p, [[5, 0, 0, 0, 0], [6, 0, 0, 0, 1, 0]]⟩
    (∀ d ∈ l.documents, Document.SelfDelimiting d) ∧ l.frame.length = 47 ∧ l.Recovered 47 := by
  intro p l
  have delimited : ∀ d ∈ l.documents, Document.SelfDelimiting d :=
    List.forall_mem_cons.2 ⟨⟨by decide, by decide⟩,
      List.forall_mem_singleton.2 ⟨by decide, by decide⟩⟩
  have length_eq : l.frame.length = 47 := rfl
  exact ⟨delimited, length_eq,
    recovered_of_fits l delimited (by rw [length_eq]; decide) (Nat.le_of_eq length_eq)⟩

end Layout

end ClusterClient

import ClusterClient.Proofs.Wire.Uniqueness

/-!
# Admission of requests

A request passes three checks on its way into a frame, in a fixed order: that its target holds no
null byte, that no document is too long, and that the frame is not. The first check that fails
decides about the error. A frame that passed all of them is short enough for every number in it to
be the number that is meant, its own length and the number of cursors above all.

    r.encode id s = ok frame for some frame ↔ r.Admissible s                  (exists_encode_iff)
    r.encode id s = ok frame → decode frame = the header of r, and its length is that of the frame
                                                                             (written_of_encode)
-/

namespace ClusterClient

namespace Bytes

theorem zero_mem_ofText_iff {text : String} : 0 ∈ ofText text ↔ '\x00' ∈ text.toList := by
  constructor
  · intro zero
    exact Decidable.byContradiction fun none => zero_not_mem_ofText none zero
  · intro null
    exact List.mem_flatMap.2 ⟨'\x00', null, by decide⟩

end Bytes

namespace Request

variable {r : Request} {id : Int32} {s : MessageSettings} {frame : Bytes}

/-! ## What is admissible -/

/-- The number of bytes that the frame of a request takes. -/
def frameSize : Request → Nat
  | query target _ _ _ document fields =>
    Header.size + 4 + ((Bytes.ofText target).length + 1) + 4 + 4 + document.length +
      (fields.map List.length).getD 0
  | getMore target _ _ => Header.size + 4 + ((Bytes.ofText target).length + 1) + 4 + 8
  | insert target _ documents =>
    Header.size + 4 + ((Bytes.ofText target).length + 1) + documents.flatten.length
  | update target _ _ selector change =>
    Header.size + 4 + ((Bytes.ofText target).length + 1) + 4 + selector.length + change.length
  | delete target _ selector =>
    Header.size + 4 + ((Bytes.ofText target).length + 1) + 4 + selector.length
  | killCursors ids => Header.size + 4 + 4 + 8 * ids.length

/-- No byte of the target is the one that ends it in the frame. -/
def Terminable (r : Request) : Prop := ∀ target, r.target? = some target → 0 ∉ Bytes.ofText target

structure Admissible (r : Request) (s : MessageSettings) : Prop where
  target : r.Terminable
  documents : ∀ d ∈ r.documents, d.length ≤ s.maxDocumentSize
  frame : r.frameSize ≤ min s.maxMessageSize longestFrame

theorem length_flatMap_ofInt64 (ids : List Int64) :
    (ids.flatMap Bytes.ofInt64).length = 8 * ids.length := by
  induction ids with
  | nil => rfl
  | cons id ids ih =>
    rw [List.flatMap_cons, List.length_append, ih, Bytes.length_ofInt64, List.length_cons]
    omega

theorem size_add_length_body (r : Request) : Header.size + r.body.length = r.frameSize := by
  cases r with
  | query target flags skip limit document fields =>
    cases fields <;> simp [body, frameSize, terminated] <;> omega
  | killCursors ids =>
    simp only [body, frameSize, List.length_append, Bytes.length_ofInt32, length_flatMap_ofInt64]
    omega
  | _ =>
    simp [body, frameSize, terminated]
    omega

/-! ## The checks, one by one -/

theorem checkTarget_eq_ok_iff_terminable : r.checkTarget = .ok () ↔ r.Terminable := by
  simp only [checkTarget_eq_ok_iff, Terminable, Bytes.zero_mem_ofText_iff]

theorem checkTarget_of_null {target : String} (h : r.target? = some target)
    (null : 0 ∈ Bytes.ofText target) : r.checkTarget =
      .error (.protocol ("namespace `" ++ Text.spliced target ++ "` contains a null byte")) := by
  rw [Bytes.zero_mem_ofText_iff] at null
  simp [checkTarget, h, null]

theorem checkDocuments_eq_ok_iff {maxSize : Nat} :
    r.checkDocuments maxSize = .ok () ↔ ∀ d ∈ r.documents, d.length ≤ maxSize := by
  unfold checkDocuments
  split
  · next d found =>
    have long : maxSize < d.length := by simpa using List.find?_some found
    simp only [reduceCtorEq, false_iff]
    intro fit
    exact absurd (fit d (List.mem_of_find?_eq_some found)) (Nat.not_le.2 long)
  · next none => simpa using none

/-- The first document that is too long is the one that is reported. -/
theorem checkDocuments_of_long {maxSize : Nat} {before after : List Bytes} {d : Bytes}
    (split : r.documents = before ++ d :: after) (fit : ∀ e ∈ before, e.length ≤ maxSize)
    (long : maxSize < d.length) :
    r.checkDocuments maxSize = .error (.framing (.messageTooLarge d.length maxSize)) := by
  have found : r.documents.find? (fun d => maxSize < d.length) = some d :=
    List.find?_eq_some_iff_append.2
      ⟨by simpa using long, before, after, split, fun e he => by simpa using fit e he⟩
  rw [checkDocuments, found]

/-! ## Encoding -/

theorem encode_of_checkTarget {e : Error} (h : r.checkTarget = .error e) :
    r.encode id s = .error e := by
  rw [encode, h]
  rfl

theorem encode_of_checkDocuments {e : Error} (target : r.checkTarget = .ok ())
    (h : r.checkDocuments s.maxDocumentSize = .error e) : r.encode id s = .error e := by
  rw [encode, target, h]
  rfl

theorem encode_of_long (target : r.checkTarget = .ok ())
    (documents : r.checkDocuments s.maxDocumentSize = .ok ())
    (long : min s.maxMessageSize longestFrame < r.frameSize) :
    r.encode id s = .error (.framing (.messageTooLarge r.frameSize s.maxMessageSize)) := by
  have long : s.maxMessageSize < r.frameSize ∨ longestFrame < r.frameSize := by omega
  rw [encode, target, documents]
  simp only [bind, Except.bind, size_add_length_body, if_pos long]
  rfl

theorem exists_encode_iff : (∃ frame, r.encode id s = .ok frame) ↔ r.Admissible s := by
  simp only [encode_eq_ok_iff, checkTarget_eq_ok_iff_terminable, checkDocuments_eq_ok_iff,
    size_add_length_body]
  constructor
  · rintro ⟨frame, target, documents, message, longest, -⟩
    exact ⟨target, documents, Nat.le_min.2 ⟨message, longest⟩⟩
  · rintro ⟨target, documents, size⟩
    rw [Nat.le_min] at size
    exact ⟨_, target, documents, size.1, size.2, rfl⟩

/-! ## What is written -/

/-- What a reader finds in the frame of a request. -/
structure Written (r : Request) (id : Int32) (s : MessageSettings) (frame : Bytes) : Prop where
  length_eq : frame.length = r.frameSize
  /-- The length that stands at the start of the frame. -/
  told : (Bytes.readInt32 frame).toInt = frame.length
  decoded : ∃ h, Header.decode frame s.maxMessageSize = .ok h ∧ h.length.toInt = frame.length ∧
    h.requestId = id ∧ h.responseTo = 0 ∧ h.opCode = r.opCode
  /-- The number of cursors that is written in front of them. -/
  counted : ∀ ids, r = killCursors ids →
    (Bytes.readInt32 (frame.drop (Header.size + 4))).toInt = ids.length

theorem toInt_ofNat_of_le {n : Nat} (h : n ≤ longestFrame) : (Int32.ofNat n).toInt = n :=
  Int32.toInt_ofNat_of_lt (Nat.lt_succ_of_le h)

theorem written_of_encode (h : r.encode id s = .ok frame) : Written r id s frame := by
  obtain ⟨-, -, message, longest, rfl⟩ := encode_eq_ok_iff.1 h
  have length_eq : ((r.header id).bytes ++ r.body).length = r.frameSize := by
    rw [List.length_append, Header.length_bytes, size_add_length_body]
  have told : (r.header id).length.toInt = r.frameSize := by
    rw [header, size_add_length_body]
    exact toInt_ofNat_of_le (size_add_length_body r ▸ longest)
  rw [size_add_length_body] at message longest
  have whole : (Header.size : Int) ≤ (r.header id).length.toInt := by
    have := size_add_length_body r
    omega
  refine ⟨length_eq, ?_, ⟨r.header id, ?_, ?_, rfl, rfl, rfl⟩, ?_⟩
  · simp only [Header.bytes, List.append_assoc, Bytes.readInt32_append, told]
    rw [← length_eq]
    simp only [Header.bytes, List.append_assoc]
  · exact Header.decode_bytes_append whole (by rw [told]; exact message) r.body
  · rw [told, length_eq]
  · rintro ids rfl
    -- there are eight bytes in the frame for each cursor, so their number fits as well
    have few : ids.length ≤ longestFrame := by
      simp only [frameSize] at longest
      omega
    have front : ((header (killCursors ids) id).bytes ++ Bytes.ofInt32 0).length =
        Header.size + 4 := by simp
    simp only [body, List.append_assoc]
    rw [← List.append_assoc, List.drop_left' front, Bytes.readInt32_append]
    exact toInt_ofNat_of_le few

/-! ## Main result -/

/-- When a request is encoded, what it is encoded to, and which fault of several is reported. -/
structure Encodes (r : Request) (id : Int32) (s : MessageSettings) : Prop where
  encodes_iff : (∃ frame, r.encode id s = .ok frame) ↔ r.Admissible s
  target : ∀ target, r.target? = some target → 0 ∈ Bytes.ofText target → r.encode id s =
    .error (.protocol ("namespace `" ++ Text.spliced target ++ "` contains a null byte"))
  document : r.Terminable → ∀ before d after, r.documents = before ++ d :: after →
    (∀ e ∈ before, e.length ≤ s.maxDocumentSize) → s.maxDocumentSize < d.length →
      r.encode id s = .error (.framing (.messageTooLarge d.length s.maxDocumentSize))
  frame : r.Terminable → (∀ d ∈ r.documents, d.length ≤ s.maxDocumentSize) →
    min s.maxMessageSize longestFrame < r.frameSize →
      r.encode id s = .error (.framing (.messageTooLarge r.frameSize s.maxMessageSize))
  written : ∀ frame, r.encode id s = .ok frame → Written r id s frame

theorem encodes_admissible (r : Request) (id : Int32) (s : MessageSettings) : r.Encodes id s where
  encodes_iff := exists_encode_iff
  target target h null := encode_of_checkTarget (checkTarget_of_null h null)
  document terminable before d after split fit long := by
    have target := checkTarget_eq_ok_iff_terminable.2 terminable
    exact encode_of_checkDocuments target (checkDocuments_of_long split fit long)
  frame terminable fit long := by
    have target := checkTarget_eq_ok_iff_terminable.2 terminable
    exact encode_of_long target (checkDocuments_eq_ok_iff.2 fit) long
  written frame h := written_of_encode h

/-- The second document is too long and so is the frame: the document is reported. -/
example : (insert "a" false [[5, 0, 0, 0, 0], List.replicate 7 0]).encode 1 ⟨20, 6⟩ =
    .error (.framing (.messageTooLarge 7 6)) :=
  rfl

end Request

end ClusterClient

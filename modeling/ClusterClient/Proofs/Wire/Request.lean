import ClusterClient.Wire.Request

/-!
# Reading requests

The frame of a request is its header followed by its body. The options of a query are the first
field of the body, so they stand right behind the header.

    r.encode id settings = ok frame ↔ the target, the documents and the frame pass their checks, and
      frame = header ++ r.body                                              (encode_eq_ok_iff)
-/

namespace ClusterClient

/-- The options in the frame of a query. -/
def QueryFlags.ofFrame (frame : Bytes) : QueryFlags := ⟨Bytes.readUInt32 (frame.drop Header.size)⟩

namespace Request

variable {r : Request} {id : Int32} {settings : MessageSettings} {frame : Bytes}

theorem checkTarget_eq_ok_iff {r : Request} :
    r.checkTarget = .ok () ↔ ∀ target, r.target? = some target → '\x00' ∉ target.toList := by
  unfold checkTarget
  cases r.target? with
  | none => simp
  | some target => by_cases null : '\x00' ∈ target.toList <;> simp [null]

/-- The header in front of a body of this length. -/
def header (r : Request) (id : Int32) : Header :=
  ⟨Int32.ofNat (Header.size + r.body.length), id, 0, r.opCode⟩

theorem encode_eq_ok_iff : r.encode id settings = .ok frame ↔
    r.checkTarget = .ok () ∧ r.checkDocuments settings.maxDocumentSize = .ok () ∧
      Header.size + r.body.length ≤ settings.maxMessageSize ∧
      Header.size + r.body.length ≤ longestFrame ∧ frame = (r.header id).bytes ++ r.body := by
  unfold encode
  cases r.checkTarget with
  | error e => simp [bind, Except.bind]
  | ok u =>
    cases r.checkDocuments settings.maxDocumentSize with
    | error e => simp [bind, Except.bind]
    | ok u =>
      simp only [bind, Except.bind, true_and]
      split
      · next large =>
        simp only [throw, throwThe, MonadExceptOf.throw, reduceCtorEq, false_iff]
        omega
      · next small =>
        rw [not_or, Nat.not_lt, Nat.not_lt] at small
        simp only [pure, Except.pure, Except.ok.injEq, header]
        exact ⟨fun same => ⟨small.1, small.2, same.symm⟩, fun ⟨_, _, same⟩ => same.symm⟩

theorem exists_header_of_encode (h : r.encode id settings = .ok frame) :
    ∃ header : Header, frame = header.bytes ++ r.body ∧ header.requestId = id ∧
      header.opCode = r.opCode := by
  obtain ⟨-, -, -, -, rfl⟩ := encode_eq_ok_iff.1 h
  exact ⟨_, rfl, rfl, rfl⟩

theorem ofFrame_of_encode {target : String} {flags : QueryFlags} {skip limit : Int32}
    {document : Bytes} {fields : Option Bytes}
    (h : (query target flags skip limit document fields).encode id settings = .ok frame) :
    QueryFlags.ofFrame frame = flags := by
  obtain ⟨header, rfl, -, -⟩ := exists_header_of_encode h
  rw [QueryFlags.ofFrame, List.drop_left' header.length_bytes, body]
  simp only [List.append_assoc, Bytes.readUInt32_append]

end Request

end ClusterClient

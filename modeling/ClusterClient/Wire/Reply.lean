import ClusterClient.Wire.Header

/-!
# Replies

A reply frame is checked and split into header and body. The body of an ordinary reply starts with
twenty bytes about the result set (`ReplyPrefix`); documents follow, each starting with its own
length. They are cut off one after the other up to the first that is malformed.

    every document is at least five bytes long     (length_of_next?)
-/

namespace ClusterClient

/-- Validates a frame that should answer the request `requestId`, and splits it into its header
and its body. Bytes beyond the frame are not looked at. -/
def decodeReply (frame : Bytes) (requestId : Int32) (max : Nat) :
    Except FramingError (Header × Bytes) := do
  let h ← Header.decode frame max
  let body := (frame.drop Header.size).take h.bodyLength
  if body.length < h.bodyLength then throw (.truncatedBody h.bodyLength body.length)
  h.checkResponseTo requestId
  return (h, body)

/-- The fixed fields at the start of the body of an ordinary reply. -/
structure ReplyPrefix where
  flags : UInt32
  cursorId : Int64
  startingFrom : Int32
  numberReturned : Int32
deriving DecidableEq, Repr

namespace ReplyPrefix

/-- The size of the fixed fields. -/
def size : Nat := 20

def bytes (p : ReplyPrefix) : Bytes :=
  Bytes.ofUInt32 p.flags ++ Bytes.ofInt64 p.cursorId ++ Bytes.ofInt32 p.startingFrom ++
    Bytes.ofInt32 p.numberReturned

def read (body : Bytes) : Except FramingError ReplyPrefix :=
  if body.length < size then .error (.truncatedBody size body.length)
  else .ok ⟨Bytes.readUInt32 body, Bytes.readInt64 (body.drop 4), Bytes.readInt32 (body.drop 12),
    Bytes.readInt32 (body.drop 16)⟩

def isCursorNotFound (p : ReplyPrefix) : Bool := p.flags &&& 1 != 0

def isQueryFailure (p : ReplyPrefix) : Bool := p.flags &&& 2 != 0

end ReplyPrefix

/-- Where the documents of a body start. -/
def OpCode.documentOffset : OpCode → Nat
  | .reply => ReplyPrefix.size
  | .msg => 5
  | _ => 0

namespace Document

/-! ## Algorithm -/

/-- The least size of a document: its length and the byte that ends it. -/
def minSize : Nat := 5

/-- The length that the first four bytes tell. -/
def statedLength (bs : Bytes) : Int := (Bytes.readInt32 bs).toInt

/-- The first document and what follows it. -/
def next? (bs : Bytes) : Option (Bytes × Bytes) :=
  let length := statedLength bs
  if bs.length < minSize ∨ length < minSize ∨ bs.length < length then none
  else some (bs.splitAt length.toNat)

theorem length_of_next? {bs d rest : Bytes} (h : next? bs = some (d, rest)) :
    minSize ≤ d.length ∧ bs = d ++ rest := by
  simp only [next?] at h
  split at h
  · cases h
  · simp only [List.splitAt_eq, Option.some.injEq, Prod.mk.injEq] at h
    obtain ⟨rfl, rfl⟩ := h
    simp only [List.length_take, List.take_append_drop, and_true]
    omega

/-- What is left to iterate over after an attempt to cut off the first document: nothing more once
a document is malformed. -/
def remainder (bs : Bytes) : Bytes :=
  match next? bs with
  | some (_, rest) => rest
  | none => if bs.length < minSize then bs else []

/-- The documents in front of the first that is malformed. -/
def all (bs : Bytes) : List Bytes :=
  match _h : next? bs with
  | none => []
  | some (d, rest) => d :: all rest
termination_by bs.length
decreasing_by
  obtain ⟨h1, h2⟩ := length_of_next? ‹_›
  subst h2
  simp only [List.length_append, minSize] at *
  omega

/-- What follows the documents: nothing, or bytes that are no document. -/
def rest (bs : Bytes) : Bytes := bs.drop (all bs).flatten.length

end Document

end ClusterClient

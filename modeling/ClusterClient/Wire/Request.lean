import ClusterClient.Settings.Basic
import ClusterClient.Wire.Header

/-!
# Requests

What a client asks of a server, with its documents already serialised, and the frame that carries
it. A request is admissible if its namespace holds no null byte, no document is longer than the
settings allow, and neither is the frame; of several faults the first of these is reported.
-/

namespace ClusterClient

open Text

/-- The options of a query, one bit each. -/
structure QueryFlags where
  bits : UInt32
deriving DecidableEq, Repr

namespace QueryFlags

def none : QueryFlags := ⟨0⟩

/-- Members other than the primary may answer. -/
def slaveOk : QueryFlags := ⟨4⟩

def union (a b : QueryFlags) : QueryFlags := ⟨a.bits ||| b.bits⟩

/-- Whether every option of `b` is in `a`. -/
def contains (a b : QueryFlags) : Bool := a.bits &&& b.bits == b.bits

end QueryFlags

/-- A result set that is still open on the server that issued it. The number zero means that there
is nothing left to fetch. -/
structure Cursor where
  id : Int64
  address : Address
  id_ne_zero : id ≠ 0
deriving DecidableEq

def Cursor.of? (id : Int64) (address : Address) : Option Cursor :=
  if h : id = 0 then none else some ⟨id, address, h⟩

inductive Request where
  /-- A negative `limit` closes the cursor after the first batch. -/
  | query (target : String) (flags : QueryFlags) (skip limit : Int32) (document : Bytes)
    (fields : Option Bytes)
  | getMore (target : String) (limit : Int32) (cursor : Cursor)
  | insert (target : String) (continueOnError : Bool) (documents : List Bytes)
  | update (target : String) (upsert multi : Bool) (selector change : Bytes)
  | delete (target : String) (single : Bool) (selector : Bytes)
  | killCursors (ids : List Int64)
deriving DecidableEq

namespace Request

def opCode : Request → OpCode
  | query .. => .query
  | getMore .. => .getMore
  | insert .. => .insert
  | update .. => .update
  | delete .. => .delete
  | killCursors .. => .killCursors

/-- The database and collection a request is about. -/
def target? : Request → Option String
  | query target .. | getMore target .. | insert target .. | update target .. | delete target .. =>
    some target
  | killCursors _ => none

def documents : Request → List Bytes
  | query _ _ _ _ document fields => document :: fields.toList
  | insert _ _ documents => documents
  | update _ _ _ selector change => [selector, change]
  | delete _ _ selector => [selector]
  | getMore .. | killCursors _ => []

/-- A text with a null byte after it. -/
def terminated (text : String) : Bytes := Bytes.ofText text ++ [0]

/-- A number with one bit for each option. -/
def switches (first second : Bool) : Int32 :=
  (if first then 1 else 0) ||| (if second then 2 else 0)

/-- The bytes after the header. -/
def body : Request → Bytes
  | query target flags skip limit document fields =>
    Bytes.ofUInt32 flags.bits ++ terminated target ++ Bytes.ofInt32 skip ++ Bytes.ofInt32 limit ++
      document ++ fields.getD []
  | getMore target limit cursor =>
    Bytes.ofInt32 0 ++ terminated target ++ Bytes.ofInt32 limit ++ Bytes.ofInt64 cursor.id
  | insert target continueOnError documents =>
    Bytes.ofInt32 (switches continueOnError false) ++ terminated target ++ documents.flatten
  | update target upsert multi selector change =>
    Bytes.ofInt32 0 ++ terminated target ++ Bytes.ofInt32 (switches upsert multi) ++
      selector ++ change
  | delete target single selector =>
    Bytes.ofInt32 0 ++ terminated target ++ Bytes.ofInt32 (switches single false) ++ selector
  | killCursors ids =>
    Bytes.ofInt32 0 ++ Bytes.ofInt32 (Int32.ofNat ids.length) ++ ids.flatMap Bytes.ofInt64

def checkTarget (r : Request) : Except Error Unit :=
  match r.target? with
  | some target =>
    if target.toList.contains '\x00' then
      .error (.protocol ("namespace `" ++ spliced target ++ "` contains a null byte"))
    else .ok ()
  | none => .ok ()

def checkDocuments (r : Request) (maxSize : Nat) : Except Error Unit :=
  match r.documents.find? fun d => maxSize < d.length with
  | some d => .error (.framing (.messageTooLarge d.length maxSize))
  | none => .ok ()

/-- The largest length that a header can tell. -/
def longestFrame : Nat := 2147483647

/-- The complete frame, header included. -/
def encode (r : Request) (id : Int32) (s : MessageSettings) : Except Error Bytes := do
  r.checkTarget
  r.checkDocuments s.maxDocumentSize
  let body := r.body
  let length := Header.size + body.length
  if s.maxMessageSize < length ∨ longestFrame < length then
    throw (.framing (.messageTooLarge length s.maxMessageSize))
  return Header.bytes ⟨Int32.ofNat length, id, 0, r.opCode⟩ ++ body

end Request

end ClusterClient

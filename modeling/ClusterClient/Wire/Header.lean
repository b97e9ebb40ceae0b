import ClusterClient.Error
import ClusterClient.Wire.Bytes

/-!
# Message headers

Every message starts with sixteen bytes: its length with the header counted in, the number of the
request, the number of the request it answers, and a code for what the rest of it holds.

    OpCode.ofCode? op.code = some op         (ofCode?_code)
    h.bytes has sixteen bytes                (length_bytes)
-/

namespace ClusterClient

inductive OpCode where
  | reply
  | update
  | insert
  | query
  | getMore
  | delete
  | killCursors
  | msg
deriving DecidableEq, Repr

namespace OpCode

def code : OpCode → Int32
  | reply => 1
  | update => 2001
  | insert => 2002
  | query => 2004
  | getMore => 2005
  | delete => 2006
  | killCursors => 2007
  | msg => 2013

/-- The name of the code in reports. -/
def label : OpCode → String
  | reply => "Reply"
  | update => "Update"
  | insert => "Insert"
  | query => "Query"
  | getMore => "GetMore"
  | delete => "Delete"
  | killCursors => "KillCursors"
  | msg => "Msg"

def all : List OpCode := [reply, update, insert, query, getMore, delete, killCursors, msg]

def ofCode? (code : Int32) : Option OpCode := all.find? fun op => op.code == code

theorem ofCode?_code (op : OpCode) : ofCode? op.code = some op := by
  cases op <;> decide

end OpCode

structure Header where
  length : Int32
  requestId : Int32
  responseTo : Int32
  opCode : OpCode
deriving DecidableEq, Repr

namespace Header

/-! ## Algorithm -/

/-- The size of a header. -/
def size : Nat := 16

def bytes (h : Header) : Bytes :=
  Bytes.ofInt32 h.length ++ Bytes.ofInt32 h.requestId ++ Bytes.ofInt32 h.responseTo ++
    Bytes.ofInt32 h.opCode.code

/-- Reads the header at the start of a frame. A message is at least as long as its header and at
most `max` bytes long. -/
def decode (frame : Bytes) (max : Nat) : Except FramingError Header :=
  let length := Bytes.readInt32 frame
  let code := Bytes.readInt32 (frame.drop 12)
  if (frame.take size).length < size then .error (.truncatedHeader frame.length)
  else if length.toInt < size then .error (.invalidLength length)
  else if max < length.toInt.toNat then .error (.messageTooLarge length.toInt.toNat max)
  else match OpCode.ofCode? code with
    | none => .error (.unknownOpCode code)
    | some op =>
      .ok ⟨length, Bytes.readInt32 (frame.drop 4), Bytes.readInt32 (frame.drop 8), op⟩

/-- The number of bytes after the header. -/
def bodyLength (h : Header) : Nat := h.length.toInt.toNat - size

def checkResponseTo (h : Header) (requestId : Int32) : Except FramingError Unit :=
  if h.responseTo = requestId then .ok () else .error (.responseToMismatch requestId h.responseTo)

/-! ## Lemmas -/

@[simp] theorem length_bytes (h : Header) : h.bytes.length = size := by
  simp [bytes, size]

end Header

end ClusterClient

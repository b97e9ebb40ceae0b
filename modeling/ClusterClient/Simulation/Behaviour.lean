import ClusterClient.Connection.Network
import ClusterClient.Wire.Reply

/-!
# Servers in memory

A stand-in for a server that answers every request with one reply laid out from its behaviour. A
normal server answers with one empty document; the settings of a behaviour distort single parts of
the reply or let reads and writes fail.
-/

namespace ClusterClient

structure Behaviour where
  documents : List Bytes := [[5, 0, 0, 0, 0]]
  flags : UInt32 := 0
  cursorId : Int64 := 0
  /-- Takes the place of the fixed fields and the documents. -/
  body : Option Bytes := none
  opCode : Int32 := 1
  /-- Takes the place of the true length. -/
  length : Option Int32 := none
  /-- Added to the number of the request that is answered. -/
  idDelta : Int32 := 0
  /-- How many bytes of the reply are sent. -/
  truncate : Option Nat := none
  /-- No answer is sent. -/
  silent : Bool := false
  readFault : Option IoError := none
  writeFault : Option IoError := none
deriving DecidableEq, Repr

namespace Behaviour

/-- The number that all replies carry as their own. -/
def replyId : Int32 := 77

/-- The bytes of the reply to a request. -/
def reply (b : Behaviour) (requestId : Int32) : Bytes :=
  let fields : ReplyPrefix := ⟨b.flags, b.cursorId, 0, Int32.ofNat b.documents.length⟩
  let body := b.body.getD (fields.bytes ++ b.documents.flatten)
  let length := b.length.getD (Int32.ofNat (Header.size + body.length))
  let frame := Bytes.ofInt32 length ++ Bytes.ofInt32 replyId ++
    Bytes.ofInt32 (requestId + b.idDelta) ++ Bytes.ofInt32 b.opCode ++ body
  match b.truncate with
  | some n => frame.take n
  | none => frame

/-- The data that is sent in answer to a frame. -/
def answer (b : Behaviour) (frame : Bytes) : List Arrival :=
  let reply := b.reply (Bytes.readInt32 (frame.drop 4))
  if b.silent || reply.isEmpty then [] else [.data reply]

/-- What reads will find, given what has arrived. -/
def deliver (b : Behaviour) (arrivals : List Arrival) : List Arrival :=
  match b.readFault with
  | some e => .fault e :: arrivals
  | none => arrivals

def accept (b : Behaviour) : List Acceptance :=
  match b.writeFault with
  | some e => [.fault e]
  | none => []

end Behaviour

/-- A server as it can be reached. -/
structure Site where
  /-- Whether attempts to connect fail. -/
  refused : Bool := false
  behaviour : Behaviour := {}
deriving DecidableEq, Repr

namespace Site

def refusal : Error := .io ⟨.connectionRefused, "scripted ConnectionRefused"⟩

def connect (s : Site) : Except Error Link := if s.refused then .error refusal else .ok {}

end Site

/-- The network of servers in memory. -/
def Network.ofSites (site : Address → Site) : Network where
  connect := fun a => (site a).connect
  accepts := fun a _ => (site a).behaviour.accept
  arrivals := fun a link frame =>
    let b := (site a).behaviour
    b.deliver (link.arrivals ++ b.answer frame)

end ClusterClient

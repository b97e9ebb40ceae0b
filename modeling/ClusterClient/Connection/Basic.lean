import ClusterClient.Connection.Link
import ClusterClient.Credential
import ClusterClient.Settings.Basic
import ClusterClient.Wire.Response

/-!
# Connections

A connection exchanges whole messages with one server. After any failure its place in the byte
stream is unknown, so it closes: it shuts its stream down once and refuses all further use.
-/

namespace ClusterClient

open Text

/-- A talk with the server by which a connection proved, or failed to prove, who it speaks for. -/
structure Conversation where
  /-- The position of the handler among those that are registered. -/
  handler : Nat
  mechanism : Mechanism
  credential : Credential
  succeeded : Bool
deriving DecidableEq, Repr

structure Connection where
  /-- Unique within a pool, for diagnostics. -/
  id : UInt32
  address : Address
  link : Link
  settings : MessageSettings := {}
  /-- Only what happened here; a stream that the server closed is noticed when it is used next. -/
  closed : Bool := false
  openedAt : Instant := .zero
  conversations : List Conversation := []
deriving DecidableEq

namespace Connection

/-! ## Algorithm -/

def close (c : Connection) : Connection :=
  if c.closed then c else { c with closed := true, link := c.link.shutdown }

/-- How a failure of the stream is reported. -/
def errorOfFault (address : Address) (e : IoError) : Error :=
  match e.kind with
  | .timedOut | .wouldBlock => .socketTimeout address
  | .unexpectedEof | .brokenPipe | .connectionReset | .connectionAborted =>
    .connectionClosed address
  | _ => .io e

/-- Writes a complete frame. -/
def send (c : Connection) (frame : Bytes) : Except Error Unit × Connection :=
  if c.closed then (.error (.connectionClosed c.address), c)
  else
    let (outcome, link) := c.link.write frame
    let c := { c with link }
    match outcome with
    | .ok () => (.ok (), c)
    | .error e => (.error (errorOfFault c.address e), c.close)

/-- Reads the reply to the request `responseTo` from an open stream: its header and the buffer of
its body, which goes back to the recycler if the reply is refused. -/
def readReply (c : Connection) (buffers : Recycler) (responseTo : Int32) :
    Except Error (Header × Buffer) × Link × Recycler :=
  match c.link.read Header.size with
  | (.error e, link) => (.error (errorOfFault c.address e), link, buffers)
  | (.ok [], link) => (.error (.connectionClosed c.address), link, buffers)
  | (.ok start, link) =>
    match Header.decode start c.settings.maxMessageSize with
    | .error e => (.error (.framing e), link, buffers)
    | .ok h =>
      let (capacity, buffers) := buffers.draw h.bodyLength
      match link.read h.bodyLength with
      | (.error e, link) =>
        (.error (errorOfFault c.address e), link, buffers.giveBack ⟨[], capacity⟩)
      | (.ok body, link) =>
        let buffer : Buffer := ⟨body, capacity⟩
        if body.length < h.bodyLength then
          (.error (.framing (.truncatedBody h.bodyLength body.length)), link,
            buffers.giveBack buffer)
        else match h.checkResponseTo responseTo with
          | .error e => (.error (.framing e), link, buffers.giveBack buffer)
          | .ok () => (.ok (h, buffer), link, buffers)

/-- Reads the reply to the request `responseTo`. -/
def receive (c : Connection) (buffers : Recycler) (responseTo : Int32) :
    Except Error Response × Connection × Recycler :=
  if c.closed then (.error (.connectionClosed c.address), c, buffers)
  else
    let (outcome, link, buffers) := c.readReply buffers responseTo
    let elapsed := c.link.delay
    let c := { c with link }
    match outcome with
    | .ok (h, buffer) => (.ok ⟨h, some buffer, elapsed⟩, c, buffers)
    | .error e => (.error e, c.close, buffers)

/-- Sends a frame and reads the reply to it. -/
def exchange (c : Connection) (buffers : Recycler) (requestId : Int32) (frame : Bytes) :
    Except Error Response × Connection × Recycler :=
  match c.send frame with
  | (.error e, c) => (.error e, c, buffers)
  | (.ok (), c) => c.receive buffers requestId

def debugText (c : Connection) : String :=
  "InternalConnection \x7b id: " ++ toString c.id.toNat ++ ", address: " ++ c.address.debugText ++
    ", closed: " ++ toString c.closed ++ " \x7d"

/-! ## Lemmas -/

theorem closed_close (c : Connection) : c.close.closed = true := by
  unfold close
  split <;> simp_all

theorem close_close (c : Connection) : c.close.close = c.close := by
  rw [close, if_pos (closed_close c)]

end Connection

end ClusterClient

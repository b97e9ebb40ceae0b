import ClusterClient.Duration
import ClusterClient.Wire.Buffer
import ClusterClient.Wire.Reply

/-!
# Responses

A reply that was received. It owns the buffer of its body until it is released; from then on its
body is empty.
-/

namespace ClusterClient

structure Response where
  header : Header
  /-- The body, until it is released. -/
  buffer? : Option Buffer
  elapsed : Duration
deriving DecidableEq, Repr

namespace Response

/-! ## Algorithm -/

def body (r : Response) : Bytes := (r.buffer?.map Buffer.bytes).getD []

def replyPrefix (r : Response) : Except FramingError ReplyPrefix := ReplyPrefix.read r.body

/-- The part of the body that holds the documents. -/
def documentSection (r : Response) : Bytes := r.body.drop r.header.opCode.documentOffset

def documents (r : Response) : List Bytes := Document.all r.documentSection

def isReleased (r : Response) : Bool := r.buffer?.isNone

/-- Gives up the body. -/
def released (r : Response) : Response := { r with buffer? := none }

/-- Hands the body back for recycling; a response that was released has nothing to hand back. -/
def release (r : Response) (recycler : Recycler) : Response × Recycler :=
  match r.buffer? with
  | some b => (r.released, recycler.giveBack b)
  | none => (r, recycler)

/-! ## Lemmas -/

theorem body_released (r : Response) : r.released.body = [] := rfl

theorem release_released (r : Response) (recycler : Recycler) :
    r.released.release recycler = (r.released, recycler) := rfl

end Response

end ClusterClient

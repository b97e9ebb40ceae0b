import ClusterClient.Connection.Usage
import ClusterClient.Wire.Request

/-!
# The network

What the outside world does: how attempts to connect end, how writes end, and what the servers
answer. Everything a client does over the network is a function of such a value.
-/

namespace ClusterClient

structure Network where
  connect : Address → Except Error Link
  /-- How the writes will end that are about to begin. -/
  accepts : Address → Link → List Acceptance
  /-- What a stream will deliver once a frame was written to it. -/
  arrivals : Address → Link → Bytes → List Arrival

/-- What came of a request. -/
structure Exchange where
  result : Except Error Response
  /-- The frame, if it was sent. -/
  sent : Option Bytes := none

namespace Connection

/-- Encodes a request, sends it and receives the response to it. -/
def converse (c : Connection) (buffers : Recycler) (n : Network) (requestId : Int32)
    (request : Request) : Exchange × Connection × Recycler :=
  match request.encode requestId c.settings with
  | .error e => (⟨.error e, none⟩, c, buffers)
  | .ok frame =>
    let (_, c, buffers) := c.apply buffers (.accept (n.accepts c.address c.link))
    match c.apply buffers (.send frame) with
    | (.error e, c, buffers) => (⟨.error e, none⟩, c, buffers)
    | (.ok _, c, buffers) =>
      let (_, c, buffers) := c.apply buffers (.arrive (n.arrivals c.address c.link frame))
      match c.apply buffers (.receive requestId) with
      | (.error e, c, buffers) => (⟨.error e, some frame⟩, c, buffers)
      | (.ok (some response), c, buffers) => (⟨.ok response, some frame⟩, c, buffers)
      | (.ok none, c, buffers) => (⟨.error (.connectionClosed c.address), some frame⟩, c, buffers)

end Connection

end ClusterClient

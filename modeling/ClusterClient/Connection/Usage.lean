import ClusterClient.Connection.Basic

/-!
# Uses of a connection

What may happen to a connection while somebody holds it. No use changes whose connection it is, and
none opens it again.
-/

namespace ClusterClient

/-- What a holder does with a connection, or the world with the stream under it. -/
inductive Usage where
  | send (frame : Bytes)
  | receive (requestId : Int32)
  | close
  /-- From now on the stream will deliver exactly this. -/
  | arrive (arrivals : List Arrival)
  /-- From now on the writes will end like this. -/
  | accept (acceptances : List Acceptance)
  /-- From now on the flushes will report these faults, after so many that succeed. -/
  | flush (faults : List IoError) (lulls : List Nat)
deriving DecidableEq, Repr

namespace Connection

/-- One use: what came of it, the connection, and the buffers that are left. -/
def apply (c : Connection) (buffers : Recycler) :
    Usage → Except Error (Option Response) × Connection × Recycler
  | .send frame =>
    let (outcome, c) := c.send frame
    (outcome.map fun _ => none, c, buffers)
  | .receive requestId =>
    let (outcome, c, buffers) := c.receive buffers requestId
    (outcome.map some, c, buffers)
  | .close => (.ok none, c.close, buffers)
  | .arrive arrivals => (.ok none, { c with link := { c.link with arrivals } }, buffers)
  | .accept acceptances => (.ok none, { c with link := { c.link with acceptances } }, buffers)
  | .flush flushFaults flushLulls =>
    (.ok none, { c with link := { c.link with flushFaults, flushLulls } }, buffers)

end Connection

end ClusterClient

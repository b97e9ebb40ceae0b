import ClusterClient.Server.Probe

/-!
# Scenarios of a connection

A connection on a scripted stream and the buffers for its replies, used by one command after the
other. Unless a response is kept, its buffer is released at once. A connection that was dropped is
gone.
-/

namespace ClusterClient

inductive ConnectionCommand where
  | send (frame : Bytes)
  | receive (responseTo : Int32) (keep : Bool)
  | exchange (responseTo : Int32) (frame : Bytes) (keep : Bool)
  | show
  | close
  | drop
deriving DecidableEq, Repr

/-- What a command has to say. -/
inductive ConnectionResult where
  | nothing
  | failure (cause : Error)
  | response (response : Response)
  | text (text : String)

structure ConnectionScenario where
  connection : Connection
  buffers : Recycler := {}
  dropped : Bool := false

namespace ConnectionScenario

/-- What came of a receipt. -/
def received (s : ConnectionScenario) (keep : Bool) :
    Except Error Response × Connection × Recycler → ConnectionResult × ConnectionScenario
  | (.error e, connection, buffers) => (.failure e, { s with connection, buffers })
  | (.ok r, connection, buffers) =>
    let buffers := if keep then buffers else (r.release buffers).2
    (.response r, { s with connection, buffers })

/-- How the connection introduces itself. -/
def introduction (c : Connection) : String :=
  c.debugText ++ " " ++ toString c.id.toNat ++ " " ++ c.address.text ++ " " ++
    toString c.settings.maxMessageSize

/-- Performs a command on a connection that was not dropped. -/
def step (s : ConnectionScenario) : ConnectionCommand → ConnectionResult × ConnectionScenario
  | .send frame =>
    match s.connection.send frame with
    | (.ok (), connection) => (.nothing, { s with connection })
    | (.error e, connection) => (.failure e, { s with connection })
  | .receive responseTo keep => s.received keep (s.connection.receive s.buffers responseTo)
  | .exchange responseTo frame keep =>
    s.received keep (s.connection.exchange s.buffers responseTo frame)
  | .show => (.text (introduction s.connection), s)
  | .close => (.nothing, { s with connection := s.connection.close })
  | .drop => (.nothing, { s with connection := s.connection.close, dropped := true })

/-- Probes the server several times, counting the requests from one. -/
def probe (s : ConnectionScenario) (n : Network) (decode : Bytes → Except String ProbeReply) :
    (times : Nat) → List ProbeOutcome × ConnectionScenario
  | 0 => ([], s)
  | times + 1 =>
    let (outcomes, s) := s.probe n decode times
    let (outcome, connection, buffers) :=
      s.connection.probe s.buffers n (Int32.ofNat (times + 1)) decode
    (outcomes ++ [outcome], { s with connection, buffers })

end ConnectionScenario

end ClusterClient

import ClusterClient.Cluster.System
import ClusterClient.Command
import ClusterClient.Pool.Session
import ClusterClient.Server.Monitor

/-!
# Clients

A client sends commands to the servers of a cluster. For each command it settles the read
preference, selects a server, borrows a connection from the pool of that server, exchanges one
request for its response and gives the connection back. A failure of the connection itself makes
all connections to the server suspect: its pool is invalidated and its monitor is told to check.

    flagsFor p mode carries slaveOk ↔ p is not primary or the connection is direct     (flagsFor_eq)
-/

namespace ClusterClient

/-- A server of the cluster: its connection pool and its monitor. -/
structure Server where
  pool : PoolSystem
  monitor : Monitor

namespace Server

/-- Drops the connections of the pool and asks for a check at once. -/
def invalidate (s : Server) : Server :=
  { pool := s.pool.invalidate, monitor := s.monitor.invalidate }

def close (s : Server) : Server := { pool := s.pool.close, monitor := s.monitor.close }

end Server

structure Client where
  settings : ClientSettings := {}
  cluster : ClusterSystem
  /-- How the connections of the pools are opened. -/
  dialer : Dialer := {}
  /-- How the connections of the monitors are opened. -/
  heartbeatDialer : Dialer := {}
  /-- All servers that were created, in order. -/
  servers : List Server := []
  /-- How many of the servers that the cluster closed are closed indeed. -/
  closed : Nat := 0
  nextRequestId : Int32 := 1

/-- What came of a command. -/
structure CommandOutcome where
  result : Except Error Response
  /-- The frame that was sent, and to whom. -/
  sent : Option (Address × Bytes) := none

namespace Client

/-! ## Servers -/

def create (c : Client) (address : Address) : Server where
  pool := .fresh address c.settings.pool c.dialer c.cluster.clock
  monitor := {
    address, settings := c.settings.server, dialer := c.heartbeatDialer, clock := c.cluster.clock }

def modifyServer (c : Client) (serial : Nat) (f : Server → Server) : Client :=
  { c with servers := c.servers.modify serial f }

/-- Does to the servers what the cluster has decided: creates the new ones and closes the ones that
were removed. -/
def adopt (c : Client) : Client :=
  let cluster := c.cluster.cluster
  let new := (cluster.created.drop c.servers.length).map c.create
  let c := { c with servers := c.servers ++ new }
  let c := (cluster.closings.drop c.closed).foldl (fun c serial => c.modifyServer serial .close) c
  { c with closed := cluster.closings.length }

/-- A new client. The servers of a client that could not be created are closed. -/
def start (settings : ClientSettings) (dialer heartbeatDialer : Dialer)
    (spawn : Address → Spawn) : Except Error Unit × Client :=
  match settings.validate with
  | .error e => (.error e, { settings, cluster := { cluster := { settings := settings.cluster } } })
  | .ok () =>
    let (result, cluster) := Cluster.start settings.cluster spawn
    (result, adopt { settings, cluster := { cluster }, dialer, heartbeatDialer })

def description (c : Client) : ClusterDescription := c.cluster.cluster.description

/-- A monitor has published a new description. -/
def report (c : Client) (d : ServerDescription) (spawn : Address → Spawn) : Client :=
  adopt { c with cluster := c.cluster.onChange d spawn }

def close (c : Client) : Client :=
  adopt { c with cluster := c.cluster.close.notifyClosed }

/-- The monitor of a server makes a step; what it publishes reaches the cluster at once. -/
def stepMonitor (c : Client) (serial : Nat) (event : Monitor.Event) (spawn : Address → Spawn) :
    Client :=
  match c.servers[serial]? with
  | none => c
  | some server =>
    let monitor := server.monitor.step event
    let news := monitor.published.drop server.monitor.published.length
    news.foldl (fun c d => c.report d spawn)
      (c.modifyServer serial fun server => { server with monitor })

def runMonitor (c : Client) (serial : Nat) (events : List Monitor.Event)
    (spawn : Address → Spawn) : Client :=
  events.foldl (fun c event => c.stepMonitor serial event spawn) c

/-- A step of the pool of a server. -/
def stepPool (c : Client) (serial : Nat) (event : PoolSystem.Event) : Client :=
  c.modifyServer serial fun server => { server with pool := server.pool.step event }

/-- Brings the pools of all servers to rest. -/
def toRest (c : Client) (n : Network) : Client :=
  { c with servers := c.servers.map fun s => { s with pool := s.pool.toRest n.opener } }

/-- The server of a member of the cluster, if the address belongs to one. -/
def server? (c : Client) (address : Address) : Option Server :=
  (c.cluster.cluster.member? address).bind fun m => c.servers[m.serial]?

/-! ## Commands -/

/-- The selector for operations with a read preference. -/
def selectorFor (c : Client) (p : ReadPreference) : Selector :=
  let window := c.settings.acceptableLatencyDifference
  .composite [.readPreference p window, .sticky, .latency window]

/-- The read preference that a command runs with. -/
def commandPreference (c : Client) (command : CommandRequest) (requested : ReadPreference) :
    ReadPreference :=
  command.resolve requested c.description

/-- The options of the query that carries a command. -/
def flagsFor (p : ReadPreference) (mode : ConnectionMode) : QueryFlags :=
  if p.isSlaveOk ∨ mode = .single then .slaveOk else .none

/-- Counts a request; it has the number that was next. -/
def issue (c : Client) : Client := { c with nextRequestId := c.nextRequestId + 1 }

/-- Looks for a server, waiting for one until the time is over. -/
def findSource (c : Client) (criterion : Criterion) (timeout : Duration) (pick : Nat) :
    Option (Except Error Source) × Client :=
  let name := c.cluster.searches
  let cluster := c.cluster.seek criterion timeout pick
  let cluster := if cluster.seekers.any (·.name == name) then
      (cluster.tick timeout).recheck name pick
    else cluster
  (cluster.answer? name, { c with cluster })

/-- Whether a failure says that the connections to the server cannot be trusted any more. -/
def suspects : Error → Bool
  | .io _ | .socketTimeout _ | .connectionClosed _ => true
  | _ => false

/-- One request on a connection of the pool, from borrowing it to giving it back. -/
def request (s : Server) (n : Network) (requestId : Int32) (r : Request) :
    CommandOutcome × Server :=
  let borrower := s.pool.calls
  match s.pool.get s.pool.pool.settings.maxWaitTime n.opener with
  | (.error e, pool) => (⟨.error e, none⟩, { s with pool })
  | (.ok _, pool) =>
    let (outcome, pool) := pool.exchange n borrower requestId r
    let s : Server := { s with pool }
    let s : Server := match outcome.result with
      | .error e => if suspects e then s.invalidate else s
      | .ok _ => s
    (⟨outcome.result, outcome.sent.map fun frame => (pool.pool.address, frame)⟩,
      { s with pool := (s.pool.giveBack borrower).shutAll.notifyAll })

/-- The query that carries a serialised command. -/
def commandQuery (c : Client) (p : ReadPreference) (db : String) (body : Bytes) : Request :=
  .query (db ++ ".$cmd") (flagsFor p c.settings.cluster.mode) 0 (-1) body none

/-- Runs a serialised command on the server that was found for it. -/
def dispatch (c : Client) (n : Network) (p : ReadPreference) (db : String) (body : Bytes)
    (source : Source) : CommandOutcome × Client :=
  let requestId := c.nextRequestId
  let c := c.issue
  match c.servers[source.serial]? with
  | none => (⟨.error .clusterClosed, none⟩, c)
  | some server =>
    let (outcome, server) := request server n requestId (c.commandQuery p db body)
    (outcome, c.modifyServer source.serial fun _ => server)

/-- Runs a serialised command on a database, with the read preference of the client if none is
given. There is no outcome if a latency window overflows. -/
def runCommand (c : Client) (n : Network) (db : String) (command : CommandRequest) (body : Bytes)
    (preference : Option ReadPreference) (pick : Nat) : Option CommandOutcome × Client :=
  let requested := preference.getD c.settings.readPreference
  match requested.validate with
  | .error e => (some ⟨.error e, none⟩, c)
  | .ok () =>
    let p := c.commandPreference command requested
    match c.findSource (c.selectorFor p) c.settings.cluster.serverSelectionTimeout pick with
    | (none, c) => (none, c)
    | (some (.error e), c) => (some ⟨.error e, none⟩, c)
    | (some (.ok source), c) =>
      let (outcome, c) := c.dispatch n p db body source
      (some outcome, c)

/-! ## Events -/

/-- Everything that can happen. -/
inductive Event where
  | seek (criterion : Criterion) (timeout : Duration) (pick : Nat)
  | recheck (name pick : Nat)
  | monitor (serial : Nat) (event : Monitor.Event) (spawn : Address → Spawn)
  | pool (serial : Nat) (event : PoolSystem.Event)
  /-- A command takes the number of its request. -/
  | issue
  | close
  | tick (elapsed : Duration)

/-- What an event does. An event that makes no sense in the state at hand changes nothing. -/
def step (c : Client) : Event → Client
  | .seek criterion timeout pick => { c with cluster := c.cluster.seek criterion timeout pick }
  | .recheck name pick => { c with cluster := c.cluster.recheck name pick }
  | .monitor serial event spawn => c.stepMonitor serial event spawn
  | .pool serial event => c.stepPool serial event
  | .issue => c.issue
  | .close => c.close
  | .tick elapsed => { c with cluster := c.cluster.tick elapsed }

def run (c : Client) (events : List Event) : Client := events.foldl step c

/-! ## Lemmas -/

theorem flagsFor_eq (p : ReadPreference) (mode : ConnectionMode) :
    flagsFor p mode = .slaveOk ↔ p.isSlaveOk = true ∨ mode = .single := by
  unfold flagsFor
  split
  · simp_all
  · simp_all [QueryFlags.slaveOk, QueryFlags.none]

theorem run_append (c : Client) (before after : List Event) :
    c.run (before ++ after) = (c.run before).run after :=
  List.foldl_append

end Client

end ClusterClient

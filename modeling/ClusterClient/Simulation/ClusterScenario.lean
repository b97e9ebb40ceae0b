import ClusterClient.Client
import ClusterClient.Simulation.Behaviour

/-!
# Scenarios of a client

A client of servers in memory whose monitors never report anything themselves: what they would have
published is told to the cluster directly. After each command all pools are brought to rest.

The callers have a sticky router selector of their own, so the router that it holds is kept apart
from the one that the client holds for its commands.
-/

namespace ClusterClient

/-- A server that was found. -/
structure Choice where
  /-- Everything that the selector matches. -/
  candidates : List ServerDescription
  source : Source
  /-- Whether the server is the one that the cluster has for its address. -/
  current : Bool

/-- What happens while somebody looks for a server. -/
inductive Incident where
  | report (description : ServerDescription)
  | close

structure ClusterScenario where
  client : Client
  /-- The servers by their addresses. -/
  sites : Address → Site := fun _ => {}
  /-- The addresses for which no server can be created. -/
  failing : List Address := []
  /-- The router that the selector of the callers holds. -/
  held : Option Address := none
  /-- The connections that were checked out, as server and borrower, the latest first. -/
  loans : List (Nat × Nat) := []

namespace ClusterScenario

/-! ## Surroundings -/

def spawnUnless (failing : List Address) (address : Address) : Spawn :=
  if address ∈ failing then .refused (.protocol ("no server for " ++ address.text)) else .started

def spawn (s : ClusterScenario) : Address → Spawn := spawnUnless s.failing

def network (s : ClusterScenario) : Network := .ofSites s.sites

def start (settings : ClientSettings) (failing : List Address) :
    Except Error Unit × ClusterScenario :=
  let dialer : Dialer := { settings := settings.message }
  let (result, client) := Client.start settings dialer dialer (spawnUnless failing)
  (result, { client, failing })

def fail (s : ClusterScenario) (address : Address) (on : Bool) : ClusterScenario :=
  let others := s.failing.filter (· != address)
  { s with failing := if on then address :: others else others }

def modifySite (s : ClusterScenario) (address : Address) (f : Site → Site) : ClusterScenario :=
  { s with sites := fun a => if a = address then f (s.sites a) else s.sites a }

def toRest (s : ClusterScenario) : ClusterScenario := { s with client := s.client.toRest s.network }

def report (s : ClusterScenario) (d : ServerDescription) : ClusterScenario :=
  { s with client := s.client.report d s.spawn }

def close (s : ClusterScenario) : ClusterScenario := { s with client := s.client.close }

/-! ## Selection -/

def holding (c : Client) (held : Option Address) : Client :=
  { c with cluster := { c.cluster with held } }

/-- Does something with the sticky selector of the callers. -/
def withHeld {α : Type} (s : ClusterScenario) (f : Client → α × Client) : α × ClusterScenario :=
  let (result, client) := f (holding s.client s.held)
  (result, { s with client := holding client s.client.cluster.held, held := client.cluster.held })

/-- All servers that a selector of the callers matches now. -/
def matching (s : ClusterScenario) (selector : Selector) :
    Option (List ServerDescription) × ClusterScenario :=
  match selector.select s.client.description s.held with
  | some (candidates, held) => (some candidates, { s with held })
  | none => (none, s)

/-- Compares what was found with what the selector matches now. -/
def judge (s : ClusterScenario) (selector : Selector) :
    Option (Except Error Source) → Option (Except Error Choice) × ClusterScenario
  | none => (none, s)
  | some (.error e) => (some (.error e), s)
  | some (.ok source) =>
    match s.matching selector with
    | (none, s) => (none, s)
    | (some candidates, s) =>
      let member := s.client.cluster.cluster.member? source.description.address
      (some (.ok ⟨candidates, source, member.map (·.serial) == some source.serial⟩), s)

def find (s : ClusterScenario) (selector : Selector) (timeout : Duration) :
    Option (Except Error Source) × ClusterScenario :=
  s.withHeld fun c => c.findSource selector timeout 0

def select (s : ClusterScenario) (selector : Selector) (timeout : Duration) :
    Option (Except Error Choice) × ClusterScenario :=
  let (found, s) := s.find selector timeout
  s.judge selector found

def incident (s : ClusterScenario) : Incident → ClusterScenario
  | .report d => s.report d
  | .close => s.close

/-- Lets the callers that were told to look again do so. -/
def recheck (s : ClusterScenario) : ClusterScenario :=
  (s.withHeld fun c => ((), { c with cluster := c.cluster.recheckNotified 0 })).2

/-- Looks for a server while other things happen. -/
def selectDuring (s : ClusterScenario) (selector : Selector) (timeout : Duration)
    (incidents : List Incident) : Option (Except Error Choice) × ClusterScenario :=
  let name := s.client.cluster.searches
  let (_, s) := s.withHeld fun c => ((), { c with cluster := c.cluster.seek selector timeout 0 })
  let s := incidents.foldl (fun s i => (s.incident i).recheck) s
  let (found, s) := s.withHeld fun c =>
    let cluster := if c.cluster.seekers.any (·.name == name) then
        (c.cluster.tick timeout).recheck name 0
      else c.cluster
    (cluster.answer? name, { c with cluster })
  s.judge selector found

/-- All servers that operations with a read preference may run on. -/
def servable (s : ClusterScenario) (p : ReadPreference) :
    Option (List ServerDescription) × ClusterScenario :=
  let c := s.client
  match (c.selectorFor p).select c.description c.cluster.held with
  | some (candidates, held) => (some candidates, { s with client := holding c held })
  | none => (none, s)

/-! ## Connections -/

/-- Borrows a connection to a server that was found. -/
def borrow (s : ClusterScenario) (source : Source) : Except Error Ticket × ClusterScenario :=
  match s.client.servers[source.serial]? with
  | none => (.error .clusterClosed, s)
  | some server =>
    let (answer, pool) := server.pool.get server.pool.pool.settings.maxWaitTime s.network.opener
    let client := s.client.modifyServer source.serial fun server => { server with pool }
    let loan := (source.serial, server.pool.calls)
    (answer, { s with client, loans := if answer.isOk then loan :: s.loans else s.loans })

/-- Gives the connection back that was checked out last: the address of its server. -/
def release (s : ClusterScenario) : Option Address × ClusterScenario :=
  match s.loans with
  | [] => (none, s)
  | (serial, borrower) :: loans =>
    let client := s.client.modifyServer serial fun server =>
      { server with pool := server.pool.giveBack borrower }
    (s.client.servers[serial]?.map (·.pool.pool.address), { s with client, loans })

def invalidate (s : ClusterScenario) (address : Address) : ClusterScenario :=
  match s.client.cluster.cluster.member? address with
  | some member => { s with client := s.client.modifyServer member.serial .invalidate }
  | none => s

def runCommand (s : ClusterScenario) (db : String) (command : CommandRequest) (body : Bytes)
    (preference : Option ReadPreference) : Option CommandOutcome × ClusterScenario :=
  let (outcome, client) := s.client.runCommand s.network db command body preference 0
  (outcome, { s with client })

/-! ## Observations -/

/-- The pools of the current servers that were used. -/
def pools (s : ClusterScenario) : List Pool :=
  s.client.description.servers.filterMap fun d => (s.client.server? d.address).bind fun server =>
    let pool := server.pool.pool
    if 0 < pool.total + pool.generation then some pool else none

/-- The addresses of the servers that were closed since an earlier state, in the order of their
texts. -/
def closedSince (s earlier : ClusterScenario) : List Address :=
  let c := s.client.cluster.cluster
  let closings := c.closings.drop earlier.client.cluster.cluster.closings.length
  (closings.filterMap (c.created[·]?)).mergeSort fun a b => a.text ≤ b.text

/-- The addresses of the servers that were created since an earlier state. -/
def createdSince (s earlier : ClusterScenario) : List Address :=
  s.client.cluster.cluster.created.drop earlier.client.cluster.cluster.created.length

end ClusterScenario

end ClusterClient

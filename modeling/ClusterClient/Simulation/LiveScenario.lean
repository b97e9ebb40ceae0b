import ClusterClient.Client
import ClusterClient.Simulation.Behaviour
import ClusterClient.Simulation.MonitorScenario

/-!
# Scenarios with monitors at work

A client of servers in memory whose monitors are stopped at their gates until it is decided how
their attempts to connect and their probes end. As soon as one of them may go on it does, up to its
next gate. All pools are brought to rest after each command.
-/

namespace ClusterClient

structure LiveScenario where
  client : Client
  /-- The servers by their addresses. -/
  sites : Address → Site := fun _ => {}
  /-- How many probes there were. -/
  probes : Nat := 0
  /-- The connections that held a conversation and the conversation, in the order of time. -/
  conversations : List (Nat × UInt32 × Conversation) := []

namespace LiveScenario

/-- The time between two checks. -/
def heartbeat : Duration := .ofMillis 1

def network (s : LiveScenario) : Network := .ofSites s.sites

def spawn (_ : Address) : Spawn := .started

/-! ## Monitors -/

/-- What a monitor does between two gates. -/
def pause : List Monitor.Event := [.pause, .tick heartbeat, .resume, .begin]

/-- Lets all monitors go on to their next gates. -/
def toGates (c : Client) : Client :=
  (List.range c.servers.length).foldl (fun c serial => c.runMonitor serial pause spawn) c

/-- The conversations that were held so far on the connections of the pools. -/
def held (c : Client) : List (Nat × UInt32 × Conversation) :=
  c.servers.zipIdx.flatMap fun (server, serial) =>
    server.pool.connections.flatMap fun connection =>
      connection.conversations.map fun t => (serial, connection.id, t)

def toRest (s : LiveScenario) : LiveScenario :=
  let client := (toGates s.client).toRest s.network
  let news := (held client).filter (· ∉ s.conversations)
  { s with client, conversations := s.conversations ++ news }

/-! ## Commands -/

def start (settings : ClientSettings) (authenticator : Option Authenticator) :
    Except Error LiveScenario :=
  let server : ServerSettings := { settings.server with
    heartbeatFrequency := heartbeat, heartbeatConnectRetryFrequency := heartbeat }
  let settings := { settings with server }
  let dialer : Dialer := { settings := settings.message }
  let (result, client) := Client.start settings { dialer with authenticator } dialer spawn
  result.map fun _ => toRest { client }

/-- Lets the monitor of a server pass its gate. -/
def pass (s : LiveScenario) (address : Address) (passage : Passage) :
    Option Gate × LiveScenario :=
  match s.client.cluster.cluster.member? address, s.client.server? address with
  | some member, some server =>
    let events := server.monitor.passage (MonitorScenario.elapsed s.probes) passage
    let client := s.client.runMonitor member.serial events spawn
    (server.monitor.gate?, toRest { s with client, probes := s.probes + 1 })
  | _, _ => (none, s)

def behave (s : LiveScenario) (address : Address) (behaviour : Behaviour) : LiveScenario :=
  { s with sites := fun a => if a = address then { s.sites a with behaviour } else s.sites a }

def runCommand (s : LiveScenario) (db : String) (command : CommandRequest) (body : Bytes)
    (preference : Option ReadPreference) : Option CommandOutcome × LiveScenario :=
  let (outcome, client) := s.client.runCommand s.network db command body preference 0
  (outcome, toRest { s with client })

def close (s : LiveScenario) : LiveScenario := toRest { s with client := s.client.close }

/-- The current servers, in ascending order of their addresses. -/
def servers (s : LiveScenario) : List Server :=
  s.client.description.servers.filterMap fun d => s.client.server? d.address

end LiveScenario

end ClusterClient

import ClusterClient.Server.Monitor

/-!
# Scenarios of a monitor

A monitor whose attempts to connect and whose probes are stopped at a gate until it is decided how
they end. Every probe takes a little longer than the one before, so that each successful one has
something new to publish.
-/

namespace ClusterClient

/-- Where a monitor is stopped: the attempt to open a connection, or the probe on it. -/
inductive Gate where
  | connect (id : UInt32)
  | probe (id : UInt32)
deriving DecidableEq, Repr

/-- How an attempt or a probe ends. -/
inductive Passage where
  | granted
  /-- The server has answered; the connection may be closed right afterwards. -/
  | reply (reply : ProbeReply) (closes : Bool)
  | refused (cause : String)

namespace Monitor

/-- The gate at which the monitor is stopped. -/
def gate? (m : Monitor) : Option Gate :=
  match m.phase with
  | .connecting => some (.connect m.lastId)
  | .probing => m.connection.map fun c => .probe c.id
  | _ => none

/-- What happens to a monitor at its gate. -/
def passage (m : Monitor) (elapsed : Duration) : Passage → List Event
  | .refused cause =>
    if m.phase = .connecting then [.dialed (.error (.protocol cause))]
    else [.probed (.error (.protocol cause)) elapsed]
  | .reply reply closes =>
    if m.phase = .connecting then [.dialed (.ok {})]
    else (if closes then [.use .close] else []) ++ [.probed (.ok reply) elapsed]
  | .granted =>
    if m.phase = .connecting then [.dialed (.ok {})] else [.probed (.ok {}) elapsed]

end Monitor

/-- What came of one step of a scenario. -/
structure MonitorReport where
  gate : Gate
  /-- Whether the next check began by itself soon after, if that was observed. -/
  automatic : Option Bool := none
  published : List ServerDescription

structure MonitorScenario where
  monitor : Monitor
  /-- How many probes there were. -/
  probes : Nat := 0

namespace MonitorScenario

/-- How long a probe takes. -/
def elapsed (probes : Nat) : Duration := ⟨1000 * (probes + 1)⟩

/-- How long it is observed whether a check begins by itself. -/
def observation : Duration := .ofMillis 100

def start (address : Address) (settings : ServerSettings) : MonitorScenario where
  monitor := { address, settings : Monitor }.begin

def pass (s : MonitorScenario) (passage : Passage) : MonitorScenario where
  monitor := s.monitor.run (s.monitor.passage (elapsed s.probes) passage)
  probes := s.probes + 1

/-- What was published since an earlier state. -/
def news (earlier later : MonitorScenario) : List ServerDescription :=
  later.monitor.published.drop earlier.monitor.published.length

/-- Lets the monitor pass its gate and go on to the next one, waking it if it waits. There is no
report once the monitor has stopped. -/
def step (s : MonitorScenario) (passage : Passage) (observe : Bool) :
    Option MonitorReport × MonitorScenario :=
  match s.monitor.gate? with
  | none => (none, s)
  | some gate =>
    let passed := s.pass passage
    let waiting := passed.monitor.pause
    let later := (waiting.tick observation).resume
    let automatic := later.gate?.isSome || later.phase == .ready
    let monitor :=
      if waiting.gate?.isSome then waiting
      else if observe && automatic then later
      else waiting.invalidate.resume
    let next := { passed with monitor := monitor.begin }
    (some { gate, automatic := if observe then some automatic else none, published := s.news next },
      next)

/-- Tells the monitor to stop while it is at its gate, and lets it pass this gate and, if it has
opened a connection there, the next one. -/
def close (s : MonitorScenario) (passage probe : Passage) :
    Option MonitorReport × MonitorScenario :=
  match s.monitor.gate? with
  | none => (none, s)
  | some gate =>
    let passed := pass { s with monitor := s.monitor.close } passage
    let passed := if passed.monitor.phase = .probing then passed.pass probe else passed
    let next := { passed with monitor := passed.monitor.pause }
    (some { gate, published := s.news next }, next)

end MonitorScenario

end ClusterClient

import ClusterClient.Connection.Dial
import ClusterClient.Connection.Usage
import ClusterClient.Server.Description
import ClusterClient.Server.MovingAverage

/-!
# Server monitors

A monitor keeps the description of one server up to date. It checks the server over a connection of
its own, which it opens again after every failure, publishes what it found if that is new, and
waits until the next check is due or somebody wakes it.

A check has up to three steps: it begins, the attempt to connect ends, the probe ends. Between the
checks there are two: the monitor looks whether it was told something, and if not it is blocked
until it is told or the time is over. Signals may arrive between any two steps.

    m.publish m.description = m                           (publish_self)
    m.close.close = m.close                               (close_close)
    m.run (before ++ after) = (m.run before).run after    (run_append)
-/

namespace ClusterClient

/-- What a monitor is about to do, or waits for. -/
inductive MonitorPhase where
  /-- A check is about to begin. -/
  | ready
  /-- A connection is being opened. -/
  | connecting
  /-- The server is being probed. -/
  | probing
  /-- A check has ended, and the next one should follow after this delay. -/
  | checked (delay : Duration)
  /-- Blocked until the next check is due, unless it is told to look at its signals. -/
  | blocked (due : Instant) (notified : Bool)
  | stopped
deriving DecidableEq, Repr

structure Monitor where
  address : Address
  settings : ServerSettings := {}
  dialer : Dialer := {}
  buffers : Recycler := {}
  clock : Instant := .zero
  phase : MonitorPhase := .ready
  /-- The description that was published last. -/
  description : ServerDescription := .fresh address
  average : MovingAverage := {}
  connection : Option Connection := none
  lastId : UInt32 := 0
  /-- Whether the monitor was told to stop. -/
  closed : Bool := false
  /-- Whether the monitor was told to check at once. -/
  wake : Bool := false
  /-- Everything that was published, in order. -/
  published : List ServerDescription := []
  /-- How many streams were opened. -/
  streams : Nat := 0
  /-- The connections that are not used any more. -/
  shut : List Connection := []
  /-- How many checks have begun. -/
  checks : Nat := 0

namespace Monitor

/-! ## Publishing -/

/-- Publishes a description unless it says nothing new. -/
def publish (m : Monitor) (d : ServerDescription) : Monitor :=
  if d = m.description then m else { m with description := d, published := m.published ++ [d] }

/-- Gives up the connection, if there is one. -/
def disconnect (m : Monitor) : Monitor :=
  { m with connection := none, shut := m.shut ++ (m.connection.map (·.close)).toList }

/-! ## Steps of a check -/

def hasOpenConnection (m : Monitor) : Bool := m.connection.any fun c => !c.closed

/-- A check begins: with the probe if there is an open connection, or else by opening one. A server
that was unknown is published as connecting first. -/
def begin (m : Monitor) : Monitor :=
  match m.phase with
  | .ready =>
    let m := { m with checks := m.checks + 1 }
    if m.hasOpenConnection then { m with phase := .probing }
    else
      let m :=
        if m.description.state = .unknown then
          m.publish { ServerDescription.fresh m.address with error := m.description.error }
        else m
      { m with phase := .connecting, lastId := m.lastId + 1 }
  | _ => m

/-- The check has failed: the monitor starts over with nothing. -/
def fail (m : Monitor) (cause : Error) : Monitor :=
  let m := { m with average := m.average.reset }.disconnect
  { m.publish (.unknown m.address cause.message) with
    phase := .checked m.settings.heartbeatConnectRetryFrequency }

/-- The attempt to open a connection ends. -/
def dialed (m : Monitor) (stream : Except Error Link) : Monitor :=
  match m.phase with
  | .connecting =>
    let stream := stream.map fun link => { link with serial := m.streams }
    let streams := m.streams + if stream.isOk then 1 else 0
    let (result, buffers) := m.dialer.dial m.address m.lastId m.clock stream m.buffers
    let m := { m with buffers, streams }
    match result with
    | .established c => { m.disconnect with connection := some c, phase := .probing }
    | .failed cause shut => { m with shut := m.shut ++ shut.toList }.fail cause
  | _ => m

/-- The probe uses the connection of the monitor. -/
def use (m : Monitor) (usage : Usage) : Except Error (Option Response) × Monitor :=
  match m.phase, m.connection with
  | .probing, some c =>
    let (outcome, c, buffers) := c.apply m.buffers usage
    (outcome, { m with connection := some c, buffers })
  | _, _ => (.ok none, m)

/-- The probe ends after some time. -/
def probed (m : Monitor) (outcome : Except Error ProbeReply) (elapsed : Duration) : Monitor :=
  match m.phase with
  | .probing =>
    match outcome with
    | .error cause => m.fail cause
    | .ok reply =>
      let (latency, average) := m.average.add elapsed
      let m := { m with average }
      { m.publish (.ofReply m.address reply (latency.getD .longest)) with
        phase := .checked m.settings.heartbeatFrequency }
  | _ => m

/-! ## Steps between checks -/

def stop (m : Monitor) : Monitor := { m.disconnect with phase := .stopped }

/-- The monitor looks at its signals. If there is none it is blocked until `due`. -/
def look (m : Monitor) (due : Instant) : Monitor :=
  if m.closed then { m with wake := false }.stop
  else if m.wake then { m with wake := false, phase := .ready }
  else { m with phase := .blocked due false }

/-- The monitor gets ready to wait. -/
def pause (m : Monitor) : Monitor :=
  match m.phase with
  | .checked delay => m.look ⟨m.clock.nanos + delay.nanos⟩
  | _ => m

/-- The monitor looks again, because it was told to, the time is over, or for no reason. -/
def resume (m : Monitor) : Monitor :=
  match m.phase with
  | .blocked due _ =>
    if due ≤ m.clock then
      if m.closed then { m with wake := false }.stop else { m with wake := false, phase := .ready }
    else m.look due
  | _ => m

/-! ## Signals -/

/-- Tells a blocked monitor to look at its signals. -/
def notify (m : Monitor) : Monitor :=
  match m.phase with
  | .blocked due _ => { m with phase := .blocked due true }
  | _ => m

/-- Asks for a check at once. -/
def invalidate (m : Monitor) : Monitor := { m with wake := true }.notify

def close (m : Monitor) : Monitor := { m with closed := true }.notify

/-- Time passes. -/
def tick (m : Monitor) (elapsed : Duration) : Monitor :=
  { m with clock := ⟨m.clock.nanos + elapsed.nanos⟩ }

/-! ## Events -/

/-- Everything that can happen. -/
inductive Event where
  | begin
  | dialed (stream : Except Error Link)
  | use (usage : Usage)
  | probed (outcome : Except Error ProbeReply) (elapsed : Duration)
  | pause
  | resume
  | invalidate
  | close
  | tick (elapsed : Duration)

/-- What an event does. An event that makes no sense in the phase at hand changes nothing. -/
def step (m : Monitor) : Event → Monitor
  | .begin => m.begin
  | .dialed stream => m.dialed stream
  | .use usage => (m.use usage).2
  | .probed outcome elapsed => m.probed outcome elapsed
  | .pause => m.pause
  | .resume => m.resume
  | .invalidate => m.invalidate
  | .close => m.close
  | .tick elapsed => m.tick elapsed

def run (m : Monitor) (events : List Event) : Monitor := events.foldl step m

/-! ## Observations -/

/-- How often streams of this monitor were shut down. -/
def shutdowns (m : Monitor) : Nat :=
  (m.connection.toList ++ m.shut).foldr (fun c n => c.link.shutdowns + n) 0

def debugText (m : Monitor) : String :=
  "ServerMonitor \x7b address: " ++ m.address.debugText ++ " \x7d"

/-! ## Lemmas -/

theorem publish_self (m : Monitor) : m.publish m.description = m := by simp [publish]

theorem close_close (m : Monitor) : m.close.close = m.close := by
  unfold close notify
  cases m.phase <;> rfl

theorem run_append (m : Monitor) (before after : List Event) :
    m.run (before ++ after) = (m.run before).run after :=
  List.foldl_append

end Monitor

end ClusterClient

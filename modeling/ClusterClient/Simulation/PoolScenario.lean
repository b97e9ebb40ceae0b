import ClusterClient.Pool.Session
import ClusterClient.Simulation.Behaviour

/-!
# Scenarios of a pool

A pool over a server in memory, driven by one command after the other. After each command the pool
is brought to rest: connections on their way out are shut down, callers that can be served are
served, and maintenance does what is due.
-/

namespace ClusterClient

/-- What is done to the pool while a connection is being opened. -/
inductive Disturbance where
  | close
  | invalidate
deriving DecidableEq, Repr

inductive PoolCommand where
  | get (timeout : Option Duration)
  /-- A call that may stay queued. -/
  | wait
  | release (nth : Nat)
  | discard (nth : Nat)
  /-- The borrower reads without having asked for anything. -/
  | break (nth : Nat)
  | roundtrip (nth : Nat)
  | invalidate
  | close
  | refuse (on : Bool)
  | behave (behaviour : Behaviour)
  /-- The next opening is disturbed. -/
  | disturb (disturbance : Disturbance)
  | sleep (duration : Duration)
  /-- Time passes until so many connections are idle. -/
  | awaitIdle (count : Nat)

/-- What a command has to say. -/
inductive PoolResult where
  | nothing
  | ticket (answer : Except Error Ticket)
  | queued
  | returned (id : UInt32)
  /-- A use of a connection: the documents received or the error, and whether it is closed now. -/
  | used (id : UInt32) (result : Except Error (List Bytes)) (closed : Bool)
  | reached (idle : Bool)

structure PoolScenario where
  system : PoolSystem
  site : Site
  /-- The number of the connection whose opening is disturbed. -/
  disturbance : Option (UInt32 × Disturbance) := none
  /-- The calls that are queued and not reported yet. -/
  queued : List Nat := []

namespace PoolScenario

/-! ## Opening connections -/

def disturb (s : PoolSystem) : Disturbance → PoolSystem
  | .close => s.close
  | .invalidate => s.invalidate

def opener (b : PoolScenario) : Opener := fun opening s =>
  let s := match b.disturbance with
    | some (id, disturbance) => if id = opening.id then disturb s disturbance else s
    | none => s
  (b.site.connect, s)

def network (b : PoolScenario) : Network := .ofSites fun _ => b.site

/-- The request of a round trip. -/
def request (s : PoolSystem) : Request :=
  match Cursor.of? 42 s.pool.address with
  | some cursor => .getMore "db.coll" 10 cursor
  | none => .killCursors []

/-! ## Commands -/

/-- The connections that are held, in the order of their numbers. -/
def held (b : PoolScenario) : List Lent :=
  b.system.lent.mergeSort fun l m => l.connection.id ≤ m.connection.id

/-- The connection at position `nth`, counted around. -/
def pick? (b : PoolScenario) (nth : Nat) : Option Lent := b.held[nth % b.held.length]?

/-- Does something with a held connection, if there is one. -/
def withHeld (b : PoolScenario) (nth : Nat) (f : Lent → PoolResult × PoolSystem) :
    PoolResult × PoolScenario :=
  match b.pick? nth with
  | some loan =>
    let (result, system) := f loan
    (result, { b with system })
  | none => (.nothing, b)

/-- What came of the use of a held connection. -/
def report (s : PoolSystem) (loan : Lent) (result : Except Error (List Bytes)) : PoolResult :=
  .used loan.connection.id result ((s.loan? loan.borrower).any (·.connection.closed))

/-- A timeout that is not over before the scenario ends. -/
def patience : Duration := .ofSeconds 1000000000

def toRest (b : PoolScenario) : PoolScenario := { b with system := b.system.toRest b.opener }

/-- How long `awaitIdle` lets time pass before it looks again. -/
def glance : Duration := .ofMillis 5

/-- Lets time pass and maintenance run until so many connections are idle, for `fuel` glances. -/
def awaitIdle (count : Nat) : (fuel : Nat) → PoolScenario → Bool × PoolScenario
  | 0, b => (b.system.pool.idle.length == count, b)
  | fuel + 1, b =>
    if b.system.pool.idle.length = count then (true, b)
    else
      awaitIdle count fuel { b with system := b.system.tick glance }.toRest

def perform (b : PoolScenario) : PoolCommand → PoolResult × PoolScenario
  | .get timeout =>
    let timeout := timeout.getD b.system.pool.settings.maxWaitTime
    let (answer, system) := b.system.get timeout b.opener
    (.ticket answer, { b with system })
  | .wait =>
    let name := b.system.calls
    let b := toRest { b with system := (b.system.call patience).establishFor b.opener name }
    match b.system.answer? name with
    | some answer => (.ticket answer, b)
    | none => (.queued, { b with queued := b.queued ++ [name] })
  | .release nth => b.withHeld nth fun loan =>
    (.returned loan.connection.id, b.system.giveBack loan.borrower)
  | .discard nth => b.withHeld nth fun loan =>
    let (_, system) := b.system.use loan.borrower .close
    (.returned loan.connection.id, system.giveBack loan.borrower)
  | .break nth => b.withHeld nth fun loan =>
    let arrivals := b.site.behaviour.deliver loan.connection.link.arrivals
    let (_, system) := b.system.use loan.borrower (.arrive arrivals)
    let (result, system) := system.use loan.borrower (.receive 0)
    (report system loan (result.map fun r => (r.map (·.documents)).getD []), system)
  | .roundtrip nth => b.withHeld nth fun loan =>
    let (outcome, system) := b.system.exchange b.network loan.borrower 5 (request b.system)
    (report system loan (outcome.result.map (·.documents)), system)
  | .invalidate => (.nothing, { b with system := b.system.invalidate })
  | .close => (.nothing, { b with system := b.system.close })
  | .refuse on => (.nothing, { b with site := { b.site with refused := on } })
  | .behave behaviour => (.nothing, { b with site := { b.site with behaviour } })
  | .disturb disturbance =>
    (.nothing, { b with disturbance := some (b.system.pool.lastId + 1, disturbance) })
  | .sleep duration => (.nothing, { b with system := b.system.tick duration })
  | .awaitIdle count =>
    let (reached, b) := awaitIdle count 1000 b
    (.reached reached, b)

/-- A scenario of a new pool, at rest. -/
def start (address : Address) (settings : PoolSettings) (refused : Bool) :
    Except Error PoolScenario :=
  (PoolSystem.create address settings {} .zero).map fun system =>
    toRest { system, site := { refused } }

/-- Performs a command and brings the pool to rest: the result, how queued calls ended meanwhile,
and the scenario. -/
def step (b : PoolScenario) (command : PoolCommand) :
    PoolResult × List (Except Error Ticket) × PoolScenario :=
  let pending := b.queued
  let (result, b) := b.perform command
  let b := b.toRest
  let completed := pending.filterMap b.system.answer?
  let queued := b.queued.filter fun name => (b.system.answer? name).isNone
  (result, completed, { b with queued })

end PoolScenario

end ClusterClient

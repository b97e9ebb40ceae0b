import ClusterClient.Connection.Dial
import ClusterClient.Connection.Usage
import ClusterClient.Pool.Basic

/-!
# Pools in use

A pool together with everyone who is at work on it: callers that are blocked until they are told
to look again, connections that are being opened, lent, or on their way to being shut down, and the
maintenance that keeps the pool filled. Everything that happens is one of the steps below, each of
them indivisible; between two of them anything else may happen.

A step that frees a place or a connection owes a notification, which is a step of its own. It
reaches one blocked caller, or all of them.

    (s.call timeout).calls = s.calls + 1     (calls_call)
-/

namespace ClusterClient

/-- A caller that waits for a connection. -/
structure Caller where
  name : Nat
  timeout : Duration
  deadline : Instant
  /-- Whether it was told to look again and has not done so yet. -/
  notified : Bool := false
deriving DecidableEq

/-- A connection that is being opened in a place that was reserved for it. -/
structure Opening where
  id : UInt32
  generation : Nat
  /-- The number of the place among all that were reserved. -/
  place : Nat
  /-- Who opens it; nobody for maintenance. -/
  caller : Option Nat
  /-- The connection, once it is established. -/
  connection : Option Connection := none
deriving DecidableEq

/-- A connection in the hands of a borrower. -/
structure Lent where
  borrower : Nat
  connection : Connection
  generation : Nat
deriving DecidableEq

inductive Notice where
  | one
  | all
deriving DecidableEq, Repr

/-- What maintenance is doing. -/
inductive Maintenance where
  /-- There is none for these settings, or it has ended. -/
  | off
  /-- It is about to run for the first time. -/
  | starting
  /-- It waits until it is requested or the time has come. -/
  | waiting (due : Instant)
  /-- It has pruned the pool and looks whether there is something to open. -/
  | filling
  /-- It is opening a connection. -/
  | opening
deriving DecidableEq, Repr

/-- The number and the generation of a connection that was lent. -/
structure Ticket where
  id : UInt32
  generation : Nat
deriving DecidableEq, Repr

structure PoolSystem where
  pool : Pool
  dialer : Dialer := {}
  buffers : Recycler := {}
  clock : Instant := .zero
  /-- How many calls for a connection there were. A call is named by the number before it. -/
  calls : Nat := 0
  callers : List Caller := []
  openings : List Opening := []
  lent : List Lent := []
  /-- Connections that left the pool and are not shut down yet. -/
  leaving : List Connection := []
  /-- Connections that left the pool and are shut down. -/
  shut : List Connection := []
  owed : List Notice := []
  maintenance : Maintenance := .off
  /-- How many maintenance runs have ended. -/
  runs : Nat := 0
  /-- How many places were reserved. -/
  reservations : Nat := 0
  /-- How many streams were opened. -/
  streams : Nat := 0
  /-- How the calls ended, the latest first. -/
  answers : List (Nat × Except Error Ticket) := []

namespace PoolSystem

/-! ## Steps of a caller -/

/-- A pool before anything happened. -/
def fresh (address : Address) (settings : PoolSettings) (dialer : Dialer) (clock : Instant) :
    PoolSystem where
  pool := { address, settings }
  dialer := dialer
  clock := clock
  maintenance := if settings.needsMaintenance then .starting else .off

/-- A new pool, if the settings make sense. -/
def create (address : Address) (settings : PoolSettings) (dialer : Dialer) (clock : Instant) :
    Except Error PoolSystem :=
  settings.validate.map fun _ => fresh address settings dialer clock

def conclude (s : PoolSystem) (name : Nat) (answer : Except Error Ticket) : PoolSystem :=
  { s with answers := (name, answer) :: s.answers }

def owe (s : PoolSystem) (notice : Notice) : PoolSystem := { s with owed := s.owed ++ [notice] }

def dismiss (s : PoolSystem) (connections : List Connection) : PoolSystem :=
  { s with leaving := s.leaving ++ connections }

/-- Somebody begins to open a connection in a place that was just reserved. -/
def beginOpening (s : PoolSystem) (id : UInt32) (generation : Nat) (caller : Option Nat) :
    PoolSystem :=
  { s with
    openings := s.openings ++ [{ id, generation, place := s.reservations, caller }]
    reservations := s.reservations + 1 }

/-- One look of a caller, and what it does about the verdict. -/
def look (s : PoolSystem) (caller : Caller) (queued : Bool) : PoolSystem :=
  let l := s.pool.look s.clock caller.deadline queued
  let callers := s.callers.filter (·.name != caller.name)
  let leaving := s.leaving ++ l.discarded.map (·.connection)
  let s : PoolSystem := { s with pool := l.pool, callers, leaving }
  let refuse := fun (e : Error) => s.conclude caller.name (.error e)
  match l.verdict with
  | .closed => refuse (.poolClosed s.pool.address)
  | .reuse i =>
    let lent := s.lent ++ [⟨caller.name, i.connection, i.generation⟩]
    conclude { s with lent } caller.name (.ok ⟨i.connection.id, i.generation⟩)
  | .reserve id generation => s.beginOpening id generation (some caller.name)
  | .exhausted => refuse (.poolExhausted s.pool.address s.pool.settings.maxWaitQueueSize)
  | .timedOut => refuse (.poolWaitTimeout s.pool.address caller.timeout)
  | .wait => { s with callers := s.callers ++ [{ caller with notified := false }] }

/-- Somebody asks for a connection and looks for the first time. -/
def call (s : PoolSystem) (timeout : Duration) : PoolSystem :=
  let deadline : Instant := ⟨s.clock.nanos + timeout.nanos⟩
  look { s with calls := s.calls + 1 } { name := s.calls, timeout, deadline } false

/-- A blocked caller looks again. -/
def recheck (s : PoolSystem) (name : Nat) : PoolSystem :=
  match s.callers.find? (·.name == name) with
  | some caller => s.look caller true
  | none => s

/-! ## Steps of an opening -/

/-- The end of a maintenance run. -/
def rest (s : PoolSystem) : PoolSystem :=
  let due : Instant := ⟨s.clock.nanos + s.pool.settings.maintenanceFrequency.nanos⟩
  { s with maintenance := .waiting due, runs := s.runs + 1 }

/-- What the failure to open a connection means to whoever opened it. -/
def fail (s : PoolSystem) (caller : Option Nat) (cause : Error) : PoolSystem :=
  match caller with
  | some name => s.conclude name (.error cause)
  | none => s.rest

/-- What comes of an attempt to connect. -/
def attempt (s : PoolSystem) (o : Opening) (stream : Except Error Link) : Dialed :=
  (s.dialer.dial s.pool.address o.id s.clock
    (stream.map fun link => { link with serial := s.streams, place := o.place }) s.buffers).1

/-- The attempt to open the connection of one opening comes to its end. -/
def dialed (s : PoolSystem) (index : Nat) (stream : Except Error Link) : PoolSystem :=
  match s.openings[index]? with
  | some { id, generation, place, caller, connection := none } =>
    let stream := stream.map fun link => { link with serial := s.streams, place }
    let streams := s.streams + if stream.isOk then 1 else 0
    let (result, buffers) := s.dialer.dial s.pool.address id s.clock stream s.buffers
    let s : PoolSystem := { s with buffers, streams }
    match result with
    | .established c =>
      let opening : Opening := { id, generation, place, caller, connection := some c }
      { s with openings := s.openings.set index opening }
    | .failed cause shut =>
      let openings := s.openings.eraseIdx index
      let shut := s.shut ++ shut.toList
      let s : PoolSystem := { s with pool := s.pool.vacate, openings, shut }
      (s.owe .one).fail caller cause
  | _ => s

/-- A connection that was just established is lent or put among the idle ones, or given up if the
pool was closed in the meantime. -/
def settle (s : PoolSystem) (index : Nat) : PoolSystem :=
  match s.openings[index]? with
  | some { id, generation, caller, connection := some c, .. } =>
    let s : PoolSystem := { s with openings := s.openings.eraseIdx index }
    if s.pool.closed then
      let s : PoolSystem := { s with pool := s.pool.vacate }
      ((s.dismiss [c]).owe .all).fail caller (.poolClosed s.pool.address)
    else match caller with
      | some name =>
        let lent := s.lent ++ [⟨name, c, generation⟩]
        conclude { s with lent } name (.ok ⟨id, generation⟩)
      | none =>
        owe { s with pool := s.pool.file c generation s.clock, maintenance := .filling } .one
  | _ => s

/-! ## Steps of a borrower -/

def loan? (s : PoolSystem) (borrower : Nat) : Option Lent :=
  s.lent.find? (·.borrower == borrower)

/-- The connection of a borrower after some use of it. -/
def update (s : PoolSystem) (borrower : Nat) (connection : Connection) (buffers : Recycler) :
    PoolSystem :=
  let lent := s.lent.map fun l => if l.borrower == borrower then { l with connection } else l
  { s with lent, buffers }

/-- A borrower uses its connection. -/
def use (s : PoolSystem) (borrower : Nat) (usage : Usage) :
    Except Error (Option Response) × PoolSystem :=
  match s.loan? borrower with
  | some l =>
    let (outcome, connection, buffers) := l.connection.apply s.buffers usage
    (outcome, s.update borrower connection buffers)
  | none => (.ok none, s)

/-- A borrower gives its connection back. -/
def giveBack (s : PoolSystem) (borrower : Nat) : PoolSystem :=
  match s.loan? borrower with
  | some l =>
    let (kept, pool) := s.pool.giveBack l.connection l.generation s.clock
    let s : PoolSystem := { s with pool, lent := s.lent.filter (·.borrower != borrower) }
    (if kept then s else s.dismiss [l.connection]).owe .one
  | none => s

/-! ## Steps of the pool itself -/

def invalidate (s : PoolSystem) : PoolSystem :=
  let (idle, pool) := s.pool.invalidate
  dismiss { s with pool } (idle.map (·.connection))

def close (s : PoolSystem) : PoolSystem :=
  if s.pool.closed then s
  else
    let (idle, pool) := s.pool.close
    (dismiss { s with pool } (idle.map (·.connection))).owe .all

/-- The first connection on its way out is shut down. -/
def shutFirst (s : PoolSystem) : PoolSystem :=
  match s.leaving with
  | c :: rest => { s with leaving := rest, shut := s.shut ++ [c.close] }
  | [] => s

/-- The first notification that is owed is made. Of the callers that were not told yet, it reaches
the one at position `pick` (counted around), or all. -/
def notify (s : PoolSystem) (pick : Nat) : PoolSystem :=
  match s.owed with
  | [] => s
  | notice :: owed =>
    let s := { s with owed }
    match notice with
    | .all => { s with callers := s.callers.map fun c => { c with notified := true } }
    | .one =>
      let blocked := s.callers.filter (!·.notified)
      match blocked[pick % blocked.length]? with
      | some chosen =>
        { s with callers := s.callers.map fun c =>
            if c.name == chosen.name then { c with notified := true } else c }
      | none => s

/-- Whether a maintenance run is due. -/
def maintenanceDue (s : PoolSystem) : Bool :=
  match s.maintenance with
  | .starting => true
  | .waiting due => s.pool.closed || s.pool.maintenanceRequested || due ≤ s.clock
  | _ => false

/-- A maintenance run begins. -/
def beginRun (s : PoolSystem) : PoolSystem :=
  let (stale, pool) := s.pool.prune s.clock
  dismiss { s with pool, maintenance := .filling } (stale.map (·.connection))

/-- A maintenance run begins if one is due. On a closed pool maintenance ends instead. -/
def prune (s : PoolSystem) : PoolSystem :=
  if s.maintenanceDue then
    if s.maintenance ≠ .starting ∧ s.pool.closed then { s with maintenance := .off }
    else s.beginRun
  else s

/-- Maintenance reserves a place for one more connection, or has nothing more to do. -/
def refill (s : PoolSystem) : PoolSystem :=
  match s.maintenance with
  | .filling =>
    if s.pool.isFilled then s.rest
    else
      let pool := s.pool.reserve
      { s with pool, maintenance := .opening }.beginOpening pool.lastId pool.generation none
  | _ => s

/-- Time passes. -/
def tick (s : PoolSystem) (elapsed : Duration) : PoolSystem :=
  { s with clock := ⟨s.clock.nanos + elapsed.nanos⟩ }

/-! ## Events -/

/-- Everything that can happen. -/
inductive Event where
  | call (timeout : Duration)
  | recheck (name : Nat)
  | dialed (index : Nat) (stream : Except Error Link)
  | settle (index : Nat)
  | use (borrower : Nat) (usage : Usage)
  | giveBack (borrower : Nat)
  | invalidate
  | close
  | shutFirst
  | notify (pick : Nat)
  | prune
  | refill
  | tick (elapsed : Duration)

/-- What an event does. An event that makes no sense in the state at hand changes nothing. -/
def step (s : PoolSystem) : Event → PoolSystem
  | .call timeout => s.call timeout
  | .recheck name => s.recheck name
  | .dialed index stream => s.dialed index stream
  | .settle index => s.settle index
  | .use borrower usage => (s.use borrower usage).2
  | .giveBack borrower => s.giveBack borrower
  | .invalidate => s.invalidate
  | .close => s.close
  | .shutFirst => s.shutFirst
  | .notify pick => s.notify pick
  | .prune => s.prune
  | .refill => s.refill
  | .tick elapsed => s.tick elapsed

def run (s : PoolSystem) (events : List Event) : PoolSystem := events.foldl step s

/-! ## Observations -/

/-- All connections that were established and are still known, wherever they are. -/
def connections (s : PoolSystem) : List Connection :=
  s.pool.idle.map (·.connection) ++ s.lent.map (·.connection) ++
    s.openings.filterMap (·.connection) ++ s.leaving ++ s.shut

/-- How often streams of this pool were shut down. -/
def shutdowns (s : PoolSystem) : Nat :=
  s.connections.foldr (fun c n => c.link.shutdowns + n) 0

/-- How a call ended, if it did. -/
def answer? (s : PoolSystem) (name : Nat) : Option (Except Error Ticket) := s.answers.lookup name

/-! ## Lemmas -/

theorem calls_look (s : PoolSystem) (caller : Caller) (queued : Bool) :
    (s.look caller queued).calls = s.calls := by
  simp only [look]
  split <;> rfl

theorem calls_call (s : PoolSystem) (timeout : Duration) : (s.call timeout).calls = s.calls + 1 :=
  calls_look ..

theorem run_append (s : PoolSystem) (before after : List Event) :
    s.run (before ++ after) = (s.run before).run after :=
  List.foldl_append

end PoolSystem

end ClusterClient

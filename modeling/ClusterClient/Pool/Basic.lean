import ClusterClient.Connection.Basic

/-!
# Connection pools

A bounded set of connections to one server: the state that its lock protects, and what each holder
of the lock does to it. The idle connections form a stack, the one that came back last on top.
`total` counts the connections that are idle, lent or being opened.

    p.closed → (p.look now deadline queued).verdict = closed     (verdict_look_of_closed)
    p.invalidate raises the generation by one                    (generation_invalidate)
-/

namespace ClusterClient

/-- A connection that waits in its pool to be used again. -/
structure Idle where
  connection : Connection
  generation : Nat
  lastUsed : Instant
deriving DecidableEq

structure Pool where
  address : Address
  settings : PoolSettings := {}
  idle : List Idle := []
  total : Nat := 0
  /-- How many callers are queued. -/
  waiters : Nat := 0
  /-- The number of the connection that was opened last. -/
  lastId : UInt32 := 0
  /-- Connections of earlier generations are not to be used again. -/
  generation : Nat := 0
  closed : Bool := false
  maintenanceRequested : Bool := false
deriving DecidableEq

/-- What a caller finds when it looks for a connection. -/
inductive Verdict where
  | closed
  | reuse (idle : Idle)
  /-- There is room: the caller opens the connection of this number itself. -/
  | reserve (id : UInt32) (generation : Nat)
  | exhausted
  | timedOut
  | wait
deriving DecidableEq

structure Look where
  verdict : Verdict
  /-- The stale connections that were found on the way. -/
  discarded : List Idle
  pool : Pool

/-- Whether a limit has passed; a limit of zero never does. -/
def expired (limit : Duration) (since now : Instant) : Bool :=
  limit != .zero && limit.nanos < now.nanos - since.nanos

namespace Pool

/-! ## Algorithm -/

/-- Idle connections that were closed, belong to an earlier generation or are past one of their
limits are never used again. -/
def isStale (p : Pool) (now : Instant) (i : Idle) : Bool :=
  i.connection.closed || i.generation != p.generation ||
    expired p.settings.maxIdleTime i.lastUsed now ||
    expired p.settings.maxLifeTime i.connection.openedAt now

def checkedOut (p : Pool) : Nat := p.total - p.idle.length

/-- Requests maintenance if there are fewer connections than there should be. -/
def requestRefill (p : Pool) : Pool :=
  if p.total < p.settings.minSize then { p with maintenanceRequested := true } else p

/-- Takes the next number and a place for a connection. -/
def reserve (p : Pool) : Pool := { p with total := p.total + 1, lastId := p.lastId + 1 }

/-- Gives up the place of a connection that is not there any more. -/
def vacate (p : Pool) : Pool := { p with total := p.total - 1 }

/-- A caller that was queued leaves the queue. -/
def leaveQueue (p : Pool) (queued : Bool) : Pool :=
  if queued then { p with waiters := p.waiters - 1 } else p

/-- One look of a caller under the lock. The caller is `queued` if an earlier look told it to wait.
Stale connections on top of the stack are removed on the way. -/
def look (p : Pool) (now deadline : Instant) (queued : Bool) : Look :=
  if p.closed then ⟨.closed, [], p.leaveQueue queued⟩
  else
    let stale := p.idle.takeWhile (p.isStale now)
    let usable := p.idle.dropWhile (p.isStale now)
    let p := { p with idle := usable.tail, total := p.total - stale.length }
    let noted := fun (p : Pool) =>
      if stale.isEmpty then p.leaveQueue queued else (p.leaveQueue queued).requestRefill
    match usable with
    | i :: _ => ⟨.reuse i, stale, noted p⟩
    | [] =>
      if p.total < p.settings.maxSize then
        let p := p.reserve
        ⟨.reserve p.lastId p.generation, stale, noted p⟩
      else if !queued && p.settings.maxWaitQueueSize ≤ p.waiters then ⟨.exhausted, stale, noted p⟩
      else if deadline ≤ now then ⟨.timedOut, stale, noted p⟩
      else if queued then ⟨.wait, stale, p⟩
      else ⟨.wait, stale, { p with waiters := p.waiters + 1 }⟩

/-- Takes a connection back from its borrower. It is kept unless the answer is `false`; then it is
to be shut down. -/
def giveBack (p : Pool) (c : Connection) (generation : Nat) (now : Instant) : Bool × Pool :=
  if p.closed then (false, p.vacate)
  else if c.closed || generation != p.generation ||
      expired p.settings.maxLifeTime c.openedAt now then
    (false, p.vacate.requestRefill)
  else (true, { p with idle := ⟨c, generation, now⟩ :: p.idle })

/-- Removes the idle connections and makes all others stale. -/
def invalidate (p : Pool) : List Idle × Pool :=
  (p.idle,
   { p with generation := p.generation + 1, idle := [],
            total := p.total - p.idle.length }.requestRefill)

/-- Removes the idle connections and refuses all checkouts from now on. -/
def close (p : Pool) : List Idle × Pool :=
  if p.closed then ([], p)
  else (p.idle, { p with closed := true, idle := [], total := p.total - p.idle.length })

/-- The start of a maintenance run: removes the stale idle connections, wherever they are. -/
def prune (p : Pool) (now : Instant) : List Idle × Pool :=
  let stale := p.idle.filter (p.isStale now)
  (stale,
   { p with idle := p.idle.filter fun i => !p.isStale now i, total := p.total - stale.length,
            maintenanceRequested := false })

/-- Whether a maintenance run has nothing more to open. -/
def isFilled (p : Pool) : Bool := p.closed || p.settings.minSize ≤ p.total

/-- Puts a connection that maintenance opened among the idle ones. -/
def file (p : Pool) (c : Connection) (generation : Nat) (now : Instant) : Pool :=
  { p with idle := ⟨c, generation, now⟩ :: p.idle }

/-! ## Lemmas -/

theorem verdict_look_of_closed {p : Pool} (h : p.closed = true) (now deadline : Instant)
    (queued : Bool) : (p.look now deadline queued).verdict = .closed := by
  simp [look, h]

theorem generation_requestRefill (p : Pool) : p.requestRefill.generation = p.generation := by
  unfold requestRefill
  split <;> rfl

theorem generation_invalidate (p : Pool) : p.invalidate.2.generation = p.generation + 1 :=
  generation_requestRefill _

end Pool

end ClusterClient

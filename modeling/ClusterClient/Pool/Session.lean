import ClusterClient.Connection.Network
import ClusterClient.Pool.System

/-!
# Uninterrupted use of a pool

Sequences of the steps of a pool in which nobody else takes part: a call from its first look to its
end, a whole maintenance run, and everything that is left to do until the pool is at rest.

Opening a stream is the one thing that takes place outside the pool. An `Opener` says how it ends
and what else happened to the pool in the meantime.
-/

namespace ClusterClient

abbrev Opener := Opening → PoolSystem → Except Error Link × PoolSystem

/-- The network opens the streams, and nothing else happens. -/
def Network.opener (n : Network) : Opener := fun _ s => (n.connect s.pool.address, s)

/-- How long each attempt to open a stream takes, and what comes of it. -/
abbrev Attempts := Nat → Duration × Except Error Link

/-- The attempts are made one after another, from the given place on, and nothing else happens. -/
def Attempts.opener (attempts : Attempts) (first : Nat) : Opener := fun o s =>
  ((attempts (o.place - first)).2, s.tick (attempts (o.place - first)).1)

namespace PoolSystem

/-! ## Calls -/

/-- Brings one opening to its end. -/
def establish (s : PoolSystem) (opener : Opener) (index : Nat) : PoolSystem :=
  match s.openings[index]? with
  | some opening =>
    let (stream, s) := opener opening s
    (s.dialed index stream).settle index
  | none => s

/-- Brings the opening of one caller to its end, if it has one. -/
def establishFor (s : PoolSystem) (opener : Opener) (name : Nat) : PoolSystem :=
  match s.openings.findIdx? (·.caller == some name) with
  | some index => s.establish opener index
  | none => s

def isBlocked (s : PoolSystem) (name : Nat) : Bool := s.callers.any (·.name == name)

/-- Shuts down what is on its way out. -/
def shutAll (s : PoolSystem) : PoolSystem :=
  s.leaving.foldl (fun s _ => s.shutFirst) s

/-- Makes all notifications that are owed. -/
def notifyAll (s : PoolSystem) : PoolSystem :=
  s.owed.foldl (fun s _ => s.notify 0) s

/-- Asks for a connection, waits for it until the time is over, and opens it if there is room. -/
def get (s : PoolSystem) (timeout : Duration) (opener : Opener) :
    Except Error Ticket × PoolSystem :=
  let name := s.calls
  let s := (s.call timeout).establishFor opener name
  let s := if s.isBlocked name then
      ((s.tick timeout).recheck name).establishFor opener name
    else s
  let s := s.shutAll.notifyAll
  ((s.answer? name).getD (.error (.poolClosed s.pool.address)), s)

/-- A borrower sends a request and receives the response to it. -/
def exchange (s : PoolSystem) (n : Network) (borrower : Nat) (requestId : Int32)
    (request : Request) : Exchange × PoolSystem :=
  match s.loan? borrower with
  | some l =>
    let (outcome, connection, buffers) := l.connection.converse s.buffers n requestId request
    (outcome, s.update borrower connection buffers)
  | none => (⟨.error (.connectionClosed s.pool.address), none⟩, s)

/-! ## Maintenance -/

/-- Opens connections, one after another, until there is nothing more to open or one attempt fails.
The error of that attempt is the result. -/
def fill (opener : Opener) : (fuel : Nat) → PoolSystem → Except Error Unit × PoolSystem
  | 0, s => (.ok (), s)
  | fuel + 1, s =>
    let index := s.openings.length
    let s := s.refill
    match s.openings[index]? with
    | some opening =>
      let (stream, s) := opener opening s
      let ended := (s.dialed index stream).settle index
      match s.attempt opening stream with
      | .established _ => fill opener fuel ended
      | .failed cause _ => (.error cause, ended)
    | none => (.ok (), s)

/-- A whole maintenance run. -/
def maintain (s : PoolSystem) (opener : Opener) : Except Error Unit × PoolSystem :=
  let (result, s) := fill opener (s.pool.settings.minSize + 1) s.beginRun
  (result, s.shutAll.notifyAll)

/-! ## Rest -/

/-- The next thing to do that does not depend on anybody else. -/
def advance? (s : PoolSystem) (opener : Opener) : Option PoolSystem :=
  if !s.leaving.isEmpty then some s.shutFirst
  else if !s.owed.isEmpty then some (s.notify 0)
  else match s.callers.find? (·.notified) with
    | some caller => some (s.recheck caller.name)
    | none =>
      if !s.openings.isEmpty then some (s.establish opener 0)
      else if s.maintenanceDue then some s.prune
      else match s.maintenance with
        | .filling => some s.refill
        | _ => none

/-- Goes on until there is nothing to do or the fuel is used up. -/
def advance (opener : Opener) : (fuel : Nat) → PoolSystem → PoolSystem
  | 0, s => s
  | fuel + 1, s =>
    match s.advance? opener with
    | some s => advance opener fuel s
    | none => s

/-- More steps than it takes until nothing is left to do: each caller and each place may be
notified about, looked for, opened and given up a few times. -/
def ample (s : PoolSystem) : Nat :=
  64 * (s.callers.length + s.openings.length + s.leaving.length + s.owed.length + s.pool.total +
    s.pool.settings.minSize + 1)

/-- Brings the pool to rest. -/
def toRest (s : PoolSystem) (opener : Opener) : PoolSystem := advance opener s.ample s

end PoolSystem

end ClusterClient

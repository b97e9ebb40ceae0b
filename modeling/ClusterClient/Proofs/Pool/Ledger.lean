import ClusterClient.Pool.System
import ClusterClient.Proofs.Connection.Identity
import ClusterClient.Proofs.Pool.Operations
import Mathlib.Logic.Relation

/-!
# The ledger of a pool

Of everything that a pool in use consists of, the ledger keeps what says who has which connection:
the idle connections, the loans, the openings, the connections on their way out, and the numbers
that count them. Requests for maintenance, notifications and answers are left out.

A move takes one connection, or one caller, from one place to another. An invariant of the ledger
needs a proof for each kind of move only.
-/

namespace ClusterClient

structure Ledger where
  settings : PoolSettings
  clock : Instant
  closed : Bool
  generation : Nat
  total : Nat
  idle : List Idle
  lent : List Lent
  openings : List Opening
  leaving : List Connection
  shut : List Connection
  calls : Nat
  /-- The callers that wait for a connection. -/
  blocked : List Nat
  reservations : Nat
  streams : Nat

def PoolSystem.ledger (s : PoolSystem) : Ledger where
  settings := s.pool.settings
  clock := s.clock
  closed := s.pool.closed
  generation := s.pool.generation
  total := s.pool.total
  idle := s.pool.idle
  lent := s.lent
  openings := s.openings
  leaving := s.leaving
  shut := s.shut
  calls := s.calls
  blocked := s.callers.map (·.name)
  reservations := s.reservations
  streams := s.streams

namespace Ledger

def setConnection (borrower : Nat) (c : Connection) (l : Lent) : Lent :=
  if l.borrower == borrower then { l with connection := c } else l

inductive Move (b : Ledger) : Ledger → Prop where
  | tick (clock : Instant) : Move b { b with clock }
  /-- Somebody asks for a connection. -/
  | enter : Move b { b with calls := b.calls + 1, blocked := b.blocked ++ [b.calls] }
  /-- A caller gives up. -/
  | leave (name : Nat) : Move b { b with blocked := b.blocked.filter (· != name) }
  /-- A caller goes on waiting. -/
  | wait {name : Nat} (known : name ∈ b.blocked) :
      Move b { b with blocked := b.blocked.filter (· != name) ++ [name] }
  | reuse {name : Nat} {i : Idle} {rest : List Idle} (known : name ∈ b.blocked)
      (top : b.idle = i :: rest) (isOpen : b.closed = false)
      (current : i.generation = b.generation) :
      Move b { b with
        idle := rest, blocked := b.blocked.filter (· != name)
        lent := b.lent ++ [⟨name, i.connection, i.generation⟩] }
  /-- A caller takes the place for a connection that it opens itself. -/
  | reserve {name : Nat} (id : UInt32) (known : name ∈ b.blocked) (isOpen : b.closed = false)
      (room : b.total < b.settings.maxSize) :
      Move b { b with
        total := b.total + 1, reservations := b.reservations + 1
        blocked := b.blocked.filter (· != name)
        openings := b.openings ++
          [⟨id, b.generation, b.reservations, some name, none⟩] }
  /-- Maintenance takes the place for a connection. -/
  | refill (id : UInt32) (isOpen : b.closed = false) (low : b.total < b.settings.minSize) :
      Move b { b with
        total := b.total + 1, reservations := b.reservations + 1
        openings := b.openings ++ [⟨id, b.generation, b.reservations, none, none⟩] }
  /-- Idle connections are given up. -/
  | remove {gone kept : List Idle} (split : b.idle.Perm (gone ++ kept)) :
      Move b { b with
        idle := kept, total := b.total - gone.length
        leaving := b.leaving ++ gone.map (·.connection) }
  | invalidate (empty : b.idle = []) : Move b { b with generation := b.generation + 1 }
  | close (empty : b.idle = []) : Move b { b with closed := true }
  /-- A connection is established. -/
  | establish {before after : List Opening} {o : Opening} {c : Connection}
      (found : b.openings = before ++ o :: after) (under : o.connection = none)
      (serial : c.link.serial = b.streams) (place : c.link.place = o.place) :
      Move b { b with
        streams := b.streams + 1
        openings := before ++ { o with connection := some c } :: after }
  /-- A connection could not be established; there was no stream. -/
  | fail {before after : List Opening} {o : Opening}
      (found : b.openings = before ++ o :: after) (under : o.connection = none) :
      Move b { b with total := b.total - 1, openings := before ++ after }
  /-- A connection could not be established; its stream is shut down. -/
  | reject {before after : List Opening} {o : Opening} {c : Connection}
      (found : b.openings = before ++ o :: after) (under : o.connection = none)
      (serial : c.link.serial = b.streams) (place : c.link.place = o.place)
      (isShut : c.closed = true) :
      Move b { b with
        total := b.total - 1, streams := b.streams + 1, openings := before ++ after
        shut := b.shut ++ [c] }
  /-- A connection is lent to the caller that opened it. -/
  | lend {before after : List Opening} {o : Opening} {c : Connection} {name : Nat}
      (found : b.openings = before ++ o :: after) (done : o.connection = some c)
      (caller : o.caller = some name) (isOpen : b.closed = false) :
      Move b { b with
        openings := before ++ after, lent := b.lent ++ [⟨name, c, o.generation⟩] }
  /-- A connection that maintenance opened becomes idle. -/
  | file {before after : List Opening} {o : Opening} {c : Connection}
      (found : b.openings = before ++ o :: after) (done : o.connection = some c)
      (caller : o.caller = none) (isOpen : b.closed = false) :
      Move b { b with
        openings := before ++ after, idle := ⟨c, o.generation, b.clock⟩ :: b.idle }
  /-- A connection is given up because the pool was closed while it was opened. -/
  | abandon {before after : List Opening} {o : Opening} {c : Connection}
      (found : b.openings = before ++ o :: after) (done : o.connection = some c)
      (isClosed : b.closed = true) :
      Move b { b with
        total := b.total - 1, openings := before ++ after, leaving := b.leaving ++ [c] }
  | use {l : Lent} {c : Connection} (held : l ∈ b.lent) (follows : l.connection.Follows c) :
      Move b { b with lent := b.lent.map (setConnection l.borrower c) }
  /-- A connection comes back and becomes idle. -/
  | takeBack {l : Lent} (held : l ∈ b.lent) (isOpen : b.closed = false)
      (sound : l.connection.closed = false) (current : l.generation = b.generation) :
      Move b { b with
        lent := b.lent.filter (·.borrower != l.borrower)
        idle := ⟨l.connection, l.generation, b.clock⟩ :: b.idle }
  /-- A connection comes back and is given up. -/
  | discard {l : Lent} (held : l ∈ b.lent) :
      Move b { b with
        total := b.total - 1, lent := b.lent.filter (·.borrower != l.borrower)
        leaving := b.leaving ++ [l.connection] }
  | shutFirst {c : Connection} {rest : List Connection} (first : b.leaving = c :: rest) :
      Move b { b with leaving := rest, shut := b.shut ++ [c.close] }

abbrev Moves : Ledger → Ledger → Prop := Relation.ReflTransGen Move

end Ledger

end ClusterClient

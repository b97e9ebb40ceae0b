import ClusterClient.Proofs.Pool.Queue
import ClusterClient.Proofs.Pool.Returns
import ClusterClient.Proofs.Pool.Upkeep

/-!
# Where a call can be

A call may take many steps: its first look, the looks after it was woken, the attempt to open a
connection, and the end of that. If nobody else does anything in the meantime, it is in one of four
phases, each of which says what is different from the state in which it began. It waits only at a
full pool, and then the number of callers is all that it has changed. It opens a connection only
after it has removed all that was idle and stale, and has one place more than before. When it has
failed, neither of these is left.

    only stale connections are gone → what can be lent is the same from then on      (lendable_eq)
-/

namespace ClusterClient

/-! ## Attempts that fail -/

namespace Dialer

/-- An attempt to connect over this stream may fail for this reason. -/
def Fails (d : Dialer) (address : Address) (stream : Except Error Link) (cause : Error) : Prop :=
  ∃ id now serial place buffers shut, (d.dial address id now
    (stream.map fun link => { link with serial, place }) buffers).1 = .failed cause shut

/-- It fails because there is no stream, or because the connection cannot prove itself on it. -/
theorem Fails.source {d : Dialer} {address : Address} {stream : Except Error Link} {cause : Error}
    (h : d.Fails address stream cause) :
    stream = .error cause ∨
      ∃ link user text, stream = .ok link ∧ cause = .authentication user text := by
  obtain ⟨id, now, serial, place, buffers, shut, failed⟩ := h
  cases stream with
  | error e =>
    cases failed
    exact .inl rfl
  | ok link =>
    obtain ⟨user, text, rfl⟩ := exists_authentication_of_failed failed
    exact .inr ⟨link, user, text, rfl, rfl⟩

end Dialer

/-! ## Idle connections over time -/

namespace Pool

/-- The idle connections that may be lent at the time `now`. -/
def lendable (p : Pool) (now : Instant) : List Idle := p.idle.filter fun i => !p.isStale now i

theorem Usable.of_le {p : Pool} {now later : Instant} {i : Idle} (h : p.Usable later i)
    (le : now ≤ later) : p.Usable now i where
  isOpen := h.isOpen
  current := h.current
  rested limited := Nat.le_trans le (h.rested limited)
  young limited := Nat.le_trans le (h.young limited)

theorem Full.emptied_eq {p : Pool} (h : p.Full) :
    { p with idle := [], total := p.total - p.idle.length } = p := by
  obtain ⟨address, settings, idle, total, waiters, lastId, generation, closed, requested⟩ := p
  obtain rfl : idle = [] := h.idle_eq
  rfl

end Pool

namespace PoolSystem

section

variable {s t u : PoolSystem} {timeout : Duration} {own more : List Event} {gone : List Idle}
  {e : Event} {cause : Error} {name : Nat} {o : Opening}

/-! ## The events of a call -/

/-- The event is a step of the call `name`, or it is about nobody in particular. -/
def Own (s : PoolSystem) (name : Nat) : Event → Prop
  | .recheck other => other = name
  | .dialed index _ | .settle index => ∀ o, s.openings[index]? = some o → o.caller = some name
  | .shutFirst | .notify _ | .tick _ => True
  | _ => False

/-- Nobody but the call `name` takes part in the events. -/
def Alone (s : PoolSystem) (name : Nat) (events : List Event) : Prop :=
  ∀ earlier e later, events = earlier ++ e :: later → (s.run earlier).Own name e

theorem Alone.init (h : s.Alone name (own ++ [e])) : s.Alone name own := by
  rintro earlier e' later rfl
  exact h earlier e' (later ++ [e]) (by simp)

theorem Alone.last (h : s.Alone name (own ++ [e])) : (s.run own).Own name e :=
  h own e [] rfl

theorem alone_nil (s : PoolSystem) (name : Nat) : s.Alone name [] := by
  intro earlier e later none
  simp at none

theorem Alone.concat (h : s.Alone name own) (mine : (s.run own).Own name e) :
    s.Alone name (own ++ [e]) := by
  intro earlier e' later split
  rcases List.eq_nil_or_concat' later with rfl | ⟨later, x, rfl⟩
  · obtain ⟨rfl, same⟩ := List.append_inj' split rfl
    cases same
    exact mine
  · rw [← List.cons_append, ← List.append_assoc] at split
    obtain ⟨rfl, -⟩ := List.append_inj' split rfl
    exact h earlier e' later rfl

/-! ## What is left as it was -/

/-- The connections that left the pool, as they are once they are shut down. -/
def departed (s : PoolSystem) : List Connection := s.shut ++ s.leaving.map (·.close)

/-- Nothing was handed out, and nothing has left the pool. -/
structure Untouched (s t : PoolSystem) : Prop where
  dialer_eq : t.dialer = s.dialer
  lent_eq : t.lent = s.lent
  openings_eq : t.openings = s.openings
  departed_eq : t.departed = s.departed

theorem Untouched.trans (h : Untouched s t) (h' : Untouched t u) : Untouched s u where
  dialer_eq := h'.dialer_eq.trans h.dialer_eq
  lent_eq := h'.lent_eq.trans h.lent_eq
  openings_eq := h'.openings_eq.trans h.openings_eq
  departed_eq := h'.departed_eq.trans h.departed_eq

/-- Time has passed, somebody was notified, or something that was on its way out was shut down. -/
structure Rests (s t : PoolSystem) : Prop extends Untouched s t where
  pool_eq : t.pool = s.pool
  answers_eq : t.answers = s.answers
  callers_eq : t.callers.map hushed = s.callers.map hushed

theorem Rests.refl (s : PoolSystem) : Rests s s := ⟨⟨rfl, rfl, rfl, rfl⟩, rfl, rfl, rfl⟩

theorem rests_shutFirst (s : PoolSystem) : Rests s (s.step .shutFirst) := by
  rw [step, shutFirst]
  split
  · next c rest first =>
    refine ⟨⟨rfl, rfl, rfl, ?_⟩, rfl, rfl, rfl⟩
    simp [departed, first]
  · exact .refl s

theorem rests_notify (s : PoolSystem) (pick : Nat) : Rests s (s.step (.notify pick)) := by
  have stepped := s.stepped_notify pick
  rw [step]
  generalize s.notify pick = t at stepped
  cases stepped with
  | nothing => exact .refl s
  | notified _ same => exact ⟨⟨rfl, rfl, rfl, rfl⟩, rfl, rfl, same⟩

theorem rests_tick (s : PoolSystem) (elapsed : Duration) : Rests s (s.step (.tick elapsed)) :=
  ⟨⟨rfl, rfl, rfl, rfl⟩, rfl, rfl, rfl⟩

/-- Stale connections on top of the stack are `gone`, and that is all. -/
structure Sheds (s : PoolSystem) (gone : List Idle) (t : PoolSystem) : Prop where
  address_eq : t.pool.address = s.pool.address
  settings_eq : t.pool.settings = s.pool.settings
  dialer_eq : t.dialer = s.dialer
  closed_eq : t.pool.closed = s.pool.closed
  generation_eq : t.pool.generation = s.pool.generation
  waiters_eq : t.pool.waiters = s.pool.waiters
  lent_eq : t.lent = s.lent
  idle_eq : s.pool.idle = gone ++ t.pool.idle
  unusable : ∀ i ∈ gone, ¬s.pool.Usable s.clock i

theorem Sheds.of_pool_eq {idle : List Idle} {total : Nat} {lastId : UInt32} {requested : Bool}
    (pool_eq : t.pool = { s.pool with idle, total, lastId, maintenanceRequested := requested })
    (dialer_eq : t.dialer = s.dialer) (lent_eq : t.lent = s.lent)
    (idle_eq : s.pool.idle = gone ++ idle) (unusable : ∀ i ∈ gone, ¬s.pool.Usable s.clock i) :
    Sheds s gone t := by
  refine ⟨?_, ?_, dialer_eq, ?_, ?_, ?_, lent_eq, ?_, unusable⟩
  all_goals rw [pool_eq]
  exact idle_eq

/-- The number of places and the request for maintenance do not matter. -/
theorem Sheds.of_eq (h : Sheds s gone t) {total : Nat} {requested : Bool}
    (pool_eq : u.pool = { t.pool with total, maintenanceRequested := requested })
    (dialer_eq : u.dialer = t.dialer) (lent_eq : u.lent = t.lent) : Sheds s gone u := by
  refine ⟨?_, ?_, dialer_eq.trans h.dialer_eq, ?_, ?_, ?_, lent_eq.trans h.lent_eq, ?_, h.unusable⟩
  all_goals rw [pool_eq]
  · exact h.address_eq
  · exact h.settings_eq
  · exact h.closed_eq
  · exact h.generation_eq
  · exact h.waiters_eq
  · exact h.idle_eq

/-- What was usable still is, and nothing else is, at any time from then on. -/
theorem Sheds.lendable_eq (h : Sheds s gone t) {now : Instant} (le : s.clock ≤ now) :
    t.pool.lendable now = s.pool.lendable now := by
  have isStale_eq : t.pool.isStale now = s.pool.isStale now := by
    funext i
    simp only [Pool.isStale, h.generation_eq, h.settings_eq]
  have none : (gone.filter fun i => !s.pool.isStale now i) = [] := by
    rw [List.filter_eq_nil_iff]
    intro i hi usable
    rw [Bool.not_eq_true', Pool.isStale_eq_false_iff] at usable
    exact h.unusable i hi (usable.of_le le)
  rw [Pool.lendable, Pool.lendable, isStale_eq, h.idle_eq, List.filter_append, none,
    List.nil_append]

/-! ## Where a call is -/

/-- Why a call that nobody has interfered with has failed, after it removed the connections that
are `gone`. -/
inductive Blame (s : PoolSystem) (timeout : Duration) (own : List Event) :
    List Idle → Error → Prop where
  | closed (isClosed : s.pool.closed = true) : Blame s timeout own [] (.poolClosed s.pool.address)
  | exhausted (full : s.pool.Full) (crowded : s.pool.waiters = s.pool.settings.maxWaitQueueSize) :
      Blame s timeout own []
        (.poolExhausted s.pool.address s.pool.settings.maxWaitQueueSize)
  | timedOut (full : s.pool.Full) :
      Blame s timeout own [] (.poolWaitTimeout s.pool.address timeout)
  | unconnected {gone : List Idle} {cause : Error} {index : Nat} {stream : Except Error Link}
      (dialed : .dialed index stream ∈ own) (fails : s.dialer.Fails s.pool.address stream cause) :
      Blame s timeout own gone cause

/-- The call has failed, and all that is left of it is that stale connections are gone. -/
structure Undone (s : PoolSystem) (timeout : Duration) (own : List Event) (gone : List Idle)
    (e : Error) (t : PoolSystem) : Prop extends Sheds s gone t where
  openings_eq : t.openings = s.openings
  total_eq : t.pool.total + gone.length = s.pool.total
  /-- They are shut down, as is a connection that could not prove itself. -/
  departed_perm : ∃ rejected : Option Connection, t.departed.Perm
    (s.departed ++ gone.map (·.connection.close) ++ rejected.toList)
  blame : Blame s timeout own gone e

/-- The call waits at a full pool, and has changed nothing but the number of those that do. -/
structure Waits (s : PoolSystem) (timeout : Duration) (t : PoolSystem) : Prop
    extends Untouched s t where
  full : s.pool.Full
  pool_eq : t.pool = { s.pool with waiters := s.pool.waiters + 1 }
  queued : s.calls ∈ t.queue
  asked : ∀ k ∈ t.callers, k.name = s.calls → k.timeout = timeout

/-- The call opens a connection in a place of its own. -/
structure Opens (s : PoolSystem) (gone : List Idle) (o : Opening) (t : PoolSystem) : Prop
    extends Sheds s gone t where
  isOpen : s.pool.closed = false
  total_eq : t.pool.total + gone.length = s.pool.total + 1
  openings_eq : t.openings = s.openings ++ [o]
  caller : o.caller = some s.calls
  departed_eq : t.departed = s.departed ++ gone.map (·.connection.close)

/-- Where a call is that began in the state `s` and was alone since. -/
inductive Phase (s : PoolSystem) (timeout : Duration) (own : List Event) (t : PoolSystem) :
    Prop where
  | waiting (waits : Waits s timeout t)
  | opening {gone : List Idle} {o : Opening} (opens : Opens s gone o t)
  | failed {gone : List Idle} {cause : Error} (undone : Undone s timeout own gone cause t)
      (answer : (s.calls, .error cause) ∈ t.answers)
  | served {ticket : Ticket} (answer : (s.calls, .ok ticket) ∈ t.answers)

/-! ## Where it can go -/

/-- What was dialed stays dialed. -/
theorem Blame.mono (h : Blame s timeout own gone cause) (sub : own ⊆ more) :
    Blame s timeout more gone cause := by
  cases h with
  | closed isClosed => exact .closed isClosed
  | exhausted full crowded => exact .exhausted full crowded
  | timedOut full => exact .timedOut full
  | unconnected dialed fails => exact .unconnected (sub dialed) fails

theorem Undone.mono (h : Undone s timeout own gone cause t) (sub : own ⊆ more) :
    Undone s timeout more gone cause t :=
  { h with blame := h.blame.mono sub }

theorem Phase.mono (h : Phase s timeout own t) (sub : own ⊆ more) : Phase s timeout more t := by
  cases h with
  | waiting waits => exact .waiting waits
  | opening opens => exact .opening opens
  | failed undone answer => exact .failed (undone.mono sub) answer
  | served answer => exact .served answer

theorem Waits.of_rests (h : Waits s timeout t) (rests : Rests t u) : Waits s timeout u where
  toUntouched := h.toUntouched.trans rests.toUntouched
  full := h.full
  pool_eq := rests.pool_eq.trans h.pool_eq
  queued := queue_eq_of_hushed rests.callers_eq ▸ h.queued
  asked k hk named := by
    have hk := List.mem_map_of_mem (f := hushed) hk
    rw [rests.callers_eq] at hk
    obtain ⟨k', hk', same⟩ := List.mem_map.1 hk
    simp only [hushed, Caller.mk.injEq] at same
    exact same.2.1 ▸ h.asked k' hk' (same.1.trans named)

theorem Phase.of_rests (h : Phase s timeout own t) (rests : Rests t u) : Phase s timeout own u := by
  have pool_eq : u.pool = { t.pool with } := rests.pool_eq
  cases h with
  | waiting waits => exact .waiting (waits.of_rests rests)
  | opening opens =>
    have sheds := opens.toSheds.of_eq pool_eq rests.dialer_eq rests.lent_eq
    refine .opening ⟨sheds, opens.isOpen, ?_, rests.openings_eq.trans opens.openings_eq,
      opens.caller, rests.departed_eq.trans opens.departed_eq⟩
    rw [rests.pool_eq, opens.total_eq]
  | failed undone answer =>
    have sheds := undone.toSheds.of_eq pool_eq rests.dialer_eq rests.lent_eq
    refine .failed ⟨sheds, rests.openings_eq.trans undone.openings_eq, ?_,
      rests.departed_eq ▸ undone.departed_perm, undone.blame⟩ (rests.answers_eq ▸ answer)
    rw [rests.pool_eq, undone.total_eq]
  | served answer => exact .served (rests.answers_eq ▸ answer)

end

end PoolSystem

end ClusterClient

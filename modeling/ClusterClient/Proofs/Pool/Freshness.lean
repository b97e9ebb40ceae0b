import ClusterClient.Proofs.Pool.Answers
import ClusterClient.Proofs.Pool.Barrier
import ClusterClient.Proofs.Pool.Verdicts

/-!
# Freshness

Idle connections form a stack with the one that was used last on top. Whatever comes is put on top
at its time, and whatever goes leaves the others in their order, so the stack is ordered by time. A
caller takes the topmost connection that is still usable. All above it are unusable and leave the
pool for good, and nothing below it is looked at.

    s.pool.idle is ordered by the times of last use, none of them to come        (ordered_run)
    a call that is answered with a connection at once → s.Reuses …        (reuses_of_gives)
    a call that opens a connection or waits → nothing that is idle is usable
                                                                   (unusable_of_not_reused)
-/

namespace ClusterClient

namespace PoolSystem

section

variable {s t : PoolSystem} {e : Event} {k : Caller} {queued : Bool}

/-! ## The order of the stack -/

/-- What a step does to the stack: some connections may go, or one may come that was used now. -/
structure Restacks (s t : PoolSystem) : Prop where
  clock_le : s.clock ≤ t.clock
  idle : t.pool.idle.Sublist s.pool.idle ∨
    ∃ c generation, t.pool.idle = ⟨c, generation, s.clock⟩ :: s.pool.idle

theorem Restacks.of_sublist (clock : t.clock = s.clock)
    (idle : t.pool.idle.Sublist s.pool.idle) : Restacks s t :=
  ⟨clock ▸ Nat.le_refl _, .inl idle⟩

theorem Restacks.fail (h : Restacks s t) (caller : Option Nat) (cause : Error) :
    Restacks s (t.fail caller cause) := by
  cases caller <;> exact ⟨h.clock_le, h.idle⟩

theorem restacks_look (s : PoolSystem) (k : Caller) (queued : Bool) :
    Restacks s (s.look k queued) := by
  have found := s.pool.found_look s.clock k.deadline queued
  refine .of_sublist (congrArg Ledger.clock (s.ledger_look k queued rfl)) ?_
  rw [pool_look, found.idle_eq, ← List.append_assoc]
  exact List.sublist_append_right _ _

theorem restacks_step (s : PoolSystem) (e : Event) : Restacks s (s.step e) := by
  have stepped := s.stepped_step e
  generalize s.step e = t at stepped
  cases stepped with
  | called timeout =>
    have restacks := restacks_look { s with calls := s.calls + 1 }
      { name := s.calls, timeout, deadline := ⟨s.clock.nanos + timeout.nanos⟩ } false
    exact ⟨restacks.clock_le, restacks.idle⟩
  | rechecked => exact s.restacks_look _ true
  | attempted _ _ attempted =>
    cases attempted with
    | established => exact .of_sublist rfl (.refl _)
    | rejected | unopened =>
      refine Restacks.fail ?_ _ _
      exact .of_sublist rfl (.refl _)
  | @settled _ o c _ _ _ settled =>
    cases settled with
    | abandoned =>
      refine Restacks.fail ?_ _ _
      exact .of_sublist rfl (.refl _)
    | lent => exact .of_sublist rfl (.refl _)
    | filed => exact ⟨Nat.le_refl _, .inr ⟨c, o.generation, rfl⟩⟩
  | @returned l _ _ returned =>
    cases returned with
    | kept => exact ⟨Nat.le_refl _, .inr ⟨l.connection, l.generation, rfl⟩⟩
    | discarded => exact .of_sublist rfl (.refl _)
  | invalidated | closed => exact .of_sublist rfl (List.nil_sublist _)
  | pruned => exact .of_sublist rfl List.filter_sublist
  | ticked => exact ⟨Nat.le_add_right .., .inl (.refl _)⟩
  | nothing | used | shut | notified | ended | rested | reserved =>
    exact .of_sublist rfl (.refl _)

/-- The stack is ordered by time, and the time of the pool has not fallen behind. -/
structure Ordered (s : PoolSystem) : Prop where
  pairwise : s.pool.idle.Pairwise fun i below => below.lastUsed ≤ i.lastUsed
  lastUsed_le : ∀ i ∈ s.pool.idle, i.lastUsed ≤ s.clock

theorem ordered_step (h : Ordered s) (e : Event) : Ordered (s.step e) := by
  obtain ⟨clock_le, idle⟩ := s.restacks_step e
  have earlier : ∀ i ∈ s.pool.idle, i.lastUsed ≤ (s.step e).clock := fun i hi =>
    Nat.le_trans (h.lastUsed_le i hi) clock_le
  rcases idle with fewer | ⟨c, generation, more⟩
  · exact ⟨h.pairwise.sublist fewer, fun i hi => earlier i (fewer.subset hi)⟩
  · refine ⟨?_, fun i hi => ?_⟩
    · rw [more, List.pairwise_cons]
      exact ⟨h.lastUsed_le, h.pairwise⟩
    · rw [more] at hi
      rcases List.mem_cons.1 hi with rfl | hi
      · exact clock_le
      · exact earlier i hi

theorem ordered_run (h : Ordered s) (events : List Event) : Ordered (s.run events) := by
  induction events generalizing s with
  | nil => exact h
  | cons e events ih => exact ih (ordered_step h e)

/-! ## Connections that are used again -/

/-- The caller `name` takes the idle connection `i`, below these `stale` ones, which is the first
that is usable; `t` is what is left. -/
structure Reuses (s : PoolSystem) (name : Nat) (stale : List Idle) (i : Idle) (t : PoolSystem) :
    Prop where
  idle_eq : s.pool.idle = stale ++ i :: t.pool.idle
  usable : s.pool.Usable s.clock i
  unusable : ∀ j ∈ stale, ¬s.pool.Usable s.clock j
  lent_eq : t.lent = s.lent ++ [⟨name, i.connection, i.generation⟩]
  openings_eq : t.openings = s.openings
  /-- The stale connections are not counted any more, ... -/
  total_eq : t.pool.total + stale.length = s.pool.total
  leaving_eq : t.leaving = s.leaving ++ stale.map (·.connection)
  /-- ... and each of them is shut down when its turn comes. -/
  shut : ∀ later, t.leaving.length ≤ later.countP Event.shuts →
    ∀ j ∈ stale, j.connection.close ∈ (t.run later).shut

theorem reuses_of_gives {ticket : Ticket} (balanced : s.ledger.Balanced)
    (looks : s.looker? e = some (k, queued)) (gives : s.Gives e k.name (.ok ticket)) :
    ∃ stale i, ticket = ⟨i.connection.id, i.generation⟩ ∧
      Reuses s k.name stale i (s.step e) := by
  obtain ⟨-, replied⟩ := (gives_iff_of_looker? looks).1 gives
  have looked := looked_step looks
  have ruled := s.pool.ruled_look s.clock k.deadline queued
  generalize s.pool.look s.clock k.deadline queued = l at replied looked ruled
  cases ruled with
  | closed | reserve | exhausted | timedOut | wait => cases replied
  | @reuse stale below i requested isOpen split unusable usable =>
    cases replied
    have total_eq : s.pool.total = s.pool.idle.length + s.lent.length + s.openings.length :=
      balanced.total_eq
    have pool_eq := looked.pool_eq
    have leaving_eq := looked.leaving_eq
    refine ⟨stale, i, rfl, ?_, usable, unusable, looked.lent_eq, ?_, ?_, leaving_eq,
      fun later enough j hj => ?_⟩
    · rw [pool_eq, split]
    · rw [looked.openings_eq]
      exact List.append_nil _
    · rw [pool_eq]
      have := congrArg List.length split
      rw [List.length_append, List.length_cons] at this
      show s.pool.total - stale.length + stale.length = s.pool.total
      omega
    · refine close_mem_shut ?_
      rw [List.take_of_length_le enough, leaving_eq]
      exact List.mem_append_right _ (List.mem_map_of_mem hj)

/-- A caller that opens a connection or waits has found nothing usable. -/
theorem unusable_of_not_reused (looks : s.looker? e = some (k, queued))
    (not_reused : (s.step e).openings ≠ s.openings ∨ k.name ∈ (s.step e).queue) :
    ∀ j ∈ s.pool.idle, ¬s.pool.Usable s.clock j := by
  have looked := looked_step looks
  have ruled := s.pool.ruled_look s.clock k.deadline queued
  rw [looked.openings_eq, looked.queue_eq] at not_reused
  generalize s.pool.look s.clock k.deadline queued = l at not_reused ruled
  cases ruled with
  | closed | reuse => simp [Verdict.begun, Verdict.queued] at not_reused
  | reserve _ unusable | exhausted _ unusable | timedOut _ unusable | wait _ unusable =>
    exact unusable

/-- If there is something usable, whoever looks gets it. -/
theorem exists_gives_of_usable (tagged : s.ledger.Tagged) (looks : s.looker? e = some (k, queued))
    {j : Idle} (hj : j ∈ s.pool.idle) (usable : s.pool.Usable s.clock j) :
    ∃ ticket, s.Gives e k.name (.ok ticket) := by
  simp only [gives_iff_of_looker? looks, true_and]
  have ruled := s.pool.ruled_look s.clock k.deadline queued
  generalize s.pool.look s.clock k.deadline queued = l at ruled
  cases ruled with
  | closed isClosed =>
    have empty : s.pool.idle = [] := tagged.idle_eq isClosed
    simp [empty] at hj
  | reuse => exact ⟨_, rfl⟩
  | reserve _ unusable | exhausted _ unusable | timedOut _ unusable | wait _ unusable =>
    exact absurd usable (unusable j hj)

end

/-! ## Main result -/

/-- What is true of the idle connections of a pool in the state `s`. -/
structure Stacked (s : PoolSystem) : Prop where
  ordered : Ordered s
  reuses : ∀ e k queued ticket, s.looker? e = some (k, queued) → s.Gives e k.name (.ok ticket) →
    ∃ stale i, ticket = ⟨i.connection.id, i.generation⟩ ∧ Reuses s k.name stale i (s.step e)
  unusable : ∀ e k queued, s.looker? e = some (k, queued) →
    (s.step e).openings ≠ s.openings ∨ k.name ∈ (s.step e).queue →
      ∀ j ∈ s.pool.idle, ¬s.pool.Usable s.clock j
  served : ∀ e k queued, s.looker? e = some (k, queued) →
    (∃ j ∈ s.pool.idle, s.pool.Usable s.clock j) → ∃ ticket, s.Gives e k.name (.ok ticket)

theorem stacked_run {address : Address} {settings : PoolSettings} {dialer : Dialer}
    {clock : Instant} {s₀ : PoolSystem} (h : create address settings dialer clock = .ok s₀)
    (events : List Event) : Stacked (s₀.run events) := by
  have sound := sound_run h events
  obtain ⟨-, rfl⟩ := exists_fresh_of_create h
  have start : Ordered (fresh address settings dialer clock) := ⟨.nil, by simp [fresh]⟩
  refine ⟨ordered_run start events, fun e k queued ticket => reuses_of_gives sound.balanced,
    fun e k queued => unusable_of_not_reused, fun e k queued looks something => ?_⟩
  obtain ⟨j, hj, usable⟩ := something
  exact exists_gives_of_usable sound.tagged looks hj usable

/-- The connection that came back last is too old; the one below it is taken. -/
theorem stacked_run_aged :
    let settings : PoolSettings := { maxLifeTime := .ofMillis 10 }
    let s₀ := fresh .localhost settings {} .zero
    let events : List Event := [.call .zero, .dialed 0 (.ok {}), .settle 0, .tick (.ofMillis 8),
      .call .zero, .dialed 0 (.ok {}), .settle 0, .giveBack 1, .tick (.ofMillis 1), .giveBack 0,
      .tick (.ofMillis 3)]
    let s := s₀.run events
    let t := s.step (.call .zero)
    create .localhost settings {} .zero = .ok s₀ ∧
      s.pool.idle.map (fun i => (i.connection.id, i.lastUsed)) =
        [(1, .ofMillis 9), (2, .ofMillis 8)] ∧
      t.lent.map (·.connection.id) = [2] ∧ t.leaving.map (·.id) = [1] ∧ Stacked s := by
  intro settings s₀ events s t
  have created : create .localhost settings {} .zero = .ok s₀ := rfl
  have idle : s.pool.idle.map (fun i => (i.connection.id, i.lastUsed)) =
      [(1, .ofMillis 9), (2, .ofMillis 8)] := by decide +kernel
  have taken : t.lent.map (·.connection.id) = [2] ∧ t.leaving.map (·.id) = [1] := by
    decide +kernel
  exact ⟨created, idle, taken.1, taken.2, stacked_run created events⟩

end PoolSystem

end ClusterClient

import ClusterClient.Proofs.Pool.Answers
import ClusterClient.Proofs.Pool.Verdicts

/-!
# The queue

A caller that has to wait enters the queue with its first look and leaves it with its last one. The
pool only keeps the number of callers in the queue, and the callers keep it right: who enters adds
one, who leaves takes it back, however the call ends.

A caller is refused for the length of the queue at its first look only, and for the time at any
look. Both need a pool in which all places are taken and none of the connections is idle. Idle
connections that are stale are no reason to refuse anybody, because their places are free as soon as
somebody looks.

    s.pool.waiters is the length of s.queue and within the bound                  (counted_run)
    the pool is exhausted ↔ it was full and crowded at the first look    (gives_exhausted_iff)
-/

namespace ClusterClient

/-- An open pool that has nothing for anybody. -/
structure Pool.Full (p : Pool) : Prop where
  isOpen : p.closed = false
  idle_eq : p.idle = []
  total_eq : p.total = p.settings.maxSize

theorem Pool.Full.unusable {p : Pool} (h : p.Full) (now : Instant) :
    (∀ j ∈ p.idle, ¬p.Usable now j) ∧ p.settings.maxSize ≤ p.total - p.idle.length := by
  rw [h.idle_eq, h.total_eq]
  exact ⟨by simp, Nat.le_refl _⟩

namespace Verdict

variable {v : Verdict} {p : Pool} {timeout : Duration} {a : Address}

theorem reply?_eq_exhausted {n : Nat} :
    v.reply? p timeout = some (.error (.poolExhausted a n)) ↔
      v = .exhausted ∧ a = p.address ∧ n = p.settings.maxWaitQueueSize := by
  cases v <;> simp [reply?, eq_comm]

theorem reply?_eq_timedOut {t : Duration} :
    v.reply? p timeout = some (.error (.poolWaitTimeout a t)) ↔
      v = .timedOut ∧ a = p.address ∧ t = timeout := by
  cases v <;> simp [reply?, eq_comm]

end Verdict

namespace PoolSystem

open Ledger (balanced_of_moves)

section

variable {s t : PoolSystem} {e : Event} {k : Caller} {queued : Bool} {name : Nat}

/-! ## The number of callers -/

/-- The number that the pool keeps is right. -/
structure Counted (s : PoolSystem) : Prop where
  balanced : s.ledger.Balanced
  located : Located s
  waiters_eq : s.pool.waiters = s.queue.length
  waiters_le : s.pool.waiters ≤ s.pool.settings.maxWaitQueueSize

theorem calls_perm (located : Located s) :
    (s.queue ++ s.openers ++ s.answered).Perm (List.range s.calls) := by
  refine List.perm_iff_count.2 fun name => ?_
  rw [List.count_append, List.count_append, List.count_range]
  exact located name

theorem count_queue_le (located : Located s) (name : Nat) : s.queue.count name ≤ 1 := by
  have := located name
  split at this <;> omega

/-- Whoever looks is in the queue once if it was queued, and else not at all. -/
theorem count_queue_of_looker? (located : Located s) (h : s.looker? e = some (k, queued)) :
    s.queue.count k.name = queued.toNat := by
  have once := located k.name
  rcases looker?_eq_some h with ⟨rfl, first, -⟩ | ⟨rfl, blocked, -⟩
  · rw [if_neg (by omega)] at once
    rw [Bool.toNat_false]
    omega
  · have blocked : 0 < s.queue.count k.name := List.count_pos_iff.2 (List.mem_map_of_mem blocked)
    have := count_queue_le located k.name
    rw [Bool.toNat_true]
    omega

theorem length_filter_ne (l : List Nat) (name : Nat) :
    (l.filter (· != name)).length + l.count name = l.length := by
  have split := List.length_eq_countP_add_countP (fun n => n != name) (l := l)
  rw [List.countP_eq_length_filter] at split
  rw [split, List.count]
  congr 2
  funext n
  rw [Bool.eq_iff_iff]
  simp

theorem counted_step (h : Counted s) (e : Event) : Counted (s.step e) := by
  obtain ⟨balanced, settings_eq⟩ := balanced_of_moves h.balanced (s.moves_step e)
  have settings_eq : (s.step e).pool.settings = s.pool.settings := settings_eq
  have waiters_eq := h.waiters_eq
  cases looks : s.looker? e with
  | some d =>
    obtain ⟨k, queued⟩ := d
    have looked := looked_step looks
    have ruled := s.pool.ruled_look s.clock k.deadline queued
    generalize s.pool.look s.clock k.deadline queued = l at looked ruled
    have counted := count_queue_of_looker? h.located looks
    have others := length_filter_ne s.queue k.name
    refine ⟨balanced, located_step h.located e, ?_, ?_⟩
    · have moved := ruled.waiters_eq fun hq => by
        rw [hq] at counted
        exact waiters_eq ▸ List.length_pos_iff.2 fun empty => by simp [empty] at counted
      have waiting : ((l.verdict.queued k).map (·.name)).length =
          if l.verdict = .wait then 1 else 0 := by
        cases l.verdict <;> rfl
      rw [looked.pool_eq, looked.queue_eq, List.length_append, waiting]
      omega
    · rw [settings_eq, looked.pool_eq]
      exact ruled.waiters_le h.waiters_le
  | none =>
    have unlooked := unlooked_step looks
    refine ⟨balanced, located_step h.located e, ?_, ?_⟩
    · rw [unlooked.waiters_eq, waiters_eq, queue_eq_of_hushed unlooked.callers_eq]
    · rw [settings_eq, unlooked.waiters_eq]
      exact h.waiters_le

theorem counted_run (h : Counted s) (events : List Event) : Counted (s.run events) := by
  induction events generalizing s with
  | nil => exact h
  | cons e events ih => exact ih (counted_step h e)

theorem counted_create {address : Address} {settings : PoolSettings} {dialer : Dialer}
    {clock : Instant} (h : create address settings dialer clock = .ok s) : Counted s := by
  have balanced := balanced_create h
  obtain ⟨-, rfl⟩ := exists_fresh_of_create h
  exact ⟨balanced, fun _ => rfl, rfl, Nat.zero_le _⟩

/-! ## Entering and leaving -/

/-- How a caller goes when it was queued. -/
inductive Exits (s : PoolSystem) (k : Caller) (t : PoolSystem) : Prop where
  | reuse {ticket : Ticket} (answers_eq : t.answers = (k.name, .ok ticket) :: s.answers)
  | opening {id : UInt32} {generation : Nat} (openings_eq : t.openings =
      s.openings ++ [{ id, generation, place := s.reservations, caller := some k.name }])
  | timedOut (answers_eq : t.answers =
      (k.name, .error (.poolWaitTimeout s.pool.address k.timeout)) :: s.answers)
  | closed (answers_eq : t.answers =
      (k.name, .error (.poolClosed s.pool.address)) :: s.answers)

theorem entered_step (h : Counted s) (out : name ∉ s.queue) (inside : name ∈ (s.step e).queue) :
    (name = s.calls ∧ ∃ timeout, e = .call timeout) ∧
      (s.step e).pool.waiters = s.pool.waiters + 1 := by
  have waiters_eq := (counted_step h e).waiters_eq
  cases looks : s.looker? e with
  | none =>
    rw [queue_eq_of_hushed (unlooked_step looks).callers_eq] at inside
    exact absurd inside out
  | some d =>
    obtain ⟨k, queued⟩ := d
    have counted := count_queue_of_looker? h.located looks
    have others := length_filter_ne s.queue k.name
    have queue_eq := (looked_step looks).queue_eq
    generalize (s.pool.look s.clock k.deadline queued).verdict = v at queue_eq
    rw [queue_eq] at inside
    rcases List.mem_append.1 inside with old | new
    · exact absurd (List.mem_of_mem_filter old) out
    · cases v <;> simp only [Verdict.queued, List.map_nil, List.not_mem_nil] at new
      obtain rfl := List.mem_singleton.1 new
      rcases looker?_eq_some looks with ⟨rfl, first, call⟩ | ⟨-, blocked, -⟩
      · refine ⟨⟨first, call⟩, ?_⟩
        rw [waiters_eq, queue_eq, h.waiters_eq, List.length_append]
        simp only [Verdict.queued, List.map_cons, List.map_nil, List.length_singleton]
        rw [Bool.toNat_false] at counted
        omega
      · exact absurd (List.mem_map_of_mem blocked) out

theorem left_step (h : Counted s) (inside : name ∈ s.queue) (out : name ∉ (s.step e).queue) :
    (∃ k, s.looker? e = some (k, true) ∧ k.name = name ∧ s.Exits k (s.step e)) ∧
      (s.step e).pool.waiters + 1 = s.pool.waiters := by
  have waiters_eq := (counted_step h e).waiters_eq
  cases looks : s.looker? e with
  | none =>
    rw [queue_eq_of_hushed (unlooked_step looks).callers_eq] at out
    exact absurd inside out
  | some d =>
    obtain ⟨k, queued⟩ := d
    have counted := count_queue_of_looker? h.located looks
    have others := length_filter_ne s.queue k.name
    have looked := looked_step looks
    have ruled := s.pool.ruled_look s.clock k.deadline queued
    have queue_eq := looked.queue_eq
    have answers_eq := looked.answers_eq
    have openings_eq := looked.openings_eq
    generalize s.pool.look s.clock k.deadline queued = l at queue_eq answers_eq openings_eq ruled
    obtain rfl : name = k.name := by
      by_contra other
      refine out ?_
      rw [queue_eq]
      exact List.mem_append_left _ (List.mem_filter.2 ⟨inside, by simpa using other⟩)
    obtain rfl : queued = true := by
      have := List.count_pos_iff.2 inside
      cases queued
      · rw [Bool.toNat_false] at counted
        omega
      · rfl
    rw [Bool.toNat_true] at counted
    rw [queue_eq] at out
    have gone : (l.verdict.queued k).map (·.name) = [] := by
      cases hv : l.verdict <;> simp [Verdict.queued, hv] at out ⊢
    refine ⟨⟨k, rfl, rfl, ?_⟩, ?_⟩
    · cases ruled with
      | closed => exact .closed answers_eq
      | reuse => exact .reuse answers_eq
      | reserve => exact .opening openings_eq
      | exhausted _ _ _ first => cases first
      | timedOut => exact .timedOut answers_eq
      | wait => cases gone
    · rw [waiters_eq, queue_eq, gone, h.waiters_eq, List.length_append, List.length_nil]
      omega

theorem calls_le_step (s : PoolSystem) (e : Event) : s.calls ≤ (s.step e).calls := by
  cases looks : s.looker? e with
  | some d => exact calls_step_of_looker? looks ▸ Nat.le_add_right ..
  | none => exact Nat.le_of_eq (unlooked_step looks).calls_eq.symm

theorem calls_le_run (s : PoolSystem) (events : List Event) : s.calls ≤ (s.run events).calls := by
  induction events generalizing s with
  | nil => exact Nat.le_refl _
  | cons e events ih => exact Nat.le_trans (s.calls_le_step e) (ih (s.step e))

theorem lt_calls_of_mem_queue (located : Located s) (inside : name ∈ s.queue) :
    name < s.calls := by
  have := List.count_pos_iff.2 inside
  have := located name
  by_contra unknown
  rw [if_neg unknown] at this
  omega

/-- A call that is under way and not in the queue never comes back to it. -/
theorem not_mem_queue_run (h : Counted s) (old : name < s.calls) (out : name ∉ s.queue)
    (events : List Event) : name ∉ (s.run events).queue := by
  induction events generalizing s with
  | nil => exact out
  | cons e events ih =>
    refine ih (counted_step h e) (Nat.lt_of_lt_of_le old (s.calls_le_step e)) fun inside => ?_
    obtain ⟨⟨new, -⟩, -⟩ := entered_step h out inside
    omega

theorem not_mem_queue_of_ended (h : Counted s)
    (ended : name ∈ s.answered ++ s.openers ++ s.lent.map (·.borrower)) : name ∉ s.queue := by
  intro inside
  have inside := List.count_pos_iff.2 inside
  rcases List.mem_append.1 ended with ended | lent
  · have elsewhere := List.count_pos_iff.2 ended
    have once := h.located name
    rw [List.count_append] at elsewhere
    split at once <;> omega
  · have elsewhere := List.count_pos_iff.2 lent
    have once := h.balanced.names_le name
    simp only [Ledger.names, List.count_append] at once
    change s.queue.count name + _ + (s.lent.map (·.borrower)).count name ≤ _ at once
    split at once <;> omega

/-! ## Deadlines -/

/-- The deadline of the caller is as far from its call as it asked for. -/
def Asked (s : PoolSystem) (events : List Event) (k : Caller) : Prop :=
  ∃ earlier timeout later, events = earlier ++ .call timeout :: later ∧
    k.name = (s.run earlier).calls ∧ k.timeout = timeout ∧
    k.deadline = ⟨(s.run earlier).clock.nanos + timeout.nanos⟩

theorem Asked.after {events : List Event} {k' : Caller} (h : s.Asked events k)
    (same : hushed k' = hushed k) (e : Event) : s.Asked (events ++ [e]) k' := by
  obtain ⟨earlier, timeout, later, rfl, name_eq, timeout_eq, deadline_eq⟩ := h
  simp only [hushed, Caller.mk.injEq, and_true] at same
  obtain ⟨sameName, sameTimeout, sameDeadline⟩ := same
  exact ⟨earlier, timeout, later ++ [e], by simp, sameName.trans name_eq,
    sameTimeout.trans timeout_eq, sameDeadline.trans deadline_eq⟩

theorem asked_of_looker? {events : List Event} (h : (s.run events).looker? e = some (k, queued))
    (blocked : ∀ k' ∈ (s.run events).callers, s.Asked events k') :
    s.Asked (events ++ [e]) k := by
  rcases looker?_eq_some h with ⟨-, -, timeout, rfl⟩ | ⟨-, known, -⟩
  · cases h
    exact ⟨events, timeout, [], rfl, rfl, rfl, rfl⟩
  · exact (blocked k known).after rfl e

theorem asked_of_mem_callers (nobody : s.callers = []) (events : List Event) :
    ∀ k ∈ (s.run events).callers, s.Asked events k := by
  induction events using List.reverseRecOn with
  | nil =>
    intro k hk
    change k ∈ s.callers at hk
    simp [nobody] at hk
  | append_singleton events e ih =>
    intro k hk
    rw [run_append] at hk
    change k ∈ ((s.run events).step e).callers at hk
    cases looks : (s.run events).looker? e with
    | none =>
      have same := (unlooked_step looks).callers_eq
      have hk := List.mem_map_of_mem (f := hushed) hk
      rw [same] at hk
      obtain ⟨k', hk', same⟩ := List.mem_map.1 hk
      exact (ih k' hk').after same.symm e
    | some d =>
      obtain ⟨k', queued⟩ := d
      rw [(looked_step looks).callers_eq] at hk
      rcases List.mem_append.1 hk with old | new
      · exact (ih k (List.mem_of_mem_filter old)).after rfl e
      · have asked := asked_of_looker? looks ih
        generalize ((s.run events).pool.look _ _ _).verdict = v at new
        cases v <;> simp only [Verdict.queued, List.not_mem_nil] at new
        obtain ⟨earlier, timeout, later, split, rest⟩ := asked
        rw [List.mem_singleton.1 new]
        exact ⟨earlier, timeout, later, split, rest⟩

/-! ## Errors of the queue -/

/-- If there is no place although the stale connections are gone, there were none. -/
theorem full_of_balanced (balanced : s.ledger.Balanced) (isOpen : s.pool.closed = false)
    (none : s.pool.settings.maxSize ≤ s.pool.total - s.pool.idle.length) : s.pool.Full := by
  have total_eq : s.pool.total = s.pool.idle.length + s.lent.length + s.openings.length :=
    balanced.total_eq
  have total_le : s.pool.total ≤ s.pool.settings.maxSize := balanced.total_le
  have empty : s.pool.idle.length = 0 := by omega
  exact ⟨isOpen, List.length_eq_zero_iff.1 empty, by omega⟩

/-- This is the first look of the call `name`, at a full pool with a full queue. -/
structure Crowded (s : PoolSystem) (e : Event) (name : Nat) : Prop where
  first : ∃ timeout, e = .call timeout
  name_eq : name = s.calls
  full : s.pool.Full
  waiters_eq : s.pool.waiters = s.pool.settings.maxWaitQueueSize

/-- This is a look of the call `name`, at a full pool, and the deadline is over. -/
structure Late (s : PoolSystem) (e : Event) (name : Nat) (timeout : Duration) : Prop where
  looks : ∃ k queued, s.looker? e = some (k, queued) ∧ k.name = name ∧ k.timeout = timeout ∧
    k.deadline ≤ s.clock ∧
    (queued = false → s.pool.waiters < s.pool.settings.maxWaitQueueSize)
  full : s.pool.Full

theorem gives_exhausted_iff (counted : Counted s) {a : Address} {n : Nat} :
    s.Gives e name (.error (.poolExhausted a n)) ↔
      s.Crowded e name ∧ a = s.pool.address ∧ n = s.pool.settings.maxWaitQueueSize ∨
        s.PassesOn e name (.poolExhausted a n) := by
  constructor
  · intro gives
    cases looks : s.looker? e with
    | none =>
      rcases passesOn_of_gives looks gives with passed | ⟨_, _, other⟩ | other
      · exact .inr passed
      · cases other
      · cases other
    | some d =>
      obtain ⟨k, queued⟩ := d
      obtain ⟨rfl, replied⟩ := (gives_iff_of_looker? looks).1 gives
      have ruled := s.pool.ruled_look s.clock k.deadline queued
      generalize s.pool.look s.clock k.deadline queued = l at replied ruled
      obtain ⟨hv, rfl, rfl⟩ := Verdict.reply?_eq_exhausted.1 replied
      obtain ⟨rfl, isOpen, -, none, crowded⟩ := ruled.exhausted_iff.1 hv
      rcases looker?_eq_some looks with ⟨-, first, call⟩ | ⟨queued, -, -⟩
      · exact .inl ⟨⟨call, first, full_of_balanced counted.balanced isOpen none,
          Nat.le_antisymm counted.waiters_le crowded⟩, rfl, rfl⟩
      · cases queued
  · rintro (⟨crowded, rfl, rfl⟩ | passed)
    · obtain ⟨timeout, rfl⟩ := crowded.first
      have looks : s.looker? (.call timeout) = some (_, false) := rfl
      refine (gives_iff_of_looker? looks).2 ⟨crowded.name_eq, ?_⟩
      have ruled := s.pool.ruled_look s.clock ⟨s.clock.nanos + timeout.nanos⟩ false
      obtain ⟨unusable, none⟩ := crowded.full.unusable s.clock
      rw [ruled.exhausted_iff.2 ⟨rfl, crowded.full.isOpen, unusable, none,
        Nat.le_of_eq crowded.waiters_eq.symm⟩]
      rfl
    · exact gives_of_passesOn passed

theorem gives_timeout_iff (counted : Counted s) {a : Address} {timeout : Duration} :
    s.Gives e name (.error (.poolWaitTimeout a timeout)) ↔
      s.Late e name timeout ∧ a = s.pool.address ∨
        s.PassesOn e name (.poolWaitTimeout a timeout) := by
  constructor
  · intro gives
    cases looks : s.looker? e with
    | none =>
      rcases passesOn_of_gives looks gives with passed | ⟨_, _, other⟩ | other
      · exact .inr passed
      · cases other
      · cases other
    | some d =>
      obtain ⟨k, queued⟩ := d
      obtain ⟨rfl, replied⟩ := (gives_iff_of_looker? looks).1 gives
      have ruled := s.pool.ruled_look s.clock k.deadline queued
      generalize s.pool.look s.clock k.deadline queued = l at replied ruled
      obtain ⟨hv, rfl, rfl⟩ := Verdict.reply?_eq_timedOut.1 replied
      obtain ⟨isOpen, -, none, admitted, late⟩ := ruled.timedOut_iff.1 hv
      exact .inl ⟨⟨⟨k, queued, looks, rfl, rfl, late, admitted⟩,
        full_of_balanced counted.balanced isOpen none⟩, rfl⟩
  · rintro (⟨late, rfl⟩ | passed)
    · obtain ⟨k, queued, looks, rfl, rfl, elapsed, admitted⟩ := late.looks
      refine (gives_iff_of_looker? looks).2 ⟨rfl, ?_⟩
      have ruled := s.pool.ruled_look s.clock k.deadline queued
      obtain ⟨unusable, none⟩ := late.full.unusable s.clock
      rw [ruled.timedOut_iff.2 ⟨late.full.isOpen, unusable, none, admitted, elapsed⟩]
      rfl
    · exact gives_of_passesOn passed

end

/-! ## Main result -/

/-- What is true of the queue of a pool `s₀` when it has come to the state `s` after some events. -/
structure Queues (s₀ : PoolSystem) (settings : PoolSettings) (events : List Event)
    (s : PoolSystem) : Prop where
  waiters_eq : s.pool.waiters = s.queue.length
  /-- Each call is in the queue, has an opening or has an answer, and only one of these. -/
  calls_perm : (s.queue ++ s.openers ++ s.answered).Perm (List.range s.calls)
  waiters_le : s.pool.waiters ≤ min (settings.maxSize * settings.waitQueueMultiplier) wordMax
  /-- Whoever looks from the queue is counted, so that there is something to take away. -/
  waiters_pos : ∀ e k, s.looker? e = some (k, true) → 0 < s.pool.waiters
  entered : ∀ e name, name ∉ s.queue → name ∈ (s.step e).queue →
    (name = s.calls ∧ ∃ timeout, e = .call timeout) ∧
      (s.step e).pool.waiters = s.pool.waiters + 1
  left : ∀ e name, name ∈ s.queue → name ∉ (s.step e).queue →
    (∃ k, s.looker? e = some (k, true) ∧ k.name = name ∧ s.Exits k (s.step e)) ∧
      (s.step e).pool.waiters + 1 = s.pool.waiters ∧
      ∀ later, name ∉ ((s.step e).run later).queue
  /-- Nobody stays in the queue that has an answer, a connection, or one that it opens. -/
  ended : ∀ name ∈ s.answered ++ s.openers ++ s.lent.map (·.borrower), name ∉ s.queue
  exhausted_iff : ∀ name a n, (name, .error (.poolExhausted a n)) ∈ s.answers ↔
    ∃ earlier e later, events = earlier ++ e :: later ∧
      ((s₀.run earlier).Crowded e name ∧ a = (s₀.run earlier).pool.address ∧
          n = settings.maxWaitQueueSize ∨
        (s₀.run earlier).PassesOn e name (.poolExhausted a n))
  /-- Whoever is queued is not refused for the length of the queue any more. -/
  admitted : ∀ name ∈ s.queue, ∀ later a n,
    (name, .error (.poolExhausted a n)) ∈ (s.run later).answers →
      ∃ before e after, later = before ++ e :: after ∧
        (s.run before).PassesOn e name (.poolExhausted a n)
  timeout_iff : ∀ name a timeout, (name, .error (.poolWaitTimeout a timeout)) ∈ s.answers ↔
    ∃ earlier e later, events = earlier ++ e :: later ∧
      ((s₀.run earlier).Late e name timeout ∧ a = (s₀.run earlier).pool.address ∨
        (s₀.run earlier).PassesOn e name (.poolWaitTimeout a timeout))
  /-- The deadline that counts is that of the call. -/
  asked : ∀ e k queued, s.looker? e = some (k, queued) → s₀.Asked (events ++ [e]) k

theorem queues_run {address : Address} {settings : PoolSettings} {dialer : Dialer}
    {clock : Instant} {s₀ : PoolSystem} (h : create address settings dialer clock = .ok s₀)
    (events : List Event) : Queues s₀ settings events (s₀.run events) := by
  have settings_eq (events : List Event) : (s₀.run events).pool.settings = settings :=
    (balanced_run h events).2
  have start : Counted s₀ ∧ s₀.answers = [] ∧ s₀.callers = [] := by
    have balanced := balanced_create h
    obtain ⟨-, rfl⟩ := exists_fresh_of_create h
    exact ⟨⟨balanced, fun _ => rfl, rfl, Nat.zero_le _⟩, rfl, rfl⟩
  obtain ⟨counted, unanswered, nobody⟩ := start
  have counted := counted_run counted
  have answer_iff {name : Nat} {answer : Except Error Ticket} :
      (name, answer) ∈ (s₀.run events).answers ↔ ∃ earlier e later,
        events = earlier ++ e :: later ∧ (s₀.run earlier).Gives e name answer := by
    rw [mem_answers_iff, unanswered]
    simp only [List.not_mem_nil, false_or]
  refine
    { waiters_eq := (counted events).waiters_eq
      calls_perm := calls_perm (counted events).located
      waiters_le := settings_eq events ▸ (counted events).waiters_le
      waiters_pos := ?_
      entered := fun e name => entered_step (counted events)
      left := fun e name inside out => ?_
      ended := fun name => not_mem_queue_of_ended (counted events)
      exhausted_iff := fun name a n => ?_
      admitted := ?_
      timeout_iff := fun name a timeout => ?_
      asked := ?_ }
  · intro e k looks
    have once := count_queue_of_looker? (counted events).located looks
    have := List.count_le_length (a := k.name) (l := (s₀.run events).queue)
    rw [(counted events).waiters_eq]
    rw [Bool.toNat_true] at once
    omega
  · obtain ⟨exits, waiters_eq⟩ := left_step (counted events) inside out
    have old := lt_calls_of_mem_queue (counted events).located inside
    refine ⟨exits, waiters_eq, not_mem_queue_run (counted_step (counted events) e) ?_ out⟩
    exact Nat.lt_of_lt_of_le old (calls_le_step _ e)
  · rw [answer_iff]
    refine exists_congr fun earlier => exists_congr fun e => exists_congr fun later =>
      and_congr_right fun _ => ?_
    rw [gives_exhausted_iff (counted earlier), settings_eq]
  · intro name inside later a n given
    have old := lt_calls_of_mem_queue (counted events).located inside
    rcases mem_answers_iff.1 given with before | ⟨before, e, after, rfl, gives⟩
    · have answered : name ∈ (s₀.run events).answered := List.mem_map_of_mem (f := (·.1)) before
      refine absurd inside (not_mem_queue_of_ended (counted events) ?_)
      simp [answered]
    · refine ⟨before, e, after, rfl, ?_⟩
      have counted' := counted_run (counted events) before
      rcases (gives_exhausted_iff counted').1 gives with ⟨crowded, -⟩ | passed
      · have := crowded.name_eq
        have := calls_le_run (s₀.run events) before
        omega
      · exact passed
  · rw [answer_iff]
    refine exists_congr fun earlier => exists_congr fun e => exists_congr fun later =>
      and_congr_right fun _ => ?_
    rw [gives_timeout_iff (counted earlier)]
  · intro e k queued looks
    exact asked_of_looker? looks (asked_of_mem_callers nobody events)

/-- One connection, one caller in the queue: the next one is refused at once, the one in the queue
when its time is over. -/
theorem queues_run_crowded :
    let settings : PoolSettings := { maxSize := 1, waitQueueMultiplier := 1 }
    let s₀ := fresh .localhost settings {} .zero
    let events : List Event := [.call .zero, .dialed 0 (.ok {}), .settle 0, .call (.ofMillis 5),
      .call (.ofMillis 5), .tick (.ofMillis 5), .recheck 1]
    create .localhost settings {} .zero = .ok s₀ ∧
      (s₀.run events).answers = [(1, .error (.poolWaitTimeout .localhost (.ofMillis 5))),
        (2, .error (.poolExhausted .localhost 1)), (0, .ok ⟨1, 0⟩)] ∧
      Queues s₀ settings events (s₀.run events) := by
  intro settings s₀ events
  have created : create .localhost settings {} .zero = .ok s₀ := rfl
  have answers : (s₀.run events).answers =
      [(1, .error (.poolWaitTimeout .localhost (.ofMillis 5))),
        (2, .error (.poolExhausted .localhost 1)), (0, .ok ⟨1, 0⟩)] := by
    decide +kernel
  exact ⟨created, answers, queues_run created events⟩

end PoolSystem

end ClusterClient

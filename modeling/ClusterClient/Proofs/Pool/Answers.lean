import ClusterClient.Proofs.Pool.Decisions

/-!
# Answers

A call begins with a look and ends with one answer. Until then it is in the queue, or its connection
is being opened. Somebody who looks is told the verdict of the pool; whoever opens a connection is
told how that ended, and an error of the stream is passed on as it is. What was answered stays
answered.

    the calls in the queue, those that open a connection and those that were answered are all calls,
      each of them once                                                         (located_step)
    a call is answered in one of the events, by whoever looks or opens there   (mem_answers_iff)
-/

namespace ClusterClient

namespace Verdict

/-- What a caller is told at once; nothing if it opens a connection or waits. -/
def reply? (p : Pool) (timeout : Duration) : Verdict → Option (Except Error Ticket)
  | .closed => some (.error (.poolClosed p.address))
  | .reuse i => some (.ok ⟨i.connection.id, i.generation⟩)
  | .exhausted => some (.error (.poolExhausted p.address p.settings.maxWaitQueueSize))
  | .timedOut => some (.error (.poolWaitTimeout p.address timeout))
  | .reserve .. | .wait => none

/-- The caller, if it is told to wait. -/
def queued (caller : Caller) : Verdict → List Caller
  | .wait => [{ caller with notified := false }]
  | _ => []

end Verdict

/-- The caller of an opening, if it has one, is told how the opening ended. -/
def Opening.replies (o : Opening) (answer : Except Error Ticket) :
    List (Nat × Except Error Ticket) :=
  o.caller.toList.map fun name => (name, answer)

/-- On a stream that is there, nothing but authentication can fail. -/
theorem Dialer.exists_authentication_of_failed {d : Dialer} {address : Address} {id : UInt32}
    {now : Instant} {link : Link} {buffers : Recycler} {cause : Error} {shut : Option Connection}
    (h : (d.dial address id now (.ok link) buffers).1 = .failed cause shut) :
    ∃ user text, cause = .authentication user text := by
  unfold dial at h
  simp only at h
  split at h
  · cases h
  · split at h
    · cases h
    · cases h
      exact ⟨_, _, rfl⟩

namespace PoolSystem

/-! ## Looks -/

/-- Who looks for a connection in a step, and whether it was queued before. -/
def looker? (s : PoolSystem) : Event → Option (Caller × Bool)
  | .call timeout =>
    some ({ name := s.calls, timeout, deadline := ⟨s.clock.nanos + timeout.nanos⟩ }, false)
  | .recheck name => (s.callers.find? (·.name == name)).map fun caller => (caller, true)
  | _ => none

/-- What a look of the caller `k` does. -/
structure Looked (s : PoolSystem) (k : Caller) (l : Look) (t : PoolSystem) : Prop
    extends Decided s t k.name l where
  callers_eq : t.callers = s.callers.filter (·.name != k.name) ++ l.verdict.queued k
  answers_eq : t.answers =
    (l.verdict.reply? s.pool k.timeout).toList.map (fun answer => (k.name, answer)) ++ s.answers

section

variable {s t : PoolSystem} {e : Event} {k : Caller} {queued : Bool}

theorem callers_look (s : PoolSystem) (k : Caller) (queued : Bool) :
    (s.look k queued).callers = s.callers.filter (·.name != k.name) ++
      (s.pool.look s.clock k.deadline queued).verdict.queued k := by
  unfold look
  cases hv : (s.pool.look s.clock k.deadline queued).verdict <;>
    simp [conclude, beginOpening, Verdict.queued, hv]

theorem answers_look (s : PoolSystem) (k : Caller) (queued : Bool) :
    (s.look k queued).answers =
      ((s.pool.look s.clock k.deadline queued).verdict.reply? s.pool k.timeout).toList.map
        (fun answer => (k.name, answer)) ++ s.answers := by
  have found := s.pool.found_look s.clock k.deadline queued
  unfold look
  cases hv : (s.pool.look s.clock k.deadline queued).verdict <;>
    simp [conclude, beginOpening, Verdict.reply?, hv, found.address_eq, found.settings_eq]

theorem looked_step (h : s.looker? e = some (k, queued)) :
    Looked s k (s.pool.look s.clock k.deadline queued) (s.step e) := by
  cases e with
  | call timeout =>
    cases h
    let caller : Caller :=
      { name := s.calls, timeout, deadline := ⟨s.clock.nanos + timeout.nanos⟩ }
    exact ⟨decided_step rfl, callers_look { s with calls := s.calls + 1 } caller false,
      answers_look { s with calls := s.calls + 1 } caller false⟩
  | recheck name =>
    obtain ⟨caller, known, he⟩ := Option.map_eq_some_iff.1 h
    cases he
    rw [step, recheck, known]
    exact ⟨s.decided_look k true, s.callers_look k true, s.answers_look k true⟩
  | _ => cases h

theorem calls_step_of_looker? (h : s.looker? e = some (k, queued)) :
    (s.step e).calls = s.calls + (!queued).toNat := by
  cases e with
  | call timeout =>
    cases h
    exact s.calls_call timeout
  | recheck name =>
    obtain ⟨caller, known, he⟩ := Option.map_eq_some_iff.1 h
    cases he
    rw [step, recheck, known]
    exact s.calls_look k true
  | _ => cases h

/-! ## Openings -/

/-- The calls whose connections are being opened. -/
def openers (s : PoolSystem) : List Nat := s.openings.filterMap (·.caller)

/-- What callers are told in a step in which nobody looks. -/
inductive Told (s : PoolSystem) : Event → List (Nat × Except Error Ticket) → Prop where
  | nothing {e : Event} : Told s e []
  /-- There was no stream. -/
  | unopened {index : Nat} {o : Opening} {cause : Error} (known : s.openings[index]? = some o)
      (under : o.connection = none) :
      Told s (.dialed index (.error cause)) (o.replies (.error cause))
  | refused {index : Nat} {o : Opening} {link : Link} {user : Option String} {cause : String}
      (known : s.openings[index]? = some o) :
      Told s (.dialed index (.ok link)) (o.replies (.error (.authentication user cause)))
  | abandoned {index : Nat} {o : Opening} (known : s.openings[index]? = some o) :
      Told s (.settle index) (o.replies (.error (.poolClosed s.pool.address)))
  | lent {index : Nat} {o : Opening} {ticket : Ticket} (known : s.openings[index]? = some o) :
      Told s (.settle index) (o.replies (.ok ticket))

/-- What a step in which nobody looks does to the calls. -/
structure Unlooked (s : PoolSystem) (e : Event) (t : PoolSystem) : Prop where
  waiters_eq : t.pool.waiters = s.pool.waiters
  calls_eq : t.calls = s.calls
  callers_eq : t.callers.map hushed = s.callers.map hushed
  told : ∃ told, Told s e told ∧ t.answers = told ++ s.answers ∧
    s.openers.Perm (told.map (·.1) ++ t.openers)

/-- A step that tells nobody anything. -/
theorem Unlooked.of_eq (waiters : t.pool.waiters = s.pool.waiters) (calls : t.calls = s.calls)
    (callers : t.callers = s.callers) (openings : t.openers = s.openers)
    (answers : t.answers = s.answers) : Unlooked s e t :=
  ⟨waiters, calls, congrArg _ callers, [], .nothing, answers, openings ▸ .refl _⟩

/-- The end of an opening, of which its caller is told. -/
theorem Unlooked.of_erase {index : Nat} {o : Opening} {answer : Except Error Ticket}
    (known : s.openings[index]? = some o) (told : Told s e (o.replies answer))
    (waiters : t.pool.waiters = s.pool.waiters) (calls : t.calls = s.calls)
    (callers : t.callers = s.callers) (openings : t.openings = s.openings.eraseIdx index)
    (answers : t.answers = o.replies answer ++ s.answers) : Unlooked s e t := by
  refine ⟨waiters, calls, congrArg _ callers, _, told, answers, ?_⟩
  obtain ⟨before, after, found, erased, -⟩ := exists_append_of_getElem? known
  have names : (o.replies answer).map (·.1) = o.caller.toList := by
    cases h : o.caller <;> simp [Opening.replies, h]
  rw [names, openers, openers, openings, erased, found]
  cases h : o.caller <;> simp [h, List.perm_middle]

/-- An opening that failed, of which whoever opened is told. -/
theorem Unlooked.of_fail {u : PoolSystem} {index : Nat} {o : Opening} {cause : Error}
    (known : s.openings[index]? = some o) (told : Told s e (o.replies (.error cause)))
    (waiters : u.pool.waiters = s.pool.waiters) (calls : u.calls = s.calls)
    (callers : u.callers = s.callers) (openings : u.openings = s.openings.eraseIdx index)
    (answers : u.answers = s.answers) : Unlooked s e (u.fail o.caller cause) := by
  have answers_eq : (u.fail o.caller cause).answers = o.replies (.error cause) ++ s.answers := by
    rw [answers_fail, answers, Opening.replies]
  have waiters_eq : (u.fail o.caller cause).pool.waiters = s.pool.waiters := by
    rw [pool_fail, waiters]
  refine .of_erase known told waiters_eq ?_ ?_ ?_ answers_eq
  · rw [← calls]
    cases o.caller <;> rfl
  · rw [← callers]
    cases o.caller <;> rfl
  · rw [← openings]
    cases o.caller <;> rfl

theorem unlooked_dialed (s : PoolSystem) (index : Nat) (stream : Except Error Link) :
    Unlooked s (.dialed index stream) (s.dialed index stream) := by
  unfold dialed
  split
  · next id generation place caller known =>
    simp only
    split
    · refine .of_eq rfl rfl rfl ?_ rfl
      obtain ⟨before, after, found, -, replaced⟩ := exists_append_of_getElem? known
      simp only [openers, replaced]
      simp only [found, List.filterMap_append, List.filterMap_cons]
    · next cause shut failed =>
      cases stream with
      | error e =>
        cases failed
        exact .of_fail known (.unopened known rfl) rfl rfl rfl rfl rfl
      | ok link =>
        obtain ⟨user, text, rfl⟩ := Dialer.exists_authentication_of_failed failed
        exact .of_fail known (.refused known) rfl rfl rfl rfl rfl
  · exact .of_eq rfl rfl rfl rfl rfl

theorem unlooked_of_settled {index : Nat} {o : Opening} {c : Connection}
    (known : s.openings[index]? = some o) (settled : Settled s index o c t) :
    Unlooked s (.settle index) t := by
  cases settled with
  | abandoned => exact .of_fail known (.abandoned known) rfl rfl rfl rfl rfl
  | lent _ caller | filed _ caller =>
    have lent : Told s (.settle index) (o.replies (.ok ⟨o.id, o.generation⟩)) := .lent known
    refine .of_erase known lent rfl rfl rfl rfl ?_
    simp only [Opening.replies, caller]
    rfl

theorem unlooked_step (unlooked : s.looker? e = none) : Unlooked s e (s.step e) := by
  by_cases dials : ∃ index stream, e = .dialed index stream
  · obtain ⟨index, stream, rfl⟩ := dials
    exact s.unlooked_dialed index stream
  · have stepped := s.stepped_step e
    generalize s.step e = t at stepped
    cases stepped with
    | called => cases unlooked
    | rechecked known => simp [looker?, known] at unlooked
    | attempted => exact absurd ⟨_, _, rfl⟩ dials
    | settled known _ settled => exact unlooked_of_settled known settled
    | returned _ returned => cases returned <;> exact .of_eq rfl rfl rfl rfl rfl
    | notified _ same => exact ⟨rfl, rfl, same, [], .nothing, rfl, .refl _⟩
    | reserved =>
      refine .of_eq rfl rfl rfl ?_ rfl
      simp [openers, beginOpening]
    | _ => exact .of_eq rfl rfl rfl rfl rfl

/-! ## One place for each call -/

/-- The calls that are blocked. -/
def queue (s : PoolSystem) : List Nat := s.callers.map (·.name)

def answered (s : PoolSystem) : List Nat := s.answers.map (·.1)

/-- Each call that there was is in one place. -/
def Located (s : PoolSystem) : Prop :=
  ∀ n, s.queue.count n + s.openers.count n + s.answered.count n = if n < s.calls then 1 else 0

theorem queue_eq_of_hushed (h : t.callers.map hushed = s.callers.map hushed) :
    t.queue = s.queue :=
  map_name_of_hushed h

/-- Whoever looks calls for the first time, or was blocked. -/
theorem looker?_eq_some (h : s.looker? e = some (k, queued)) :
    (queued = false ∧ k.name = s.calls ∧ ∃ timeout, e = .call timeout) ∨
      queued = true ∧ k ∈ s.callers ∧ e = .recheck k.name := by
  cases e with
  | call timeout =>
    cases h
    exact .inl ⟨rfl, rfl, timeout, rfl⟩
  | recheck name =>
    obtain ⟨caller, known, he⟩ := Option.map_eq_some_iff.1 h
    cases he
    have named : k.name = name := by simpa using List.find?_some known
    exact .inr ⟨rfl, List.mem_of_find?_eq_some known, by rw [named]⟩
  | _ => cases h

theorem Looked.queue_eq {l : Look} (h : Looked s k l t) :
    t.queue = s.queue.filter (· != k.name) ++ (l.verdict.queued k).map (·.name) := by
  rw [queue, h.callers_eq, List.map_append, map_name_filter, queue]

/-- Whoever looks is in the queue, opens a connection or has its answer afterwards. -/
theorem count_verdict (p : Pool) (k : Caller) (place n : Nat) (v : Verdict) :
    ((v.queued k).map (·.name)).count n + ((v.begun k.name place).filterMap (·.caller)).count n +
      (((v.reply? p k.timeout).toList.map fun answer => (k.name, answer)).map (·.1)).count n =
        if n = k.name then 1 else 0 := by
  have once : [k.name].count n = if n = k.name then 1 else 0 := by
    rw [List.count_singleton]
    grind
  cases v <;> simpa [Verdict.queued, Verdict.begun, Verdict.reply?] using once

theorem located_step (h : Located s) (e : Event) : Located (s.step e) := by
  intro n
  have before := h n
  cases looks : s.looker? e with
  | some d =>
    obtain ⟨k, queued⟩ := d
    have looked := looked_step looks
    have calls_eq := calls_step_of_looker? looks
    have placed := count_verdict s.pool k s.reservations n
      (s.pool.look s.clock k.deadline queued).verdict
    rw [looked.queue_eq, openers, looked.openings_eq, answered, looked.answers_eq, calls_eq]
    simp only [List.count_append, List.filterMap_append, List.map_append,
      Ledger.count_filter_ne]
    change _ + (s.openers.count n + _) + (_ + s.answered.count n) = _
    rcases looker?_eq_some looks with ⟨rfl, first, -⟩ | ⟨rfl, blocked, -⟩
    · rw [first] at placed ⊢
      simp only [Bool.not_false, Bool.toNat_true]
      grind
    · have blocked : 0 < s.queue.count k.name := List.count_pos_iff.2 (List.mem_map_of_mem blocked)
      simp only [Bool.not_true, Bool.toNat_false]
      grind
  | none =>
    have unlooked := unlooked_step looks
    obtain ⟨told, -, answers_eq, openers_perm⟩ := unlooked.told
    have moved := openers_perm.count_eq n
    rw [List.count_append] at moved
    rw [queue_eq_of_hushed unlooked.callers_eq, unlooked.calls_eq, ← before, answered, answers_eq,
      List.map_append, List.count_append]
    change _ + (_ + s.answered.count n) = _
    omega

/-! ## Answers -/

/-- In this step the call gets this answer. -/
def Gives (s : PoolSystem) (e : Event) (name : Nat) (answer : Except Error Ticket) : Prop :=
  ∃ told, (s.step e).answers = told ++ s.answers ∧ (name, answer) ∈ told

/-- The stream that was to be opened for this call could not be, and that is what it is told. -/
def PassesOn (s : PoolSystem) (e : Event) (name : Nat) (cause : Error) : Prop :=
  ∃ index o, e = .dialed index (.error cause) ∧ s.openings[index]? = some o ∧
    o.connection = none ∧ o.caller = some name

variable {name : Nat} {answer : Except Error Ticket} {cause : Error}

theorem gives_iff_of_looker? (h : s.looker? e = some (k, queued)) :
    s.Gives e name answer ↔ name = k.name ∧
      (s.pool.look s.clock k.deadline queued).verdict.reply? s.pool k.timeout = some answer := by
  have answers_eq := (looked_step h).answers_eq
  rw [Gives, answers_eq]
  constructor
  · rintro ⟨told, same, given⟩
    obtain rfl := List.append_cancel_right same
    obtain ⟨reply, hr, same⟩ := List.mem_map.1 given
    cases same
    exact ⟨rfl, Option.mem_toList.1 hr⟩
  · rintro ⟨rfl, replied⟩
    exact ⟨_, rfl, by simp [replied]⟩

theorem gives_of_passesOn (h : s.PassesOn e name cause) : s.Gives e name (.error cause) := by
  obtain ⟨index, o, rfl, known, under, caller⟩ := h
  have attempted := attempted_dialed known under (.error cause)
  rw [Gives, step]
  generalize s.dialed index _ = t at attempted
  cases attempted
  exact ⟨_, answers_fail .., by simp [caller]⟩

/-- Where nobody looks, an error is passed on, or it says that the pool is closed or that a
connection could not prove itself. -/
theorem passesOn_of_gives (unlooked : s.looker? e = none) (h : s.Gives e name (.error cause)) :
    s.PassesOn e name cause ∨ (∃ user text, cause = .authentication user text) ∨
      cause = .poolClosed s.pool.address := by
  obtain ⟨told, answers_eq, given⟩ := h
  obtain ⟨told', source, answers_eq', -⟩ := (unlooked_step unlooked).told
  obtain rfl := List.append_cancel_right (answers_eq.symm.trans answers_eq')
  cases source with
  | nothing => cases given
  | @unopened index o _ known under =>
    obtain ⟨_, caller, same⟩ := List.mem_map.1 given
    cases same
    exact .inl ⟨index, o, rfl, known, under, Option.mem_toList.1 caller⟩
  | refused =>
    obtain ⟨_, -, same⟩ := List.mem_map.1 given
    cases same
    exact .inr (.inl ⟨_, _, rfl⟩)
  | abandoned =>
    obtain ⟨_, -, same⟩ := List.mem_map.1 given
    cases same
    exact .inr (.inr rfl)
  | lent =>
    obtain ⟨_, -, same⟩ := List.mem_map.1 given
    cases same

theorem exists_told_step (s : PoolSystem) (e : Event) :
    ∃ told, (s.step e).answers = told ++ s.answers := by
  cases looks : s.looker? e with
  | some d => exact ⟨_, (looked_step looks).answers_eq⟩
  | none =>
    obtain ⟨told, -, answers_eq, -⟩ := (unlooked_step looks).told
    exact ⟨told, answers_eq⟩

/-- A call has an answer from the step on in which it gets it. -/
theorem mem_answers_iff {events : List Event} : (name, answer) ∈ (s.run events).answers ↔
    (name, answer) ∈ s.answers ∨ ∃ earlier e later, events = earlier ++ e :: later ∧
      (s.run earlier).Gives e name answer := by
  induction events generalizing s with
  | nil => simp [run]
  | cons e events ih =>
    obtain ⟨told, answers_eq⟩ := s.exists_told_step e
    change (name, answer) ∈ ((s.step e).run events).answers ↔ _
    rw [ih, answers_eq, List.mem_append]
    constructor
    · rintro ((now | old) | ⟨earlier, e', later, rfl, gives⟩)
      · exact .inr ⟨[], e, events, rfl, told, answers_eq, now⟩
      · exact .inl old
      · exact .inr ⟨e :: earlier, e', later, rfl, gives⟩
    · rintro (old | ⟨earlier, e', later, split, gives⟩)
      · exact .inl (.inr old)
      · rcases List.cons_eq_append_iff.1 split with ⟨rfl, rest⟩ | ⟨earlier, rfl, rfl⟩
        · cases rest
          obtain ⟨told', answers_eq', now⟩ := gives
          obtain rfl := List.append_cancel_right (answers_eq.symm.trans answers_eq')
          exact .inl (.inl now)
        · exact .inr ⟨earlier, e', later, rfl, gives⟩

end

end PoolSystem

end ClusterClient

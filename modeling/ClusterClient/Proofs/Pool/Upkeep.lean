import ClusterClient.Proofs.Pool.Accounting
import ClusterClient.Proofs.Pool.Decisions

/-!
# Upkeep

A maintenance run ends when the pool has as many connections as it should. From then on every step
that gives connections up and leaves fewer asks for the next run, whoever makes it: a caller that
finds stale connections, a borrower, or whoever invalidates the pool. Only the start of a run takes
a request back, and what happens during the run is a new request. So as long as connections can be
opened there is no moment between two runs at which the pool is low and nobody has asked.

    the request after a step = the request before it, or the step asks for one       (tended_step)
    s.Stocked → (s.step e).Stocked                 if no attempt to connect fails     (stocked_step)
    s.Upkept                                       in each state of a pool             (upkept_run)
-/

namespace ClusterClient

/-! ## Requests -/

/-- Whether a caller asks for maintenance: it has discarded connections and left fewer than there
should be. -/
def Look.refills (l : Look) : Bool :=
  !l.discarded.isEmpty && decide (l.pool.total < l.pool.settings.minSize)

namespace Pool

/-- There are fewer connections than there should be. -/
def Low (p : Pool) : Prop := p.total < p.settings.minSize

variable {p : Pool}

theorem requested_requestRefill (p : Pool) : p.requestRefill.maintenanceRequested =
    (p.maintenanceRequested || decide (p.total < p.settings.minSize)) := by
  unfold requestRefill
  split
  · next low => simp [low]
  · next enough => simp [enough]

theorem total_requestRefill (p : Pool) : p.requestRefill.total = p.total ∧
    p.requestRefill.settings = p.settings := by
  unfold requestRefill
  split <;> exact ⟨rfl, rfl⟩

/-- What a caller leaves that does not go on waiting. -/
structure Leaves (p : Pool) (stale : List Idle) (p' : Pool) : Prop where
  total_eq : p'.total = p.total
  settings_eq : p'.settings = p.settings
  requested_eq : p'.maintenanceRequested = (p.maintenanceRequested ||
    (!stale.isEmpty && decide (p'.total < p'.settings.minSize)))

theorem leaves_noted (p : Pool) (queued : Bool) (stale : List Idle) : Leaves p stale
    (if stale.isEmpty then p.leaveQueue queued else (p.leaveQueue queued).requestRefill) := by
  rw [leaveQueue_eq]
  cases stale with
  | nil => exact ⟨rfl, rfl, (Bool.or_false _).symm⟩
  | cons i stale =>
    obtain ⟨total, settings⟩ := total_requestRefill
      { p with waiters := p.waiters - queued.toNat }
    refine ⟨total, settings, ?_⟩
    rw [if_neg (by simp), total, settings, requested_requestRefill]
    simp

/-- A look asks for maintenance or leaves the request as it is. -/
theorem requested_look (valid : p.settings.minSize ≤ p.settings.maxSize) (now deadline : Instant)
    (queued : Bool) : (p.look now deadline queued).pool.maintenanceRequested =
      (p.maintenanceRequested || (p.look now deadline queued).refills) := by
  unfold look
  split
  · rw [leaveQueue_eq]
    exact (Bool.or_false _).symm
  · simp only
    split
    · exact (leaves_noted ..).requested_eq
    · split
      · exact (leaves_noted ..).requested_eq
      · next full =>
        split
        · exact (leaves_noted ..).requested_eq
        · split
          · exact (leaves_noted ..).requested_eq
          · -- a pool that is full is not low, even if its stale connections are gone
            split
            · simp [Look.refills]
              omega
            · simp [Look.refills]
              omega

/-- After a look a pool is low only if it was before or the caller asks for maintenance. -/
theorem low_look {now deadline : Instant} {queued : Bool}
    (low : (p.look now deadline queued).pool.Low) :
    p.Low ∨ (p.look now deadline queued).refills = true := by
  have found := p.found_look now deadline queued
  cases discarded : (p.look now deadline queued).discarded with
  | nil =>
    left
    have total_eq := found.total_eq
    rw [discarded, List.length_nil] at total_eq
    unfold Low at low ⊢
    rw [found.settings_eq] at low
    omega
  | cons i rest =>
    right
    rw [Look.refills, discarded]
    exact decide_eq_true low

/-- Whether a borrower asks for maintenance with the connection that it gives back. -/
def giveBackRefills (p : Pool) (c : Connection) (generation : Nat) (now : Instant) : Bool :=
  let (kept, p') := p.giveBack c generation now
  !kept && !p'.closed && decide (p'.total < p'.settings.minSize)

theorem requested_giveBack (p : Pool) (c : Connection) (generation : Nat) (now : Instant) :
    (p.giveBack c generation now).2.maintenanceRequested =
      (p.maintenanceRequested || p.giveBackRefills c generation now) := by
  unfold giveBackRefills giveBack
  split
  · next isClosed => simp [vacate, isClosed]
  · next isOpen =>
    split
    · obtain ⟨total, settings⟩ := total_requestRefill p.vacate
      have isOpen : p.vacate.requestRefill.closed = false := by
        unfold requestRefill
        split <;> exact Bool.eq_false_iff.2 isOpen
      simp only [requested_requestRefill, total, settings, isOpen, Bool.not_false, Bool.true_and]
      rfl
    · exact (Bool.or_false _).symm

theorem low_giveBack {c : Connection} {generation : Nat} {now : Instant}
    (isOpen : (p.giveBack c generation now).2.closed = false)
    (low : (p.giveBack c generation now).2.Low) :
    p.Low ∨ p.giveBackRefills c generation now = true := by
  obtain ⟨-, -, -, given⟩ | ⟨-, requested, given⟩ := p.giveBack_cases c generation now
  · rw [given] at low
    exact .inl low
  · right
    rw [given] at isOpen low
    have isOpen : p.closed = false := isOpen
    rw [giveBackRefills, given]
    simpa [vacate, isOpen, Low] using low

theorem requested_invalidate (p : Pool) : p.invalidate.2.maintenanceRequested =
    (p.maintenanceRequested ||
      decide (p.invalidate.2.total < p.invalidate.2.settings.minSize)) := by
  obtain ⟨total, settings⟩ := total_requestRefill { p with
    generation := p.generation + 1, idle := [], total := p.total - p.idle.length }
  rw [invalidate, requested_requestRefill, total, settings]

end Pool

namespace PoolSystem

variable {s t : PoolSystem} {e : Event}

/-- Whether a step gives connections up, leaves fewer than there should be, and so asks for
maintenance and notifies it. -/
def refills (s : PoolSystem) : Event → Bool
  | .call timeout => (s.pool.look s.clock ⟨s.clock.nanos + timeout.nanos⟩ false).refills
  | .recheck name => (s.callers.find? (·.name == name)).any fun caller =>
      (s.pool.look s.clock caller.deadline true).refills
  | .giveBack borrower => (s.loan? borrower).any fun l =>
      s.pool.giveBackRefills l.connection l.generation s.clock
  | .invalidate => decide (s.pool.invalidate.2.total < s.pool.invalidate.2.settings.minSize)
  | _ => false

/-! ## Steps -/

/-- The attempt to connect that ends with this event, if one does, has succeeded. -/
def Connects (s : PoolSystem) : Event → Prop
  | .dialed index stream => ∀ o, s.openings[index]? = some o → o.connection = none →
      ∃ c, s.attempt o stream = .established c
  | _ => True

/-- What a step does for the upkeep of the pool. -/
inductive Tended (s : PoolSystem) (e : Event) (t : PoolSystem) : Prop where
  | goesOn (maintenance : t.maintenance = s.maintenance) (runs : t.runs = s.runs)
      (requested : t.pool.maintenanceRequested = (s.pool.maintenanceRequested || s.refills e))
      (low : t.pool.closed = false → t.pool.Low → s.pool.Low ∨ s.refills e = true)
  | begins (start : e = .prune) (due : s.maintenanceDue = true)
      (maintenance : t.maintenance = .filling) (quiet : t.pool.maintenanceRequested = false)
  | works (maintenance : t.maintenance = .filling ∨ t.maintenance = .opening)
      (requested : t.pool.maintenanceRequested = s.pool.maintenanceRequested)
  | rests (requested : t.pool.maintenanceRequested = s.pool.maintenanceRequested)
      (filled : t.pool.closed = false → ¬t.pool.Low) (due : Instant)
      (maintenance : t.maintenance = .waiting due)
  | shuts (closed : t.pool.closed = true)
      (first : t.maintenance = .starting → s.maintenance = .starting ∧ t.runs = s.runs)
      (requested : t.pool.maintenanceRequested = s.pool.maintenanceRequested)
  | fails (failed : ¬s.Connects e)
      (requested : t.pool.maintenanceRequested = s.pool.maintenanceRequested)

theorem tended_same (pool : t.pool = s.pool) (maintenance : t.maintenance = s.maintenance)
    (runs : t.runs = s.runs) (nobody : s.refills e = false) : Tended s e t :=
  .goesOn maintenance runs (by rw [pool, nobody, Bool.or_false]) fun _ low => .inl (pool ▸ low)

theorem maintenance_look (s : PoolSystem) (caller : Caller) (queued : Bool) :
    (s.look caller queued).maintenance = s.maintenance ∧
      (s.look caller queued).runs = s.runs := by
  simp only [look]
  split <;> exact ⟨rfl, rfl⟩

theorem tended_look (valid : s.pool.settings.minSize ≤ s.pool.settings.maxSize) (s' : PoolSystem)
    (same : s'.pool = s.pool ∧ s'.clock = s.clock ∧ s'.maintenance = s.maintenance ∧
      s'.runs = s.runs) (caller : Caller) (queued : Bool)
    (asks : s.refills e = (s.pool.look s.clock caller.deadline queued).refills) :
    Tended s e (s'.look caller queued) := by
  obtain ⟨pool, clock, maintenance, runs⟩ := same
  have kept := s'.maintenance_look caller queued
  refine .goesOn (kept.1.trans maintenance) (kept.2.trans runs) ?_ fun _ low => ?_
  · rw [pool_look, pool, clock, asks]
    exact Pool.requested_look valid ..
  · rw [pool_look, pool, clock] at low
    rw [asks]
    exact Pool.low_look low

theorem tended_dialed (s : PoolSystem) (index : Nat) (stream : Except Error Link) :
    Tended s (.dialed index stream) (s.dialed index stream) := by
  unfold dialed
  split
  · next known =>
    simp only
    split
    · exact tended_same rfl rfl rfl rfl
    · next failed =>
      refine .fails (fun connects => ?_) ?_
      · obtain ⟨c, established⟩ := connects _ known rfl
        rw [attempt, failed] at established
        cases established
      · rw [pool_fail]
        rfl
  · exact tended_same rfl rfl rfl rfl

theorem tended_settle (s : PoolSystem) (index : Nat) :
    Tended s (.settle index) (s.settle index) := by
  have stepped := s.stepped_settle index
  generalize s.settle index = t at stepped
  cases stepped with
  | nothing => exact tended_same rfl rfl rfl rfl
  | settled known done settled =>
    cases settled with
    | abandoned isClosed =>
      refine .shuts ?_ ?_ ?_
      · rw [pool_fail]
        exact isClosed
      · rename_i o _
        cases o.caller with
        | none =>
          intro first
          cases first
        | some name => exact fun first => ⟨first, rfl⟩
      · rw [pool_fail]
        rfl
    | lent => exact tended_same rfl rfl rfl rfl
    | filed => exact .works (.inl rfl) rfl

theorem tended_giveBack (s : PoolSystem) (borrower : Nat) :
    Tended s (.giveBack borrower) (s.giveBack borrower) := by
  cases loan : s.loan? borrower with
  | none =>
    rw [giveBack, loan]
    exact tended_same rfl rfl rfl (by rw [refills, loan]; rfl)
  | some l =>
    have asks : s.refills (.giveBack borrower) =
        s.pool.giveBackRefills l.connection l.generation s.clock := by
      rw [refills, loan]
      rfl
    have pool_eq : (s.giveBack borrower).pool =
        (s.pool.giveBack l.connection l.generation s.clock).2 := by
      rw [giveBack, loan]
      simp only
      split <;> rfl
    have kept : (s.giveBack borrower).maintenance = s.maintenance ∧
        (s.giveBack borrower).runs = s.runs := by
      rw [giveBack, loan]
      simp only
      split <;> exact ⟨rfl, rfl⟩
    refine .goesOn kept.1 kept.2 ?_ fun isOpen low => ?_
    · rw [pool_eq, asks]
      exact Pool.requested_giveBack ..
    · rw [pool_eq] at isOpen low
      rw [asks]
      exact Pool.low_giveBack isOpen low

theorem tended_prune (s : PoolSystem) : Tended s .prune s.prune := by
  have stepped := s.stepped_prune
  generalize s.prune = t at stepped
  cases stepped with
  | nothing => exact tended_same rfl rfl rfl rfl
  | ended due isClosed => exact .shuts isClosed (fun first => by cases first) rfl
  | pruned due => exact .begins rfl due rfl rfl

theorem tended_refill (s : PoolSystem) : Tended s .refill s.refill := by
  have stepped := s.stepped_refill
  generalize s.refill = t at stepped
  cases stepped with
  | nothing => exact tended_same rfl rfl rfl rfl
  | rested filling filled =>
    refine .rests rfl (fun isOpen low => ?_) _ rfl
    have isOpen : s.pool.closed = false := isOpen
    have low : s.pool.total < s.pool.settings.minSize := low
    simp only [Pool.isFilled, isOpen, Bool.false_or, decide_eq_true_eq] at filled
    omega
  | reserved filling low => exact .works (.inr rfl) rfl

theorem tended_step (valid : s.pool.settings.minSize ≤ s.pool.settings.maxSize) (e : Event) :
    Tended s e (s.step e) := by
  cases e with
  | call timeout =>
    exact tended_look valid { s with calls := s.calls + 1 } ⟨rfl, rfl, rfl, rfl⟩
      { name := s.calls, timeout, deadline := ⟨s.clock.nanos + timeout.nanos⟩ } false rfl
  | recheck name =>
    simp only [step, recheck]
    split
    · next caller known =>
      exact tended_look valid s ⟨rfl, rfl, rfl, rfl⟩ caller true
        (by rw [refills, known]; rfl)
    · next unknown => exact tended_same rfl rfl rfl (by rw [refills, unknown]; rfl)
  | dialed index stream => exact s.tended_dialed index stream
  | settle index => exact s.tended_settle index
  | use borrower usage =>
    simp only [step, use]
    split <;> exact tended_same rfl rfl rfl rfl
  | giveBack borrower => exact s.tended_giveBack borrower
  | invalidate =>
    exact .goesOn rfl rfl s.pool.requested_invalidate fun _ low => .inr (decide_eq_true low)
  | close =>
    simp only [step, close]
    split
    · exact tended_same rfl rfl rfl rfl
    · next isOpen =>
      rw [Pool.close, if_neg isOpen]
      exact .shuts rfl (fun first => ⟨first, rfl⟩) rfl
  | shutFirst =>
    simp only [step, shutFirst]
    split <;> exact tended_same rfl rfl rfl rfl
  | notify pick =>
    have stepped := s.stepped_notify pick
    simp only [step]
    generalize s.notify pick = t at stepped
    cases stepped <;> exact tended_same rfl rfl rfl rfl
  | prune => exact s.tended_prune
  | refill => exact s.tended_refill
  | tick elapsed => exact tended_same rfl rfl rfl rfl

/-! ## Runs -/

/-- Every attempt to connect that ends in the events has succeeded. -/
def ConnectsThrough (s : PoolSystem) : List Event → Prop
  | [] => True
  | e :: events => s.Connects e ∧ (s.step e).ConnectsThrough events

/-- As long as no run is going on, an open pool that is low has asked for one. -/
structure Stocked (s : PoolSystem) : Prop where
  asked : ∀ due, s.maintenance = .waiting due → s.pool.closed = false → s.pool.Low →
    s.pool.maintenanceRequested = true
  needed : s.maintenance = .off → s.pool.closed = false → s.pool.settings.minSize = 0
  first : s.maintenance = .starting → s.runs = 0

theorem stocked_step (h : Stocked s) (balanced : s.ledger.Balanced) (connects : s.Connects e) :
    Stocked (s.step e) := by
  have settings : (s.step e).pool.settings = s.pool.settings :=
    (Ledger.balanced_of_moves balanced (s.moves_step e)).2
  have isOpen_before (isOpen : (s.step e).pool.closed = false) : s.pool.closed = false := by
    refine Bool.eq_false_iff.2 fun isClosed => ?_
    have still : (s.step e).pool.closed = true :=
      Ledger.closed_of_moves (s.moves_step e) isClosed
    rw [still] at isOpen
    cases isOpen
  have tended := tended_step balanced.minSize_le e
  generalize s.step e = t at settings isOpen_before tended
  cases tended with
  | goesOn maintenance runs requested low =>
    refine ⟨fun due waiting isOpen isLow => ?_, fun off isOpen => ?_, fun first => ?_⟩
    · rw [requested, Bool.or_eq_true]
      refine (low isOpen isLow).imp_left fun isLow => ?_
      exact h.asked due (maintenance ▸ waiting) (isOpen_before isOpen) isLow
    · rw [settings]
      exact h.needed (maintenance ▸ off) (isOpen_before isOpen)
    · exact runs.trans (h.first (maintenance ▸ first))
  | begins start due maintenance =>
    exact ⟨by simp [maintenance], by simp [maintenance], by simp [maintenance]⟩
  | works maintenance =>
    rcases maintenance with maintenance | maintenance <;>
      exact ⟨by simp [maintenance], by simp [maintenance], by simp [maintenance]⟩
  | rests requested filled due maintenance =>
    refine ⟨fun _ _ isOpen isLow => absurd isLow (filled isOpen), ?_, ?_⟩
    · simp [maintenance]
    · simp [maintenance]
  | shuts closed first requested =>
    refine ⟨fun _ _ isOpen => ?_, fun _ isOpen => ?_, fun starting => ?_⟩
    · rw [closed] at isOpen
      cases isOpen
    · rw [closed] at isOpen
      cases isOpen
    · exact (first starting).2.trans (h.first (first starting).1)
  | fails failed => exact absurd connects failed

theorem stocked_run (h : Stocked s) (balanced : s.ledger.Balanced) {events : List Event}
    (connects : s.ConnectsThrough events) : Stocked (s.run events) := by
  induction events generalizing s with
  | nil => exact h
  | cons e events ih =>
    have balanced_next := (Ledger.balanced_of_moves balanced (s.moves_step e)).1
    exact ih (stocked_step h balanced connects.1) balanced_next connects.2

theorem stocked_fresh (address : Address) (settings : PoolSettings) (dialer : Dialer)
    (clock : Instant) : Stocked (fresh address settings dialer clock) := by
  unfold fresh
  cases needs : settings.needsMaintenance with
  | true => exact ⟨fun _ h => by simp at h, fun h => by simp at h, fun _ => rfl⟩
  | false =>
    refine ⟨fun _ h => by simp at h, fun _ _ => ?_, fun h => by simp at h⟩
    simp only [PoolSettings.needsMaintenance, Bool.or_eq_false_iff,
      decide_eq_false_iff_not] at needs
    exact Nat.eq_zero_of_not_pos needs.1.1

/-! ## All states -/

/-- How a pool is kept up. -/
structure Upkept (s : PoolSystem) : Prop where
  /-- Once the first run is over, a pool that is low between two runs has asked for the next one, so
  that it is due now and not only when the time has come. -/
  asked : s.pool.closed = false → 1 ≤ s.runs → s.maintenance ≠ .filling →
    s.maintenance ≠ .opening → s.pool.total < s.pool.settings.minSize →
    s.pool.maintenanceRequested = true ∧ s.maintenanceDue = true ∧
      (s.step .prune).maintenance = .filling
  /-- Whoever asks for a run notifies maintenance, too. -/
  raised : ∀ e, s.pool.maintenanceRequested = false →
    (s.step e).pool.maintenanceRequested = true → s.refills e = true
  /-- A request is taken back by the start of a run and by nothing else. -/
  cleared : ∀ e, s.pool.maintenanceRequested = true →
    (s.step e).pool.maintenanceRequested = false →
    e = .prune ∧ s.maintenanceDue = true ∧ (s.step e).maintenance = .filling

theorem Stocked.waiting (h : Stocked s) (isOpen : s.pool.closed = false) (runs : 1 ≤ s.runs)
    (notFilling : s.maintenance ≠ .filling) (notOpening : s.maintenance ≠ .opening)
    (low : s.pool.Low) : ∃ due, s.maintenance = .waiting due := by
  cases maintenance : s.maintenance with
  | waiting due => exact ⟨due, rfl⟩
  | filling => exact absurd maintenance notFilling
  | opening => exact absurd maintenance notOpening
  | off =>
    have none_needed := h.needed maintenance isOpen
    unfold Pool.Low at low
    omega
  | starting =>
    have none_ended := h.first maintenance
    omega

theorem upkept_of_stocked (h : Stocked s)
    (valid : s.pool.settings.minSize ≤ s.pool.settings.maxSize) : Upkept s := by
  refine ⟨fun isOpen runs notFilling notOpening low => ?_, fun e quiet asked => ?_,
    fun e asked quiet => ?_⟩
  · obtain ⟨due, waiting⟩ := h.waiting isOpen runs notFilling notOpening low
    have requested := h.asked due waiting isOpen low
    have isDue : s.maintenanceDue = true := by simp [maintenanceDue, waiting, requested]
    refine ⟨requested, isDue, ?_⟩
    simp [step, prune, beginRun, isDue, isOpen, dismiss]
  · have tended := tended_step valid e
    generalize s.step e = t at asked tended
    cases tended with
    | goesOn maintenance runs requested =>
      rw [requested, quiet, Bool.false_or] at asked
      exact asked
    | begins start due maintenance cleared =>
      rw [cleared] at asked
      cases asked
    | works _ requested | rests requested | shuts _ _ requested | fails _ requested =>
      rw [requested, quiet] at asked
      cases asked
  · have tended := tended_step valid e
    generalize s.step e = t at quiet tended
    cases tended with
    | begins start due maintenance => exact ⟨start, due, maintenance⟩
    | goesOn maintenance runs requested =>
      rw [requested, asked, Bool.true_or] at quiet
      cases quiet
    | works _ requested | rests requested | shuts _ _ requested | fails _ requested =>
      rw [requested, asked] at quiet
      cases quiet

theorem upkept_run {address : Address} {settings : PoolSettings} {dialer : Dialer}
    {clock : Instant} {s : PoolSystem} (h : create address settings dialer clock = .ok s)
    {events : List Event} (connects : s.ConnectsThrough events) : Upkept (s.run events) := by
  have balanced := balanced_create h
  obtain ⟨-, rfl⟩ := exists_fresh_of_create h
  have stocked := stocked_run (stocked_fresh ..) balanced connects
  have valid := (Ledger.balanced_of_moves balanced (moves_run _ events)).1.minSize_le
  exact upkept_of_stocked stocked valid

/-- The only connection comes back closed, and maintenance is due again. -/
theorem upkept_run_broken :
    let settings : PoolSettings := { minSize := 1, maxSize := 2 }
    let s := fresh .localhost settings {} .zero
    let events : List Event := [.prune, .refill, .dialed 0 (.ok {}), .settle 0, .refill,
      .call .zero, .use 0 .close, .giveBack 0]
    create .localhost settings {} .zero = .ok s ∧ s.ConnectsThrough events ∧
      (s.run events).runs = 1 ∧ (s.run events).pool.total = 0 ∧
      (s.run events).pool.maintenanceRequested = true ∧ Upkept (s.run events) := by
  intro settings s events
  have created : create .localhost settings {} .zero = .ok s := rfl
  have connects : s.ConnectsThrough events :=
    ⟨trivial, trivial, fun _ _ _ => ⟨_, rfl⟩, trivial, trivial, trivial, trivial, trivial, trivial⟩
  have upkept := upkept_run created connects
  have total : (s.run events).pool.total = 0 := by decide +kernel
  have runs : (s.run events).runs = 1 := by decide +kernel
  have notFilling : (s.run events).maintenance ≠ .filling := by decide +kernel
  have notOpening : (s.run events).maintenance ≠ .opening := by decide +kernel
  have isOpen : (s.run events).pool.closed = false := by decide +kernel
  have low : (s.run events).pool.total < (s.run events).pool.settings.minSize := by decide +kernel
  have asked := upkept.asked isOpen (Nat.le_of_eq runs.symm) notFilling notOpening low
  exact ⟨created, connects, runs, total, asked.1, upkept⟩

end PoolSystem

end ClusterClient

import ClusterClient.Pool.Session
import ClusterClient.Proofs.Pool.Barrier
import ClusterClient.Proofs.Pool.Solo

/-!
# Maintenance runs

A run removes the stale idle connections and then opens new ones until there are as many as there
should be, or until one of them cannot be opened. If nobody interferes, all that it has done by the
end of each attempt is known from the state in which it began and from what came of the attempts.
That gives the state in which it stops, and that it stops.

    total = max (total without the stale ones) minSize, or the last attempt failed
                                                                        (exists_maintained_maintain)
    nothing is opened in a pool that is closed                                      (idled_maintain)
-/

namespace ClusterClient

/-- When the first `n` attempts are over. -/
def Attempts.finish (attempts : Attempts) (start : Instant) : Nat → Instant
  | 0 => start
  | n + 1 => ⟨(attempts.finish start n).nanos + (attempts n).1.nanos⟩

namespace PoolSystem

/-! ## States of a run -/

/-- The idle connections that a run removes. -/
def stale (s : PoolSystem) : List Idle := s.pool.idle.filter (s.pool.isStale s.clock)

/-- The total without them. -/
def kept (s : PoolSystem) : Nat := s.pool.total - s.stale.length

/-- The attempt `n` of a run that began in the state `s`, with these buffers. -/
def dialNext (s : PoolSystem) (attempts : Attempts) (n : Nat) (buffers : Recycler) :
    Dialed × Recycler :=
  s.dialer.dial s.pool.address (s.pool.lastId + .ofNat (n + 1)) (attempts.finish s.clock (n + 1))
    ((attempts n).2.map fun link =>
      { link with serial := s.streams + n, place := s.reservations + n }) buffers

/-- The buffers that the first `n` attempts leave, if all but the last of them succeed. -/
def buffersAfter (s : PoolSystem) (attempts : Attempts) : Nat → Recycler
  | 0 => s.buffers
  | n + 1 => (s.dialNext attempts n (s.buffersAfter attempts n)).2

/-- What comes of the attempt `n`, if all before it succeed. -/
def outcome (s : PoolSystem) (attempts : Attempts) (n : Nat) : Dialed :=
  (s.dialNext attempts n (s.buffersAfter attempts n)).1

/-- A run that began in the state `s` has made that many attempts. It has got the connections
`news`, the latest first, and at most one that was `rejected`. -/
def reached (s : PoolSystem) (attempts : Attempts) (news : List Idle) (tried : Nat)
    (rejected : Option Connection) : PoolSystem :=
  { s with
    pool := { s.pool with
      idle := news ++ s.pool.lendable s.clock
      total := s.kept + news.length
      lastId := s.pool.lastId + .ofNat tried
      maintenanceRequested := false }
    maintenance := .filling
    buffers := s.buffersAfter attempts tried
    clock := attempts.finish s.clock tried
    leaving := s.leaving ++ s.stale.map (·.connection)
    shut := s.shut ++ rejected.toList
    owed := s.owed ++ .replicate tried .one
    reservations := s.reservations + tried
    streams := s.streams + news.length + rejected.toList.length }

/-- All attempts have succeeded so far, and the next one is about to begin. -/
abbrev filling (s : PoolSystem) (attempts : Attempts) (news : List Idle) : PoolSystem :=
  s.reached attempts news news.length none

/-- The opening for the attempt `n` of a run that began in the state `s`. -/
def nextOpening (s : PoolSystem) (n : Nat) : Opening where
  id := s.pool.lastId + .ofNat (n + 1)
  generation := s.pool.generation
  place := s.reservations + n
  caller := none

/-- The next attempt is about to end. -/
def trying (s : PoolSystem) (attempts : Attempts) (news : List Idle) : PoolSystem :=
  { s.filling attempts news with
    pool := { (s.filling attempts news).pool with
      total := s.kept + news.length + 1
      lastId := s.pool.lastId + .ofNat (news.length + 1) }
    maintenance := .opening
    openings := s.openings ++ [s.nextOpening news.length]
    reservations := s.reservations + (news.length + 1)
    clock := attempts.finish s.clock (news.length + 1) }

/-- It has succeeded. -/
def succeeded (s : PoolSystem) (attempts : Attempts) (news : List Idle) (c : Connection) :
    PoolSystem :=
  { s.trying attempts news with
    openings := s.openings ++ [{ s.nextOpening news.length with connection := some c }]
    buffers := s.buffersAfter attempts (news.length + 1)
    streams := s.streams + (news.length + 1) }

/-- The connection `c` that the attempt `n` has brought, as it is put among the idle ones. -/
def brought (s : PoolSystem) (attempts : Attempts) (n : Nat) (c : Connection) : Idle where
  connection := c
  generation := s.pool.generation
  lastUsed := attempts.finish s.clock (n + 1)

section

variable {s t : PoolSystem} {attempts : Attempts} {news : List Idle} {tried n : Nat}
  {rejected : Option Connection} {c : Connection} {o : Opening} {openings : List Opening}
  {events : List Event}

theorem beginRun_eq_filling (s : PoolSystem) (attempts : Attempts) :
    s.beginRun = s.filling attempts [] := by
  have lastId_eq : s.pool.lastId + .ofNat 0 = s.pool.lastId := UInt32.add_zero _
  have shut_eq : s.shut ++ [] = s.shut := List.append_nil _
  have owed_eq : s.owed ++ [] = s.owed := List.append_nil _
  rw [filling, reached, List.length_nil, lastId_eq, Option.toList_none, shut_eq,
    List.replicate_zero, owed_eq]
  rfl

theorem isFilled_reached (isOpen : s.pool.closed = false) :
    (s.reached attempts news tried rejected).pool.isFilled = true ↔
      s.pool.settings.minSize ≤ s.kept + news.length := by
  have isOpen : (s.reached attempts news tried rejected).pool.closed = false := isOpen
  rw [Pool.isFilled, isOpen, Bool.false_or, decide_eq_true_iff]
  rfl

theorem owed_append_replicate (owed : List Notice) (n : Nat) :
    owed ++ .replicate n .one ++ [.one] = owed ++ .replicate (n + 1) .one := by
  rw [List.append_assoc, ← List.replicate_succ']

/-! ## One attempt -/

theorem refill_of_filled (filling : s.maintenance = .filling) (filled : s.pool.isFilled = true) :
    s.refill = s.rest := by
  rw [refill, filling]
  exact if_pos filled

theorem tick_refill_filling (isOpen : s.pool.closed = false)
    (low : s.kept + news.length < s.pool.settings.minSize) (attempts : Attempts) :
    ((s.filling attempts news).step .refill).step (.tick (attempts news.length).1) =
      s.trying attempts news := by
  have unfilled : ¬(s.filling attempts news).pool.isFilled = true := fun filled =>
    Nat.not_le.2 low ((isFilled_reached isOpen).1 filled)
  have lastId_eq : s.pool.lastId + .ofNat news.length + 1 =
      s.pool.lastId + .ofNat (news.length + 1) := by
    rw [UInt32.ofNat_add, ← UInt32.add_assoc]
    rfl
  simp only [step, refill, show (s.filling attempts news).maintenance = .filling from rfl]
  rw [if_neg unfilled]
  simp only [reached, trying, nextOpening, beginOpening, tick, Pool.reserve, lastId_eq]
  rfl

theorem getElem?_trying :
    (s.trying attempts news).openings[s.openings.length]? = some (s.nextOpening news.length) :=
  List.getElem?_concat_length

/-- How many streams were opened in an attempt. -/
def streamsOf : Dialed → Nat
  | .established _ => 1
  | .failed _ rejected => rejected.toList.length

/-- What an attempt to connect leaves behind, whatever comes of it. -/
theorem left_dialed {index : Nat} (known : s.openings[index]? = some o)
    (under : o.connection = none) (stream : Except Error Link) :
    (s.dialed index stream).buffers = (s.dialer.dial s.pool.address o.id s.clock
      (stream.map fun link => { link with serial := s.streams, place := o.place }) s.buffers).2 ∧
    (s.dialed index stream).streams = s.streams + streamsOf (s.attempt o stream) := by
  obtain ⟨id, generation, place, caller, connection⟩ := o
  obtain rfl : connection = none := under
  have ended := s.dialer.ended_dial s.pool.address id s.clock
    (stream.map fun link => { link with serial := s.streams, place }) s.buffers
  unfold dialed attempt
  rw [known]
  simp only
  generalize (stream.map fun link : Link => { link with serial := s.streams, place }) = stream
    at ended ⊢
  generalize s.dialer.dial s.pool.address id s.clock stream s.buffers = result at ended ⊢
  obtain ⟨result, buffers⟩ := result
  cases ended with
  | established => exact ⟨rfl, rfl⟩
  | rejected | unopened => cases caller <;> exact ⟨rfl, rfl⟩

/-- How the attempt to connect ends. -/
theorem dialed_trying (s : PoolSystem) (attempts : Attempts) (news : List Idle) :
    (s.trying attempts news).dialed s.openings.length (attempts news.length).2 =
      match s.outcome attempts news.length with
      | .established c => s.succeeded attempts news c
      | .failed _ rejected => (s.reached attempts news (news.length + 1) rejected).rest := by
  have openings_eq : (s.trying attempts news).openings =
      s.openings ++ [s.nextOpening news.length] := rfl
  have attempt_eq : (s.trying attempts news).attempt (s.nextOpening news.length)
      (attempts news.length).2 = s.outcome attempts news.length := rfl
  obtain ⟨left_buffers, left_streams⟩ :=
    left_dialed getElem?_trying rfl (attempts news.length).2
  rw [attempt_eq] at left_streams
  change _ = s.buffersAfter attempts (news.length + 1) at left_buffers
  change _ = s.streams + news.length + _ at left_streams
  rcases dialed_cases getElem?_trying rfl (attempts news.length).2 with
    ⟨c, buffers, streams, established, dialed⟩ |
      ⟨cause, rejected, buffers, streams, failed, dialed⟩
  · rw [attempt_eq] at established
    rw [dialed, established] at left_streams
    rw [dialed] at left_buffers
    obtain rfl : buffers = _ := left_buffers
    obtain rfl : streams = _ := left_streams
    rw [dialed, established, openings_eq, set_concat]
    rfl
  · rw [attempt_eq] at failed
    have shut_eq : (s.trying attempts news).shut = s.shut := List.append_nil _
    rw [dialed, failed] at left_streams
    rw [dialed] at left_buffers
    obtain rfl : buffers = _ := left_buffers
    obtain rfl : streams = _ := left_streams
    rw [dialed, failed, openings_eq, eraseIdx_concat, shut_eq]
    simp only [fail, rest, owe, reached, trying, owed_append_replicate]
    rfl

/-- A connection that was established is put among the idle ones. -/
theorem settle_succeeded (isOpen : s.pool.closed = false) (c : Connection) :
    (s.succeeded attempts news c).settle s.openings.length =
      s.filling attempts (s.brought attempts news.length c :: news) := by
  have known : (s.succeeded attempts news c).openings[s.openings.length]? =
    some { s.nextOpening news.length with connection := some c } := List.getElem?_concat_length
  have isOpen : ¬(s.succeeded attempts news c).pool.closed = true := Bool.eq_false_iff.1 isOpen
  have openings_eq : (s.succeeded attempts news c).openings =
    s.openings ++ [{ s.nextOpening news.length with connection := some c }] := rfl
  rw [settle, known]
  simp only [nextOpening]
  rw [if_neg isOpen, openings_eq, eraseIdx_concat]
  simp only [owe, reached, succeeded, trying, List.length_cons, owed_append_replicate]
  rfl

theorem settle_rest_reached : (s.reached attempts news tried rejected).rest.settle
    s.openings.length = (s.reached attempts news tried rejected).rest := by
  have none : (s.reached attempts news tried rejected).rest.openings[s.openings.length]? = none :=
    List.getElem?_eq_none (Nat.le_refl _)
  rw [settle, none]

/-- Where an attempt leads to. -/
theorem settle_dialed_trying (isOpen : s.pool.closed = false) (attempts : Attempts)
    (news : List Idle) : ((s.trying attempts news).dialed s.openings.length
      (attempts news.length).2).settle s.openings.length =
      match s.outcome attempts news.length with
      | .established c => s.filling attempts (s.brought attempts news.length c :: news)
      | .failed _ rejected => (s.reached attempts news (news.length + 1) rejected).rest := by
  rw [dialed_trying]
  split
  · exact settle_succeeded isOpen _
  · exact settle_rest_reached

/-! ## One connection at a time -/

/-- At most one connection is being opened besides those in `openings`, and maintenance opens it. -/
def Single (openings : List Opening) (t : PoolSystem) : Prop :=
  t.openings = openings ∨ ∃ o, o.caller = none ∧ t.openings = openings ++ [o]

/-- The events lead from `s` to `t`, and at most one connection is being opened at a time. -/
structure Singly (openings : List Opening) (s : PoolSystem) (events : List Event)
    (t : PoolSystem) : Prop where
  run_eq : s.run events = t
  single : ∀ earlier, earlier <+: events → Single openings (s.run earlier)

theorem Singly.refl (single : Single openings s) : Singly openings s [] s where
  run_eq := rfl
  single earlier early := by
    rw [List.prefix_nil.1 early]
    exact single

theorem Singly.concat (h : Singly openings s events t) (e : Event)
    (single : Single openings (t.step e)) : Singly openings s (events ++ [e]) (t.step e) where
  run_eq := by rw [run_append, h.run_eq]; rfl
  single earlier early := by
    rcases List.prefix_concat_iff.1 early with rfl | early
    · rw [run_append, h.run_eq]
      exact single
    · exact h.single earlier early

theorem Singly.last (h : Singly openings s events t) : Single openings t :=
  h.run_eq ▸ h.single events (List.prefix_refl events)

theorem Singly.shutAll_notifyAll (h : Singly openings s events t) :
    ∃ more, Singly openings s more t.shutAll.notifyAll := by
  have aside {e : Event} (openings_eq : ∀ u : PoolSystem, (u.step e).openings = u.openings)
      (u : PoolSystem) (reached : ∃ more, Singly openings s more u) :
      ∃ more, Singly openings s more (u.step e) := by
    obtain ⟨more, reached⟩ := reached
    have single : Single openings (u.step e) := by
      rw [Single, openings_eq]
      exact reached.last
    exact ⟨more ++ [e], reached.concat e single⟩
  exact shutAll_notifyAll_induction (aside fun u => (rests_shutFirst u).openings_eq)
    (aside fun u => (rests_notify u 0).openings_eq) ⟨events, h⟩

/-- The steps of an attempt. -/
theorem Singly.attempt (isOpen : s.pool.closed = false)
    (low : s.kept + news.length < s.pool.settings.minSize) {b : PoolSystem}
    (h : Singly s.openings b events (s.filling attempts news)) :
    ∃ more, Singly s.openings b more (((s.trying attempts news).dialed s.openings.length
      (attempts news.length).2).settle s.openings.length) := by
  have tick_eq := tick_refill_filling isOpen low attempts
  have trying : Single s.openings (s.trying attempts news) :=
    .inr ⟨s.nextOpening news.length, rfl, rfl⟩
  have dialed : Single s.openings
      ((s.trying attempts news).dialed s.openings.length (attempts news.length).2) := by
    rw [dialed_trying]
    split
    · exact .inr ⟨_, rfl, rfl⟩
    · exact .inl rfl
  have settled : Single s.openings (((s.trying attempts news).dialed s.openings.length
      (attempts news.length).2).settle s.openings.length) := by
    rw [settle_dialed_trying isOpen]
    split <;> exact .inl rfl
  rw [← tick_eq] at trying
  have reached := (h.concat .refill trying).concat (.tick (attempts news.length).1) trying
  rw [tick_eq] at reached
  exact ⟨_, (reached.concat (.dialed _ _) dialed).concat (.settle _) settled⟩

/-! ## All attempts -/

/-- The attempts of a run that began in the state `s` are over. That many connections were opened,
and that many attempts were made. -/
inductive Ending (s : PoolSystem) (attempts : Attempts) (opened : Nat) :
    Nat → Option Connection → Except Error Unit → Prop where
  | filled (total_eq : s.kept + opened = max s.kept s.pool.settings.minSize) :
      Ending s attempts opened opened none (.ok ())
  | failed {cause : Error} {rejected : Option Connection}
      (low : s.kept + opened < s.pool.settings.minSize)
      (failed : s.outcome attempts opened = .failed cause rejected) :
      Ending s attempts opened (opened + 1) rejected (.error cause)

/-- What is true of the attempts that have succeeded. -/
structure Progress (s : PoolSystem) (attempts : Attempts) (news : List Idle) : Prop where
  brought : ∀ n i, news.reverse[n]? = some i →
    ∃ c, s.outcome attempts n = .established c ∧ i = s.brought attempts n c
  total_le : s.kept + news.length ≤ max s.kept s.pool.settings.minSize

theorem Progress.cons (h : Progress s attempts news)
    (established : s.outcome attempts news.length = .established c)
    (low : s.kept + news.length < s.pool.settings.minSize) :
    Progress s attempts (s.brought attempts news.length c :: news) where
  brought n i known := by
    rw [List.reverse_cons] at known
    by_cases earlier : n < news.reverse.length
    · rw [List.getElem?_append_left earlier] at known
      exact h.brought n i known
    · rw [List.getElem?_append_right (Nat.not_lt.1 earlier), List.getElem?_singleton] at known
      rw [List.length_reverse] at known earlier
      split at known
      · next last =>
        cases known
        obtain rfl : n = news.length := by omega
        exact ⟨c, established, rfl⟩
      · cases known
  total_le := by
    rw [List.length_cons]
    omega

/-- The attempts are over, and the run rests. -/
structure Stopped (s : PoolSystem) (attempts : Attempts) (news : List Idle) (tried : Nat)
    (rejected : Option Connection) (result : Except Error Unit × PoolSystem) : Prop
    extends Progress s attempts news where
  ending : Ending s attempts news.length tried rejected result.1
  state_eq : result.2 = (s.reached attempts news tried rejected).rest

theorem fill_of_filled (isOpen : s.pool.closed = false)
    (filled : s.pool.settings.minSize ≤ s.kept + news.length) (opener : Opener) (fuel : Nat) :
    fill opener (fuel + 1) (s.filling attempts news) =
      (.ok (), (s.filling attempts news).rest) := by
  have rests : (s.filling attempts news).refill = (s.filling attempts news).rest :=
    refill_of_filled rfl ((isFilled_reached isOpen).2 filled)
  have openings_eq : (s.filling attempts news).openings = s.openings := rfl
  have none : (s.filling attempts news).rest.openings[s.openings.length]? = none :=
    List.getElem?_eq_none (Nat.le_refl _)
  rw [fill]
  simp only [rests, openings_eq, none]

/-- One pass of the loop is one attempt. -/
theorem fill_of_low (isOpen : s.pool.closed = false)
    (low : s.kept + news.length < s.pool.settings.minSize) (fuel : Nat) :
    fill (attempts.opener s.reservations) (fuel + 1) (s.filling attempts news) =
      match s.outcome attempts news.length with
      | .established c => fill (attempts.opener s.reservations) fuel
          (s.filling attempts (s.brought attempts news.length c :: news))
      | .failed cause rejected =>
        (.error cause, (s.reached attempts news (news.length + 1) rejected).rest) := by
  have tick_eq : (s.filling attempts news).refill.tick (attempts news.length).1 =
      s.trying attempts news := tick_refill_filling isOpen low attempts
  have openings_eq : (s.filling attempts news).openings = s.openings := rfl
  have known : (s.filling attempts news).refill.openings[s.openings.length]? =
      some (s.nextOpening news.length) :=
    (congrArg (fun t : PoolSystem => t.openings[s.openings.length]?) tick_eq).trans getElem?_trying
  have place_eq : (s.nextOpening news.length).place - s.reservations = news.length :=
    Nat.add_sub_cancel_left ..
  have attempt_eq : (s.trying attempts news).attempt (s.nextOpening news.length)
      (attempts news.length).2 = s.outcome attempts news.length := rfl
  have settled := settle_dialed_trying isOpen attempts news
  rw [fill]
  simp only [openings_eq, known, Attempts.opener, place_eq, tick_eq, attempt_eq, settled]
  cases s.outcome attempts news.length <;> rfl

/-- With fuel for all that is missing, the attempts come to an end before the fuel does. -/
theorem exists_stopped_fill (isOpen : s.pool.closed = false) (progress : Progress s attempts news)
    {b : PoolSystem} (fuel : Nat) (enough : s.pool.settings.minSize - (s.kept + news.length) < fuel)
    (h : Singly s.openings b events (s.filling attempts news)) :
    ∃ all tried rejected more,
      let result := fill (attempts.opener s.reservations) fuel (s.filling attempts news)
      Stopped s attempts all tried rejected result ∧ Singly s.openings b more result.2 := by
  induction fuel generalizing news events with
  | zero => omega
  | succ fuel ih =>
    rcases Nat.lt_or_ge (s.kept + news.length) s.pool.settings.minSize with low | filled
    · -- a pass uses up one unit of fuel, and if it does not end the run there is one less to open
      obtain ⟨more, h⟩ := h.attempt isOpen low
      rw [settle_dialed_trying isOpen] at h
      rw [fill_of_low isOpen low]
      cases come : s.outcome attempts news.length with
      | established c =>
        rw [come] at h
        refine ih (progress.cons come low) ?_ h
        rw [List.length_cons]
        omega
      | failed cause rejected =>
        rw [come] at h
        exact ⟨news, _, rejected, more, ⟨progress, .failed low come, rfl⟩, h⟩
    · have total_eq : s.kept + news.length = max s.kept s.pool.settings.minSize :=
        Nat.le_antisymm progress.total_le (by omega)
      have rests : (s.filling attempts news).step .refill = (s.filling attempts news).rest :=
        refill_of_filled rfl ((isFilled_reached isOpen).2 filled)
      have rested : Singly s.openings b _ ((s.filling attempts news).step .refill) :=
        h.concat .refill (by rw [rests]; exact .inl rfl)
      rw [fill_of_filled isOpen filled, ← rests]
      exact ⟨news, _, none, _, ⟨progress, .filled total_eq, rests⟩, rested⟩

/-- More fuel makes no difference. -/
theorem fill_fuel (isOpen : s.pool.closed = false) {fuel fuel' : Nat}
    (enough : s.pool.settings.minSize - (s.kept + news.length) < fuel)
    (enough' : s.pool.settings.minSize - (s.kept + news.length) < fuel') :
    fill (attempts.opener s.reservations) fuel (s.filling attempts news) =
      fill (attempts.opener s.reservations) fuel' (s.filling attempts news) := by
  induction fuel generalizing news fuel' with
  | zero => omega
  | succ fuel ih =>
    obtain ⟨fuel', rfl⟩ : ∃ k, fuel' = k + 1 := ⟨fuel' - 1, by omega⟩
    rcases Nat.lt_or_ge (s.kept + news.length) s.pool.settings.minSize with low | filled
    · rw [fill_of_low isOpen low, fill_of_low isOpen low]
      split
      · next c _ =>
        have more : (s.brought attempts news.length c :: news).length = news.length + 1 := rfl
        exact ih (by omega) (by omega)
      · rfl
    · rw [fill_of_filled isOpen filled, fill_of_filled isOpen filled]

/-! ## Whole runs -/

/-- A run that began in the open pool `s`, and that nobody has interfered with, is over. -/
structure Maintained (s : PoolSystem) (attempts : Attempts) (news : List Idle) (tried : Nat)
    (rejected : Option Connection) (result : Except Error Unit × PoolSystem) : Prop
    extends Progress s attempts news where
  ending : Ending s attempts news.length tried rejected result.1
  /-- The connections that were not stale are left, in their order, below the new ones. Whoever
  waits still does, and the generation is the same. -/
  pool_eq : result.2.pool = { s.pool with
    idle := news ++ s.pool.lendable s.clock
    total := s.kept + news.length
    lastId := s.pool.lastId + .ofNat tried
    maintenanceRequested := false }
  kept_eq : s.kept + s.stale.length = s.pool.total
  total_le_maxSize : max s.kept s.pool.settings.minSize ≤ s.pool.settings.maxSize
  /-- What was stale is shut down. So is what was on its way out before. -/
  shut_eq : result.2.shut = s.shut ++ rejected.toList ++
    (s.leaving ++ s.stale.map (·.connection)).map (·.close)
  leaving_eq : result.2.leaving = []
  dialer_eq : result.2.dialer = s.dialer
  lent_eq : result.2.lent = s.lent
  openings_eq : result.2.openings = s.openings
  answers_eq : result.2.answers = s.answers
  calls_eq : result.2.calls = s.calls
  callers_eq : result.2.callers.map hushed = s.callers.map hushed
  reservations_eq : result.2.reservations = s.reservations + tried
  clock_eq : result.2.clock = attempts.finish s.clock tried
  streams_eq : result.2.streams = s.streams + news.length + rejected.toList.length
  rests : ∃ due, result.2.maintenance = .waiting due
  singly : ∃ events, Singly s.openings s.beginRun events result.2

theorem kept_add_stale (balanced : s.ledger.Balanced) : s.kept + s.stale.length = s.pool.total :=
  Nat.sub_add_cancel ((accounted_of_balanced balanced).pruned_le s.clock)

theorem kept_le (balanced : s.ledger.Balanced) :
    max s.kept s.pool.settings.minSize ≤ s.pool.settings.maxSize := by
  have total_le : s.pool.total ≤ s.pool.settings.maxSize := balanced.total_le
  have minSize_le : s.pool.settings.minSize ≤ s.pool.settings.maxSize := balanced.minSize_le
  have kept_le := Nat.le.intro (kept_add_stale balanced)
  omega

theorem Stopped.maintained {result : Except Error Unit} (balanced : s.ledger.Balanced)
    (h : Stopped s attempts news tried rejected (result, t))
    (singly : Singly s.openings s.beginRun events t) :
    Maintained s attempts news tried rejected (result, t.shutAll.notifyAll) := by
  obtain ⟨more, shut⟩ := singly.shutAll_notifyAll
  obtain ⟨callers, owed, same, notified⟩ := t.shutAll.exists_notifyAll_eq
  obtain rfl : t = (s.reached attempts news tried rejected).rest := h.state_eq
  rw [shutAll_eq] at same
  rw [notified, shutAll_eq] at shut ⊢
  exact { h with
    pool_eq := rfl, kept_eq := kept_add_stale balanced, total_le_maxSize := kept_le balanced
    shut_eq := rfl, leaving_eq := rfl, dialer_eq := rfl, lent_eq := rfl, openings_eq := rfl
    answers_eq := rfl, calls_eq := rfl, callers_eq := same, reservations_eq := rfl, clock_eq := rfl
    streams_eq := rfl, rests := ⟨_, rfl⟩, singly := ⟨more, shut⟩ }

theorem exists_maintained_maintain (balanced : s.ledger.Balanced) (isOpen : s.pool.closed = false)
    (attempts : Attempts) : ∃ news tried rejected,
      Maintained s attempts news tried rejected (s.maintain (attempts.opener s.reservations)) := by
  have progress : Progress s attempts [] := ⟨by simp, Nat.le_max_left _ _⟩
  have begun : Singly s.openings s.beginRun [] (s.filling attempts []) :=
    s.beginRun_eq_filling attempts ▸ .refl (.inl rfl)
  obtain ⟨news, tried, rejected, events, stopped, singly⟩ :=
    exists_stopped_fill isOpen progress (s.pool.settings.minSize + 1) (by omega) begun
  rw [← beginRun_eq_filling] at stopped singly
  exact ⟨news, tried, rejected, stopped.maintained balanced singly⟩

/-- A run that began in the closed pool `s` is over. It has not even tried to open a connection. -/
structure Idled (s : PoolSystem) (result : Except Error Unit × PoolSystem) : Prop where
  result_eq : result.1 = .ok ()
  pool_eq : result.2.pool = { s.pool with maintenanceRequested := false }
  lent_eq : result.2.lent = s.lent
  openings_eq : result.2.openings = s.openings
  reservations_eq : result.2.reservations = s.reservations
  streams_eq : result.2.streams = s.streams
  shut_eq : result.2.shut = s.shut ++ s.leaving.map (·.close)

theorem idled_maintain (closed : s.pool.closed = true) (idle_eq : s.pool.idle = [])
    (opener : Opener) : Idled s (s.maintain opener) := by
  have pool_eq : s.beginRun.pool = { s.pool with maintenanceRequested := false } := by
    simp [beginRun, dismiss, Pool.prune, idle_eq]
  have leaving_eq : s.beginRun.leaving = s.leaving := by
    simp [beginRun, dismiss, Pool.prune, idle_eq]
  have rests : s.beginRun.refill = s.beginRun.rest :=
    refill_of_filled rfl (by rw [Pool.isFilled, pool_eq, closed, Bool.true_or])
  have none : s.beginRun.rest.openings[s.beginRun.openings.length]? = none :=
    List.getElem?_eq_none (Nat.le_refl _)
  obtain ⟨callers, owed, -, notified⟩ := s.beginRun.rest.shutAll.exists_notifyAll_eq
  have maintain_eq : s.maintain opener = (.ok (), s.beginRun.rest.shutAll.notifyAll) := by
    simp only [maintain, fill, rests, none]
  rw [maintain_eq, notified, shutAll_eq]
  exact ⟨rfl, pool_eq, rfl, rfl, rfl, rfl, congrArg (s.shut ++ List.map (·.close) ·) leaving_eq⟩

/-- What a maintenance run does to a pool in the state `s`, if nobody interferes. -/
structure Maintainable (s : PoolSystem) : Prop where
  begins : s.pool.closed = false → s.maintenanceDue = true → s.step .prune = s.beginRun
  maintained : s.pool.closed = false → ∀ attempts : Attempts, ∃ news tried rejected,
    Maintained s attempts news tried rejected (s.maintain (attempts.opener s.reservations))
  /-- The fuel of the run is never used up. -/
  ends : s.pool.closed = false → ∀ (attempts : Attempts) (fuel : Nat),
    s.pool.settings.minSize < fuel → fill (attempts.opener s.reservations) fuel s.beginRun =
      fill (attempts.opener s.reservations) (s.pool.settings.minSize + 1) s.beginRun
  idled : s.pool.closed = true → ∀ opener, Idled s (s.maintain opener)

theorem step_prune_of_due (isOpen : s.pool.closed = false) (due : s.maintenanceDue = true) :
    s.step .prune = s.beginRun := by
  rw [step, prune, if_pos due, if_neg (by simp [isOpen])]

end

/-! ## Main result -/

theorem maintainable_run {address : Address} {settings : PoolSettings} {dialer : Dialer}
    {clock : Instant} {s₀ : PoolSystem} (h : create address settings dialer clock = .ok s₀)
    (events : List Event) : Maintainable (s₀.run events) := by
  obtain ⟨balanced, tagged⟩ := sound_run h events
  refine ⟨step_prune_of_due, exists_maintained_maintain balanced,
    fun isOpen attempts fuel enough => ?_,
    fun closed => idled_maintain closed (tagged.idle_eq closed)⟩
  rw [beginRun_eq_filling _ attempts]
  exact fill_fuel isOpen (by omega) (by omega)

/-- One of the two connections has been idle for too long, and there should be three. The first
attempt brings one more, and the second fails. -/
theorem maintainable_run_failing :
    let settings : PoolSettings := { minSize := 3, maxSize := 3, maxIdleTime := .ofMillis 5 }
    let s₀ := fresh .localhost settings {} .zero
    let down : Except Error Link := .error (.connectionClosed .localhost)
    let s := s₀.run [.prune, .refill, .dialed 0 (.ok {}), .settle 0, .tick (.ofMillis 3), .refill,
      .dialed 0 (.ok {}), .settle 0, .refill, .dialed 0 down, .tick (.ofMillis 3)]
    let attempts : Attempts := fun n => (.ofMillis 1, if n = 0 then .ok {} else down)
    let result := s.maintain (attempts.opener s.reservations)
    create .localhost settings {} .zero = .ok s₀ ∧
      s.pool.idle.map (·.connection.id) = [2, 1] ∧
      result.1 = .error (.connectionClosed .localhost) ∧
      result.2.pool.idle.map (·.connection.id) = [4, 2] ∧ result.2.pool.total = 2 ∧
      result.2.shut.map (·.id) = [1] ∧ Maintainable s := by
  intro settings s₀ down s attempts result
  have created : create .localhost settings {} .zero = .ok s₀ := rfl
  have before : s.pool.idle.map (·.connection.id) = [2, 1] := by decide +kernel
  have failed : result.1 = .error (.connectionClosed .localhost) := by decide +kernel
  have after : result.2.pool.idle.map (·.connection.id) = [4, 2] ∧ result.2.pool.total = 2 ∧
      result.2.shut.map (·.id) = [1] := by decide +kernel
  exact ⟨created, before, failed, after.1, after.2.1, after.2.2, maintainable_run created _⟩

end PoolSystem

end ClusterClient

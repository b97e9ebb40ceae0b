import ClusterClient.Pool.Basic

/-!
# Verdicts

A caller that looks for a connection puts its questions in a fixed order. Is the pool closed? Is an
idle connection usable? Is there room for another one? Is there room in the queue? Is the time over?
The first answer decides. Stale connections are out of the way before anybody asks for room, so they
never stand between a caller and a connection.

    Ruled p now deadline queued (p.look now deadline queued)                    (ruled_look)
    p.isStale now i = false ↔ p.Usable now i                         (isStale_eq_false_iff)
-/

namespace ClusterClient

namespace Pool

variable {p : Pool} {now deadline : Instant} {queued : Bool} {i : Idle}

/-! ## Usable connections -/

/-- An idle connection that may be lent at the time `now`. A limit of zero is none. -/
structure Usable (p : Pool) (now : Instant) (i : Idle) : Prop where
  isOpen : i.connection.closed = false
  current : i.generation = p.generation
  rested : p.settings.maxIdleTime ≠ .zero →
    now.nanos ≤ i.lastUsed.nanos + p.settings.maxIdleTime.nanos
  young : p.settings.maxLifeTime ≠ .zero →
    now.nanos ≤ i.connection.openedAt.nanos + p.settings.maxLifeTime.nanos

theorem expired_eq_false_iff {limit : Duration} {since now : Instant} :
    expired limit since now = false ↔ limit ≠ .zero → now.nanos ≤ since.nanos + limit.nanos := by
  have late : ¬limit.nanos < now.nanos - since.nanos ↔ now.nanos ≤ since.nanos + limit.nanos := by
    omega
  simp only [expired, Bool.and_eq_false_iff, bne_eq_false_iff_eq, decide_eq_false_iff_not, late,
    ne_eq, Decidable.imp_iff_not_or, Decidable.not_not]

theorem isStale_eq_false_iff : p.isStale now i = false ↔ p.Usable now i := by
  simp only [isStale, Bool.or_eq_false_iff, bne_eq_false_iff_eq, expired_eq_false_iff]
  exact ⟨fun ⟨⟨⟨isOpen, current⟩, rested⟩, young⟩ => ⟨isOpen, current, rested, young⟩,
    fun u => ⟨⟨⟨u.isOpen, u.current⟩, u.rested⟩, u.young⟩⟩

theorem isStale_iff : p.isStale now i = true ↔ ¬p.Usable now i := by
  rw [← isStale_eq_false_iff, Bool.not_eq_false]

/-! ## Requests and queue -/

theorem exists_requestRefill_eq (p : Pool) :
    ∃ requested, p.requestRefill = { p with maintenanceRequested := requested } := by
  unfold requestRefill
  split
  · exact ⟨_, rfl⟩
  · exact ⟨p.maintenanceRequested, rfl⟩

theorem leaveQueue_eq (p : Pool) (queued : Bool) :
    p.leaveQueue queued = { p with waiters := p.waiters - queued.toNat } := by
  cases queued <;> rfl

/-- A caller that looked for the last time is not queued any more. -/
theorem exists_requested_noted_eq (p : Pool) (queued nothing : Bool) :
    ∃ requested,
      (if nothing then p.leaveQueue queued else (p.leaveQueue queued).requestRefill) =
        { p with waiters := p.waiters - queued.toNat, maintenanceRequested := requested } := by
  rw [leaveQueue_eq]
  obtain ⟨requested, hr⟩ := exists_requestRefill_eq
    { p with waiters := p.waiters - queued.toNat }
  cases nothing
  · exact ⟨requested, by rw [if_neg Bool.false_ne_true, hr]⟩
  · exact ⟨p.maintenanceRequested, rfl⟩

/-! ## The order of the questions -/

theorem isStale_of_dropWhile_eq {p : Pool} {now : Instant} {i : Idle} {rest : List Idle}
    (h : p.idle.dropWhile (p.isStale now) = i :: rest) : p.isStale now i = false := by
  have := List.head?_dropWhile_not (p.isStale now) p.idle
  rw [h] at this
  simpa using this

/-- What a look comes to, and what it leaves. -/
inductive Ruled (p : Pool) (now deadline : Instant) (queued : Bool) : Look → Prop where
  | closed (isClosed : p.closed = true) :
      Ruled p now deadline queued ⟨.closed, [], { p with waiters := p.waiters - queued.toNat }⟩
  | reuse {stale below : List Idle} {i : Idle} {requested : Bool} (isOpen : p.closed = false)
      (split : p.idle = stale ++ i :: below) (unusable : ∀ j ∈ stale, ¬p.Usable now j)
      (usable : p.Usable now i) :
      Ruled p now deadline queued ⟨.reuse i, stale, { p with
        idle := below, total := p.total - stale.length, waiters := p.waiters - queued.toNat
        maintenanceRequested := requested }⟩
  | reserve {requested : Bool} (isOpen : p.closed = false)
      (unusable : ∀ j ∈ p.idle, ¬p.Usable now j)
      (room : p.total - p.idle.length < p.settings.maxSize) :
      Ruled p now deadline queued ⟨.reserve (p.lastId + 1) p.generation, p.idle, { p with
        idle := [], total := p.total - p.idle.length + 1, lastId := p.lastId + 1
        waiters := p.waiters - queued.toNat, maintenanceRequested := requested }⟩
  | exhausted {requested : Bool} (isOpen : p.closed = false)
      (unusable : ∀ j ∈ p.idle, ¬p.Usable now j)
      (full : p.settings.maxSize ≤ p.total - p.idle.length) (first : queued = false)
      (crowded : p.settings.maxWaitQueueSize ≤ p.waiters) :
      Ruled p now deadline queued ⟨.exhausted, p.idle, { p with
        idle := [], total := p.total - p.idle.length, maintenanceRequested := requested }⟩
  | timedOut {requested : Bool} (isOpen : p.closed = false)
      (unusable : ∀ j ∈ p.idle, ¬p.Usable now j)
      (full : p.settings.maxSize ≤ p.total - p.idle.length)
      (admitted : queued = false → p.waiters < p.settings.maxWaitQueueSize)
      (late : deadline ≤ now) :
      Ruled p now deadline queued ⟨.timedOut, p.idle, { p with
        idle := [], total := p.total - p.idle.length, waiters := p.waiters - queued.toNat
        maintenanceRequested := requested }⟩
  | wait (isOpen : p.closed = false) (unusable : ∀ j ∈ p.idle, ¬p.Usable now j)
      (full : p.settings.maxSize ≤ p.total - p.idle.length)
      (admitted : queued = false → p.waiters < p.settings.maxWaitQueueSize)
      (early : ¬deadline ≤ now) :
      Ruled p now deadline queued ⟨.wait, p.idle, { p with
        idle := [], total := p.total - p.idle.length
        waiters := p.waiters + (!queued).toNat }⟩

theorem ruled_look (p : Pool) (now deadline : Instant) (queued : Bool) :
    Ruled p now deadline queued (p.look now deadline queued) := by
  unfold look
  split
  · next h =>
    rw [leaveQueue_eq]
    exact .closed h
  · next h =>
    have isOpen : p.closed = false := Bool.eq_false_iff.2 h
    have split := (List.takeWhile_append_dropWhile (p := p.isStale now) (l := p.idle)).symm
    have stale := List.all_eq_true.1 (List.all_takeWhile (p := p.isStale now) (l := p.idle))
    have fresh : ∀ i below, p.idle.dropWhile (p.isStale now) = i :: below →
        p.isStale now i = false := fun _ _ => isStale_of_dropWhile_eq
    generalize p.idle.takeWhile (p.isStale now) = unusable at *
    generalize p.idle.dropWhile (p.isStale now) = rest at *
    have unusable_stale : ∀ j ∈ unusable, ¬p.Usable now j := fun j hj => isStale_iff.1 (stale j hj)
    simp only
    split
    · next i below =>
      obtain ⟨requested, hn⟩ := exists_requested_noted_eq
        { p with idle := below, total := p.total - unusable.length } queued unusable.isEmpty
      rw [List.tail_cons, hn]
      exact .reuse isOpen split unusable_stale (isStale_eq_false_iff.1 (fresh i below rfl))
    · -- nothing that is idle is usable, so all of it is gone
      rw [List.append_nil] at split
      subst split
      simp only [List.tail_nil]
      split
      · next room =>
        obtain ⟨requested, hn⟩ := exists_requested_noted_eq
          { p with idle := [], total := p.total - p.idle.length }.reserve queued p.idle.isEmpty
        rw [hn]
        exact .reserve isOpen unusable_stale room
      · next full =>
        rw [Nat.not_lt] at full
        obtain ⟨requested, hn⟩ := exists_requested_noted_eq
          { p with idle := [], total := p.total - p.idle.length } queued p.idle.isEmpty
        rw [hn]
        split
        · next crowded =>
          simp only [Bool.and_eq_true, Bool.not_eq_true', decide_eq_true_eq] at crowded
          obtain ⟨rfl, crowded⟩ := crowded
          exact .exhausted isOpen unusable_stale full rfl crowded
        · next admitted =>
          have admitted : queued = false → p.waiters < p.settings.maxWaitQueueSize := by
            rintro rfl
            simpa using admitted
          split
          · next late => exact .timedOut isOpen unusable_stale full admitted late
          · next early =>
            have waiting := Ruled.wait isOpen unusable_stale full admitted early
            split
            · next hq =>
              subst hq
              exact waiting
            · next hq =>
              obtain rfl : queued = false := Bool.eq_false_iff.2 hq
              exact waiting

/-! ## What each verdict says -/

section

variable {l : Look}

theorem Ruled.exhausted_iff (h : Ruled p now deadline queued l) :
    l.verdict = .exhausted ↔ queued = false ∧ p.closed = false ∧
      (∀ j ∈ p.idle, ¬p.Usable now j) ∧ p.settings.maxSize ≤ p.total - p.idle.length ∧
      p.settings.maxWaitQueueSize ≤ p.waiters := by
  cases h with
  | closed isClosed => simp [isClosed]
  | reuse isOpen split unusable usable =>
    simp only [split, reduceCtorEq, List.mem_append, List.mem_cons, false_iff]
    rintro ⟨-, -, none, -⟩
    exact none _ (.inr (.inl rfl)) usable
  | reserve isOpen unusable room =>
    simp only [reduceCtorEq, false_iff]
    omega
  | exhausted isOpen unusable full first crowded =>
    exact ⟨fun _ => ⟨first, isOpen, unusable, full, crowded⟩, fun _ => rfl⟩
  | timedOut _ _ _ admitted | wait _ _ _ admitted =>
    simp only [reduceCtorEq, false_iff]
    rintro ⟨first, -, -, -, crowded⟩
    exact absurd (admitted first) (Nat.not_lt.2 crowded)

theorem Ruled.timedOut_iff (h : Ruled p now deadline queued l) :
    l.verdict = .timedOut ↔ p.closed = false ∧ (∀ j ∈ p.idle, ¬p.Usable now j) ∧
      p.settings.maxSize ≤ p.total - p.idle.length ∧
      (queued = false → p.waiters < p.settings.maxWaitQueueSize) ∧ deadline ≤ now := by
  cases h with
  | closed isClosed => simp [isClosed]
  | reuse isOpen split unusable usable =>
    simp only [split, reduceCtorEq, List.mem_append, List.mem_cons, false_iff]
    rintro ⟨-, none, -⟩
    exact none _ (.inr (.inl rfl)) usable
  | reserve isOpen unusable room =>
    simp only [reduceCtorEq, false_iff]
    omega
  | exhausted isOpen unusable full first crowded =>
    simp only [reduceCtorEq, false_iff]
    rintro ⟨-, -, -, admitted, -⟩
    exact absurd (admitted first) (Nat.not_lt.2 crowded)
  | timedOut isOpen unusable full admitted late =>
    exact ⟨fun _ => ⟨isOpen, unusable, full, admitted, late⟩, fun _ => rfl⟩
  | wait _ _ _ _ early =>
    simp only [reduceCtorEq, false_iff]
    rintro ⟨-, -, -, -, late⟩
    exact early late

/-- Who is told to wait is queued from then on, and nobody else that looked. -/
theorem Ruled.waiters_eq (h : Ruled p now deadline queued l)
    (counted : queued = true → 0 < p.waiters) :
    l.pool.waiters + queued.toNat = p.waiters + if l.verdict = .wait then 1 else 0 := by
  have counted' : queued.toNat ≤ p.waiters := by
    cases queued
    · exact Nat.zero_le _
    · exact counted rfl
  cases h with
  | exhausted _ _ _ first => simp [first]
  | wait => cases queued <;> simp
  | closed | reuse | reserve | timedOut =>
    simp only [reduceCtorEq, if_false]
    omega

theorem Ruled.waiters_le (h : Ruled p now deadline queued l)
    (le : p.waiters ≤ p.settings.maxWaitQueueSize) :
    l.pool.waiters ≤ p.settings.maxWaitQueueSize := by
  cases h with
  | exhausted => exact le
  | wait _ _ _ admitted =>
    cases queued
    · exact admitted rfl
    · exact le
  | closed | reuse | reserve | timedOut => exact Nat.le_trans (Nat.sub_le ..) le

end

end Pool

end ClusterClient

import ClusterClient.Proofs.Pool.Verdicts

/-!
# What each operation does to a pool

One statement for each holder of the lock: which connections it takes from the idle ones, which of
them it hands out, and how many places it gives up and reserves.

    p.idle = discarded ++ reused ++ what is left                       (found_look)
    l.pool.total = p.total - discarded + reserved                      (found_look)
    giveBack keeps c → c is open and of the current generation         (giveBack_cases)
-/

namespace ClusterClient

namespace Verdict

/-- The idle connection that a caller takes. -/
def reused : Verdict → List Idle
  | .reuse i => [i]
  | _ => []

/-- How many places a caller reserves. -/
def reserved : Verdict → Nat
  | .reserve .. => 1
  | _ => 0

theorem mem_reused {v : Verdict} {i : Idle} : i ∈ v.reused ↔ v = .reuse i := by
  cases v <;> simp [reused, eq_comm]

end Verdict

namespace Pool

/-! ## A look -/

/-- What a look at a pool at the time `now` finds, and what it leaves. -/
structure Found (p : Pool) (now : Instant) (l : Look) : Prop where
  settings_eq : l.pool.settings = p.settings
  address_eq : l.pool.address = p.address
  closed_eq : l.pool.closed = p.closed
  generation_eq : l.pool.generation = p.generation
  idle_eq : p.idle = l.discarded ++ (l.verdict.reused ++ l.pool.idle)
  total_eq : l.pool.total = p.total - l.discarded.length + l.verdict.reserved
  total_le : 0 < l.verdict.reserved → l.pool.total ≤ p.settings.maxSize
  stale : ∀ i ∈ l.discarded, p.isStale now i = true
  fresh : ∀ i, l.verdict = .reuse i → p.isStale now i = false
  tagged : ∀ id generation, l.verdict = .reserve id generation → generation = p.generation
  refused : p.closed = true → l.verdict = .closed ∧ l.discarded = []
  searched : p.closed = false → l.verdict.reused = [] → l.pool.idle = []
  full : p.closed = false → l.verdict.reused = [] → l.verdict.reserved = 0 →
    p.settings.maxSize ≤ l.pool.total

theorem generation_eq_of_fresh {p : Pool} {now : Instant} {i : Idle}
    (h : p.isStale now i = false) : i.generation = p.generation :=
  (isStale_eq_false_iff.1 h).current

theorem found_look (p : Pool) (now deadline : Instant) (queued : Bool) :
    Found p now (p.look now deadline queued) := by
  have ruled := p.ruled_look now deadline queued
  generalize p.look now deadline queued = l at ruled
  cases ruled with
  | closed isClosed =>
    exact ⟨rfl, rfl, rfl, rfl, by simp [Verdict.reused], rfl, by simp [Verdict.reserved], by simp,
      by simp, by simp, fun _ => ⟨rfl, rfl⟩, by simp [isClosed], by simp [isClosed]⟩
  | reuse isOpen split unusable usable =>
    exact ⟨rfl, rfl, rfl, rfl, split, rfl, by simp [Verdict.reserved],
      fun j hj => isStale_iff.2 (unusable j hj),
      fun j hj => by cases hj; exact isStale_eq_false_iff.2 usable, by simp, by simp [isOpen],
      by simp [Verdict.reused], by simp [Verdict.reused]⟩
  | reserve isOpen unusable room =>
    exact ⟨rfl, rfl, rfl, rfl, by simp [Verdict.reused], rfl, fun _ => room,
      fun j hj => isStale_iff.2 (unusable j hj), by simp, fun id generation hv => by cases hv; rfl,
      by simp [isOpen], fun _ _ => rfl, by simp [Verdict.reserved]⟩
  | exhausted isOpen unusable full | timedOut isOpen unusable full | wait isOpen unusable full =>
    exact ⟨rfl, rfl, rfl, rfl, by simp [Verdict.reused], rfl, by simp [Verdict.reserved],
      fun j hj => isStale_iff.2 (unusable j hj), by simp, by simp, by simp [isOpen],
      fun _ _ => rfl, fun _ _ _ => full⟩

/-- Nobody waits whose time is over. -/
theorem early_of_wait {p : Pool} {now deadline : Instant} {queued : Bool}
    (h : (p.look now deadline queued).verdict = .wait) : ¬deadline ≤ now := by
  have ruled := p.ruled_look now deadline queued
  generalize p.look now deadline queued = l at ruled h
  cases ruled with
  | wait _ _ _ _ early => exact early
  | closed | reuse | reserve | exhausted | timedOut => cases h

/-! ## Connections that come back -/

theorem giveBack_cases (p : Pool) (c : Connection) (generation : Nat) (now : Instant) :
    p.closed = false ∧ c.closed = false ∧ generation = p.generation ∧
        p.giveBack c generation now = (true, p.file c generation now) ∨
      (p.closed = true ∨ c.closed = true ∨ generation ≠ p.generation ∨
          expired p.settings.maxLifeTime c.openedAt now = true) ∧
        ∃ requested, p.giveBack c generation now =
          (false, { p.vacate with maintenanceRequested := requested }) := by
  unfold giveBack
  split
  · next h => exact Or.inr ⟨Or.inl h, p.maintenanceRequested, rfl⟩
  · next hopen =>
    split
    · next h =>
      obtain ⟨requested, hr⟩ := p.vacate.exists_requestRefill_eq
      refine Or.inr ⟨?_, requested, by rw [hr]⟩
      simpa [or_assoc] using Or.inr h
    · next h =>
      simp only [Bool.or_eq_true, bne_iff_ne, not_or, Decidable.not_not, Bool.not_eq_true] at h
      exact Or.inl ⟨by simpa using hopen, h.1.1, h.1.2, rfl⟩

/-! ## Connections that are given up -/

theorem invalidate_eq (p : Pool) :
    ∃ requested,
      p.invalidate = (p.idle, { p with
        generation := p.generation + 1, idle := [], total := p.total - p.idle.length,
        maintenanceRequested := requested }) := by
  obtain ⟨requested, hr⟩ := exists_requestRefill_eq
    { p with generation := p.generation + 1, idle := [], total := p.total - p.idle.length }
  exact ⟨requested, by rw [invalidate, hr]⟩

theorem prune_perm (p : Pool) (now : Instant) :
    p.idle.Perm ((p.prune now).1 ++ (p.prune now).2.idle) :=
  (List.filter_append_perm _ _).symm

end Pool

end ClusterClient

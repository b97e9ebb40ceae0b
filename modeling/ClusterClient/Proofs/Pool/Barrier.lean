import ClusterClient.Proofs.Pool.Decisions
import ClusterClient.Proofs.Pool.Streams

/-!
# The barrier

An invalidation makes a fence of two numbers: the reservations there were, and the generation that
ended. A connection in a place below the first is of a generation up to the second, so it is not
current any more, and every path that could lend it again compares the generations first.
Maintenance may still put such a connection among the idle ones; it stays there until somebody
comes across it.

    Barrier s ((s.step invalidate).run later)     for each reachable state s     (guarded_run)
-/

namespace ClusterClient

namespace Ledger

section

variable {b b' : Ledger} {place generation : Nat}

/-- After an invalidation of a pool with `place` reservations and this generation. -/
structure Fenced (place generation : Nat) (b : Ledger) : Prop where
  generation_lt : generation < b.generation
  place_le : place ≤ b.reservations
  old : ∀ t ∈ b.tags, t.place < place → t.generation ≤ generation

theorem fenced_of_move (balanced : Balanced b) (tagged : Tagged b)
    (h : Fenced place generation b) (m : Move b b') : Fenced place generation b' where
  generation_lt := Nat.lt_of_lt_of_le h.generation_lt (generation_le_of_move m)
  place_le := Nat.le_trans h.place_le (reservations_le_of_move m)
  old t ht lt := by
    rcases mem_tags_of_move balanced tagged m t ht with known | ⟨rfl, -⟩
    · exact h.old t known lt
    · exact absurd h.place_le (Nat.not_le_of_lt lt)

/-- A current connection is one whose place was reserved after the invalidation. -/
theorem Fenced.place_le_of_current (h : Fenced place generation b) {t : Tag}
    (ht : t ∈ b.tags) (current : t.generation = b.generation) : place ≤ t.place := by
  by_contra lt
  have := h.old t ht (Nat.lt_of_not_le lt)
  have := h.generation_lt
  omega

/-- A stream that is not lent any more: it is idle in an old place, or left the pool. -/
def Retired (place : Nat) (b : Ledger) (serial : Nat) : Prop :=
  (∃ i ∈ b.idle, i.tag.place < place ∧ i.connection.link.serial = serial) ∨
    ∃ c ∈ b.leaving ++ b.shut, c.link.serial = serial

theorem retired_of_move {serial : Nat} (h : Fenced place generation b) (m : Move b b')
    (r : Retired place b serial) : Retired place b' serial := by
  cases m with
  | tick | enter | leave | wait | reserve | refill | invalidate | close | establish | fail | lend
  | use => exact r
  | @reuse name i rest known top isOpen current =>
    rcases r with ⟨j, hj, lt, same⟩ | left
    · rw [top] at hj
      rcases List.mem_cons.1 hj with rfl | hj
      · have fresh := h.place_le_of_current (t := j.tag) (by simp [tags, top]) current
        exact absurd fresh (Nat.not_le_of_lt lt)
      · exact Or.inl ⟨j, hj, lt, same⟩
    · exact Or.inr left
  | @remove gone kept split =>
    rcases r with ⟨j, hj, lt, same⟩ | ⟨c, hc, same⟩
    · rcases List.mem_append.1 (split.mem_iff.1 hj) with hj | hj
      · refine Or.inr ⟨j.connection, ?_, same⟩
        exact List.mem_append_left _ (List.mem_append_right _ (List.mem_map_of_mem hj))
      · exact Or.inl ⟨j, hj, lt, same⟩
    · refine Or.inr ⟨c, ?_, same⟩
      rw [List.mem_append] at hc
      simp only [List.mem_append]
      tauto
  | file | takeBack =>
    rcases r with ⟨j, hj, lt, same⟩ | left
    · exact Or.inl ⟨j, List.mem_cons_of_mem _ hj, lt, same⟩
    · exact Or.inr left
  | reject | abandon | discard =>
    rcases r with stale | ⟨c, hc, same⟩
    · exact Or.inl stale
    · refine Or.inr ⟨c, ?_, same⟩
      rw [List.mem_append] at hc
      simp only [List.mem_append]
      tauto
  | @shutFirst c rest first =>
    rcases r with stale | ⟨c', hc, same⟩
    · exact Or.inl stale
    · simp only [first, List.cons_append, List.mem_cons, List.mem_append] at hc
      rcases hc with rfl | hc | hc
      · exact Or.inr ⟨c'.close, by simp, c'.follows_close.link.serial_eq.trans same⟩
      · exact Or.inr ⟨c', by simp [hc], same⟩
      · exact Or.inr ⟨c', by simp [hc], same⟩

theorem fenced_of_moves (sound : Sound b) (h : Fenced place generation b)
    (ms : Moves b b') : Fenced place generation b' := by
  induction ms with
  | refl => exact h
  | tail ms m ih =>
    have sound := sound_of_moves sound ms
    exact fenced_of_move sound.balanced sound.tagged ih m

theorem retired_of_moves {serial : Nat} (sound : Sound b)
    (h : Fenced place generation b) (ms : Moves b b') (r : Retired place b serial) :
    Retired place b' serial := by
  induction ms with
  | refl => exact r
  | tail ms m ih => exact retired_of_move (fenced_of_moves sound h ms) m ih

end

end Ledger

namespace PoolSystem

open Ledger

theorem tagged_fresh (address : Address) (settings : PoolSettings) (dialer : Dialer)
    (clock : Instant) : (fresh address settings dialer clock).ledger.Tagged :=
  ⟨by simp [ledger, fresh, tags], by simp [ledger, fresh, tags], by simp [ledger, fresh],
    fun _ => rfl⟩

theorem sound_run {address : Address} {settings : PoolSettings} {dialer : Dialer}
    {clock : Instant} {s : PoolSystem} (h : create address settings dialer clock = .ok s)
    (events : List Event) : (s.run events).ledger.Sound := by
  refine sound_of_moves ⟨balanced_create h, ?_⟩ (s.moves_run events)
  obtain ⟨-, rfl⟩ := exists_fresh_of_create h
  exact tagged_fresh ..

theorem emptied_invalidate (s : PoolSystem) :
    s.invalidate.pool.idle = [] ∧ s.invalidate.pool.generation = s.pool.generation + 1 ∧
      s.invalidate.leaving = s.leaving ++ s.pool.idle.map (·.connection) := by
  obtain ⟨requested, h⟩ := s.pool.invalidate_eq
  unfold invalidate
  rw [h]
  exact ⟨rfl, rfl, rfl⟩

theorem fenced_invalidate {s : PoolSystem} (h : Tagged s.ledger) :
    Fenced s.reservations s.pool.generation s.invalidate.ledger where
  generation_lt := by
    show s.pool.generation < s.invalidate.pool.generation
    rw [s.emptied_invalidate.2.1]
    exact Nat.lt_succ_self _
  place_le := Nat.le_refl _
  old t ht _ := by
    refine h.generation_le t ?_
    have idle_eq : s.invalidate.ledger.idle = [] := s.emptied_invalidate.1
    rw [tags, idle_eq, List.map_nil, List.nil_append] at ht
    rw [tags, List.append_assoc]
    exact List.mem_append_right _ ht

/-- What an invalidation of `s` means for a later state `t`: the connections in the places that were
reserved before are on their way out. -/
structure Barrier (s t : PoolSystem) : Prop where
  generation_lt : s.pool.generation < t.pool.generation
  /-- No caller takes, or is promised, any of them. -/
  granted : ∀ e name l, t.decision? e = some (name, l) →
    ∀ tag ∈ l.verdict.tags t.reservations, s.reservations ≤ tag.place
  /-- Those that a caller comes across are given up. -/
  inspected : ∀ e name l, t.decision? e = some (name, l) →
    ∀ i ∈ t.pool.idle, i.tag.place < s.reservations →
      i.connection ∈ (t.step e).leaving ∨ l.verdict.reused ≠ [] ∧ i ∈ (t.step e).pool.idle
  /-- Those that maintenance comes across are given up. -/
  pruned : t.maintenanceDue = true → ∀ i ∈ t.pool.idle, i.tag.place < s.reservations →
    i.connection ∈ t.prune.leaving ∧ i ∉ t.prune.pool.idle
  /-- Those that come back are given up. -/
  released : ∀ l ∈ t.lent, l.tag.place < s.reservations →
    (t.giveBack l.borrower).leaving = t.leaving ++ [l.connection] ∧
      (t.giveBack l.borrower).pool.idle = t.pool.idle
  /-- Those that are given up are shut down. -/
  shut : ∀ c ∈ t.leaving, c.close ∈ (t.run (List.replicate t.leaving.length .shutFirst)).shut
  /-- Those that are idle or given up are never lent again. -/
  retired : ∀ c, (∃ i ∈ t.pool.idle, i.tag.place < s.reservations ∧ i.connection = c) ∨
      c ∈ t.leaving ++ t.shut →
    ∀ events, ∀ l ∈ (t.run events).lent, l.connection.link.serial ≠ c.link.serial

section

variable {s t : PoolSystem} {place generation : Nat}

theorem tag_mem_of_idle {i : Idle} (hi : i ∈ t.pool.idle) : i.tag ∈ t.ledger.tags :=
  List.mem_append_left _ (List.mem_append_left _ (List.mem_map_of_mem hi))

theorem tag_mem_of_lent {l : Lent} (hl : l ∈ t.lent) : l.tag ∈ t.ledger.tags :=
  List.mem_append_left _ (List.mem_append_right _ (List.mem_map_of_mem hl))

theorem closed_eq_false_of_mem (tagged : Tagged t.ledger) {i : Idle} (hi : i ∈ t.pool.idle) :
    t.pool.closed = false := by
  by_contra closed
  rw [Bool.not_eq_false] at closed
  have idle_eq : t.pool.idle = [] := tagged.idle_eq closed
  rw [idle_eq] at hi
  cases hi

theorem place_le_of_decision (fenced : Fenced place generation t.ledger) {e : Event} {name : Nat}
    {l : Look} (h : t.decision? e = some (name, l)) {tag : Tag}
    (ht : tag ∈ l.verdict.tags t.reservations) : place ≤ tag.place := by
  have d := decided_step h
  rcases Verdict.mem_tags.1 ht with ⟨i, hv, rfl⟩ | ⟨id, generation', hv, rfl⟩
  · have hi : i ∈ t.pool.idle := by
      rw [d.idle_eq, hv]
      simp [Verdict.reused]
    exact fenced.place_le_of_current (tag_mem_of_idle hi) (d.current i.tag ht)
  · exact fenced.place_le

theorem inspected_of_decision (fenced : Fenced place generation t.ledger)
    (tagged : Tagged t.ledger) {e : Event} {name : Nat} {l : Look}
    (h : t.decision? e = some (name, l)) {i : Idle} (hi : i ∈ t.pool.idle)
    (lt : i.tag.place < place) :
    i.connection ∈ (t.step e).leaving ∨
      l.verdict.reused ≠ [] ∧ i ∈ (t.step e).pool.idle := by
  have d := decided_step h
  have hi' := hi
  rw [d.idle_eq, List.mem_append, List.mem_append] at hi'
  rcases hi' with gone | reused | left
  · left
    rw [d.leaving_eq]
    exact List.mem_append_right _ (List.mem_map_of_mem gone)
  · have tag : i.tag ∈ l.verdict.tags t.reservations :=
      Verdict.mem_tags.2 (Or.inl ⟨i, Verdict.mem_reused.1 reused, rfl⟩)
    exact absurd (place_le_of_decision fenced h tag) (Nat.not_le_of_lt lt)
  · right
    refine ⟨fun none => ?_, d.pool_eq ▸ left⟩
    rw [d.searched (closed_eq_false_of_mem tagged hi) none] at left
    cases left

theorem isStale_of_old (fenced : Fenced place generation t.ledger) {i : Idle}
    (hi : i ∈ t.pool.idle) (lt : i.tag.place < place) : t.pool.isStale t.clock i = true := by
  by_contra fresh
  rw [Bool.not_eq_true] at fresh
  have current : i.tag.generation = t.ledger.generation := Pool.generation_eq_of_fresh fresh
  exact absurd (fenced.place_le_of_current (tag_mem_of_idle hi) current) (Nat.not_le_of_lt lt)

theorem pruned_of_old (fenced : Fenced place generation t.ledger) (tagged : Tagged t.ledger)
    (due : t.maintenanceDue = true) {i : Idle} (hi : i ∈ t.pool.idle) (lt : i.tag.place < place) :
    i.connection ∈ t.prune.leaving ∧ i ∉ t.prune.pool.idle := by
  have stale := isStale_of_old fenced hi lt
  have isOpen : ¬(t.maintenance ≠ .starting ∧ t.pool.closed = true) := by
    simp [closed_eq_false_of_mem tagged hi]
  rw [prune, if_pos due, if_neg isOpen]
  constructor
  · exact List.mem_append_right _ (List.mem_map_of_mem (List.mem_filter.2 ⟨hi, stale⟩))
  · intro kept
    have := (List.mem_filter.1 kept).2
    simp [stale] at this

theorem loan?_eq_some (balanced : Balanced t.ledger) {l : Lent} (held : l ∈ t.lent) :
    t.loan? l.borrower = some l := by
  cases h : t.loan? l.borrower with
  | none =>
    have := List.find?_eq_none.1 h l held
    simp at this
  | some m =>
    obtain ⟨hm, same⟩ := mem_of_loan? h
    rw [List.inj_on_of_nodup_map (borrowers_nodup balanced) hm held same]

theorem released_of_old (fenced : Fenced place generation t.ledger)
    (balanced : Balanced t.ledger) {l : Lent} (held : l ∈ t.lent) (lt : l.tag.place < place) :
    (t.giveBack l.borrower).leaving = t.leaving ++ [l.connection] ∧
      (t.giveBack l.borrower).pool.idle = t.pool.idle := by
  unfold giveBack
  rw [loan?_eq_some balanced held]
  rcases t.pool.giveBack_cases l.connection l.generation t.clock with
    ⟨-, -, current, -⟩ | ⟨-, requested, given⟩
  · have fresh := fenced.place_le_of_current (tag_mem_of_lent held) current
    exact absurd fresh (Nat.not_le_of_lt lt)
  · simp only [given]
    exact ⟨rfl, rfl⟩

theorem not_lent_of_retired (balanced : Balanced t.ledger) {serial : Nat}
    (h : Retired place t.ledger serial) : ∀ l ∈ t.lent, l.connection.link.serial ≠ serial := by
  rintro l hl rfl
  have once := balanced.serials_eq l.connection.link.serial
  have pos : ∀ {cs : List Connection} {c : Connection}, c ∈ cs →
      0 < (cs.map (·.link.serial)).count c.link.serial :=
    fun hc => List.count_pos_iff.2 (List.mem_map_of_mem hc)
  have lent : 0 < ((t.ledger.lent.map (·.connection)).map (·.link.serial)).count
      l.connection.link.serial := pos (List.mem_map_of_mem hl)
  simp only [serials, Ledger.connections, List.map_append, List.count_append] at once
  rcases h with ⟨i, hi, -, same⟩ | ⟨c, hc, same⟩
  · have idle : 0 < ((t.ledger.idle.map (·.connection)).map (·.link.serial)).count
        i.connection.link.serial := pos (List.mem_map_of_mem hi)
    rw [same] at idle
    split at once <;> omega
  · have gone := pos hc
    rw [same, List.map_append, List.count_append] at gone
    split at once <;> omega

theorem barrier_of_fenced (sound : Sound t.ledger)
    (fenced : Fenced s.reservations s.pool.generation t.ledger) :
    Barrier s t where
  generation_lt := fenced.generation_lt
  granted _ _ _ h _ ht := place_le_of_decision fenced h ht
  inspected _ _ _ h _ hi lt := inspected_of_decision fenced sound.tagged h hi lt
  pruned due _ hi lt := pruned_of_old fenced sound.tagged due hi lt
  released _ held lt := released_of_old fenced sound.balanced held lt
  shut c hc := by
    apply close_mem_shut
    have all : (List.replicate t.leaving.length Event.shutFirst).countP Event.shuts =
        t.leaving.length := by simp [List.countP_replicate, Event.shuts]
    rwa [all, List.take_length]
  retired c hc events := by
    have r : Retired s.reservations t.ledger c.link.serial := by
      rcases hc with ⟨i, hi, lt, rfl⟩ | hc
      · exact Or.inl ⟨i, hi, lt, rfl⟩
      · exact Or.inr ⟨c, hc, rfl⟩
    have ms := t.moves_run events
    have balanced := (sound_of_moves sound ms).balanced
    exact not_lent_of_retired balanced (retired_of_moves sound fenced ms r)

end

/-- What is true of a pool `s₀` after some events, when it has come to the state `s`. -/
structure Guarded (s₀ : PoolSystem) (events : List Event) (s : PoolSystem) : Prop where
  generation_le : ∀ e, s.pool.generation ≤ (s.step e).pool.generation
  /-- Whatever a caller decides is about connections of the current generation. -/
  decided : ∀ e name l, s.decision? e = some (name, l) → Decided s (s.step e) name l
  /-- All loans go back to such decisions. -/
  granted : ∀ l ∈ s.lent, s₀.Granted events (l.borrower, l.tag)
  /-- An invalidation gives up what is idle; ... -/
  emptied : (s.step .invalidate).pool.idle = [] ∧
    (s.step .invalidate).leaving = s.leaving ++ s.pool.idle.map (·.connection)
  /-- ... and whatever happens then, there is no way back. -/
  barrier : ∀ later, Barrier s ((s.step .invalidate).run later)

theorem guarded_run {address : Address} {settings : PoolSettings} {dialer : Dialer}
    {clock : Instant} {s₀ : PoolSystem} (h : create address settings dialer clock = .ok s₀)
    (events : List Event) : Guarded s₀ events (s₀.run events) where
  generation_le e := generation_le_of_moves ((s₀.run events).moves_step e)
  decided _ _ _ hd := decided_step hd
  granted l hl := by
    have nothing : s₀.promised = [] := by
      obtain ⟨-, rfl⟩ := exists_fresh_of_create h
      rfl
    refine granted_of_promised (sound_run h []) nothing events ?_
    exact List.mem_append_left _ (List.mem_map_of_mem (f := fun l => (l.borrower, l.tag)) hl)
  emptied := ⟨(s₀.run events).emptied_invalidate.1, (s₀.run events).emptied_invalidate.2.2⟩
  barrier later := by
    have sound := sound_run h events
    have sound' := sound_of_moves sound (moves_step _ .invalidate)
    have ms := (s₀.run events).invalidate.moves_run later
    exact barrier_of_fenced (sound_of_moves sound' ms)
      (fenced_of_moves sound' (fenced_invalidate sound.tagged) ms)

/-- Maintenance files a connection that was opened across an invalidation. -/
theorem guarded_run_filed :
    let settings : PoolSettings := { minSize := 1 }
    let s₀ := fresh .localhost settings {} .zero
    let events : List Event := [.prune, .refill, .dialed 0 (.ok {})]
    let t := ((s₀.run events).step .invalidate).run [.settle 0]
    create .localhost settings {} .zero = .ok s₀ ∧ t.pool.idle.map Idle.tag = [⟨0, 0⟩] ∧
      (s₀.run events).reservations = 1 ∧ Guarded s₀ events (s₀.run events) := by
  intro settings s₀ events t
  have created : create .localhost settings {} .zero = .ok s₀ := rfl
  have filed : t.pool.idle.map Idle.tag = [⟨0, 0⟩] := by decide +kernel
  exact ⟨created, filed, rfl, guarded_run created events⟩

end PoolSystem

end ClusterClient

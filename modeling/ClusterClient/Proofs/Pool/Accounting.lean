import ClusterClient.Proofs.Pool.Moves
import Mathlib.Data.List.Nodup

/-!
# Accounting

The total of a pool is the number of its places that are taken: by idle connections, by loans, and
by openings. It never passes the limit, and it never falls below what is taken from it. Each stream
that was ever opened is in one place at a time, so no connection has two borrowers.

The names of callers and borrowers are unique, because a call is named by its number. That is why
the end of a loan ends one loan only.

    Accounted settings (s.run events)     for each pool s that was created with settings
-/

namespace ClusterClient

namespace Ledger

/-! ## Invariant -/

/-- The names of the calls that have not ended, and of the borrowers. -/
def names (b : Ledger) : List Nat :=
  b.blocked ++ b.openings.filterMap (·.caller) ++ b.lent.map (·.borrower)

/-- All connections that were established, wherever they are. -/
def connections (b : Ledger) : List Connection :=
  b.idle.map (·.connection) ++ b.lent.map (·.connection) ++
    b.openings.filterMap (·.connection) ++ b.leaving ++ b.shut

def serials (b : Ledger) : List Nat := b.connections.map (·.link.serial)

structure Balanced (b : Ledger) : Prop where
  total_eq : b.total = b.idle.length + b.lent.length + b.openings.length
  total_le : b.total ≤ b.settings.maxSize
  minSize_le : b.settings.minSize ≤ b.settings.maxSize
  names_le : ∀ n, b.names.count n ≤ if n < b.calls then 1 else 0
  serials_eq : ∀ n, b.serials.count n = if n < b.streams then 1 else 0
  shut_closed : ∀ c ∈ b.shut, c.closed = true

/-! ## Moves -/

section

variable {b b' : Ledger}

theorem settings_eq_of_move (m : Move b b') : b'.settings = b.settings := by
  cases m <;> rfl

theorem count_filter_ne (l : List Nat) (name n : Nat) :
    (l.filter (· != name)).count n = if n = name then 0 else l.count n := by
  split
  · next h =>
    subst h
    exact List.count_eq_zero.2 (by simp)
  · next h => exact List.count_filter (by simpa using h)

theorem map_setConnection_of_ne {borrower : Nat} {c : Connection} {ls : List Lent}
    (h : ∀ l ∈ ls, l.borrower ≠ borrower) : ls.map (setConnection borrower c) = ls := by
  refine (List.map_congr_left fun l hl => ?_).trans (List.map_id ls)
  rw [setConnection, if_neg (by simpa using h l hl), id]

/-- Each borrower has one loan: the list of loans splits around it. -/
theorem Balanced.exists_lent_eq (h : Balanced b) {l : Lent} (held : l ∈ b.lent) :
    ∃ before after, b.lent = before ++ l :: after ∧
      b.lent.filter (·.borrower != l.borrower) = before ++ after ∧
      ∀ c, b.lent.map (setConnection l.borrower c) =
        before ++ { l with connection := c } :: after := by
  obtain ⟨before, after, found⟩ := List.append_of_mem held
  have once := h.names_le l.borrower
  simp only [names, found, List.count_append, List.map_append, List.map_cons,
    List.count_cons_self] at once
  have single : (before.map (·.borrower)).count l.borrower = 0 ∧
      (after.map (·.borrower)).count l.borrower = 0 := by
    split at once <;> omega
  have hbefore : ∀ m ∈ before, m.borrower ≠ l.borrower := fun m hm e =>
    List.count_eq_zero.1 single.1 (e ▸ List.mem_map_of_mem hm)
  have hafter : ∀ m ∈ after, m.borrower ≠ l.borrower := fun m hm e =>
    List.count_eq_zero.1 single.2 (e ▸ List.mem_map_of_mem hm)
  refine ⟨before, after, found, ?_, fun c => ?_⟩
  · rw [found, List.filter_append, List.filter_cons_of_neg (by simp),
      List.filter_eq_self.2 (by simpa using hbefore), List.filter_eq_self.2 (by simpa using hafter)]
  · rw [found, List.map_append, List.map_cons, map_setConnection_of_ne hbefore,
      map_setConnection_of_ne hafter, setConnection, if_pos (by simp)]

theorem total_eq_of_move (h : Balanced b) (m : Move b b') :
    b'.total = b'.idle.length + b'.lent.length + b'.openings.length := by
  have total_eq := h.total_eq
  cases m with
  | tick | enter | leave | wait | invalidate | close | shutFirst => exact total_eq
  | reuse _ top =>
    simp only [top, List.length_cons, List.length_append, List.length_nil] at total_eq ⊢
    omega
  | reserve | refill =>
    simp only [List.length_append, List.length_cons, List.length_nil]
    omega
  | remove split =>
    have := split.length_eq
    rw [List.length_append] at this
    simp only
    omega
  | establish found | fail found | reject found | lend found | file found | abandon found =>
    simp only [found, List.length_append, List.length_cons, List.length_nil] at total_eq ⊢
    omega
  | use => simpa using total_eq
  | takeBack held | discard held =>
    obtain ⟨before, after, found, rest, -⟩ := h.exists_lent_eq held
    simp only [rest]
    simp only [found, List.length_append, List.length_cons] at total_eq ⊢
    omega

theorem total_le_of_move (h : Balanced b) (m : Move b b') : b'.total ≤ b'.settings.maxSize := by
  have total_le := h.total_le
  have minSize_le := h.minSize_le
  cases m with
  | reserve id known isOpen room => exact room
  | refill id isOpen low => exact Nat.le_trans low minSize_le
  | remove | fail | reject | abandon | discard => exact Nat.le_trans (Nat.sub_le ..) total_le
  | tick | enter | leave | wait | reuse | invalidate | close | establish | lend | file | use
  | takeBack | shutFirst => exact total_le

theorem names_le_of_move (h : Balanced b) (m : Move b b') (n : Nat) :
    b'.names.count n ≤ if n < b'.calls then 1 else 0 := by
  have names_le := h.names_le n
  cases m with
  | tick | remove | invalidate | close | shutFirst => exact names_le
  | enter =>
    simp only [names, List.count_append, List.count_singleton] at names_le ⊢
    grind
  | leave name =>
    simp only [names, List.count_append, count_filter_ne] at names_le ⊢
    grind
  | wait known =>
    have := List.count_pos_iff.2 known
    simp only [names, List.count_append, count_filter_ne, List.count_singleton] at names_le ⊢
    grind
  | reuse known =>
    have := List.count_pos_iff.2 known
    simp only [names, List.count_append, count_filter_ne, List.map_append, List.map_cons,
      List.map_nil, List.count_singleton] at names_le ⊢
    grind
  | reserve id known =>
    have := List.count_pos_iff.2 known
    simp only [names, List.count_append, count_filter_ne, List.filterMap_append,
      List.filterMap_cons, List.filterMap_nil, List.count_singleton] at names_le ⊢
    grind
  | refill => simpa [names] using names_le
  | establish found | fail found | reject found | file found | abandon found =>
    simp only [names, found, List.count_append, List.filterMap_append,
      List.filterMap_cons] at names_le ⊢
    grind
  | lend found done caller =>
    simp only [names, found, caller, List.count_append, List.filterMap_append,
      List.filterMap_cons, List.map_append, List.map_cons, List.map_nil] at names_le ⊢
    grind
  | use held =>
    obtain ⟨before, after, found, -, replaced⟩ := h.exists_lent_eq held
    simp only [replaced]
    simpa [names, found] using names_le
  | takeBack held | discard held =>
    obtain ⟨before, after, found, rest, -⟩ := h.exists_lent_eq held
    simp only [rest]
    simp only [names, found, List.count_append, List.map_append, List.map_cons,
      List.count_cons] at names_le ⊢
    omega

theorem serials_eq_of_move (h : Balanced b) (m : Move b b') (n : Nat) :
    b'.serials.count n = if n < b'.streams then 1 else 0 := by
  have serials_eq := h.serials_eq n
  simp only [serials, connections] at serials_eq ⊢
  cases m with
  | tick | enter | leave | wait | invalidate | close => exact serials_eq
  | reuse _ top =>
    simp only [top, List.map_append, List.map_cons, List.map_nil, List.count_append,
      List.count_cons, List.count_nil] at serials_eq ⊢
    omega
  | reserve | refill => simpa using serials_eq
  | remove split =>
    have := (split.map (·.connection.link.serial)).count_eq n
    simp only [List.map_append, List.map_map, Function.comp_def,
      List.count_append] at serials_eq this ⊢
    omega
  | establish found under serial =>
    simp only [found, under, serial, List.filterMap_append, List.filterMap_cons, List.map_append,
      List.map_cons, List.count_append, List.count_cons] at serials_eq ⊢
    grind
  | fail found under => simpa [found, under] using serials_eq
  | reject found under serial =>
    simp only [found, under, serial, List.filterMap_append, List.filterMap_cons, List.map_append,
      List.map_cons, List.map_nil, List.count_append, List.count_singleton] at serials_eq ⊢
    grind
  | lend found done | file found done | abandon found done =>
    simp only [found, done, List.filterMap_append, List.filterMap_cons, List.map_append,
      List.map_cons, List.map_nil, List.count_append, List.count_cons,
      List.count_nil] at serials_eq ⊢
    omega
  | use held follows =>
    obtain ⟨before, after, found, -, replaced⟩ := h.exists_lent_eq held
    simp only [replaced]
    simpa [found, follows.link.serial_eq] using serials_eq
  | takeBack held | discard held =>
    obtain ⟨before, after, found, rest, -⟩ := h.exists_lent_eq held
    simp only [rest]
    simp only [found, List.map_append, List.map_cons, List.map_nil, List.count_append,
      List.count_cons, List.count_nil] at serials_eq ⊢
    omega
  | @shutFirst c rest first =>
    have same := c.follows_close.link.serial_eq
    simp only [first, same, List.map_append, List.map_cons, List.map_nil, List.count_append,
      List.count_cons, List.count_nil] at serials_eq ⊢
    omega

theorem shut_closed_of_move (h : Balanced b) (m : Move b b') : ∀ c ∈ b'.shut, c.closed = true := by
  have shut_closed := h.shut_closed
  cases m with
  | reject found under serial place isShut =>
    exact List.forall_mem_append.2 ⟨shut_closed, List.forall_mem_singleton.2 isShut⟩
  | shutFirst =>
    exact List.forall_mem_append.2
      ⟨shut_closed, List.forall_mem_singleton.2 (Connection.closed_close _)⟩
  | _ => exact shut_closed

theorem balanced_of_move (h : Balanced b) (m : Move b b') : Balanced b' where
  total_eq := total_eq_of_move h m
  total_le := total_le_of_move h m
  minSize_le := settings_eq_of_move m ▸ h.minSize_le
  names_le := names_le_of_move h m
  serials_eq := serials_eq_of_move h m
  shut_closed := shut_closed_of_move h m

theorem balanced_of_moves (h : Balanced b) (ms : Moves b b') :
    Balanced b' ∧ b'.settings = b.settings := by
  induction ms with
  | refl => exact ⟨h, rfl⟩
  | tail _ m ih => exact ⟨balanced_of_move ih.1 m, (settings_eq_of_move m).trans ih.2⟩

end

end Ledger

namespace PoolSystem

open Ledger

/-! ## Pools in use -/

theorem exists_fresh_of_create {address : Address} {settings : PoolSettings} {dialer : Dialer}
    {clock : Instant} {s : PoolSystem} (h : create address settings dialer clock = .ok s) :
    settings.validate = .ok () ∧ s = fresh address settings dialer clock := by
  unfold create at h
  cases hv : settings.validate with
  | error e => rw [hv] at h; cases h
  | ok u => rw [hv] at h; cases h; exact ⟨rfl, rfl⟩

theorem balanced_create {address : Address} {settings : PoolSettings} {dialer : Dialer}
    {clock : Instant} {s : PoolSystem} (h : create address settings dialer clock = .ok s) :
    s.ledger.Balanced := by
  obtain ⟨valid, rfl⟩ := exists_fresh_of_create h
  obtain ⟨-, minSize_le, -⟩ := PoolSettings.validate_eq_ok_iff.1 valid
  exact ⟨rfl, Nat.zero_le _, minSize_le, fun n => Nat.zero_le _, fun n => rfl,
    by simp [ledger, fresh]⟩

theorem balanced_run {address : Address} {settings : PoolSettings} {dialer : Dialer}
    {clock : Instant} {s : PoolSystem} (h : create address settings dialer clock = .ok s)
    (events : List Event) :
    (s.run events).ledger.Balanced ∧ (s.run events).pool.settings = settings := by
  obtain ⟨balanced, settings_eq⟩ := balanced_of_moves (balanced_create h) (s.moves_run events)
  obtain ⟨-, rfl⟩ := exists_fresh_of_create h
  exact ⟨balanced, settings_eq⟩

/-- What is true of the places of a pool and of the connections in them. -/
structure Accounted (settings : PoolSettings) (s : PoolSystem) : Prop where
  settings_eq : s.pool.settings = settings
  total_eq : s.pool.total = s.pool.idle.length + s.lent.length + s.openings.length
  total_le : s.pool.total ≤ settings.maxSize
  checkedOut_eq : s.pool.checkedOut = s.lent.length + s.openings.length
  /-- Neither invalidating nor closing takes more from the total than there is, ... -/
  idle_le : s.pool.idle.length ≤ s.pool.total
  /-- nor does a look, ... -/
  discarded_le : ∀ now deadline queued,
    (s.pool.look now deadline queued).discarded.length ≤ s.pool.total
  /-- nor does maintenance, ... -/
  pruned_le : ∀ now, (s.pool.prune now).1.length ≤ s.pool.total
  /-- nor does the end of a loan or of an opening. -/
  vacated_le : s.lent ≠ [] ∨ s.openings ≠ [] → 1 ≤ s.pool.total
  /-- Each stream is in one place. -/
  serials_perm : (s.connections.map (·.link.serial)).Perm (List.range s.streams)
  shut_closed : ∀ c ∈ s.shut, c.closed = true
  borrowers_nodup : (s.lent.map (·.borrower)).Nodup
  lent_nodup : (s.lent.map (·.connection.link.serial)).Nodup
  lent_le : s.lent.length ≤ settings.maxSize

theorem serials_perm {s : PoolSystem} (h : s.ledger.Balanced) :
    (s.connections.map (·.link.serial)).Perm (List.range s.streams) := by
  refine List.perm_iff_count.2 fun n => (h.serials_eq n).trans ?_
  rw [List.count_range]
  rfl

theorem borrowers_nodup {s : PoolSystem} (h : s.ledger.Balanced) :
    (s.lent.map (·.borrower)).Nodup := by
  refine List.nodup_iff_count_le_one.2 fun n => ?_
  have once := h.names_le n
  simp only [names, List.count_append] at once
  change _ + (s.lent.map (·.borrower)).count n ≤ _ at once
  split at once <;> omega

theorem lent_nodup {s : PoolSystem} (h : s.ledger.Balanced) :
    (s.lent.map (·.connection.link.serial)).Nodup := by
  have nodup := (serials_perm h).nodup_iff.2 List.nodup_range
  simp only [PoolSystem.connections, List.map_append, List.map_map] at nodup
  exact nodup.of_append_left.of_append_left.of_append_left.of_append_right

theorem accounted_of_balanced {s : PoolSystem} (h : s.ledger.Balanced) :
    Accounted s.pool.settings s := by
  have total_eq : s.pool.total = s.pool.idle.length + s.lent.length + s.openings.length :=
    h.total_eq
  have total_le : s.pool.total ≤ s.pool.settings.maxSize := h.total_le
  refine ⟨rfl, total_eq, total_le, ?_, by omega, fun now deadline queued => ?_, fun now => ?_,
    fun some => ?_, serials_perm h, h.shut_closed, borrowers_nodup h, lent_nodup h, by omega⟩
  · rw [Pool.checkedOut]
    omega
  · have := congrArg List.length (s.pool.found_look now deadline queued).idle_eq
    rw [List.length_append] at this
    omega
  · have := (s.pool.prune_perm now).length_eq
    rw [List.length_append] at this
    omega
  · rw [← List.length_pos_iff, ← List.length_pos_iff] at some
    omega

theorem accounted_run {address : Address} {settings : PoolSettings} {dialer : Dialer}
    {clock : Instant} {s : PoolSystem} (h : create address settings dialer clock = .ok s)
    (events : List Event) : Accounted settings (s.run events) := by
  obtain ⟨balanced, settings_eq⟩ := balanced_run h events
  exact settings_eq ▸ accounted_of_balanced balanced

/-- A pool that maintenance fills lends its connection. -/
theorem accounted_run_filled :
    let settings : PoolSettings := { minSize := 1, maxSize := 2 }
    let s := fresh .localhost settings {} .zero
    let t := s.run [.prune, .refill, .dialed 0 (.ok {}), .settle 0, .call .zero]
    create .localhost settings {} .zero = .ok s ∧ t.lent.length = 1 ∧ Accounted settings t :=
  ⟨rfl, rfl, accounted_run rfl _⟩

end PoolSystem

end ClusterClient

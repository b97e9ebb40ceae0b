import ClusterClient.Proofs.Pool.Sessions

/-!
# Connections that come back

A borrower gives its connection back after a use that went well, and the pool keeps it unless it is
too old. Or the use has failed, which closed the connection, and the pool drops it; whether the pool
was invalidated in between makes no difference to that.

    Released s c t, Removed c t      for t = (s.giveBack borrower).shutAll.notifyAll
-/

namespace ClusterClient

open PoolSystem

/-- The connection came back to the pool after a use that did not spoil it. -/
structure Released (s : PoolSystem) (c : Connection) (t : PoolSystem) : Prop where
  kept : c.closed = false → expired s.pool.settings.maxLifeTime c.openedAt s.clock = false →
    t.pool.idle = ⟨c, s.pool.generation, s.clock⟩ :: s.pool.idle
  dropped : c.closed = true ∨ expired s.pool.settings.maxLifeTime c.openedAt s.clock = true →
    t.pool.idle = s.pool.idle ∧ c.close ∈ t.shut

theorem Released.idle_suffix {s t : PoolSystem} {c : Connection} (h : Released s c t) :
    s.pool.idle <:+ t.pool.idle := by
  by_cases spoiled : c.closed = true ∨
      expired s.pool.settings.maxLifeTime c.openedAt s.clock = true
  · exact (h.dropped spoiled).1 ▸ List.suffix_refl _
  · simp only [not_or, Bool.not_eq_true] at spoiled
    exact ⟨[_], (h.kept spoiled.1 spoiled.2).symm⟩

/-- The connection is shut down and nobody has it any more. -/
structure Removed (c : Connection) (t : PoolSystem) : Prop where
  isClosed : c.closed = true
  mem_shut : c ∈ t.shut
  not_idle : ∀ i ∈ t.pool.idle, i.connection.link.serial ≠ c.link.serial
  not_lent : ∀ l ∈ t.lent, l.connection.link.serial ≠ c.link.serial

namespace PoolSystem

open Ledger

variable {s t : PoolSystem} {l : Lent}

/-! ## Who is new -/

theorem calls_not_mem_names (balanced : Balanced s.ledger) : s.calls ∉ s.ledger.names := by
  have none : s.ledger.names.count s.calls ≤ if s.calls < s.calls then 1 else 0 :=
    balanced.names_le s.calls
  rw [if_neg (Nat.lt_irrefl _), Nat.le_zero] at none
  exact List.count_eq_zero.1 none

theorem borrower_ne_calls (balanced : Balanced s.ledger) (hl : l ∈ s.lent) :
    l.borrower ≠ s.calls := by
  intro same
  refine calls_not_mem_names balanced (List.mem_append_right _ ?_)
  exact same ▸ List.mem_map_of_mem hl

theorem caller_ne_calls (balanced : Balanced s.ledger) {o : Opening} (ho : o ∈ s.openings) :
    o.caller ≠ some s.calls := by
  intro same
  refine calls_not_mem_names balanced (List.mem_append_left _ (List.mem_append_right _ ?_))
  exact List.mem_filterMap.2 ⟨o, ho, same⟩

/-! ## The last loan -/

/-- The loans of the pool, the last of which is under discussion. -/
structure Last (others : List Lent) (l : Lent) (s : PoolSystem) : Prop where
  lent_eq : s.lent = others ++ [l]
  apart : ∀ m ∈ others, m.borrower ≠ l.borrower

variable {others : List Lent}

theorem Last.loan?_eq (h : Last others l s) : s.loan? l.borrower = some l := by
  have none : others.find? (·.borrower == l.borrower) = none :=
    List.find?_eq_none.2 fun m hm => by simpa using h.apart m hm
  rw [loan?, h.lent_eq, List.find?_append, none, Option.none_or]
  simp

theorem Last.filter_eq (h : Last others l s) :
    s.lent.filter (·.borrower != l.borrower) = others := by
  rw [h.lent_eq, List.filter_append, List.filter_eq_self.2 (by simpa using h.apart)]
  simp

theorem Last.update (h : Last others l s) (c : Connection) (buffers : Recycler) :
    Last others { l with connection := c } (s.update l.borrower c buffers) where
  lent_eq := by
    have same : others.map (setConnection l.borrower c) = others := map_setConnection_of_ne h.apart
    show s.lent.map (setConnection l.borrower c) = _
    rw [h.lent_eq, List.map_append, same]
    simp [setConnection]
  apart := h.apart

/-- What a borrower does on its connection is an exchange on that connection. -/
theorem Last.exchange_eq (h : Last others l s) (n : Network) (id : Int32) (r : Request) :
    s.exchange n l.borrower id r =
      ((l.connection.converse s.buffers n id r).1,
        s.update l.borrower (l.connection.converse s.buffers n id r).2.1
          (l.connection.converse s.buffers n id r).2.2) := by
  rw [exchange, h.loan?_eq]

theorem Last.invalidate (h : Last others l s) : Last others l s.invalidate := ⟨h.lent_eq, h.apart⟩

/-! ## Giving back -/

theorem giveBack_of_kept (h : Last others l s) {pool : Pool}
    (given : s.pool.giveBack l.connection l.generation s.clock = (true, pool)) :
    s.giveBack l.borrower = owe { s with pool, lent := others } .one := by
  simp only [giveBack, h.loan?_eq, given, h.filter_eq, if_true]

theorem giveBack_of_dropped (h : Last others l s) {pool : Pool}
    (given : s.pool.giveBack l.connection l.generation s.clock = (false, pool)) :
    s.giveBack l.borrower =
      owe (dismiss { s with pool, lent := others } [l.connection]) .one := by
  simp only [giveBack, h.loan?_eq, given, h.filter_eq, Bool.false_eq_true, if_false]

/-- What is left when the last loan was given back and everything on its way out is shut down. -/
structure Relieved (s : PoolSystem) (others : List Lent) (t : PoolSystem) : Prop where
  lent_eq : t.lent = others
  openings_eq : t.openings = s.openings
  generation_eq : t.pool.generation = s.pool.generation
  close_mem_shut : ∀ c ∈ s.leaving, c.close ∈ t.shut

theorem relieved_giveBack (h : Last others l s) :
    Relieved s others (s.giveBack l.borrower).shutAll.notifyAll := by
  have tidied := tidied_shutAll_notifyAll (s.giveBack l.borrower)
  have shut : ∀ c ∈ (s.giveBack l.borrower).leaving,
      c.close ∈ (s.giveBack l.borrower).shutAll.notifyAll.shut := fun c hc => by
    rw [tidied.shut_eq]
    exact List.mem_append_right _ (List.mem_map_of_mem hc)
  rcases s.pool.giveBack_cases l.connection l.generation s.clock with
    ⟨-, -, -, given⟩ | ⟨-, requested, given⟩
  · rw [giveBack_of_kept h given] at tidied shut ⊢
    exact ⟨tidied.lent_eq, tidied.openings_eq, by rw [tidied.pool_eq]; rfl, shut⟩
  · rw [giveBack_of_dropped h given] at tidied shut ⊢
    exact ⟨tidied.lent_eq, tidied.openings_eq, by rw [tidied.pool_eq]; rfl,
      fun c hc => shut c (List.mem_append_left _ hc)⟩

/-- A connection that is not kept is shut down. -/
theorem dropped_giveBack (h : Last others l s) {pool : Pool}
    (given : s.pool.giveBack l.connection l.generation s.clock = (false, pool)) :
    (s.giveBack l.borrower).shutAll.notifyAll.pool = pool ∧
      l.connection.close ∈ (s.giveBack l.borrower).shutAll.notifyAll.shut := by
  have tidied := tidied_shutAll_notifyAll (s.giveBack l.borrower)
  rw [giveBack_of_dropped h given] at tidied ⊢
  refine ⟨tidied.pool_eq, ?_⟩
  rw [tidied.shut_eq]
  exact List.mem_append_right _ (List.mem_map_of_mem (List.mem_append_right _ List.mem_cons_self))

theorem released_giveBack (h : Last others l s) (isOpen : s.pool.closed = false)
    (current : l.generation = s.pool.generation) :
    Released s l.connection (s.giveBack l.borrower).shutAll.notifyAll where
  kept sound young := by
    have given : s.pool.giveBack l.connection l.generation s.clock =
        (true, s.pool.file l.connection s.pool.generation s.clock) := by
      simp [Pool.giveBack, Pool.file, isOpen, current, sound, young]
    have tidied := tidied_shutAll_notifyAll (s.giveBack l.borrower)
    rw [giveBack_of_kept h given] at tidied ⊢
    exact congrArg Pool.idle tidied.pool_eq
  dropped spoiled := by
    have given : s.pool.giveBack l.connection l.generation s.clock =
        (false, s.pool.vacate.requestRefill) := by
      rw [Pool.giveBack, if_neg (by simp [isOpen]), if_pos]
      simpa [current] using spoiled
    obtain ⟨requested, hr⟩ := s.pool.vacate.exists_requestRefill_eq
    obtain ⟨pool_eq, mem⟩ := dropped_giveBack h given
    exact ⟨by rw [pool_eq, hr]; rfl, mem⟩

/-- What is shut down is neither idle nor lent. -/
theorem removed_of_mem_shut (balanced : Balanced s.ledger) {c : Connection}
    (isClosed : c.closed = true) (hc : c ∈ s.shut) : Removed c s := by
  have nodup := (serials_perm balanced).nodup_iff.2 List.nodup_range
  rw [PoolSystem.connections, List.map_append] at nodup
  have apart := (List.nodup_append'.1 nodup).2.2
  have elsewhere {d : Connection} (hd : d ∈ s.pool.idle.map (·.connection) ++
      s.lent.map (·.connection) ++ s.openings.filterMap (·.connection) ++ s.leaving) :
      d.link.serial ≠ c.link.serial := fun same =>
    apart (List.mem_map_of_mem hd) (same ▸ List.mem_map_of_mem hc)
  refine ⟨isClosed, hc, fun i hi => elsewhere ?_, fun l hl => elsewhere ?_⟩
  · have mem := List.mem_map_of_mem (f := (·.connection)) hi
    simp [mem]
  · have mem := List.mem_map_of_mem (f := (·.connection)) hl
    simp [mem]

/-- A connection that failed is dropped, whether the pool was invalidated or not. -/
theorem removed_giveBack (h : Last others l s) (balanced : Balanced s.ledger)
    (isClosed : l.connection.closed = true) :
    Removed l.connection (s.giveBack l.borrower).shutAll.notifyAll ∧
      (s.giveBack l.borrower).shutAll.notifyAll.pool.idle = s.pool.idle := by
  rcases s.pool.giveBack_cases l.connection l.generation s.clock with
    ⟨-, sound, -⟩ | ⟨-, requested, given⟩
  · rw [isClosed] at sound
    cases sound
  · obtain ⟨pool_eq, mem⟩ := dropped_giveBack h given
    have closed_eq : l.connection.close = l.connection := by rw [Connection.close, if_pos isClosed]
    rw [closed_eq] at mem
    have moves := (s.moves_step (.giveBack l.borrower)).trans
      (moves_shutAll_notifyAll (s.giveBack l.borrower))
    have balanced := (balanced_of_moves balanced moves).1
    exact ⟨removed_of_mem_shut balanced isClosed mem, by rw [pool_eq]; rfl⟩

end PoolSystem

end ClusterClient

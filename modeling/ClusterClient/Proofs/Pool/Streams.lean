import ClusterClient.Proofs.Pool.Accounting
import Mathlib.Data.List.Induction

/-!
# Where connections come from and where they go

Streams are opened by attempts to connect and by no other step. Every connection that a pool knows
is on a stream that was opened in one of the events. Since then the stream was shut down once if the
connection is closed, and not at all if it is open.

Connections that leave the pool line up to be shut down, and each of them is when its turn comes.

    c ∈ (s.run events).connections → s.Opened events c.link.serial link for some link, and
      c.link.shutdowns = link.shutdowns + (1 if c is closed)               (exists_opened)
    c is one of the first n in s.leaving, n connections are shut down in the events →
      c.close ∈ (s.run events).shut                                        (close_mem_shut)
-/

namespace ClusterClient

namespace Ledger

variable {b b' : Ledger} {c : Connection}

theorem mem_connections : c ∈ b.connections ↔
    (∃ i ∈ b.idle, i.connection = c) ∨ (∃ l ∈ b.lent, l.connection = c) ∨
      (∃ o ∈ b.openings, o.connection = some c) ∨ c ∈ b.leaving ∨ c ∈ b.shut := by
  simp [connections]

theorem streams_le_of_move (m : Move b b') : b.streams ≤ b'.streams := by
  cases m with
  | establish | reject => exact Nat.le_succ _
  | _ => exact Nat.le_refl _

theorem streams_le_of_moves (ms : Moves b b') : b.streams ≤ b'.streams := by
  induction ms with
  | refl => exact Nat.le_refl _
  | tail _ m ih => exact Nat.le_trans ih (streams_le_of_move m)

theorem shut_subset_of_move (m : Move b b') : b.shut ⊆ b'.shut := by
  cases m with
  | reject | shutFirst => exact List.subset_append_left _ _
  | _ => exact List.Subset.refl _

theorem shut_subset_of_moves (ms : Moves b b') : b.shut ⊆ b'.shut := by
  induction ms with
  | refl => exact List.Subset.refl _
  | tail _ m ih => exact List.Subset.trans ih (shut_subset_of_move m)

/-- As long as no stream is opened, each connection is one that was there before. -/
theorem exists_follows_of_move (m : Move b b') (same : b'.streams = b.streams)
    (hc : c ∈ b'.connections) : ∃ c' ∈ b.connections, c'.Follows c := by
  have kept (h : c ∈ b.connections) : ∃ c' ∈ b.connections, c'.Follows c := ⟨c, h, .refl c⟩
  rw [mem_connections] at hc
  cases m with
  | tick | enter | leave | wait | invalidate | close => exact kept (mem_connections.2 hc)
  | establish | reject => simp at same
  | reuse _ top =>
    refine kept (mem_connections.2 ?_)
    rw [top]
    grind
  | reserve | refill | takeBack | discard =>
    refine kept (mem_connections.2 ?_)
    grind
  | remove split =>
    have := fun i => split.mem_iff (a := i)
    refine kept (mem_connections.2 ?_)
    grind
  | fail found | lend found done | file found done | abandon found done =>
    refine kept (mem_connections.2 ?_)
    rw [found]
    grind
  | @use l d held follows =>
    rcases hc with idle | ⟨m, hm, rfl⟩ | rest
    · exact kept (mem_connections.2 (.inl idle))
    · obtain ⟨m', hm', rfl⟩ := List.mem_map.1 hm
      unfold setConnection
      split
      · exact ⟨l.connection, mem_connections.2 (.inr (.inl ⟨l, held, rfl⟩)), follows⟩
      · exact ⟨m'.connection, mem_connections.2 (.inr (.inl ⟨m', hm', rfl⟩)), .refl _⟩
    · exact kept (mem_connections.2 (.inr (.inr rest)))
  | @shutFirst d rest first =>
    by_cases last : c = d.close
    · subst last
      exact ⟨d, mem_connections.2 (by simp [first]), d.follows_close⟩
    · refine kept (mem_connections.2 ?_)
      rw [first]
      grind

theorem exists_follows_of_moves (ms : Moves b b') (same : b'.streams = b.streams)
    (hc : c ∈ b'.connections) : ∃ c' ∈ b.connections, c'.Follows c := by
  induction ms generalizing c with
  | refl => exact ⟨c, hc, .refl c⟩
  | tail ms m ih =>
    -- streams are never taken back, so their number did not change on the way
    have early := streams_le_of_moves ms
    have late := streams_le_of_move m
    obtain ⟨d, hd, follows⟩ := exists_follows_of_move m (by omega) hc
    obtain ⟨c', hc', follows'⟩ := ih (by omega) hd
    exact ⟨c', hc', follows'.trans follows⟩

end Ledger

namespace PoolSystem

open Ledger

section

variable {s : PoolSystem} {c : Connection}

/-! ## Steps -/

theorem streams_fail (s : PoolSystem) (caller : Option Nat) (cause : Error) :
    (s.fail caller cause).streams = s.streams :=
  congrArg Ledger.streams (s.ledger_fail caller cause)

theorem leaving_fail (s : PoolSystem) (caller : Option Nat) (cause : Error) :
    (s.fail caller cause).leaving = s.leaving :=
  congrArg Ledger.leaving (s.ledger_fail caller cause)

/-- Streams are opened by attempts to connect only, and the connections on the way out line up to be
shut down. -/
structure Steady (s : PoolSystem) (e : Event) (t : PoolSystem) : Prop where
  streams_eq : (∀ index stream, e ≠ .dialed index stream) → t.streams = s.streams
  leaving_grows : e ≠ .shutFirst → s.leaving <+: t.leaving

theorem Steady.of_eq {t : PoolSystem} {e : Event} (streams : t.streams = s.streams)
    (leaving : t.leaving = s.leaving) : Steady s e t :=
  ⟨fun _ => streams, fun _ => leaving ▸ List.prefix_refl _⟩

theorem Steady.of_append {t : PoolSystem} {e : Event} {more : List Connection}
    (streams : t.streams = s.streams) (leaving : t.leaving = s.leaving ++ more) : Steady s e t :=
  ⟨fun _ => streams, fun _ => leaving ▸ List.prefix_append _ _⟩

theorem steady_look (s : PoolSystem) (e : Event) (caller : Caller) (queued : Bool) :
    Steady s e (s.look caller queued) :=
  .of_append (congrArg Ledger.streams (s.ledger_look caller queued rfl))
    (congrArg Ledger.leaving (s.ledger_look caller queued rfl))

theorem steady_step (s : PoolSystem) (e : Event) : Steady s e (s.step e) := by
  have stepped := s.stepped_step e
  generalize s.step e = t at stepped
  cases stepped with
  | called timeout =>
    have steady := steady_look { s with calls := s.calls + 1 } (.call timeout)
      { name := s.calls, timeout, deadline := ⟨s.clock.nanos + timeout.nanos⟩ } false
    exact ⟨steady.streams_eq, steady.leaving_grows⟩
  | rechecked => exact s.steady_look _ _ true
  | attempted _ _ attempted =>
    have kept : t.leaving = s.leaving := by
      cases attempted with
      | established => rfl
      | rejected | unopened => exact leaving_fail ..
    exact ⟨fun h => absurd rfl (h _ _), fun _ => kept ▸ List.prefix_refl _⟩
  | settled _ _ settled =>
    cases settled with
    | abandoned => exact .of_append (streams_fail ..) (leaving_fail ..)
    | lent | filed => exact .of_eq rfl rfl
  | returned _ returned =>
    cases returned with
    | kept => exact .of_eq rfl rfl
    | discarded => exact .of_append rfl rfl
  | invalidated | closed | pruned => exact .of_append rfl rfl
  | shut => exact ⟨fun _ => rfl, fun h => absurd rfl h⟩
  | nothing | used | notified | ended | rested | reserved | ticked => exact .of_eq rfl rfl

/-! ## Streams -/

/-- The stream of this number was opened in one of the events; it was `link` then. -/
def Opened (s : PoolSystem) (events : List Event) (serial : Nat) (link : Link) : Prop :=
  ∃ earlier index later, events = earlier ++ .dialed index (.ok link) :: later ∧
    (s.run earlier).streams = serial ∧
    ((s.run earlier).step (.dialed index (.ok link))).streams = serial + 1

/-- The end of an attempt to open a connection adds a connection only if it opens a stream. -/
theorem mem_connections_dialed {index : Nat} {stream : Except Error Link}
    (hc : c ∈ (s.dialed index stream).ledger.connections) :
    c ∈ s.ledger.connections ∨ ∃ link, stream = .ok link ∧ c.link.serial = s.streams ∧
      (s.dialed index stream).streams = s.streams + 1 ∧
      c.link.shutdowns = link.shutdowns + c.closed.toNat := by
  rcases s.dialed_eq_or index stream with same | ⟨o, h, -, attempted⟩
  · exact .inl (same ▸ hc)
  · generalize s.dialed index stream = s' at attempted hc
    rw [mem_connections]
    cases attempted with
    | @established link d _ follows =>
      rw [mem_connections] at hc
      by_cases new : c = d
      · subst new
        exact .inr ⟨link, rfl, follows.link.serial_eq, rfl, follows.shutdowns_eq⟩
      · simp only [ledger] at hc ⊢
        grind
    | @rejected link d _ _ follows =>
      rw [ledger_fail, mem_connections] at hc
      by_cases new : c = d
      · subst new
        exact .inr ⟨link, rfl, follows.link.serial_eq, streams_fail .., follows.shutdowns_eq⟩
      · simp only [ledger, owe, Pool.vacate] at hc ⊢
        grind [List.mem_of_mem_eraseIdx]
    | unopened =>
      rw [ledger_fail, mem_connections] at hc
      simp only [ledger, owe, Pool.vacate] at hc ⊢
      grind [List.mem_of_mem_eraseIdx]

theorem opened_append {events : List Event} {serial : Nat} {link : Link}
    (h : s.Opened events serial link) (more : List Event) :
    s.Opened (events ++ more) serial link := by
  obtain ⟨earlier, index, later, rfl, opened⟩ := h
  exact ⟨earlier, index, later ++ more, by simp, opened⟩

theorem streams_le_run (s : PoolSystem) (events : List Event) :
    s.streams ≤ (s.run events).streams :=
  streams_le_of_moves (s.moves_run events)

theorem Opened.serial_lt {events : List Event} {serial : Nat} {link : Link}
    (h : s.Opened events serial link) : serial < (s.run events).streams := by
  obtain ⟨earlier, index, later, rfl, -, opened⟩ := h
  rw [run_append]
  exact Nat.lt_of_lt_of_le (opened ▸ Nat.lt_succ_self serial) (streams_le_run _ later)

/-- No two streams have one number. -/
theorem Opened.unique {events : List Event} {serial : Nat} {link link' : Link}
    (h : s.Opened events serial link) (h' : s.Opened events serial link') : link = link' := by
  obtain ⟨earlier, index, later, rfl, before, opened⟩ := h
  obtain ⟨earlier', index', later', split, before', opened'⟩ := h'
  -- of two such events the later one finds a stream more than the earlier one
  have apart {es es' rest : List Event} {e : Event} (long : es' = es ++ e :: rest)
      (one : ((s.run es).step e).streams = serial + 1) : (s.run es').streams ≠ serial := by
    rw [long, run_append]
    have := streams_le_run ((s.run es).step e) rest
    intro same
    change (((s.run es).step e).run rest).streams = serial at same
    omega
  rcases List.append_eq_append_iff.1 split with ⟨mid, hmid, rest⟩ | ⟨mid, hmid, rest⟩
  · cases mid with
    | nil =>
      cases rest
      rfl
    | cons e mid =>
      obtain ⟨rfl, -⟩ := List.cons.inj rest
      exact absurd before' (apart hmid opened)
  · cases mid with
    | nil =>
      cases rest
      rfl
    | cons e mid =>
      obtain ⟨rfl, -⟩ := List.cons.inj rest
      exact absurd before (apart hmid opened')

/-- Every connection is on a stream that one of the events opened; since then the stream was shut
down once if the connection is closed, and not at all if it is open. -/
theorem exists_opened (nothing : s.ledger.connections = []) (events : List Event)
    (hc : c ∈ (s.run events).ledger.connections) :
    ∃ link, s.Opened events c.link.serial link ∧
      c.link.shutdowns = link.shutdowns + c.closed.toNat := by
  induction events using List.reverseRecOn generalizing c with
  | nil =>
    change c ∈ s.ledger.connections at hc
    simp [nothing] at hc
  | append_singleton events e ih =>
    rw [run_append] at hc
    change c ∈ ((s.run events).step e).ledger.connections at hc
    have old {c' : Connection} (hc' : c' ∈ (s.run events).ledger.connections)
        (follows : c'.Follows c) : ∃ link, s.Opened (events ++ [e]) c.link.serial link ∧
          c.link.shutdowns = link.shutdowns + c.closed.toNat := by
      obtain ⟨link, opened, shutdowns⟩ := ih hc'
      rw [follows.link.serial_eq]
      refine ⟨link, opened_append opened [e], ?_⟩
      have := follows.shutdowns_eq
      omega
    by_cases he : ∃ index stream, e = .dialed index stream
    · obtain ⟨index, stream, rfl⟩ := he
      rcases mem_connections_dialed hc with known | ⟨link, rfl, serial, more, shutdowns⟩
      · exact old known (.refl c)
      · exact ⟨link, ⟨events, index, [], rfl, serial.symm, serial ▸ more⟩, shutdowns⟩
    · simp only [not_exists] at he
      have steady := (s.run events).steady_step e
      obtain ⟨c', hc', follows⟩ :=
        exists_follows_of_moves ((s.run events).moves_step e) (steady.streams_eq he) hc
      exact old hc' follows

/-! ## Connections on the way out -/

/-- Whether this is the step that shuts a connection down. -/
def Event.shuts : Event → Bool
  | .shutFirst => true
  | _ => false

theorem eq_shutFirst_of_shuts {e : Event} (h : e.shuts = true) : e = .shutFirst := by
  cases e with
  | shutFirst => rfl
  | _ => simp [Event.shuts] at h

theorem leaving_shutFirst (s : PoolSystem) : (s.step .shutFirst).leaving = s.leaving.tail := by
  simp only [step, shutFirst]
  split
  · next h => rw [h, List.tail_cons]
  · next h => rw [h, List.tail_nil]

theorem shut_shutFirst {c : Connection} {rest : List Connection} (h : s.leaving = c :: rest) :
    (s.step .shutFirst).shut = s.shut ++ [c.close] := by
  simp only [step, shutFirst, h]

theorem shut_subset_run (s : PoolSystem) (events : List Event) :
    s.shut ⊆ (s.run events).shut :=
  shut_subset_of_moves (s.moves_run events)

/-- A connection on its way out is shut down when its turn comes, whatever happens until then. -/
theorem close_mem_shut {c : Connection} {events : List Event}
    (h : c ∈ s.leaving.take (events.countP Event.shuts)) : c.close ∈ (s.run events).shut := by
  induction events generalizing s with
  | nil => simp at h
  | cons e events ih =>
    change c.close ∈ ((s.step e).run events).shut
    by_cases he : e.shuts = true
    · obtain rfl := eq_shutFirst_of_shuts he
      rw [List.countP_cons_of_pos he] at h
      rcases first : s.leaving with - | ⟨d, rest⟩
      · simp [first] at h
      · rw [first, List.take_succ_cons, List.mem_cons] at h
        rcases h with rfl | h
        · refine shut_subset_run _ events ?_
          simp [shut_shutFirst first]
        · refine ih ?_
          rwa [leaving_shutFirst, first, List.tail_cons]
    · rw [List.countP_cons_of_neg he] at h
      refine ih ?_
      have notShut : e ≠ .shutFirst := by
        rintro rfl
        exact he rfl
      obtain ⟨more, grown⟩ := (s.steady_step e).leaving_grows notShut
      rw [← grown, List.take_append]
      exact List.mem_append_left _ h

end

end PoolSystem

end ClusterClient

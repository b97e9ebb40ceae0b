import ClusterClient.Proofs.Connection.Payload
import ClusterClient.Proofs.Pool.Decisions
import ClusterClient.Proofs.Pool.Streams

/-!
# Custody

Nobody but its borrower does anything to a connection that is lent. Whatever else happens to a pool,
the loans stay as they are and so do the streams under all open connections; the only new ones are
those that were just opened, and nothing has arrived on them.

    Keeps (fun _ => False) s (s.step e)     unless e is a step of a borrower          (keeps_step)
    Keeps (· = borrower) s (s.giveBack borrower)                                  (keeps_giveBack)
-/

namespace ClusterClient

namespace PoolSystem

open Ledger (mem_connections)

/-- What is no step of a borrower. Nothing has arrived on a stream that is just opened. -/
def Event.Quiet : Event → Prop
  | .use _ _ | .giveBack _ => False
  | .dialed _ (.ok link) => Link.payload link.arrivals = []
  | _ => True

/-- The loans stay, but for those of some borrowers. -/
structure Tends (concerned : Nat → Prop) (s t : PoolSystem) : Prop where
  calls_le : s.calls ≤ t.calls
  streams_le : s.streams ≤ t.streams
  loan?_eq : ∀ borrower l, ¬concerned borrower → s.loan? borrower = some l →
    t.loan? borrower = some l

/-- The open streams stay as well. -/
structure Keeps (concerned : Nat → Prop) (s t : PoolSystem) : Prop extends Tends concerned s t where
  connection : ∀ c ∈ t.ledger.connections, c.closed = false → c ∈ s.ledger.connections ∨
    (s.streams ≤ c.link.serial ∧ Link.payload c.link.arrivals = [])

theorem Tends.mono {concerned concerned' : Nat → Prop} {s t : PoolSystem}
    (h : Tends concerned s t) (more : ∀ borrower, concerned borrower → concerned' borrower) :
    Tends concerned' s t where
  calls_le := h.calls_le
  streams_le := h.streams_le
  loan?_eq borrower l other loan := h.loan?_eq borrower l (fun yes => other (more _ yes)) loan

namespace Keeps

variable {concerned : Nat → Prop} {s t u : PoolSystem}

theorem refl (concerned : Nat → Prop) (s : PoolSystem) : Keeps concerned s s :=
  ⟨⟨Nat.le_refl _, Nat.le_refl _, fun _ _ _ h => h⟩, fun _ hc _ => .inl hc⟩

theorem trans (h : Keeps concerned s t) (h' : Keeps concerned t u) : Keeps concerned s u where
  calls_le := Nat.le_trans h.calls_le h'.calls_le
  streams_le := Nat.le_trans h.streams_le h'.streams_le
  loan?_eq borrower l other loan := h'.loan?_eq borrower l other (h.loan?_eq borrower l other loan)
  connection c hc isOpen := by
    rcases h'.connection c hc isOpen with old | ⟨new, nothing⟩
    · exact h.connection c old isOpen
    · exact .inr ⟨Nat.le_trans h.streams_le new, nothing⟩

theorem mono {concerned' : Nat → Prop} (h : Keeps concerned s t)
    (more : ∀ borrower, concerned borrower → concerned' borrower) : Keeps concerned' s t :=
  ⟨h.toTends.mono more, h.connection⟩

/-- No stream is opened, and nobody gives a loan up. -/
theorem of_subset {more : List Lent} (calls : s.calls ≤ t.calls) (streams : t.streams = s.streams)
    (lent : t.lent = s.lent ++ more)
    (connection : ∀ c ∈ t.ledger.connections, c.closed = false → c ∈ s.ledger.connections) :
    Keeps concerned s t where
  calls_le := calls
  streams_le := Nat.le_of_eq streams.symm
  loan?_eq borrower l _ loan := by
    rw [loan?] at loan ⊢
    rw [lent, List.find?_append, loan]
    rfl
  connection c hc isOpen := .inl (connection c hc isOpen)

/-- The loans are the same. -/
theorem of_lent_eq (calls : s.calls ≤ t.calls) (streams : t.streams = s.streams)
    (lent : t.lent = s.lent)
    (connection : ∀ c ∈ t.ledger.connections, c.closed = false → c ∈ s.ledger.connections) :
    Keeps concerned s t :=
  .of_subset calls streams (lent.trans (List.append_nil _).symm) connection

theorem of_ledger_eq (ledger : t.ledger = s.ledger) : Keeps concerned s t :=
  .of_lent_eq (Nat.le_of_eq (congrArg Ledger.calls ledger).symm)
    (congrArg Ledger.streams ledger) (congrArg Ledger.lent ledger) fun _ hc _ => ledger ▸ hc

end Keeps

section

variable {concerned : Nat → Prop} {s : PoolSystem}

/-! ## Callers and openings -/

theorem keeps_look (s : PoolSystem) (caller : Caller) (queued : Bool) :
    Keeps concerned s (s.look caller queued) := by
  have found := s.pool.found_look s.clock caller.deadline queued
  generalize hl : s.pool.look s.clock caller.deadline queued = l at found
  have ledger_eq := s.ledger_look caller queued hl
  refine .of_subset (Nat.le_of_eq (calls_look ..).symm) (congrArg Ledger.streams ledger_eq)
    (congrArg Ledger.lent ledger_eq) fun c hc _ => ?_
  -- what was idle is discarded, reused or left
  have idle (i : Idle) : i ∈ s.pool.idle ↔ i ∈ l.discarded ∨ i ∈ l.verdict.reused ∨
      i ∈ l.pool.idle := by
    rw [found.idle_eq, List.mem_append, List.mem_append]
  rw [ledger_eq, mem_connections] at hc
  rw [mem_connections]
  simp only [ledger, idle, List.mem_append, List.mem_map, Verdict.mem_loans, Verdict.mem_begun,
    Verdict.mem_reused] at hc ⊢
  grind

theorem keeps_call (s : PoolSystem) (timeout : Duration) : Keeps concerned s (s.call timeout) := by
  let asked : PoolSystem := { s with calls := s.calls + 1 }
  have entered : Keeps concerned s asked :=
    .of_lent_eq (Nat.le_succ _) rfl rfl fun _ hc _ => hc
  exact entered.trans (asked.keeps_look _ false)

theorem keeps_recheck (s : PoolSystem) (name : Nat) : Keeps concerned s (s.recheck name) := by
  unfold recheck
  split
  · exact s.keeps_look _ true
  · exact .refl ..

theorem keeps_fail {t : PoolSystem} (h : Keeps concerned s t) (caller : Option Nat)
    (cause : Error) : Keeps concerned s (t.fail caller cause) :=
  h.trans (.of_ledger_eq (t.ledger_fail caller cause))

/-- Without an authenticator there is nothing to fail once the stream is open. -/
theorem dialed_of_plain (plain : s.dialer.authenticator = none) {index : Nat} {o : Opening}
    (found : s.openings[index]? = some o) (under : o.connection = none) (link : Link) :
    ∃ c, s.dialed index (.ok link) = { s with
        streams := s.streams + 1
        openings := s.openings.set index { o with connection := some c } } ∧
      c.link = { link with serial := s.streams, place := o.place } := by
  obtain ⟨id, generation, place, caller, connection⟩ := o
  obtain rfl : connection = none := under
  simp only [dialed, found, Dialer.dial, plain, Except.map, Except.isOk, Except.toBool]
  exact ⟨_, rfl, rfl⟩

theorem keeps_dialed (plain : s.dialer.authenticator = none) {index : Nat}
    {stream : Except Error Link} (quiet : (Event.dialed index stream).Quiet) :
    Keeps concerned s (s.dialed index stream) := by
  rcases s.dialed_eq_or index stream with same | ⟨o, found, under, attempted⟩
  · rw [same]
    exact .refl ..
  · cases stream with
    | error cause =>
      generalize s.dialed index (.error cause) = t at attempted
      cases attempted with
      | unopened =>
        apply keeps_fail
        refine .of_lent_eq (Nat.le_refl _) rfl rfl fun c hc _ => ?_
        rw [mem_connections] at hc ⊢
        simp only [ledger, owe, Pool.vacate] at hc ⊢
        grind [List.mem_of_mem_eraseIdx]
    | ok link =>
      obtain ⟨c, dialed_eq, link_eq⟩ := dialed_of_plain plain found under link
      rw [dialed_eq]
      refine ⟨⟨Nat.le_refl _, Nat.le_succ _, fun _ _ _ loan => loan⟩, fun d hd _ => ?_⟩
      by_cases new : d = c
      · subst new
        rw [link_eq]
        exact .inr ⟨Nat.le_refl _, quiet⟩
      · left
        rw [mem_connections] at hd ⊢
        simp only [ledger] at hd ⊢
        grind

theorem keeps_settle (s : PoolSystem) (index : Nat) : Keeps concerned s (s.settle index) := by
  unfold settle
  split
  · next id generation place caller c found =>
    have held : ∃ o ∈ s.openings, o.connection = some c :=
      ⟨_, List.mem_of_getElem? found, rfl⟩
    simp only
    split
    · apply keeps_fail
      refine .of_lent_eq (Nat.le_refl _) rfl rfl fun d hd _ => ?_
      rw [mem_connections] at hd ⊢
      simp only [ledger, owe, dismiss, Pool.vacate] at hd ⊢
      grind [List.mem_of_mem_eraseIdx]
    · split
      · refine .of_subset (Nat.le_refl _) rfl rfl fun d hd _ => ?_
        rw [mem_connections] at hd ⊢
        simp only [ledger, conclude] at hd ⊢
        grind [List.mem_of_mem_eraseIdx]
      · refine .of_lent_eq (Nat.le_refl _) rfl rfl fun d hd _ => ?_
        rw [mem_connections] at hd ⊢
        simp only [ledger, owe, Pool.file] at hd ⊢
        grind [List.mem_of_mem_eraseIdx]
  · exact .refl ..

/-! ## The pool itself -/

/-- Idle connections are dismissed. -/
theorem keeps_dismiss {pool : Pool} {gone : List Idle} (gone_subset : gone ⊆ s.pool.idle)
    (kept_subset : pool.idle ⊆ s.pool.idle) (maintenance : Maintenance) :
    Keeps concerned s (dismiss { s with pool, maintenance } (gone.map (·.connection))) := by
  refine .of_lent_eq (Nat.le_refl _) rfl rfl fun c hc _ => ?_
  rw [mem_connections] at hc ⊢
  simp only [ledger, dismiss, List.mem_append, List.mem_map] at hc ⊢
  grind

theorem keeps_owe {t : PoolSystem} (h : Keeps concerned s t) (notice : Notice) :
    Keeps concerned s (t.owe notice) :=
  h.trans (.of_ledger_eq rfl)

theorem keeps_close (s : PoolSystem) : Keeps concerned s s.close := by
  simp only [close, Pool.close]
  split
  · exact .refl ..
  · exact keeps_owe (keeps_dismiss (List.Subset.refl _) (List.nil_subset _) s.maintenance) _

theorem keeps_shutFirst (s : PoolSystem) : Keeps concerned s s.shutFirst := by
  unfold shutFirst
  split
  · next d rest first =>
    refine .of_lent_eq (Nat.le_refl _) rfl rfl fun c hc isOpen => ?_
    have other : c ≠ d.close := by
      rintro rfl
      rw [d.closed_close] at isOpen
      cases isOpen
    rw [mem_connections] at hc ⊢
    simp only [ledger, List.mem_append, first, List.mem_cons] at hc ⊢
    grind
  · exact .refl ..

theorem keeps_prune (s : PoolSystem) : Keeps concerned s s.prune := by
  unfold prune
  split
  · split
    · exact .of_ledger_eq rfl
    · have perm := s.pool.prune_perm s.clock
      exact keeps_dismiss (fun i hi => perm.mem_iff.2 (List.mem_append_left _ hi))
        (fun i hi => perm.mem_iff.2 (List.mem_append_right _ hi)) _
  · exact .refl ..

theorem keeps_refill (s : PoolSystem) : Keeps concerned s s.refill := by
  unfold refill
  split
  · split
    · exact .of_ledger_eq rfl
    · refine .of_lent_eq (Nat.le_refl _) rfl rfl fun c hc _ => ?_
      rw [mem_connections] at hc ⊢
      simp only [ledger, beginOpening, Pool.reserve] at hc ⊢
      grind
  · exact .refl ..

/-! ## All steps -/

theorem keeps_step (plain : s.dialer.authenticator = none) {e : Event} (quiet : e.Quiet) :
    Keeps concerned s (s.step e) := by
  cases e with
  | call timeout => exact s.keeps_call timeout
  | recheck name => exact s.keeps_recheck name
  | dialed index stream => exact keeps_dialed plain quiet
  | settle index => exact s.keeps_settle index
  | use | giveBack => exact quiet.elim
  | invalidate =>
    obtain ⟨requested, h⟩ := s.pool.invalidate_eq
    simp only [step, invalidate, h]
    exact keeps_dismiss (List.Subset.refl _) (List.nil_subset _) s.maintenance
  | close => exact s.keeps_close
  | shutFirst => exact s.keeps_shutFirst
  | notify pick => exact .of_ledger_eq (s.ledger_notify pick)
  | prune => exact s.keeps_prune
  | refill => exact s.keeps_refill
  | tick elapsed =>
    exact .of_lent_eq (Nat.le_refl _) rfl rfl fun _ hc _ => hc

theorem loan?_filter_ne {borrower other : Nat} {l : Lent} (apart : other ≠ borrower)
    (loan : s.loan? other = some l) :
    (s.lent.filter (·.borrower != borrower)).find? (·.borrower == other) = some l := by
  rw [loan?] at loan
  rw [List.find?_filter, ← loan]
  congr 1
  funext m
  by_cases same : m.borrower = other
  · simp [same, apart]
  · simp [same]

/-- A connection that comes back becomes idle or leaves. -/
theorem keeps_giveBack (s : PoolSystem) (borrower : Nat) :
    Keeps (· = borrower) s (s.giveBack borrower) := by
  unfold giveBack
  split
  · next l found =>
    obtain ⟨held, -⟩ := mem_of_loan? found
    have known : l.connection ∈ s.ledger.connections :=
      mem_connections.2 (.inr (.inl ⟨l, held, rfl⟩))
    have kept (m : Lent) (hm : m ∈ s.lent.filter (·.borrower != borrower)) : m ∈ s.lent :=
      List.mem_of_mem_filter hm
    obtain ⟨-, -, -, given⟩ | ⟨-, requested, given⟩ :=
      s.pool.giveBack_cases l.connection l.generation s.clock
    · rw [given]
      refine ⟨⟨Nat.le_refl _, Nat.le_refl _, fun _ _ => loan?_filter_ne⟩, fun c hc _ => ?_⟩
      rw [mem_connections] at hc known ⊢
      simp only [ledger, owe, Pool.file, if_true] at hc known ⊢
      grind
    · rw [given]
      refine ⟨⟨Nat.le_refl _, Nat.le_refl _, fun _ _ => loan?_filter_ne⟩, fun c hc _ => ?_⟩
      rw [mem_connections] at hc known ⊢
      simp only [ledger, owe, dismiss, Pool.vacate, Bool.false_eq_true, if_false] at hc known ⊢
      grind
  · exact .refl ..

/-! ## Uses -/

/-- After some uses the connection of the loan `l` has become `d`; the rest is as it was. -/
structure Used (s : PoolSystem) (l : Lent) (d : Connection) (t : PoolSystem) : Prop where
  calls_eq : t.calls = s.calls
  streams_eq : t.streams = s.streams
  serial_eq : d.link.serial = l.connection.link.serial
  loan?_eq : t.loan? l.borrower = some { l with connection := d }
  others : ∀ borrower, borrower ≠ l.borrower → t.loan? borrower = s.loan? borrower
  connection : ∀ c ∈ t.ledger.connections, c = d ∨
    (c ∈ s.ledger.connections ∧ c.link.serial ≠ l.connection.link.serial)

theorem Used.tends {t : PoolSystem} {l : Lent} {d : Connection} (h : Used s l d t) :
    Tends (· = l.borrower) s t where
  calls_le := Nat.le_of_eq h.calls_eq.symm
  streams_le := Nat.le_of_eq h.streams_eq.symm
  loan?_eq borrower _ other loan := (h.others borrower other).trans loan

theorem Used.trans {t u : PoolSystem} {l : Lent} {d d' : Connection} (h : Used s l d t)
    (h' : Used t { l with connection := d } d' u) : Used s l d' u where
  calls_eq := h'.calls_eq.trans h.calls_eq
  streams_eq := h'.streams_eq.trans h.streams_eq
  serial_eq := h'.serial_eq.trans h.serial_eq
  loan?_eq := h'.loan?_eq
  others borrower other := (h'.others borrower other).trans (h.others borrower other)
  connection c hc := by
    rcases h'.connection c hc with rfl | ⟨old, apart⟩
    · exact .inl rfl
    · rcases h.connection c old with rfl | kept
      · exact absurd rfl apart
      · exact .inr kept

theorem loan?_update (s : PoolSystem) (borrower other : Nat) (d : Connection)
    (buffers : Recycler) : (s.update borrower d buffers).loan? other =
      (s.loan? other).map (Ledger.setConnection borrower d) := by
  have same : (fun l : Lent => l.borrower == other) ∘ Ledger.setConnection borrower d =
      fun l => l.borrower == other := by
    funext l
    simp only [Function.comp_apply, Ledger.setConnection]
    split <;> rfl
  rw [loan?, loan?, show (s.update borrower d buffers).lent =
    s.lent.map (Ledger.setConnection borrower d) from rfl, List.find?_map, same]

theorem used_update (balanced : s.ledger.Balanced) {borrower : Nat} {l : Lent}
    (loan : s.loan? borrower = some l) {d : Connection} (follows : l.connection.Follows d)
    (buffers : Recycler) : Used s l d (s.update borrower d buffers) := by
  obtain ⟨held, rfl⟩ := mem_of_loan? loan
  have loan?_eq := s.loan?_update l.borrower
  refine ⟨rfl, rfl, follows.link.serial_eq, ?_, fun other apart => ?_, fun c hc => ?_⟩
  · rw [loan?_eq, loan, Option.map_some, Ledger.setConnection, if_pos (beq_self_eq_true _)]
  · rw [loan?_eq]
    cases loan' : s.loan? other with
    | none => rfl
    | some m =>
      have other_eq := (mem_of_loan? loan').2
      rw [Option.map_some, Ledger.setConnection, if_neg (by simpa [other_eq] using apart)]
  · by_cases new : c = d
    · exact .inl new
    · -- each stream is in one place, before and after
      have balanced' := Ledger.balanced_of_move balanced (.use held follows)
      have nodup := (serials_perm (s := s.update l.borrower d buffers) balanced').nodup_iff.2
        List.nodup_range
      have moved : { l with connection := d } ∈ (s.update l.borrower d buffers).lent :=
        List.mem_map.2 ⟨l, held, by rw [if_pos (beq_self_eq_true _)]⟩
      have hd : d ∈ (s.update l.borrower d buffers).ledger.connections :=
        mem_connections.2 (.inr (.inl ⟨_, moved, rfl⟩))
      refine .inr ⟨?_, fun same => new (List.inj_on_of_nodup_map nodup hc hd ?_)⟩
      · rw [mem_connections] at hc ⊢
        simp only [ledger, update, List.mem_map] at hc ⊢
        grind
      · rw [same, follows.link.serial_eq]

theorem use_eq {borrower : Nat} {l : Lent} (loan : s.loan? borrower = some l) (usage : Usage) :
    s.use borrower usage = ((l.connection.apply s.buffers usage).1,
      s.update borrower (l.connection.apply s.buffers usage).2.1
        (l.connection.apply s.buffers usage).2.2) := by
  rw [use, loan]

theorem used_use (balanced : s.ledger.Balanced) {borrower : Nat} {l : Lent}
    (loan : s.loan? borrower = some l) (usage : Usage) :
    Used s l (l.connection.apply s.buffers usage).2.1 (s.use borrower usage).2 := by
  rw [use_eq loan]
  exact used_update balanced loan (l.connection.follows_apply s.buffers usage) _

/-- The use of a connection whose link was set to `link` before. -/
theorem used_use_use (balanced : s.ledger.Balanced) {borrower : Nat} {l : Lent}
    (loan : s.loan? borrower = some l) {first : Usage} {link : Link}
    (set : l.connection.apply s.buffers first = (.ok none, { l.connection with link }, s.buffers))
    (second : Usage) :
    Used s l (({ l.connection with link : Connection }).apply s.buffers second).2.1
      (s.run [.use borrower first, .use borrower second]) := by
  have used := used_use balanced loan first
  have buffers_eq : (s.use borrower first).2.buffers = s.buffers := by
    rw [use_eq loan, set]
    rfl
  obtain ⟨-, rfl⟩ := mem_of_loan? loan
  have balanced' : (s.use l.borrower first).2.ledger.Balanced :=
    (Ledger.balanced_of_moves balanced (s.moves_step (.use l.borrower first))).1
  have again := used_use balanced' used.loan?_eq second
  rw [set, buffers_eq] at again
  rw [set] at used
  exact used.trans again

end

end PoolSystem

end ClusterClient

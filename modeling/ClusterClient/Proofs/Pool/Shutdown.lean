import ClusterClient.Proofs.Pool.Barrier
import ClusterClient.Proofs.Pool.Streams

/-!
# The end of a pool

A closed pool has nothing idle and lends nothing. What was lent before comes back, what was being
opened is established or not, and each of these ends with its place free and its connection on the
way out. Connections on the way out are shut down in turn, whatever else happens.

When nothing is lent or being opened any more, no connection is added to those on the way out. After
as many steps as there are of them, every stream that was ever opened has been shut down once.

    Shutdown s₀ events (s₀.run events)
      for each pool s₀ that was created and all events with a close among them     (shutdown_run)
-/

namespace ClusterClient

namespace Ledger

section

variable {b b' : Ledger}

/-- No more places are taken in a closed pool. -/
theorem barred_of_move (closed : b.closed = true) (m : Move b b') :
    b'.reservations = b.reservations ∧ b'.total ≤ b.total := by
  cases m with
  | reserve _ _ isOpen | refill _ isOpen => simp [closed] at isOpen
  | remove | fail | reject | abandon | discard => exact ⟨rfl, Nat.sub_le ..⟩
  | _ => exact ⟨rfl, Nat.le_refl _⟩

theorem barred_of_moves (closed : b.closed = true) (ms : Moves b b') :
    b'.reservations = b.reservations ∧ b'.total ≤ b.total := by
  induction ms with
  | refl => exact ⟨rfl, Nat.le_refl _⟩
  | tail ms m ih =>
    obtain ⟨same, le⟩ := barred_of_move (closed_of_moves ms closed) m
    exact ⟨same.trans ih.1, Nat.le_trans le ih.2⟩

/-- Nobody has, or is about to have, a connection of a pool that is closed. -/
structure Drained (b : Ledger) : Prop where
  closed : b.closed = true
  idle_eq : b.idle = []
  lent_eq : b.lent = []
  openings_eq : b.openings = []

theorem drained_of_move (h : Drained b) (m : Move b b') :
    Drained b' ∧ b'.leaving.length ≤ b.leaving.length := by
  obtain ⟨closed, idle_eq, lent_eq, openings_eq⟩ := h
  cases m with
  | tick | enter | leave | wait | invalidate =>
    exact ⟨⟨closed, idle_eq, lent_eq, openings_eq⟩, Nat.le_refl _⟩
  | close => exact ⟨⟨rfl, idle_eq, lent_eq, openings_eq⟩, Nat.le_refl _⟩
  | reuse _ _ isOpen | reserve _ _ isOpen | refill _ isOpen | takeBack _ isOpen =>
    simp [closed] at isOpen
  | establish found | fail found | reject found | lend found | file found | abandon found =>
    simp [openings_eq] at found
  | use held | discard held => simp [lent_eq] at held
  | remove split =>
    rw [idle_eq, List.nil_perm, List.append_eq_nil_iff] at split
    obtain ⟨rfl, rfl⟩ := split
    exact ⟨⟨closed, rfl, lent_eq, openings_eq⟩, by simp⟩
  | shutFirst first => exact ⟨⟨closed, idle_eq, lent_eq, openings_eq⟩, by simp [first]⟩

theorem drained_of_moves (h : Drained b) (ms : Moves b b') :
    Drained b' ∧ b'.leaving.length ≤ b.leaving.length := by
  induction ms with
  | refl => exact ⟨h, Nat.le_refl _⟩
  | tail _ m ih =>
    obtain ⟨drained, le⟩ := drained_of_move ih.1 m
    exact ⟨drained, Nat.le_trans le ih.2⟩

end

end Ledger

namespace PoolSystem

open Ledger

section

variable {s : PoolSystem}

/-- Nothing is added to the connections on the way out once nobody has one. -/
theorem length_leaving_run_le (h : Drained s.ledger) (events : List Event) :
    (s.run events).leaving.length ≤ s.leaving.length - events.countP Event.shuts := by
  induction events generalizing s with
  | nil => exact Nat.le_refl _
  | cons e events ih =>
    obtain ⟨drained, le⟩ := drained_of_moves h (s.moves_step e)
    refine Nat.le_trans (ih drained) ?_
    change (s.step e).leaving.length ≤ s.leaving.length at le
    by_cases he : e.shuts = true
    · obtain rfl := eq_shutFirst_of_shuts he
      rw [leaving_shutFirst, List.length_tail, List.countP_cons_of_pos he]
      omega
    · rw [List.countP_cons_of_neg he]
      omega

/-! ## Closed pools -/

theorem closed_close (s : PoolSystem) : s.close.pool.closed = true := by
  unfold close
  split
  · next closed => exact closed
  · next isOpen =>
    rw [Pool.close, if_neg isOpen]
    rfl

theorem step_close_of_closed (closed : s.pool.closed = true) : s.step .close = s := by
  rw [step, close, if_pos closed]

/-- A caller that looks for a connection of a closed pool is refused. -/
structure Refused (s t : PoolSystem) (name : Nat) : Prop where
  answers_eq : t.answers = (name, .error (.poolClosed s.pool.address)) :: s.answers
  total_eq : t.pool.total = s.pool.total
  lent_eq : t.lent = s.lent
  openings_eq : t.openings = s.openings
  leaving_eq : t.leaving = s.leaving

theorem refused_look (closed : s.pool.closed = true) (caller : Caller) (queued : Bool) :
    Refused s (s.look caller queued) caller.name := by
  have found := s.pool.found_look s.clock caller.deadline queued
  obtain ⟨verdict, discarded⟩ := found.refused closed
  have total_eq := found.total_eq
  simp only [verdict, discarded, Verdict.reserved, List.length_nil] at total_eq
  unfold look
  simp only [verdict, discarded, conclude, found.address_eq]
  exact ⟨rfl, total_eq, rfl, rfl, by simp⟩

theorem refused_step (closed : s.pool.closed = true) {e : Event} {name : Nat} {l : Look}
    (h : s.decision? e = some (name, l)) : Refused s (s.step e) name := by
  cases e with
  | call timeout =>
    cases h
    have r := refused_look (s := { s with calls := s.calls + 1 }) closed
      { name := s.calls, timeout, deadline := ⟨s.clock.nanos + timeout.nanos⟩ } false
    exact ⟨r.answers_eq, r.total_eq, r.lent_eq, r.openings_eq, r.leaving_eq⟩
  | recheck name =>
    simp only [decision?, Option.map_eq_some_iff] at h
    obtain ⟨caller, hc, he⟩ := h
    cases he
    rw [step, recheck, hc]
    exact refused_look closed caller true
  | _ => cases h

/-- A connection is given up: its place is free, and it lines up to be shut down. -/
structure GivenUp (s t : PoolSystem) (c : Connection) : Prop where
  total_eq : t.pool.total + 1 = s.pool.total
  idle_eq : t.pool.idle = s.pool.idle
  leaving_eq : t.leaving = s.leaving ++ [c]

theorem givenUp_settle (balanced : Balanced s.ledger) (closed : s.pool.closed = true)
    {index : Nat} {o : Opening} {c : Connection} (h : s.openings[index]? = some o)
    (done : o.connection = some c) :
    GivenUp s (s.settle index) c ∧ (s.settle index).openings = s.openings.eraseIdx index ∧
      (s.settle index).lent = s.lent ∧
      ∀ name, o.caller = some name →
        (s.settle index).answers = (name, .error (.poolClosed s.pool.address)) :: s.answers := by
  have total_eq : s.pool.total = s.pool.idle.length + s.lent.length + s.openings.length :=
    balanced.total_eq
  have some : 0 < s.openings.length := Nat.zero_lt_of_lt (List.getElem?_eq_some_iff.1 h).1
  obtain ⟨id, generation, place, caller, connection⟩ := o
  obtain rfl : connection = .some c := done
  have gone : s.pool.total - 1 + 1 = s.pool.total := by omega
  have settled : s.settle index = fail (owe (dismiss { s with
      openings := s.openings.eraseIdx index, pool := s.pool.vacate } [c]) .all) caller
      (.poolClosed s.pool.address) := by
    simp only [settle, h, if_pos closed]
    rfl
  rw [settled]
  cases caller with
  | none => exact ⟨⟨gone, rfl, rfl⟩, rfl, rfl, by simp⟩
  | some name => exact ⟨⟨gone, rfl, rfl⟩, rfl, rfl, by rintro _ ⟨⟩; rfl⟩

theorem givenUp_giveBack (balanced : Balanced s.ledger) (closed : s.pool.closed = true)
    {l : Lent} (held : l ∈ s.lent) :
    GivenUp s (s.giveBack l.borrower) l.connection ∧
      (s.giveBack l.borrower).lent = s.lent.filter (·.borrower != l.borrower) ∧
      (s.giveBack l.borrower).openings = s.openings := by
  have total_eq : s.pool.total = s.pool.idle.length + s.lent.length + s.openings.length :=
    balanced.total_eq
  have some := List.length_pos_of_mem held
  have gone : s.pool.total - 1 + 1 = s.pool.total := by omega
  have given : s.pool.giveBack l.connection l.generation s.clock = (false, s.pool.vacate) := by
    rw [Pool.giveBack, if_pos closed]
  unfold giveBack
  rw [loan?_eq_some balanced held]
  simp only [given]
  exact ⟨⟨gone, rfl, rfl⟩, rfl, rfl⟩

/-! ## The end -/

/-- The pool is empty, and every stream that was opened for it has been shut down once. -/
structure Finished (s₀ : PoolSystem) (events : List Event) (t : PoolSystem) : Prop where
  total_eq : t.pool.total = 0
  connections_eq : t.connections = t.shut
  serials_perm : (t.shut.map (·.link.serial)).Perm (List.range t.streams)
  once : ∀ serial link, s₀.Opened events serial link →
    ∃ c ∈ t.shut, c.link.serial = serial ∧ c.link.shutdowns = link.shutdowns + 1

theorem finished_of_drained {s₀ : PoolSystem} {events : List Event}
    (balanced : Balanced (s₀.run events).ledger) (nothing : s₀.ledger.connections = [])
    (drained : Drained (s₀.run events).ledger) (left : (s₀.run events).leaving = []) :
    Finished s₀ events (s₀.run events) := by
  obtain ⟨-, idle_eq, lent_eq, openings_eq⟩ := drained
  have connections_eq : (s₀.run events).connections = (s₀.run events).shut := by
    change (s₀.run events).ledger.connections = _
    rw [Ledger.connections, idle_eq, lent_eq, openings_eq]
    change [] ++ (s₀.run events).leaving ++ (s₀.run events).shut = _
    rw [left, List.nil_append, List.nil_append]
  have perm := connections_eq ▸ PoolSystem.serials_perm balanced
  refine ⟨?_, connections_eq, perm, fun serial link opened => ?_⟩
  · have total_eq := balanced.total_eq
    rwa [idle_eq, lent_eq, openings_eq] at total_eq
  · have known : serial ∈ (s₀.run events).shut.map (·.link.serial) :=
      perm.mem_iff.2 (List.mem_range.2 opened.serial_lt)
    obtain ⟨c, hc, rfl⟩ := List.mem_map.1 known
    have mem : c ∈ (s₀.run events).connections := connections_eq ▸ hc
    obtain ⟨link', opened', shutdowns⟩ := exists_opened nothing events mem
    obtain rfl := opened'.unique opened
    refine ⟨c, hc, rfl, ?_⟩
    rw [shutdowns, balanced.shut_closed c hc]
    rfl

/-- What is true of a pool `s₀` that was closed in one of the events, when it has come to the
state `s`. -/
structure Shutdown (s₀ : PoolSystem) (events : List Event) (s : PoolSystem) : Prop where
  closed : s.pool.closed = true
  idle_eq : s.pool.idle = []
  total_eq : s.pool.total = s.lent.length + s.openings.length
  /-- Closing it again changes nothing. -/
  step_close : s.step .close = s
  /-- No more places are taken. -/
  barred : ∀ e, (s.step e).reservations = s.reservations ∧ (s.step e).pool.total ≤ s.pool.total
  /-- Every caller that looks for a connection is refused. -/
  refused : ∀ e name l, s.decision? e = some (name, l) → Refused s (s.step e) name
  /-- A connection that is being opened is established, or its place is free. -/
  attempted : ∀ index o, s.openings[index]? = some o → o.connection = none →
    ∀ stream, Attempted s index o stream (s.step (.dialed index stream))
  /-- Once it is established, it is given up, and a caller that waits for it is refused. -/
  settled : ∀ index o c, s.openings[index]? = some o → o.connection = some c →
    let t := s.step (.settle index)
    GivenUp s t c ∧ t.openings = s.openings.eraseIdx index ∧ t.lent = s.lent ∧
      ∀ name, o.caller = some name →
        t.answers = (name, .error (.poolClosed s.pool.address)) :: s.answers
  /-- A connection that comes back is given up. -/
  returned : ∀ l ∈ s.lent,
    let t := s.step (.giveBack l.borrower)
    GivenUp s t l.connection ∧ t.lent = s.lent.filter (·.borrower != l.borrower) ∧
      t.openings = s.openings
  /-- Those that are given up are shut down in turn, whatever else happens. -/
  shut : ∀ later, ∀ c ∈ s.leaving.take (later.countP Event.shuts), c.close ∈ (s.run later).shut
  /-- After that nothing is left. -/
  finished : s.lent = [] → s.openings = [] → s.pool.total = 0 ∧
    ∀ later, s.leaving.length ≤ later.countP Event.shuts →
      Finished s₀ (events ++ later) (s.run later)

theorem shutdown_of_closed {s₀ : PoolSystem} {events : List Event}
    (sound : ∀ later, Sound (s₀.run (events ++ later)).ledger)
    (nothing : s₀.ledger.connections = []) (closed : (s₀.run events).pool.closed = true) :
    Shutdown s₀ events (s₀.run events) := by
  have now := sound []
  rw [List.append_nil] at now
  have idle_eq : (s₀.run events).pool.idle = [] := now.tagged.idle_eq closed
  have total_eq : (s₀.run events).pool.total =
      (s₀.run events).lent.length + (s₀.run events).openings.length := by
    have total_eq := now.balanced.total_eq
    change _ = (s₀.run events).pool.idle.length + _ + _ at total_eq
    rwa [idle_eq, List.length_nil, Nat.zero_add] at total_eq
  refine
    { closed, idle_eq, total_eq
      step_close := step_close_of_closed closed
      barred := fun e => barred_of_moves closed ((s₀.run events).moves_step e)
      refused := fun _ _ _ h => refused_step closed h
      attempted := fun _ _ h under stream => attempted_dialed h under stream
      settled := fun _ _ _ h done => givenUp_settle now.balanced closed h done
      returned := fun _ held => givenUp_giveBack now.balanced closed held
      shut := fun _ _ h => close_mem_shut h
      finished := fun lent openings =>
        ⟨by simp [total_eq, lent, openings], fun later enough => ?_⟩ }
  have drained : Drained (s₀.run events).ledger := ⟨closed, idle_eq, lent, openings⟩
  have left := length_leaving_run_le drained later
  rw [Nat.sub_eq_zero_of_le enough, Nat.le_zero, List.length_eq_zero_iff] at left
  have drained := (drained_of_moves drained ((s₀.run events).moves_run later)).1
  rw [← run_append] at left drained ⊢
  exact finished_of_drained (sound later).balanced nothing drained left

end

theorem shutdown_run {address : Address} {settings : PoolSettings} {dialer : Dialer}
    {clock : Instant} {s₀ : PoolSystem} (h : create address settings dialer clock = .ok s₀)
    (before later : List Event) :
    Shutdown s₀ (before ++ .close :: later) (s₀.run (before ++ .close :: later)) := by
  have nothing : s₀.ledger.connections = [] := by
    obtain ⟨-, rfl⟩ := exists_fresh_of_create h
    rfl
  refine shutdown_of_closed (fun _ => sound_run h _) nothing ?_
  rw [run_append]
  exact closed_of_moves (moves_run _ later) (closed_close _)

/-- A pool is closed while it lends one connection and opens another one. -/
theorem shutdown_run_opening :
    let settings : PoolSettings := { maxSize := 2 }
    let s₀ := fresh .localhost settings {} .zero
    let before : List Event := [.call .zero, .dialed 0 (.ok {}), .settle 0, .call .zero]
    let later : List Event := [.dialed 0 (.ok {}), .settle 0, .giveBack 0]
    let s := s₀.run (before ++ .close :: later)
    create .localhost settings {} .zero = .ok s₀ ∧ s.lent = [] ∧ s.openings = [] ∧
      s.leaving.length = 2 ∧ Shutdown s₀ (before ++ .close :: later) s := by
  intro settings s₀ before later s
  have created : create .localhost settings {} .zero = .ok s₀ := rfl
  have idle : s.lent = [] ∧ s.openings = [] ∧ s.leaving.length = 2 := by decide +kernel
  exact ⟨created, idle.1, idle.2.1, idle.2.2, shutdown_run created before later⟩

end PoolSystem

end ClusterClient

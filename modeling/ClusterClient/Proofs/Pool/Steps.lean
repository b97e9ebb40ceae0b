import ClusterClient.Pool.System
import ClusterClient.Proofs.Connection.Identity
import ClusterClient.Proofs.Pool.Operations

/-!
# Steps

What each event comes to in a pool in use, with the conditions under which it does. This is all that
can happen: what holds at the end of each case holds after every step.

    Stepped s e (s.step e)                                                       (stepped_step)
-/

namespace ClusterClient

/-- A caller as it was when it began to wait. -/
def hushed (k : Caller) : Caller := { k with notified := false }

namespace PoolSystem

/-! ## Outcomes -/

/-- What becomes of the opening at `index` when its attempt ends. -/
inductive Attempted (s : PoolSystem) (index : Nat) (o : Opening) :
    Except Error Link → PoolSystem → Prop where
  | established {link : Link} {c : Connection} {buffers : Recycler}
      (follows : (s.dialer.begun s.pool.address o.id s.clock
        { link with serial := s.streams, place := o.place }).Follows c) :
      Attempted s index o (.ok link)
        { s with
          buffers, streams := s.streams + 1
          openings := s.openings.set index { o with connection := some c } }
  | rejected {link : Link} {c : Connection} {buffers : Recycler} {cause : Error}
      (follows : (s.dialer.begun s.pool.address o.id s.clock
        { link with serial := s.streams, place := o.place }).Follows c) (isShut : c.closed = true) :
      Attempted s index o (.ok link) <| fail (owe { s with
        buffers, streams := s.streams + 1, pool := s.pool.vacate
        openings := s.openings.eraseIdx index, shut := s.shut ++ [c] } .one) o.caller cause
  | unopened {buffers : Recycler} {cause : Error} :
      Attempted s index o (.error cause) <| fail (owe { s with
        buffers, pool := s.pool.vacate, openings := s.openings.eraseIdx index } .one) o.caller cause

/-- What becomes of the opening `o` when its connection `c` is there. -/
inductive Settled (s : PoolSystem) (index : Nat) (o : Opening) (c : Connection) :
    PoolSystem → Prop where
  | abandoned (isClosed : s.pool.closed = true) :
      Settled s index o c <| fail (owe (dismiss { s with
        openings := s.openings.eraseIdx index, pool := s.pool.vacate } [c]) .all) o.caller
        (.poolClosed s.pool.address)
  | lent {name : Nat} (isOpen : s.pool.closed = false) (caller : o.caller = some name) :
      Settled s index o c <| conclude { s with
        openings := s.openings.eraseIdx index, lent := s.lent ++ [⟨name, c, o.generation⟩] } name
        (.ok ⟨o.id, o.generation⟩)
  | filed (isOpen : s.pool.closed = false) (caller : o.caller = none) :
      Settled s index o c <| owe { s with
        openings := s.openings.eraseIdx index, pool := s.pool.file c o.generation s.clock
        maintenance := .filling } .one

/-- What becomes of the loan `l` when it comes back. -/
inductive Returned (s : PoolSystem) (l : Lent) : PoolSystem → Prop where
  | kept (isOpen : s.pool.closed = false) (sound : l.connection.closed = false)
      (current : l.generation = s.pool.generation) :
      Returned s l <| owe { s with
        pool := s.pool.file l.connection l.generation s.clock
        lent := s.lent.filter (·.borrower != l.borrower) } .one
  | discarded {requested : Bool} (unfit : s.pool.closed = true ∨ l.connection.closed = true ∨
      l.generation ≠ s.pool.generation ∨
        expired s.pool.settings.maxLifeTime l.connection.openedAt s.clock = true) :
      Returned s l <| owe (dismiss { s with
        pool := { s.pool.vacate with maintenanceRequested := requested }
        lent := s.lent.filter (·.borrower != l.borrower) } [l.connection]) .one

/-- All that a step can do. -/
inductive Stepped (s : PoolSystem) : Event → PoolSystem → Prop where
  /-- There is nobody, or nothing, that the event could be about. -/
  | nothing (e : Event) : Stepped s e s
  | called (timeout : Duration) :
      Stepped s (.call timeout) <| look { s with calls := s.calls + 1 }
        { name := s.calls, timeout, deadline := ⟨s.clock.nanos + timeout.nanos⟩ } false
  | rechecked {name : Nat} {k : Caller} (known : s.callers.find? (·.name == name) = some k) :
      Stepped s (.recheck name) (s.look k true)
  | attempted {index : Nat} {o : Opening} {stream : Except Error Link} {t : PoolSystem}
      (known : s.openings[index]? = some o) (under : o.connection = none)
      (attempted : Attempted s index o stream t) : Stepped s (.dialed index stream) t
  | settled {index : Nat} {o : Opening} {c : Connection} {t : PoolSystem}
      (known : s.openings[index]? = some o) (done : o.connection = some c)
      (settled : Settled s index o c t) : Stepped s (.settle index) t
  | used {l : Lent} (usage : Usage) (loan : s.loan? l.borrower = some l) :
      Stepped s (.use l.borrower usage) <|
        s.update l.borrower (l.connection.apply s.buffers usage).2.1
          (l.connection.apply s.buffers usage).2.2
  | returned {l : Lent} {t : PoolSystem} (loan : s.loan? l.borrower = some l)
      (returned : Returned s l t) : Stepped s (.giveBack l.borrower) t
  | invalidated {requested : Bool} :
      Stepped s .invalidate <| dismiss { s with pool := { s.pool with
        generation := s.pool.generation + 1, idle := []
        total := s.pool.total - s.pool.idle.length
        maintenanceRequested := requested } } (s.pool.idle.map (·.connection))
  | closed (isOpen : s.pool.closed = false) :
      Stepped s .close <| owe (dismiss { s with pool := { s.pool with
        closed := true, idle := [], total := s.pool.total - s.pool.idle.length } }
        (s.pool.idle.map (·.connection))) .all
  | shut {c : Connection} {rest : List Connection} (first : s.leaving = c :: rest) :
      Stepped s .shutFirst { s with leaving := rest, shut := s.shut ++ [c.close] }
  /-- A caller that is told to look again is still the same caller. -/
  | notified (pick : Nat) {callers : List Caller} {owed : List Notice}
      (same : callers.map hushed = s.callers.map hushed) :
      Stepped s (.notify pick) { s with callers, owed }
  | ended (due : s.maintenanceDue = true) (isClosed : s.pool.closed = true) :
      Stepped s .prune { s with maintenance := .off }
  | pruned (due : s.maintenanceDue = true) :
      Stepped s .prune <| dismiss { s with
        pool := (s.pool.prune s.clock).2, maintenance := .filling }
        ((s.pool.prune s.clock).1.map (·.connection))
  | rested (filling : s.maintenance = .filling) (filled : s.pool.isFilled = true) :
      Stepped s .refill s.rest
  | reserved (filling : s.maintenance = .filling) (low : s.pool.isFilled = false) :
      Stepped s .refill <| beginOpening { s with
        pool := s.pool.reserve, maintenance := .opening } s.pool.reserve.lastId
        s.pool.reserve.generation none
  | ticked (elapsed : Duration) :
      Stepped s (.tick elapsed) { s with clock := ⟨s.clock.nanos + elapsed.nanos⟩ }

/-! ## Each event -/

theorem attempted_dialed {s : PoolSystem} {index : Nat} {o : Opening}
    (h : s.openings[index]? = some o) (under : o.connection = none)
    (stream : Except Error Link) : Attempted s index o stream (s.dialed index stream) := by
  obtain ⟨id, generation, place, caller, connection⟩ := o
  obtain rfl : connection = none := under
  unfold dialed
  rw [h]
  cases stream with
  | error cause =>
    have ended := s.dialer.ended_dial s.pool.address id s.clock (.error cause) s.buffers
    simp only [Except.map, Except.isOk, Except.toBool]
    generalize s.dialer.dial _ _ _ _ _ = result at ended
    obtain ⟨result, buffers⟩ := result
    cases ended
    simpa using Attempted.unopened
  | ok link =>
    have ended := s.dialer.ended_dial s.pool.address id s.clock
      (.ok { link with serial := s.streams, place }) s.buffers
    simp only [Except.map, Except.isOk, Except.toBool]
    generalize s.dialer.dial _ _ _ _ _ = result at ended
    obtain ⟨result, buffers⟩ := result
    cases ended with
    | established follows => exact .established follows
    | rejected follows isShut => exact .rejected follows isShut

theorem dialed_eq_or (s : PoolSystem) (index : Nat) (stream : Except Error Link) :
    s.dialed index stream = s ∨ ∃ o, s.openings[index]? = some o ∧ o.connection = none ∧
      Attempted s index o stream (s.dialed index stream) := by
  rcases h : s.openings[index]? with - | ⟨id, generation, place, caller, - | c⟩
  · left
    rw [dialed, h]
  · exact .inr ⟨_, rfl, rfl, attempted_dialed h rfl stream⟩
  · left
    rw [dialed, h]

theorem mem_of_loan? {s : PoolSystem} {borrower : Nat} {l : Lent} (h : s.loan? borrower = some l) :
    l ∈ s.lent ∧ l.borrower = borrower :=
  ⟨List.mem_of_find?_eq_some h, by simpa using List.find?_some h⟩

theorem stepped_dialed (s : PoolSystem) (index : Nat) (stream : Except Error Link) :
    Stepped s (.dialed index stream) (s.dialed index stream) := by
  rcases s.dialed_eq_or index stream with same | ⟨o, known, under, attempted⟩
  · rw [same]
    exact .nothing _
  · exact .attempted known under attempted

theorem stepped_settle (s : PoolSystem) (index : Nat) :
    Stepped s (.settle index) (s.settle index) := by
  unfold settle
  split
  · next id generation place caller c known =>
    refine .settled known rfl ?_
    simp only
    split
    · next isClosed => exact .abandoned isClosed
    · next isOpen =>
      rw [Bool.not_eq_true] at isOpen
      cases caller with
      | some name => exact .lent isOpen rfl
      | none => exact .filed isOpen rfl
  · exact .nothing _

theorem stepped_use (s : PoolSystem) (borrower : Nat) (usage : Usage) :
    Stepped s (.use borrower usage) (s.use borrower usage).2 := by
  unfold use
  split
  · next l loan =>
    obtain ⟨-, rfl⟩ := mem_of_loan? loan
    exact .used usage loan
  · exact .nothing _

theorem stepped_giveBack (s : PoolSystem) (borrower : Nat) :
    Stepped s (.giveBack borrower) (s.giveBack borrower) := by
  unfold giveBack
  split
  · next l loan =>
    obtain ⟨-, rfl⟩ := mem_of_loan? loan
    refine .returned loan ?_
    obtain ⟨isOpen, sound, current, given⟩ | ⟨unfit, requested, given⟩ :=
      s.pool.giveBack_cases l.connection l.generation s.clock
    · rw [given]
      exact .kept isOpen sound current
    · rw [given]
      exact .discarded unfit
  · exact .nothing _

theorem stepped_notify (s : PoolSystem) (pick : Nat) :
    Stepped s (.notify pick) (s.notify pick) := by
  unfold notify
  split
  · exact .nothing _
  · next notice owed _ =>
    cases notice with
    | all => exact .notified pick (by simp [hushed, Function.comp_def])
    | one =>
      simp only
      split
      · refine .notified pick ?_
        rw [List.map_map]
        refine List.map_congr_left fun c _ => ?_
        simp only [Function.comp_apply]
        split <;> rfl
      · exact .notified pick rfl

theorem stepped_prune (s : PoolSystem) : Stepped s .prune s.prune := by
  unfold prune
  split
  · next due =>
    split
    · next ends => exact .ended due ends.2
    · exact .pruned due
  · exact .nothing _

theorem stepped_refill (s : PoolSystem) : Stepped s .refill s.refill := by
  unfold refill
  split
  · next filling =>
    split
    · next filled => exact .rested filling filled
    · next low => exact .reserved filling (Bool.eq_false_iff.2 low)
  · exact .nothing _

theorem stepped_step (s : PoolSystem) (e : Event) : Stepped s e (s.step e) := by
  cases e with
  | call timeout => exact .called timeout
  | recheck name =>
    simp only [step, recheck]
    split
    · next known => exact .rechecked known
    · exact .nothing _
  | dialed index stream => exact s.stepped_dialed index stream
  | settle index => exact s.stepped_settle index
  | use borrower usage => exact s.stepped_use borrower usage
  | giveBack borrower => exact s.stepped_giveBack borrower
  | invalidate =>
    obtain ⟨requested, given⟩ := s.pool.invalidate_eq
    rw [step, invalidate, given]
    exact .invalidated
  | close =>
    simp only [step, close]
    split
    · exact .nothing _
    · next isOpen =>
      rw [Pool.close, if_neg isOpen]
      exact .closed (Bool.eq_false_iff.2 isOpen)
  | shutFirst =>
    simp only [step, shutFirst]
    split
    · next first => exact .shut first
    · exact .nothing _
  | notify pick => exact s.stepped_notify pick
  | prune => exact s.stepped_prune
  | refill => exact s.stepped_refill
  | tick elapsed => exact .ticked elapsed

/-! ## Failures -/

theorem pool_fail (s : PoolSystem) (caller : Option Nat) (cause : Error) :
    (s.fail caller cause).pool = s.pool := by
  cases caller <;> rfl

theorem answers_fail (s : PoolSystem) (caller : Option Nat) (cause : Error) :
    (s.fail caller cause).answers =
      caller.toList.map (fun name => (name, .error cause)) ++ s.answers := by
  cases caller <;> rfl

/-! ## The dialer -/

theorem dialer_fail (s : PoolSystem) (caller : Option Nat) (cause : Error) :
    (s.fail caller cause).dialer = s.dialer := by
  cases caller <;> rfl

theorem dialer_look (s : PoolSystem) (caller : Caller) (queued : Bool) :
    (s.look caller queued).dialer = s.dialer := by
  simp only [look]
  split <;> rfl

theorem dialer_step (s : PoolSystem) (e : Event) : (s.step e).dialer = s.dialer := by
  have stepped := s.stepped_step e
  generalize s.step e = t at stepped
  cases stepped with
  | called | rechecked => exact dialer_look ..
  | attempted known under attempted =>
    cases attempted with
    | established => rfl
    | rejected | unopened => exact dialer_fail ..
  | settled known done settled =>
    cases settled with
    | abandoned => exact dialer_fail ..
    | lent | filed => rfl
  | returned loan returned => cases returned <;> rfl
  | _ => rfl

theorem dialer_run (s : PoolSystem) (events : List Event) : (s.run events).dialer = s.dialer := by
  induction events generalizing s with
  | nil => rfl
  | cons e events ih => exact (ih (s.step e)).trans (s.dialer_step e)

end PoolSystem

end ClusterClient

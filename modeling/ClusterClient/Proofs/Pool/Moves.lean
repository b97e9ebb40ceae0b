import ClusterClient.Proofs.Pool.Ledger
import ClusterClient.Proofs.Pool.Steps

/-!
# The steps of a pool as moves

Each step of a pool in use is a sequence of moves in its ledger. A look is the removal of the stale
connections it finds, followed by one move for its verdict. Invalidating and closing remove all
idle connections before they do the rest.

    Moves s.ledger (s.step e).ledger                (moves_step)
    Moves s.ledger (s.run events).ledger            (moves_run)
-/

namespace ClusterClient

namespace Verdict

/-- The loan to a caller that takes an idle connection. -/
def loans (borrower : Nat) : Verdict → List Lent
  | .reuse i => [⟨borrower, i.connection, i.generation⟩]
  | _ => []

/-- The opening in a place that a caller reserves. -/
def begun (caller place : Nat) : Verdict → List Opening
  | .reserve id generation => [⟨id, generation, place, some caller, none⟩]
  | _ => []

/-- The name of a caller that is told to wait. -/
def waiting (caller : Nat) : Verdict → List Nat
  | .wait => [caller]
  | _ => []

end Verdict

namespace Ledger

/-- What a caller does about the verdict is one move. -/
theorem move_verdict {b : Ledger} {name : Nat} {v : Verdict} {rest : List Idle}
    (known : name ∈ b.blocked) (top : b.idle = v.reused ++ rest)
    (isOpen : v ≠ .closed → b.closed = false)
    (current : ∀ i, v = .reuse i → i.generation = b.generation)
    (tagged : ∀ id generation, v = .reserve id generation → generation = b.generation)
    (room : 0 < v.reserved → b.total < b.settings.maxSize) :
    Move b { b with
      total := b.total + v.reserved
      idle := rest
      lent := b.lent ++ v.loans name
      openings := b.openings ++ v.begun name b.reservations
      blocked := b.blocked.filter (· != name) ++ v.waiting name
      reservations := b.reservations + v.reserved } := by
  cases v with
  | closed | exhausted | timedOut =>
    obtain rfl : b.idle = rest := top
    simpa [Verdict.loans, Verdict.begun, Verdict.waiting, Verdict.reserved] using Move.leave name
  | reuse i =>
    simpa [Verdict.loans, Verdict.begun, Verdict.waiting, Verdict.reserved]
      using Move.reuse known top (isOpen (by simp)) (current i rfl)
  | reserve id generation =>
    obtain rfl : b.idle = rest := top
    obtain rfl := tagged id generation rfl
    simpa [Verdict.loans, Verdict.begun, Verdict.waiting, Verdict.reserved]
      using Move.reserve id known (isOpen (by simp)) (room Nat.one_pos)
  | wait =>
    obtain rfl : b.idle = rest := top
    simpa [Verdict.loans, Verdict.begun, Verdict.waiting, Verdict.reserved] using Move.wait known

end Ledger

namespace PoolSystem

open Ledger

/-! ## Looks -/

theorem map_name_filter (callers : List Caller) (name : Nat) :
    (callers.filter (·.name != name)).map (·.name) =
      (callers.map (·.name)).filter (· != name) := by
  rw [List.filter_map]
  rfl

theorem ledger_look (s : PoolSystem) (caller : Caller) (queued : Bool) {l : Look}
    (h : s.pool.look s.clock caller.deadline queued = l) :
    (s.look caller queued).ledger =
      { s.ledger with
        total := l.pool.total
        idle := l.pool.idle
        lent := s.lent ++ l.verdict.loans caller.name
        openings := s.openings ++ l.verdict.begun caller.name s.reservations
        leaving := s.leaving ++ l.discarded.map (·.connection)
        blocked := (s.callers.map (·.name)).filter (· != caller.name) ++
          l.verdict.waiting caller.name
        reservations := s.reservations + l.verdict.reserved } := by
  have found := s.pool.found_look s.clock caller.deadline queued
  rw [h] at found
  rw [← map_name_filter]
  unfold look
  rw [h]
  cases hv : l.verdict <;>
    simp [ledger, conclude, beginOpening, Verdict.loans, Verdict.begun, Verdict.waiting,
      Verdict.reserved, hv, found.settings_eq, found.closed_eq, found.generation_eq]

theorem moves_look (s : PoolSystem) (caller : Caller) (queued : Bool) {blocked : List Nat}
    (known : caller.name ∈ blocked)
    (others : blocked.filter (· != caller.name) =
      (s.callers.map (·.name)).filter (· != caller.name)) :
    Moves { s.ledger with blocked } (s.look caller queued).ledger := by
  have found := s.pool.found_look s.clock caller.deadline queued
  generalize hl : s.pool.look s.clock caller.deadline queued = l at found
  rw [s.ledger_look caller queued hl, ← others, found.total_eq]
  refine .head (.remove (List.Perm.of_eq found.idle_eq)) (.single ?_)
  refine move_verdict known rfl (fun hv => ?_) (fun i hv => ?_) found.tagged fun hv => ?_
  · exact Bool.eq_false_iff.2 fun hc => hv (found.refused hc).1
  · exact Pool.generation_eq_of_fresh (found.fresh i hv)
  · have := found.total_le hv
    rw [found.total_eq] at this
    show s.pool.total - l.discarded.length < s.pool.settings.maxSize
    omega

/-! ## Openings -/

theorem exists_append_of_getElem? {α : Type} {l : List α} {a : α} {index : Nat}
    (h : l[index]? = some a) :
    ∃ before after, l = before ++ a :: after ∧ l.eraseIdx index = before ++ after ∧
      ∀ a', l.set index a' = before ++ a' :: after := by
  obtain ⟨hi, rfl⟩ := List.getElem?_eq_some_iff.1 h
  refine ⟨l.take index, l.drop (index + 1), ?_, List.eraseIdx_eq_take_drop_succ .., fun a' => ?_⟩
  · rw [List.getElem_cons_drop, List.take_append_drop]
  · rw [List.set_eq_take_append_cons_drop, if_pos hi]

theorem ledger_fail (s : PoolSystem) (caller : Option Nat) (cause : Error) :
    (s.fail caller cause).ledger = s.ledger := by
  cases caller <;> rfl

section

variable {s t : PoolSystem} {index : Nat} {o : Opening}

theorem moves_of_attempted {stream : Except Error Link} (known : s.openings[index]? = some o)
    (under : o.connection = none) (attempted : Attempted s index o stream t) :
    Moves s.ledger t.ledger := by
  obtain ⟨before, after, found, erased, replaced⟩ := exists_append_of_getElem? known
  cases attempted with
  | established follows =>
    have m := Move.establish (b := s.ledger) found under follows.link.serial_eq
      follows.link.place_eq
    rw [replaced]
    exact .single m
  | rejected follows isShut =>
    have m := Move.reject (b := s.ledger) found under follows.link.serial_eq
      follows.link.place_eq isShut
    rw [ledger_fail, erased]
    exact .single m
  | unopened =>
    have m := Move.fail (b := s.ledger) found under
    rw [ledger_fail, erased]
    exact .single m

theorem moves_of_settled {c : Connection} (known : s.openings[index]? = some o)
    (done : o.connection = some c) (settled : Settled s index o c t) :
    Moves s.ledger t.ledger := by
  obtain ⟨before, after, found, erased, -⟩ := exists_append_of_getElem? known
  cases settled with
  | abandoned isClosed =>
    have m := Move.abandon (b := s.ledger) found done isClosed
    rw [ledger_fail, erased]
    exact .single m
  | lent isOpen caller =>
    have m := Move.lend (b := s.ledger) found done caller isOpen
    rw [erased]
    exact .single m
  | filed isOpen caller =>
    have m := Move.file (b := s.ledger) found done caller isOpen
    rw [erased]
    exact .single m

end

/-! ## All steps -/

theorem move_empty (s : PoolSystem) :
    Move s.ledger { s.ledger with
      idle := [], total := s.pool.total - s.pool.idle.length
      leaving := s.leaving ++ s.pool.idle.map (·.connection) } :=
  .remove (List.Perm.of_eq (List.append_nil _).symm)

theorem map_name_of_hushed {callers callers' : List Caller}
    (same : callers.map hushed = callers'.map hushed) :
    callers.map (·.name) = callers'.map (·.name) := by
  have names := congrArg (List.map Caller.name) same
  simpa [hushed, Function.comp_def] using names

theorem ledger_eq_of_hushed {s : PoolSystem} {callers : List Caller} {owed : List Notice}
    (same : callers.map hushed = s.callers.map hushed) :
    PoolSystem.ledger { s with callers, owed } = s.ledger := by
  simp only [ledger, map_name_of_hushed same]

theorem ledger_notify (s : PoolSystem) (pick : Nat) : (s.notify pick).ledger = s.ledger := by
  have stepped := s.stepped_notify pick
  generalize s.notify pick = t at stepped
  cases stepped with
  | nothing => rfl
  | notified _ same => exact ledger_eq_of_hushed same

theorem moves_step (s : PoolSystem) (e : Event) : Moves s.ledger (s.step e).ledger := by
  have stepped := s.stepped_step e
  generalize s.step e = t at stepped
  cases stepped with
  | nothing | ended | rested => exact .refl
  | called timeout =>
    have entered : Move s.ledger
        { s.ledger with calls := s.calls + 1, blocked := s.callers.map (·.name) ++ [s.calls] } :=
      .enter
    exact .head entered (moves_look { s with calls := s.calls + 1 } _ false (by simp) (by simp))
  | rechecked known =>
    exact s.moves_look _ true (List.mem_map_of_mem (List.mem_of_find?_eq_some known)) rfl
  | attempted known under attempted => exact moves_of_attempted known under attempted
  | settled known done settled => exact moves_of_settled known done settled
  | @used l usage loan =>
    exact .single (.use (mem_of_loan? loan).1 (l.connection.follows_apply s.buffers usage))
  | returned loan returned =>
    have held := (mem_of_loan? loan).1
    cases returned with
    | kept isOpen sound current => exact .single (.takeBack held isOpen sound current)
    | discarded => exact .single (.discard held)
  | invalidated => exact .head s.move_empty (.single (.invalidate rfl))
  | closed => exact .head s.move_empty (.single (.close rfl))
  | shut first => exact .single (.shutFirst first)
  | notified _ same => rw [ledger_eq_of_hushed same]
  | pruned => exact .single (.remove (s.pool.prune_perm s.clock))
  | reserved _ low =>
    simp only [Pool.isFilled, Bool.or_eq_false_iff, decide_eq_false_iff_not, Nat.not_le] at low
    exact .single (.refill _ low.1 low.2)
  | ticked => exact .single (.tick _)

theorem moves_run (s : PoolSystem) (events : List Event) :
    Moves s.ledger (s.run events).ledger := by
  induction events generalizing s with
  | nil => exact .refl
  | cons e events ih => exact (s.moves_step e).trans (ih (s.step e))

end PoolSystem

end ClusterClient

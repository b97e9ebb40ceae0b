import ClusterClient.Pool.Session
import ClusterClient.Proofs.Connection.Exchanges
import ClusterClient.Proofs.Pool.Barrier

/-!
# Uninterrupted sessions

What a call for a connection comes to when nobody else takes part, however its looks, its waiting
and its attempt to connect end.

    Got s result t      for (result, t) = s.get timeout n.opener         (got_get)
-/

namespace ClusterClient

namespace PoolSystem

/-! ## Looking and connecting -/

/-- What a caller leaves alone, however it fares. The idle connections that are gone were on top. -/
structure Spared (s t : PoolSystem) : Prop where
  address_eq : t.pool.address = s.pool.address
  settings_eq : t.pool.settings = s.pool.settings
  closed_eq : t.pool.closed = s.pool.closed
  generation_eq : t.pool.generation = s.pool.generation
  idle_suffix : t.pool.idle <:+ s.pool.idle
  openings_eq : t.openings = s.openings

/-- How a caller fares that looks for a connection, and opens one if it finds a place for it. -/
inductive Fared (s : PoolSystem) (caller : Caller) (t : PoolSystem) : Prop where
  | refused {e : Error} (spared : Spared s t) (lent_eq : t.lent = s.lent)
      (gone : t.isBlocked caller.name = false) (answer : t.answer? caller.name = some (.error e))
  | served {l : Lent} (spared : Spared s t) (lent_eq : t.lent = s.lent ++ [l])
      (isOpen : s.pool.closed = false) (borrower : l.borrower = caller.name)
      (current : l.generation = s.pool.generation) (gone : t.isBlocked caller.name = false)
      (answer : t.answer? caller.name = some (.ok ⟨l.connection.id, l.generation⟩))
  | blocked (spared : Spared s t) (lent_eq : t.lent = s.lent) (clock_eq : t.clock = s.clock)
      (early : ¬caller.deadline ≤ s.clock)
      (waiting : t.callers.find? (·.name == caller.name) = some { caller with notified := false })

theorem Spared.trans {s t u : PoolSystem} (h : Spared s t) (h' : Spared t u) : Spared s u where
  address_eq := h'.address_eq.trans h.address_eq
  settings_eq := h'.settings_eq.trans h.settings_eq
  closed_eq := h'.closed_eq.trans h.closed_eq
  generation_eq := h'.generation_eq.trans h.generation_eq
  idle_suffix := h'.idle_suffix.trans h.idle_suffix
  openings_eq := h'.openings_eq.trans h.openings_eq

theorem Fared.of_spared {s t u : PoolSystem} {caller : Caller} (spared : Spared s t)
    (lent_eq : t.lent = s.lent) (clock_eq : t.clock = s.clock) (h : Fared t caller u) :
    Fared s caller u := by
  cases h with
  | refused spared' lent_eq' gone answer =>
    exact .refused (spared.trans spared') (lent_eq'.trans lent_eq) gone answer
  | served spared' lent_eq' isOpen borrower current gone answer =>
    exact .served (spared.trans spared') (lent_eq ▸ lent_eq') (spared.closed_eq ▸ isOpen) borrower
      (spared.generation_eq ▸ current) gone answer
  | blocked spared' lent_eq' clock_eq' early waiting =>
    exact .blocked (spared.trans spared') (lent_eq'.trans lent_eq) (clock_eq'.trans clock_eq)
      (clock_eq ▸ early) waiting

theorem establishFor_of_none {s : PoolSystem} {name : Nat}
    (h : ∀ o ∈ s.openings, o.caller ≠ some name) (opener : Opener) :
    s.establishFor opener name = s := by
  have none : s.openings.findIdx? (·.caller == some name) = none :=
    List.findIdx?_eq_none_iff.2 fun o ho => beq_eq_false_iff_ne.2 (h o ho)
  rw [establishFor, none]

theorem Spared.of_pool_eq {s t : PoolSystem} (pool : t.pool = s.pool)
    (openings : t.openings = s.openings) : Spared s t :=
  ⟨by rw [pool], by rw [pool], by rw [pool], by rw [pool], pool ▸ List.suffix_refl _, openings⟩

theorem fared_conclude {s : PoolSystem} {caller : Caller}
    (gone : s.isBlocked caller.name = false) (e : Error) :
    Fared s caller (s.conclude caller.name (.error e)) :=
  .refused (.of_pool_eq rfl rfl) rfl gone List.lookup_cons_self

theorem fared_lend {s : PoolSystem} {caller : Caller} (isOpen : s.pool.closed = false)
    (gone : s.isBlocked caller.name = false) (c : Connection) :
    Fared s caller (conclude
      { s with lent := s.lent ++ [⟨caller.name, c, s.pool.generation⟩] } caller.name
      (.ok ⟨c.id, s.pool.generation⟩)) :=
  .served (l := ⟨caller.name, c, s.pool.generation⟩) (.of_pool_eq rfl rfl) rfl isOpen rfl rfl
    gone List.lookup_cons_self

theorem set_concat (openings : List Opening) (o o' : Opening) :
    (openings ++ [o]).set openings.length o' = openings ++ [o'] := by
  simp

theorem eraseIdx_concat (openings : List Opening) (o : Opening) :
    (openings ++ [o]).eraseIdx openings.length = openings := by
  rw [List.eraseIdx_append_of_length_le (Nat.le_refl _), Nat.sub_self]
  exact List.append_nil _

/-- A caller that finds a place opens the connection itself, and no other one. -/
theorem fared_beginOpening {s : PoolSystem} {caller : Caller} (n : Network) (id : UInt32)
    (isOpen : s.pool.closed = false) (gone : s.isBlocked caller.name = false)
    (new : ∀ o ∈ s.openings, o.caller ≠ some caller.name) :
    Fared s caller ((s.beginOpening id s.pool.generation (some caller.name)).establishFor n.opener
      caller.name) := by
  let o : Opening := {
    id, generation := s.pool.generation, place := s.reservations, caller := some caller.name }
  let begun := s.beginOpening id s.pool.generation (some caller.name)
  have openings_eq : begun.openings = s.openings ++ [o] := rfl
  have index : begun.openings.findIdx? (·.caller == some caller.name) =
      some s.openings.length := by
    have none : s.openings.findIdx? (·.caller == some caller.name) = none :=
      List.findIdx?_eq_none_iff.2 fun o ho => beq_eq_false_iff_ne.2 (new o ho)
    simp [openings_eq, List.findIdx?_append, none, o]
  have last : begun.openings[s.openings.length]? = some o := by simp [openings_eq]
  change Fared s caller (begun.establishFor n.opener caller.name)
  have establish : begun.establishFor n.opener caller.name =
      (begun.dialed s.openings.length (n.connect begun.pool.address)).settle s.openings.length := by
    rw [establishFor, index]
    show begun.establish n.opener s.openings.length = _
    rw [PoolSystem.establish, last]
    rfl
  have attempted := attempted_dialed last rfl (n.connect begun.pool.address)
  rw [establish]
  generalize begun.dialed s.openings.length (n.connect begun.pool.address) = t at attempted
  -- without the opening there is nothing to settle
  have settled {t : PoolSystem} (gone : t.openings = s.openings) :
      t.settle s.openings.length = t := by
    rw [settle, gone, List.getElem?_eq_none (Nat.le_refl _)]
  generalize n.connect begun.pool.address = stream at attempted
  cases attempted with
  | @established link c buffers follows =>
    rw [openings_eq, set_concat, settle]
    simp only [List.getElem?_concat_length]
    rw [if_neg (by exact Bool.eq_false_iff.1 isOpen), eraseIdx_concat]
    have id_eq : c.id = o.id := follows.id_eq
    refine .served (l := ⟨caller.name, c, s.pool.generation⟩) (.of_pool_eq rfl rfl) rfl isOpen
      rfl rfl gone ?_
    rw [id_eq]
    exact List.lookup_cons_self
  | rejected | unopened =>
    rw [settled (by exact eraseIdx_concat s.openings o)]
    exact .refused ⟨rfl, rfl, rfl, rfl, List.suffix_refl _, eraseIdx_concat s.openings o⟩ rfl gone
      List.lookup_cons_self

theorem fared_look {s : PoolSystem} {caller : Caller} (n : Network) (queued : Bool)
    (new : ∀ o ∈ s.openings, o.caller ≠ some caller.name) :
    Fared s caller ((s.look caller queued).establishFor n.opener caller.name) := by
  have found := s.pool.found_look s.clock caller.deadline queued
  unfold look
  generalize hl : s.pool.look s.clock caller.deadline queued = l at found
  obtain ⟨verdict, discarded, pool⟩ := l
  let t : PoolSystem := { s with
    pool, callers := s.callers.filter (·.name != caller.name)
    leaving := s.leaving ++ discarded.map (·.connection) }
  have spared : Spared s t := ⟨found.address_eq, found.settings_eq, found.closed_eq,
    found.generation_eq, found.idle_eq ▸ ⟨_, List.append_assoc ..⟩, rfl⟩
  have gone : t.isBlocked caller.name = false := by simp [t, isBlocked]
  have isOpen (other : verdict ≠ .closed) : t.pool.closed = false :=
    found.closed_eq.trans (Bool.eq_false_iff.2 fun closed => other (found.refused closed).1)
  refine .of_spared spared rfl rfl ?_
  cases verdict with
  | closed | exhausted | timedOut =>
    rw [establishFor_of_none (by exact new)]
    exact fared_conclude gone _
  | reuse i =>
    rw [establishFor_of_none (by exact new)]
    have current : i.generation = t.pool.generation :=
      (Pool.generation_eq_of_fresh (found.fresh i rfl)).trans found.generation_eq.symm
    have lent := fared_lend (isOpen (by simp)) gone i.connection
    rw [← current] at lent
    exact lent
  | reserve id generation =>
    obtain rfl : generation = t.pool.generation :=
      (found.tagged id generation rfl).trans found.generation_eq.symm
    exact fared_beginOpening n id (isOpen (by simp)) gone new
  | wait =>
    rw [establishFor_of_none (by exact new)]
    refine .blocked (.of_pool_eq rfl rfl) rfl rfl ?_ ?_
    · exact Pool.early_of_wait (congrArg Look.verdict hl)
    · have none : (s.callers.filter (·.name != caller.name)).find? (·.name == caller.name) = none :=
        List.find?_eq_none.2 (by simp)
      simp [List.find?_append, none]

/-- Once its time is over, a caller is not blocked any more. -/
theorem Fared.not_blocked {s t : PoolSystem} {caller : Caller} (h : Fared s caller t)
    (late : caller.deadline ≤ s.clock) : ¬t.isBlocked caller.name = true := by
  cases h with
  | refused _ _ gone | served _ _ _ _ _ gone => exact Bool.eq_false_iff.1 gone
  | blocked _ _ _ early => exact absurd late early

/-! ## Loose ends -/

theorem shutAll_eq (s : PoolSystem) :
    s.shutAll = { s with leaving := [], shut := s.shut ++ s.leaving.map (·.close) } := by
  unfold shutAll
  generalize h : s.leaving = cs
  induction cs generalizing s with
  | nil => rw [List.foldl_nil, List.map_nil, List.append_nil, ← h]
  | cons c cs ih =>
    have first : s.shutFirst = { s with leaving := cs, shut := s.shut ++ [c.close] } := by
      rw [shutFirst, h]
    rw [List.foldl_cons, first, ih _ rfl]
    simp

theorem exists_notifyAll_eq (s : PoolSystem) :
    ∃ callers owed, callers.map hushed = s.callers.map hushed ∧
      s.notifyAll = { s with callers, owed } := by
  unfold notifyAll
  generalize s.owed = notices
  induction notices generalizing s with
  | nil => exact ⟨s.callers, s.owed, rfl, rfl⟩
  | cons notice notices ih =>
    have stepped := s.stepped_notify 0
    rw [List.foldl_cons]
    generalize s.notify 0 = t at stepped
    cases stepped with
    | nothing => exact ih s
    | notified _ same =>
      obtain ⟨callers, owed, same', notified⟩ := ih _
      exact ⟨callers, owed, same'.trans same, notified⟩

/-- What holds on after each shutdown and each notification holds on after all of them. -/
theorem shutAll_notifyAll_induction {P : PoolSystem → Prop} {s : PoolSystem}
    (shut : ∀ t, P t → P (t.step .shutFirst)) (notified : ∀ t, P t → P (t.step (.notify 0)))
    (h : P s) : P s.shutAll.notifyAll := by
  have shutAll : P s.shutAll := List.foldlRecOn s.leaving _ h fun t ht _ _ => shut t ht
  exact List.foldlRecOn s.shutAll.owed _ shutAll fun t ht _ _ => notified t ht

/-- Whatever was on its way out is shut down, and nobody is owed a notification. -/
structure Tidied (s t : PoolSystem) : Prop where
  pool_eq : t.pool = s.pool
  clock_eq : t.clock = s.clock
  buffers_eq : t.buffers = s.buffers
  lent_eq : t.lent = s.lent
  openings_eq : t.openings = s.openings
  leaving_eq : t.leaving = []
  shut_eq : t.shut = s.shut ++ s.leaving.map (·.close)
  answers_eq : t.answers = s.answers
  calls_eq : t.calls = s.calls

theorem tidied_shutAll_notifyAll (s : PoolSystem) : Tidied s s.shutAll.notifyAll := by
  obtain ⟨callers, owed, -, h⟩ := s.shutAll.exists_notifyAll_eq
  rw [h, shutAll_eq]
  exact ⟨rfl, rfl, rfl, rfl, rfl, rfl, rfl, rfl, rfl⟩

/-! ## Calls -/

/-- What a call for a connection comes to. -/
inductive Got (s : PoolSystem) (name : Nat) : Except Error Ticket → PoolSystem → Prop where
  | refused {t : PoolSystem} (e : Error) (spared : Spared s t) (lent_eq : t.lent = s.lent)
      (leaving_eq : t.leaving = []) (answer : t.answer? name = some (.error e)) :
      Got s name (.error e) t
  | served {t : PoolSystem} (l : Lent) (spared : Spared s t) (lent_eq : t.lent = s.lent ++ [l])
      (leaving_eq : t.leaving = []) (isOpen : s.pool.closed = false) (borrower : l.borrower = name)
      (current : l.generation = s.pool.generation)
      (answer : t.answer? name = some (.ok ⟨l.connection.id, l.generation⟩)) :
      Got s name (.ok ⟨l.connection.id, l.generation⟩) t

theorem Got.of_spared {s t u : PoolSystem} {name : Nat} {result : Except Error Ticket}
    (spared : Spared s t) (lent_eq : t.lent = s.lent) (h : Got t name result u) :
    Got s name result u := by
  cases h with
  | refused e spared' lent_eq' leaving_eq answer =>
    exact .refused e (spared.trans spared') (lent_eq'.trans lent_eq) leaving_eq answer
  | served l spared' lent_eq' leaving_eq isOpen borrower current answer =>
    exact .served l (spared.trans spared') (lent_eq ▸ lent_eq') leaving_eq
      (spared.closed_eq ▸ isOpen) borrower (spared.generation_eq ▸ current) answer

theorem got_of_fared {s t u : PoolSystem} {caller : Caller} (h : Fared s caller t)
    (free : ¬t.isBlocked caller.name = true) (tidied : Tidied t u)
    (other : Except Error Ticket) :
    Got s caller.name ((u.answer? caller.name).getD other) u := by
  have answer : u.answer? caller.name = t.answer? caller.name :=
    congrArg (List.lookup caller.name) tidied.answers_eq
  have spared : Spared t u := .of_pool_eq tidied.pool_eq tidied.openings_eq
  cases h with
  | refused spared' lent_eq _ refused =>
    rw [answer, refused]
    exact .refused _ (spared'.trans spared) (tidied.lent_eq.trans lent_eq) tidied.leaving_eq
      (answer.trans refused)
  | served spared' lent_eq isOpen borrower current _ served =>
    rw [answer, served]
    exact .served _ (spared'.trans spared) (tidied.lent_eq.trans lent_eq) tidied.leaving_eq isOpen
      borrower current (answer.trans served)
  | blocked _ _ _ _ waiting =>
    have blocked : t.isBlocked caller.name = true :=
      List.any_eq_true.2 ⟨_, List.mem_of_find?_eq_some waiting, beq_self_eq_true _⟩
    exact absurd blocked free

/-- A caller that is blocked after its first look looks once more when its time is over. -/
theorem got_get {s : PoolSystem} (n : Network) (timeout : Duration)
    (new : ∀ o ∈ s.openings, o.caller ≠ some s.calls) :
    Got s s.calls (s.get timeout n.opener).1 (s.get timeout n.opener).2 := by
  let caller : Caller := {
    name := s.calls, timeout, deadline := ⟨s.clock.nanos + timeout.nanos⟩ }
  let asked : PoolSystem := { s with calls := s.calls + 1 }
  have looked : Fared asked caller ((s.call timeout).establishFor n.opener s.calls) :=
    fared_look n false new
  refine .of_spared (t := asked) (.of_pool_eq rfl rfl) rfl ?_
  unfold get
  simp only
  generalize (s.call timeout).establishFor n.opener s.calls = t at looked
  split
  · next again =>
    cases looked with
    | refused _ _ gone | served _ _ _ _ _ gone =>
      rw [gone] at again
      cases again
    | blocked spared lent_eq clock_eq _ waiting =>
      let late := t.tick timeout
      have new' : ∀ o ∈ late.openings, o.caller ≠ some s.calls := by
        rw [show late.openings = s.openings from spared.openings_eq]
        exact new
      have rechecked : late.recheck s.calls = late.look caller true := by
        rw [recheck, show late.callers = t.callers from rfl, waiting]
      have fared : Fared late caller ((late.look caller true).establishFor n.opener s.calls) :=
        fared_look n true new'
      have spared' : Spared asked late := spared.trans (.of_pool_eq rfl rfl)
      rw [show (t.tick timeout).recheck s.calls = _ from rechecked]
      have late' : caller.deadline ≤ late.clock := by
        rw [show late.clock = ⟨t.clock.nanos + timeout.nanos⟩ from rfl, clock_eq]
        exact Nat.le_refl _
      exact .of_spared spared' lent_eq
        (got_of_fared fared (fared.not_blocked late') (tidied_shutAll_notifyAll _) _)
  · next free => exact got_of_fared looked free (tidied_shutAll_notifyAll t) _

/-! ## Sessions as moves -/

open Ledger

theorem moves_establishFor (s : PoolSystem) (n : Network) (name : Nat) :
    Moves s.ledger (s.establishFor n.opener name).ledger := by
  unfold establishFor
  split
  · unfold establish
    split
    · exact (s.moves_step (.dialed _ _)).trans (moves_step _ (.settle _))
    · exact .refl
  · exact .refl

theorem moves_shutAll_notifyAll (s : PoolSystem) :
    Moves s.ledger s.shutAll.notifyAll.ledger :=
  shutAll_notifyAll_induction (P := fun t => Moves s.ledger t.ledger)
    (fun t reached => reached.trans (t.moves_step .shutFirst))
    (fun t reached => reached.trans (t.moves_step (.notify 0))) .refl

theorem moves_get (s : PoolSystem) (n : Network) (timeout : Duration) :
    Moves s.ledger (s.get timeout n.opener).2.ledger := by
  let t := (s.call timeout).establishFor n.opener s.calls
  let late := t.tick timeout
  let again := (late.recheck s.calls).establishFor n.opener s.calls
  have called : Moves s.ledger t.ledger :=
    (s.moves_step (.call timeout)).trans (moves_establishFor _ n s.calls)
  have waited : Moves t.ledger again.ledger :=
    (Relation.ReflTransGen.single (.tick _)).trans
      ((late.moves_step (.recheck s.calls)).trans (moves_establishFor _ n s.calls))
  have ended : Moves s.ledger (if t.isBlocked s.calls then again else t).ledger := by
    split
    · exact called.trans waited
    · exact called
  exact ended.trans (moves_shutAll_notifyAll _)

end PoolSystem

end ClusterClient

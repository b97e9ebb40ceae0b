import ClusterClient.Proofs.Pool.Tags
import Mathlib.Data.List.Induction

/-!
# Decisions

A caller decides about its connection when it looks: it takes one that is idle, or it reserves a
place and opens one itself. All loans come from such decisions, however much happens before the
connection of a reserved place is there.

    l ∈ (s.run events).lent → s.Granted events (l.borrower, l.tag)       (granted_of_promised)
-/

namespace ClusterClient

namespace Verdict

/-- What is handed out, or promised. -/
def tags (place : Nat) : Verdict → List Tag
  | .reuse i => [i.tag]
  | .reserve _ generation => [⟨generation, place⟩]
  | _ => []

theorem mem_tags {v : Verdict} {place : Nat} {t : Tag} :
    t ∈ v.tags place ↔ (∃ i, v = .reuse i ∧ t = i.tag) ∨
      ∃ id generation, v = .reserve id generation ∧ t = ⟨generation, place⟩ := by
  cases v <;> simp [tags]

theorem mem_loans {v : Verdict} {borrower : Nat} {l : Lent} :
    l ∈ v.loans borrower ↔ ∃ i, v = .reuse i ∧ l = ⟨borrower, i.connection, i.generation⟩ := by
  cases v <;> simp [loans]

theorem mem_begun {v : Verdict} {caller place : Nat} {o : Opening} :
    o ∈ v.begun caller place ↔ ∃ id generation, v = .reserve id generation ∧
      o = ⟨id, generation, place, some caller, none⟩ := by
  cases v <;> simp [begun]

end Verdict

namespace PoolSystem

open Ledger

/-- Who looks for a connection in a step, and what it finds. -/
def decision? (s : PoolSystem) : Event → Option (Nat × Look)
  | .call timeout => some (s.calls, s.pool.look s.clock ⟨s.clock.nanos + timeout.nanos⟩ false)
  | .recheck name =>
    (s.callers.find? (·.name == name)).map fun c => (c.name, s.pool.look s.clock c.deadline true)
  | _ => none

structure Decided (s s' : PoolSystem) (name : Nat) (l : Look) : Prop where
  pool_eq : s'.pool = l.pool
  idle_eq : s.pool.idle = l.discarded ++ (l.verdict.reused ++ l.pool.idle)
  lent_eq : s'.lent = s.lent ++ l.verdict.loans name
  openings_eq : s'.openings = s.openings ++ l.verdict.begun name s.reservations
  leaving_eq : s'.leaving = s.leaving ++ l.discarded.map (·.connection)
  /-- What is handed out is of the current generation. -/
  current : ∀ t ∈ l.verdict.tags s.reservations, t.generation = s.pool.generation
  searched : s.pool.closed = false → l.verdict.reused = [] → l.pool.idle = []

theorem pool_look (s : PoolSystem) (caller : Caller) (queued : Bool) :
    (s.look caller queued).pool = (s.pool.look s.clock caller.deadline queued).pool := by
  simp only [look]
  split <;> rfl

theorem decided_look (s : PoolSystem) (caller : Caller) (queued : Bool) :
    Decided s (s.look caller queued) caller.name (s.pool.look s.clock caller.deadline queued) where
  pool_eq := s.pool_look caller queued
  idle_eq := (s.pool.found_look ..).idle_eq
  lent_eq := congrArg Ledger.lent (s.ledger_look caller queued rfl)
  openings_eq := congrArg Ledger.openings (s.ledger_look caller queued rfl)
  leaving_eq := congrArg Ledger.leaving (s.ledger_look caller queued rfl)
  current t ht := by
    have found := s.pool.found_look s.clock caller.deadline queued
    rcases Verdict.mem_tags.1 ht with ⟨i, hv, rfl⟩ | ⟨id, generation, hv, rfl⟩
    · exact Pool.generation_eq_of_fresh (found.fresh i hv)
    · exact found.tagged id generation hv
  searched := (s.pool.found_look ..).searched

theorem decided_step {s : PoolSystem} {e : Event} {name : Nat} {l : Look}
    (h : s.decision? e = some (name, l)) : Decided s (s.step e) name l := by
  cases e with
  | call timeout =>
    cases h
    let deadline : Instant := ⟨s.clock.nanos + timeout.nanos⟩
    let caller : Caller := { name := s.calls, timeout, deadline }
    have d := decided_look { s with calls := s.calls + 1 } caller false
    exact ⟨d.pool_eq, d.idle_eq, d.lent_eq, d.openings_eq, d.leaving_eq, d.current, d.searched⟩
  | recheck name =>
    simp only [decision?, Option.map_eq_some_iff] at h
    obtain ⟨caller, hc, he⟩ := h
    cases he
    rw [step, recheck, hc]
    exact decided_look s caller true
  | _ => cases h

/-- Who has, or was promised, a connection, with the tag of it. -/
def promised (s : PoolSystem) : List (Nat × Tag) :=
  s.lent.map (fun l => (l.borrower, l.tag)) ++
    s.openings.filterMap fun o => o.caller.map fun name => (name, o.tag)

section

variable {s s' : PoolSystem} {p : Nat × Tag}

theorem mem_promised_of_subset (h : p ∈ s'.promised) (lent : s'.lent ⊆ s.lent)
    (openings : s'.openings ⊆ s.openings) : p ∈ s.promised := by
  rcases List.mem_append.1 h with h | h
  · exact List.mem_append_left _ (List.map_subset _ lent h)
  · exact List.mem_append_right _ (List.filterMap_subset _ openings h)

theorem promised_of_ledger_eq (h : s'.ledger = s.ledger) : s'.promised = s.promised := by
  have lent_eq : s'.lent = s.lent := congrArg Ledger.lent h
  have openings_eq : s'.openings = s.openings := congrArg Ledger.openings h
  rw [promised, promised, lent_eq, openings_eq]

theorem mem_promised_decided {name : Nat} {l : Look} (d : Decided s s' name l)
    (h : p ∈ s'.promised) :
    p ∈ s.promised ∨ p.1 = name ∧ p.2 ∈ l.verdict.tags s.reservations := by
  rw [promised, d.lent_eq, d.openings_eq] at h
  simp only [promised, List.map_append, List.filterMap_append, List.mem_append] at h ⊢
  rcases h with (h | h) | h | h
  · exact Or.inl (Or.inl h)
  · obtain ⟨m, hm, rfl⟩ := List.mem_map.1 h
    obtain ⟨i, hv, rfl⟩ := Verdict.mem_loans.1 hm
    exact Or.inr ⟨rfl, Verdict.mem_tags.2 (Or.inl ⟨i, hv, rfl⟩)⟩
  · exact Or.inl (Or.inr h)
  · obtain ⟨o, ho, same⟩ := List.mem_filterMap.1 h
    obtain ⟨id, generation, hv, rfl⟩ := Verdict.mem_begun.1 ho
    cases same
    exact Or.inr ⟨rfl, Verdict.mem_tags.2 (Or.inr ⟨id, generation, hv, rfl⟩)⟩

theorem mem_promised_of_attempted {index : Nat} {o : Opening} {stream : Except Error Link}
    (known : s.openings[index]? = some o) (attempted : Attempted s index o stream s')
    (h : p ∈ s'.promised) : p ∈ s.promised := by
  obtain ⟨before, after, found, -, replaced⟩ := exists_append_of_getElem? known
  cases attempted with
  | established =>
    simp only [promised, replaced] at h
    simpa [promised, found, Opening.tag] using h
  | rejected | unopened =>
    rw [promised_of_ledger_eq (ledger_fail ..)] at h
    exact mem_promised_of_subset h (List.Subset.refl _) List.eraseIdx_subset

theorem mem_promised_of_settled (tagged : Tagged s.ledger) {index : Nat} {o : Opening}
    {c : Connection} (known : s.openings[index]? = some o) (done : o.connection = some c)
    (settled : Settled s index o c s') (h : p ∈ s'.promised) : p ∈ s.promised := by
  have held := List.mem_of_getElem? known
  have left : s.openings.eraseIdx index ⊆ s.openings := List.eraseIdx_subset
  cases settled with
  | abandoned =>
    rw [promised_of_ledger_eq (ledger_fail ..)] at h
    exact mem_promised_of_subset h (List.Subset.refl _) left
  | filed => exact mem_promised_of_subset h (List.Subset.refl _) left
  | @lent name _ caller =>
    -- the loan has the tag that its opening had
    have placed : c.link.place = o.place := tagged.placed _ held c done
    have tag_eq : (⟨name, c, o.generation⟩ : Lent).tag = o.tag := by
      rw [Lent.tag, Opening.tag, placed]
    rcases List.mem_append.1 h with h | h
    · simp only [conclude, List.map_append, List.mem_append, List.map_cons, List.map_nil,
        List.mem_singleton, tag_eq] at h
      rcases h with h | rfl
      · exact List.mem_append_left _ h
      · exact List.mem_append_right _ (List.mem_filterMap.2 ⟨o, held, by rw [caller]; rfl⟩)
    · exact List.mem_append_right _ (List.filterMap_subset _ left h)

theorem mem_promised_update (balanced : Balanced s.ledger) {l : Lent}
    (loan : s.loan? l.borrower = some l) {c : Connection} (follows : l.connection.Follows c)
    {buffers : Recycler} (h : p ∈ (s.update l.borrower c buffers).promised) : p ∈ s.promised := by
  rcases List.mem_append.1 h with h | h
  · obtain ⟨m, hm, rfl⟩ := List.mem_map.1 h
    obtain ⟨m', hm', name, tag, -⟩ :=
      balanced.exists_mem_of_use (mem_of_loan? loan).1 follows hm
    rw [← name, ← tag]
    exact List.mem_append_left _ (List.mem_map.2 ⟨m', hm', rfl⟩)
  · exact List.mem_append_right _ h

theorem mem_promised_step (balanced : Balanced s.ledger) (tagged : Tagged s.ledger) {e : Event}
    (he : s.decision? e = none) (h : p ∈ (s.step e).promised) : p ∈ s.promised := by
  have stepped := s.stepped_step e
  generalize s.step e = t at stepped h
  cases stepped with
  | called => cases he
  | rechecked known => simp [decision?, known] at he
  | attempted known _ attempted => exact mem_promised_of_attempted known attempted h
  | settled known done settled => exact mem_promised_of_settled tagged known done settled h
  | @used l usage loan =>
    exact mem_promised_update balanced loan (l.connection.follows_apply s.buffers usage) h
  | returned _ returned =>
    cases returned <;>
      exact mem_promised_of_subset h (List.filter_subset_self _) (List.Subset.refl _)
  | reserved => simpa [promised, beginOpening] using h
  | _ => exact h

/-- In one of the events a caller decided about its connection: it had this name, and the connection
has this tag. -/
def Granted (s : PoolSystem) (events : List Event) (p : Nat × Tag) : Prop :=
  ∃ earlier e later l, events = earlier ++ e :: later ∧
    (s.run earlier).decision? e = some (p.1, l) ∧
    p.2 ∈ l.verdict.tags (s.run earlier).reservations

theorem granted_append {events : List Event} (h : s.Granted events p) (e : Event) :
    s.Granted (events ++ [e]) p := by
  obtain ⟨earlier, e', later, l, rfl, decided⟩ := h
  exact ⟨earlier, e', later ++ [e], l, by simp, decided⟩

/-- Whatever anybody has, or was promised, was decided when the caller looked for it. -/
theorem granted_of_promised (sound : Sound s.ledger) (nothing : s.promised = [])
    (events : List Event) (hp : p ∈ (s.run events).promised) : s.Granted events p := by
  induction events using List.reverseRecOn with
  | nil => simp [run, nothing] at hp
  | append_singleton events e ih =>
    have sound := sound_of_moves sound (s.moves_run events)
    rw [run_append] at hp
    change p ∈ ((s.run events).step e).promised at hp
    cases he : (s.run events).decision? e with
    | none => exact granted_append (ih (mem_promised_step sound.balanced sound.tagged he hp)) e
    | some d =>
      obtain ⟨name, l⟩ := d
      rcases mem_promised_decided (decided_step he) hp with old | ⟨rfl, tag⟩
      · exact granted_append (ih old) e
      · exact ⟨events, e, [], l, rfl, he, tag⟩

end

end PoolSystem

end ClusterClient

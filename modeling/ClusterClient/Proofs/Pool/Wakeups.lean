import ClusterClient.Proofs.Pool.Answers

/-!
# Wake-ups

A blocked caller looks again when it is told to. What it could get is an idle connection or a free
place. Each step that makes something usable owes a notification, and each caller that is told may
come too late, because others look in between; but whoever comes first takes one usable thing for
one notification, and whoever goes away with nothing leaves nothing behind that is usable. So the
callers that nobody told are not needed: there are at least as many notices, made or owed, as there
are usable things.

Stale connections do not disturb the count. A look that discards one turns an idle connection into a
free place, and so do invalidation and maintenance.

    s is open, a caller of s was not told → s.pool.usable ≤ s.notices       (noticed_run)
-/

namespace ClusterClient

namespace Pool

/-! ## What is usable -/

/-- How many callers could be served at once. -/
def usable (p : Pool) : Nat := p.idle.length + (p.settings.maxSize - p.total)

theorem usable_look_le (p : Pool) (now deadline : Instant) (queued : Bool) {l : Look}
    (h : p.look now deadline queued = l) :
    l.pool.usable + (l.verdict.reused.length + l.verdict.reserved) ≤ p.usable := by
  have found := p.found_look now deadline queued
  rw [h] at found
  have idle_eq := congrArg List.length found.idle_eq
  rw [List.length_append, List.length_append] at idle_eq
  have total_eq := found.total_eq
  have total_le := found.total_le
  rw [usable, usable, found.settings_eq]
  by_cases hv : 0 < l.verdict.reserved
  · have := total_le hv
    omega
  · omega

/-- A caller that gets nothing leaves nothing for others. -/
theorem usable_look_of_nothing {p : Pool} {now deadline : Instant} {queued : Bool} {l : Look}
    (h : p.look now deadline queued = l) (isOpen : p.closed = false)
    (reused : l.verdict.reused = []) (reserved : l.verdict.reserved = 0) : l.pool.usable = 0 := by
  have found := p.found_look now deadline queued
  rw [h] at found
  have full := found.full isOpen reused reserved
  rw [usable, found.searched isOpen reused, found.settings_eq, List.length_nil]
  omega

theorem usable_vacate_le (p : Pool) : p.vacate.usable ≤ p.usable + 1 := by
  show p.idle.length + (p.settings.maxSize - (p.total - 1)) ≤
    p.idle.length + (p.settings.maxSize - p.total) + 1
  omega

theorem usable_empty_le (p : Pool) :
    usable { p with idle := [], total := p.total - p.idle.length } ≤ p.usable := by
  show 0 + (p.settings.maxSize - (p.total - p.idle.length)) ≤
    p.idle.length + (p.settings.maxSize - p.total)
  omega

theorem usable_prune_le (p : Pool) (now : Instant) : (p.prune now).2.usable ≤ p.usable := by
  have split := (p.prune_perm now).length_eq
  rw [List.length_append] at split
  show (p.prune now).2.idle.length + (p.settings.maxSize - (p.total - (p.prune now).1.length)) ≤ _
  rw [usable]
  omega

theorem usable_reserve_le (p : Pool) : p.reserve.usable ≤ p.usable :=
  Nat.add_le_add_left (Nat.sub_le_sub_left (Nat.le_succ _) _) _

theorem usable_file (p : Pool) (c : Connection) (generation : Nat) (now : Instant) :
    (p.file c generation now).usable = p.usable + 1 :=
  Nat.succ_add ..

end Pool

namespace PoolSystem

open Ledger

/-! ## Notices -/

/-- How many callers were told to look again and have not done so yet. -/
def told (s : PoolSystem) : Nat := s.callers.countP (·.notified)

/-- Some caller is blocked and was not told anything. -/
def Untold (s : PoolSystem) : Prop := ∃ c ∈ s.callers, c.notified = false

/-- The notices that were made and not followed yet, and those that are still to be made. -/
def notices (s : PoolSystem) : Nat := s.told + s.owed.count .one

/-- There is nothing usable that nobody was told about. -/
def Heard (s : PoolSystem) : Prop :=
  s.pool.closed = false → s.Untold → s.pool.usable ≤ s.notices

section

variable {s s' : PoolSystem}

theorem Heard.of_le (h : Heard s) (closed : s.pool.closed = true → s'.pool.closed = true)
    (untold : s'.Untold → s.Untold)
    (le : s'.pool.usable + s.notices ≤ s.pool.usable + s'.notices) : Heard s' := by
  intro isOpen hu
  have wasOpen : s.pool.closed = false := by
    by_contra hc
    rw [closed (by simpa using hc)] at isOpen
    cases isOpen
  have := h wasOpen (untold hu)
  omega

/-- A step that makes nothing usable and reaches no caller. -/
theorem Heard.keep (h : Heard s) (closed : s.pool.closed = true → s'.pool.closed = true)
    (callers_eq : s'.callers = s.callers) (owed_eq : s'.owed = s.owed)
    (le : s'.pool.usable ≤ s.pool.usable) : Heard s' := by
  refine h.of_le closed ?_ ?_
  · intro hu
    rwa [Untold, callers_eq] at hu
  · rw [notices, notices, told, told, callers_eq, owed_eq]
    omega

/-- A step that makes one thing usable and owes a notification for it. -/
theorem Heard.free (h : Heard s) (closed : s.pool.closed = true → s'.pool.closed = true)
    (callers_eq : s'.callers = s.callers) (owed_eq : s'.owed = s.owed ++ [.one])
    (le : s'.pool.usable ≤ s.pool.usable + 1) : Heard s' := by
  refine h.of_le closed ?_ ?_
  · intro hu
    rwa [Untold, callers_eq] at hu
  · rw [notices, notices, told, told, callers_eq, owed_eq, List.count_append,
      List.count_singleton_self]
    omega

theorem heard_of_closed (h : s.pool.closed = true) : Heard s := by
  intro isOpen
  rw [h] at isOpen
  cases isOpen

/-! ## Steps of a caller -/

/-- Each call has one caller. -/
theorem count_name_le (balanced : s.ledger.Balanced) (name : Nat) :
    (s.callers.map (·.name)).count name ≤ 1 := by
  have once := balanced.names_le name
  simp only [names, List.count_append] at once
  change (s.callers.map (·.name)).count name + _ + _ ≤ _ at once
  split at once <;> omega

theorem countP_notified_le (callers : List Caller) {name : Nat}
    (once : (callers.map (·.name)).count name ≤ 1) :
    callers.countP (·.notified) ≤
      (callers.filter (·.name != name)).countP (·.notified) + 1 := by
  rw [List.countP_eq_countP_filter_add callers (·.notified) (·.name != name)]
  have same : (callers.filter fun c => !(c.name != name)).length =
      (callers.map (·.name)).count name := by
    rw [← List.countP_eq_length_filter, List.count, List.countP_map]
    simp only [bne, Bool.not_not, Function.comp_def]
  have := List.countP_le_length (p := fun c : Caller => c.notified)
    (l := callers.filter fun c => !(c.name != name))
  omega

theorem callers_look_of_ne_wait {caller : Caller} {queued : Bool} {l : Look}
    (h : s.pool.look s.clock caller.deadline queued = l) (hw : l.verdict ≠ .wait) :
    (s.look caller queued).callers = s.callers.filter (·.name != caller.name) := by
  rw [callers_look, h]
  cases hv : l.verdict with
  | wait => exact absurd hv hw
  | _ => exact List.append_nil _

theorem owed_look (s : PoolSystem) (caller : Caller) (queued : Bool) :
    (s.look caller queued).owed = s.owed := by
  simp only [look]
  split <;> rfl

theorem heard_look (h : Heard s) {caller : Caller} (queued : Bool)
    (once : (s.callers.map (·.name)).count caller.name ≤ 1) : Heard (s.look caller queued) := by
  generalize hl : s.pool.look s.clock caller.deadline queued = l
  have found := s.pool.found_look s.clock caller.deadline queued
  have pool_eq := s.pool_look caller queued
  rw [hl] at found pool_eq
  by_cases nothing : l.verdict.reused = [] ∧ l.verdict.reserved = 0
  · intro isOpen _
    rw [pool_eq, found.closed_eq] at isOpen
    rw [pool_eq, Pool.usable_look_of_nothing hl isOpen nothing.1 nothing.2]
    exact Nat.zero_le _
  · -- the caller leaves with what it got, and at most one notice is used up
    have hw : l.verdict ≠ .wait := fun hv => nothing (by rw [hv]; exact ⟨rfl, rfl⟩)
    have callers_eq := callers_look_of_ne_wait hl hw
    refine h.of_le ?_ ?_ ?_
    · rw [pool_eq, found.closed_eq]
      exact id
    · rintro ⟨c, hc, hn⟩
      rw [callers_eq] at hc
      exact ⟨c, List.mem_of_mem_filter hc, hn⟩
    · have got : 0 < l.verdict.reused.length + l.verdict.reserved := by
        by_contra none
        exact nothing ⟨List.length_eq_zero_iff.1 (by omega), by omega⟩
      have := s.pool.usable_look_le s.clock caller.deadline queued hl
      have := countP_notified_le s.callers once
      rw [notices, notices, told, told, callers_eq, s.owed_look, pool_eq]
      omega

theorem heard_fail (h : Heard s) (caller : Option Nat) (cause : Error) :
    Heard (s.fail caller cause) := by
  cases caller <;> exact h

/-! ## Notifications -/

/-- A caller that is told counts one more, and no caller counts less. -/
theorem countP_notified_lt {callers : List Caller} {chosen : Caller} (hc : chosen ∈ callers)
    (hn : chosen.notified = false) :
    callers.countP (·.notified) <
      (callers.map fun c => if c.name == chosen.name then { c with notified := true } else c).countP
        (·.notified) := by
  obtain ⟨before, after, rfl⟩ := List.append_of_mem hc
  have le : ∀ l : List Caller, l.countP (·.notified) ≤
      (l.map fun c => if c.name == chosen.name then { c with notified := true } else c).countP
        (·.notified) := by
    intro l
    rw [List.countP_map]
    refine List.countP_mono_left fun c _ told => ?_
    simp only [Function.comp_apply]
    split
    · rfl
    · exact told
  have := le before
  have := le after
  simp only [List.countP_append, List.map_append, List.map_cons, List.countP_cons, hn,
    beq_self_eq_true, if_true, Bool.false_eq_true, if_false]
  omega

theorem heard_notify (h : Heard s) (pick : Nat) : Heard (s.notify pick) := by
  unfold notify
  split
  · exact h
  · next notice owed howed =>
    cases notice with
    | all =>
      rintro - ⟨c, hc, hn⟩
      obtain ⟨c', -, rfl⟩ := List.mem_map.1 hc
      cases hn
    | one =>
      simp only
      split
      · next chosen hp =>
        have blocked := List.mem_filter.1 (List.mem_of_getElem? hp)
        have hn : chosen.notified = false := by simpa using blocked.2
        have lt := countP_notified_lt blocked.1 hn
        refine h.of_le id ?_ ?_
        · intro _
          exact ⟨chosen, blocked.1, hn⟩
        · rw [notices, notices, told, told, howed, List.count_cons_self]
          simp only
          omega
      · next hp =>
        -- nobody is left to be told
        rintro - ⟨c, hc, hn⟩
        have hb : c ∈ s.callers.filter (!·.notified) := List.mem_filter.2 ⟨hc, by simp [hn]⟩
        have := List.getElem?_eq_none_iff.1 hp
        have := Nat.mod_lt pick (List.length_pos_of_mem hb)
        omega

/-! ## All steps -/

theorem heard_step (h : Heard s) (balanced : s.ledger.Balanced) (e : Event) : Heard (s.step e) := by
  by_cases notifies : ∃ pick, e = .notify pick
  · obtain ⟨pick, rfl⟩ := notifies
    exact heard_notify h pick
  · have stepped := s.stepped_step e
    generalize s.step e = t at stepped
    cases stepped with
    | called =>
      exact heard_look (s := { s with calls := s.calls + 1 }) h false
        (count_name_le balanced s.calls)
    | rechecked => exact heard_look h true (count_name_le balanced _)
    | attempted _ _ attempted =>
      cases attempted with
      | established => exact h
      | rejected | unopened =>
        apply heard_fail
        exact h.free id rfl rfl s.pool.usable_vacate_le
    | settled _ _ settled =>
      cases settled with
      | abandoned isClosed =>
        apply heard_fail
        exact heard_of_closed isClosed
      | lent => exact h
      | filed => exact h.free id rfl rfl (Nat.le_of_eq (s.pool.usable_file ..))
    | returned _ returned =>
      cases returned with
      | kept => exact h.free id rfl rfl (Nat.le_of_eq (s.pool.usable_file ..))
      | discarded => exact h.free id rfl rfl s.pool.usable_vacate_le
    | invalidated => exact h.keep id rfl rfl s.pool.usable_empty_le
    | closed => exact heard_of_closed rfl
    | notified pick => exact absurd ⟨pick, rfl⟩ notifies
    | pruned => exact h.keep id rfl rfl (s.pool.usable_prune_le s.clock)
    | reserved => exact h.keep id rfl rfl s.pool.usable_reserve_le
    | nothing | used | shut | ended | rested | ticked => exact h

theorem heard_run (h : Heard s) (balanced : s.ledger.Balanced) (events : List Event) :
    Heard (s.run events) := by
  induction events generalizing s with
  | nil => exact h
  | cons e events ih =>
    exact ih (heard_step h balanced e) (balanced_of_moves balanced (s.moves_step e)).1

end

/-- What is true of an open pool when there is a caller that nobody told anything. -/
structure Noticed (settings : PoolSettings) (s : PoolSystem) : Prop where
  total_le : s.pool.total ≤ settings.maxSize
  usable_le : s.pool.idle.length + (settings.maxSize - s.pool.total) ≤
    s.callers.countP (·.notified) + s.owed.count .one
  /-- If no notice is under way, there is nothing that the caller could get. -/
  taken : (∀ c ∈ s.callers, c.notified = false) → .one ∉ s.owed →
    s.pool.idle = [] ∧ s.pool.total = settings.maxSize

theorem noticed_run {address : Address} {settings : PoolSettings} {dialer : Dialer}
    {clock : Instant} {s : PoolSystem} (h : create address settings dialer clock = .ok s)
    (events : List Event) (isOpen : (s.run events).pool.closed = false)
    (untold : ∃ c ∈ (s.run events).callers, c.notified = false) :
    Noticed settings (s.run events) := by
  have first : Heard s := by
    obtain ⟨-, rfl⟩ := exists_fresh_of_create h
    rintro - ⟨c, hc, -⟩
    cases hc
  have heard := heard_run first (balanced_create h) events
  obtain ⟨balanced, settings_eq⟩ := balanced_run h events
  have total_le : (s.run events).pool.total ≤ settings.maxSize := settings_eq ▸ balanced.total_le
  have usable_le := heard isOpen untold
  rw [Pool.usable, settings_eq, notices, told] at usable_le
  refine ⟨total_le, usable_le, ?_⟩
  intro nobody none
  have told_eq : (s.run events).callers.countP (·.notified) = 0 :=
    List.countP_eq_zero.2 fun c hc => by simp [nobody c hc]
  rw [told_eq, List.count_eq_zero.2 none] at usable_le
  exact ⟨List.length_eq_zero_iff.1 (by omega), by omega⟩

/-- Two callers wait for one connection. It comes back, and the later one is told. -/
theorem noticed_run_returned :
    let settings : PoolSettings := { maxSize := 1 }
    let s := fresh .localhost settings {} .zero
    let events : List Event := [.call .zero, .dialed 0 (.ok {}), .settle 0,
      .call (.ofSeconds 1), .call (.ofSeconds 1), .giveBack 0, .notify 1]
    create .localhost settings {} .zero = .ok s ∧ (s.run events).pool.closed = false ∧
      (s.run events).callers.map (·.notified) = [false, true] ∧
      (s.run events).pool.idle.length = 1 ∧ Noticed settings (s.run events) := by
  intro settings s events
  have created : create .localhost settings {} .zero = .ok s := rfl
  have isOpen : (s.run events).pool.closed = false := by decide +kernel
  have told : (s.run events).callers.map (·.notified) = [false, true] := by decide +kernel
  have idle : (s.run events).pool.idle.length = 1 := by decide +kernel
  have untold : ∃ c ∈ (s.run events).callers, c.notified = false := by
    refine List.mem_map.1 ?_
    rw [told]
    exact List.mem_cons_self
  exact ⟨created, isOpen, told, idle, noticed_run created events isOpen untold⟩

end PoolSystem

end ClusterClient

import ClusterClient.Cluster.System
import ClusterClient.Proofs.Cluster.Lifetimes

/-!
# Looks

A caller that looks for a server sees one snapshot and decides at once: it takes a server, it gives
up, or it is blocked. No other event of a cluster in use ends a search or makes a caller blocked,
and to the cluster a look is no event at all.

    s.looking? e = some k → Looked s k given still (s.step e)                (exists_looked_step)
    s.looking? e = none → Passed s e (s.step e)                                     (passed_step)
    (s.run events).cluster = s.cluster.run (the changes and the closes in events)   (cluster_run)
-/

namespace ClusterClient

namespace ClusterSystem

/-! ## A look -/

/-- Nothing is taken from what was selected: there is nothing, or it is no member. -/
def Missed (c : Cluster) (kept : List ServerDescription) : Prop :=
  kept = [] ∨ ∃ d ∈ kept, c.member? d.address = none

/-- What comes of a look: how the search ends, if it does, and who stays blocked. -/
inductive Outcome (c : Cluster) (held : Option Address) (clock : Instant) (k : Seeker) :
    List (Except Error Source) → List Seeker → Prop where
  | closed (isClosed : c.closed = true) : Outcome c held clock k [.error .clusterClosed] []
  | overflowed (isOpen : c.closed = false) (none : k.criterion.select c.description held = none) :
      Outcome c held clock k [] []
  | found {kept : List ServerDescription} {held' : Option Address} {d : ServerDescription}
      {m : Member} (isOpen : c.closed = false)
      (selected : k.criterion.select c.description held = some (kept, held')) (hd : d ∈ kept)
      (member : c.member? d.address = some m) : Outcome c held clock k [.ok ⟨m.serial, d⟩] []
  | timedOut {kept : List ServerDescription} {held' : Option Address} (isOpen : c.closed = false)
      (selected : k.criterion.select c.description held = some (kept, held'))
      (missed : Missed c kept) (late : k.deadline ≤ clock) :
      Outcome c held clock k
        [.error (.selectionTimeout k.timeout k.criterion.debugText c.description.text)] []
  | blocked {kept : List ServerDescription} {held' : Option Address} (isOpen : c.closed = false)
      (selected : k.criterion.select c.description held = some (kept, held'))
      (missed : Missed c kept) (early : ¬k.deadline ≤ clock) :
      Outcome c held clock k [] [{ k with notified := false }]

structure Looked (s : ClusterSystem) (k : Seeker) (given : List (Except Error Source))
    (still : List Seeker) (s' : ClusterSystem) : Prop where
  cluster_eq : s'.cluster = s.cluster
  clock_eq : s'.clock = s.clock
  noticeOwed_eq : s'.noticeOwed = s.noticeOwed
  outcome : Outcome s.cluster s.held s.clock k given still
  answers_eq : s'.answers = given.map (fun answer => (k.name, answer)) ++ s.answers
  seekers_eq : s'.seekers = s.seekers.filter (·.name != k.name) ++ still

theorem exists_looked_look (s : ClusterSystem) (k : Seeker) (pick : Nat) :
    ∃ given still, Looked s k given still (s.look k pick) := by
  have append_nil := (List.append_nil (s.seekers.filter (·.name != k.name))).symm
  unfold look
  simp only
  split
  · next isClosed =>
    exact ⟨_, _, rfl, rfl, rfl, .closed isClosed, rfl, append_nil⟩
  · next isOpen =>
    rw [Bool.not_eq_true] at isOpen
    split
    · next none => exact ⟨_, _, rfl, rfl, rfl, .overflowed isOpen none, rfl, append_nil⟩
    · next kept held selected =>
      -- a caller that found nothing is postponed
      have postponed : ∀ t : ClusterSystem,
          t = { s with seekers := s.seekers.filter (·.name != k.name), held } →
          Missed s.cluster kept → ∃ given still, Looked s k given still (t.postpone k) := by
        rintro t rfl missed
        unfold postpone
        split
        · next late =>
          exact ⟨_, _, rfl, rfl, rfl, .timedOut isOpen selected missed late, rfl, append_nil⟩
        · next early =>
          exact ⟨_, _, rfl, rfl, rfl, .blocked isOpen selected missed early, rfl, rfl⟩
      split
      · next nobody =>
        refine postponed _ rfl (Or.inl ?_)
        by_contra some
        have := Nat.mod_lt pick (List.length_pos_iff.2 some)
        have := List.getElem?_eq_none_iff.1 nobody
        omega
      · next d chosen =>
        have hd := List.mem_of_getElem? chosen
        split
        · next m member =>
          exact ⟨_, _, rfl, rfl, rfl, .found isOpen selected hd member, rfl, append_nil⟩
        · next unknown => exact postponed _ rfl (Or.inr ⟨d, hd, unknown⟩)

/-- Whoever is blocked after a look was blocked before, or is the caller, who has missed. -/
theorem Looked.mem_seekers {s s' : ClusterSystem} {j k : Seeker}
    {given : List (Except Error Source)} {still : List Seeker} (l : Looked s k given still s')
    (hj : j ∈ s'.seekers) :
    (j ∈ s.seekers ∧ j.name ≠ k.name) ∨
      (j = { k with notified := false } ∧ s'.answers = s.answers ∧ s.cluster.closed = false ∧
        ∃ kept held', k.criterion.select s.cluster.description s.held = some (kept, held') ∧
          Missed s.cluster kept) := by
  rw [l.seekers_eq] at hj
  rcases List.mem_append.1 hj with hj | hj
  · obtain ⟨known, other⟩ := List.mem_filter.1 hj
    exact Or.inl ⟨known, bne_iff_ne.1 other⟩
  · cases l.outcome with
    | closed | overflowed | found | timedOut => cases hj
    | blocked isOpen selected missed =>
      exact Or.inr ⟨List.mem_singleton.1 hj, l.answers_eq, isOpen, _, _, selected, missed⟩

/-- Who looks in an event. -/
def looking? (s : ClusterSystem) : Event → Option Seeker
  | .seek criterion timeout _ =>
    some {
      name := s.searches, criterion, timeout, deadline := ⟨s.clock.nanos + timeout.nanos⟩ }
  | .recheck name _ => s.seekers.find? (·.name == name)
  | _ => none

section

variable {s s' : ClusterSystem} {e : Event} {k : Seeker}

theorem exists_looked_step (h : s.looking? e = some k) :
    ∃ given still, Looked s k given still (s.step e) := by
  cases e with
  | seek criterion timeout pick =>
    obtain rfl := Option.some.inj h
    obtain ⟨given, still, l⟩ := exists_looked_look { s with searches := s.searches + 1 }
      { name := s.searches, criterion, timeout, deadline := ⟨s.clock.nanos + timeout.nanos⟩ } pick
    exact ⟨given, still, l.cluster_eq, l.clock_eq, l.noticeOwed_eq, l.outcome, l.answers_eq,
      l.seekers_eq⟩
  | recheck name pick =>
    have h : s.seekers.find? (·.name == name) = some k := h
    rw [step, recheck, h]
    exact s.exists_looked_look k pick
  | _ => cases h

theorem step_recheck_of_nobody {name pick : Nat} (h : s.looking? (.recheck name pick) = none) :
    s.step (.recheck name pick) = s := by
  have h : s.seekers.find? (·.name == name) = none := h
  rw [step, recheck, h]

theorem mem_or_of_looking? (h : s.looking? e = some k) :
    k ∈ s.seekers ∨ ∃ pick, e = .seek k.criterion k.timeout pick ∧ k.name = s.searches ∧
      k.deadline = ⟨s.clock.nanos + k.timeout.nanos⟩ := by
  cases e with
  | seek criterion timeout pick =>
    obtain rfl := Option.some.inj h
    exact Or.inr ⟨pick, rfl, rfl, rfl⟩
  | recheck name pick => exact Or.inl (List.mem_of_find?_eq_some h)
  | _ => cases h

/-! ## Other events -/

/-- What an event is to the cluster. -/
def Event.clusterEvent? : Event → Option Cluster.Event
  | .onChange d spawn => some (.change d spawn)
  | .close => some .close
  | _ => none

/-- What comes of an event in which nobody looks: at most, all callers are told. -/
structure Passed (s : ClusterSystem) (e : Event) (s' : ClusterSystem) : Prop where
  cluster_eq : s'.cluster = s.cluster.run e.clusterEvent?.toList
  answers_eq : s'.answers = s.answers
  searches_eq : s'.searches = s.searches
  seekers_eq : s'.seekers = s.seekers ∨ s'.seekers = s.notifyAll.seekers

theorem passed_step (nobody : s.looking? e = none) : Passed s e (s.step e) := by
  cases e with
  | seek => cases nobody
  | recheck name pick =>
    rw [step_recheck_of_nobody nobody]
    exact ⟨rfl, rfl, rfl, Or.inl rfl⟩
  | onChange d spawn =>
    show Passed s _ (s.onChange d spawn)
    simp only [onChange]
    split
    · exact ⟨rfl, rfl, rfl, Or.inr rfl⟩
    · exact ⟨rfl, rfl, rfl, Or.inl rfl⟩
  | close =>
    show Passed s _ s.close
    unfold close
    split
    · next isClosed =>
      have same : s.cluster.close = s.cluster := by rw [Cluster.close, if_pos isClosed]
      exact ⟨same.symm, rfl, rfl, Or.inl rfl⟩
    · exact ⟨rfl, rfl, rfl, Or.inl rfl⟩
  | notifyClosed =>
    show Passed s _ s.notifyClosed
    unfold notifyClosed
    split
    · exact ⟨rfl, rfl, rfl, Or.inr rfl⟩
    · exact ⟨rfl, rfl, rfl, Or.inl rfl⟩
  | tick => exact ⟨rfl, rfl, rfl, Or.inl rfl⟩

/-! ## The cluster of a run -/

theorem cluster_step (s : ClusterSystem) (e : Event) :
    (s.step e).cluster = s.cluster.run e.clusterEvent?.toList := by
  cases hk : s.looking? e with
  | none => exact (passed_step hk).cluster_eq
  | some k =>
    obtain ⟨given, still, l⟩ := exists_looked_step hk
    have none : e.clusterEvent? = none := by
      cases e with
      | seek | recheck => rfl
      | _ => cases hk
    rw [l.cluster_eq, none]
    rfl

theorem cluster_run (s : ClusterSystem) (events : List Event) :
    (s.run events).cluster = s.cluster.run (events.filterMap Event.clusterEvent?) := by
  induction events generalizing s with
  | nil => rfl
  | cons e events ih =>
    show ((s.step e).run events).cluster = _
    rw [ih, cluster_step]
    cases h : e.clusterEvent? with
    | none => rw [List.filterMap_cons_none h]; rfl
    | some e' => rw [List.filterMap_cons_some h]; rfl

theorem consistent_run (h : s.cluster.Consistent) (events : List Event) :
    (s.run events).cluster.Consistent := by
  rw [cluster_run]
  exact (Cluster.consistent_run h _).1

theorem numbered_run (h : s.cluster.Numbered) (events : List Event) :
    (s.run events).cluster.Numbered := by
  rw [cluster_run]
  exact Cluster.numbered_run h _

/-! ## Callers and answers -/

/-- Whoever is blocked after an event was blocked before, or looked in it. -/
theorem mem_seekers_step (h : k ∈ (s.step e).seekers) :
    ∃ j, (j ∈ s.seekers ∨ s.looking? e = some j) ∧ k = { j with notified := k.notified } := by
  cases hj : s.looking? e with
  | none =>
    rcases (passed_step hj).seekers_eq with same | told
    · rw [same] at h
      exact ⟨k, Or.inl h, rfl⟩
    · rw [told] at h
      obtain ⟨j, hj, rfl⟩ := List.mem_map.1 h
      exact ⟨j, Or.inl hj, rfl⟩
  | some j =>
    obtain ⟨given, still, l⟩ := exists_looked_step hj
    rcases l.mem_seekers h with ⟨known, -⟩ | ⟨rfl, -⟩
    · exact ⟨k, Or.inl known, rfl⟩
    · exact ⟨j, Or.inr rfl, rfl⟩

/-! ## Names -/

/-- Searches are numbered, and so are those who are blocked and those that ended. -/
structure Named (s : ClusterSystem) : Prop where
  seekers : ∀ k ∈ s.seekers, k.name < s.searches
  answers : ∀ a ∈ s.answers, a.1 < s.searches

theorem searches_le_step (s : ClusterSystem) (e : Event) : s.searches ≤ (s.step e).searches := by
  cases hk : s.looking? e with
  | none => exact Nat.le_of_eq (passed_step hk).searches_eq.symm
  | some k =>
    cases e with
    | seek criterion timeout pick =>
      show s.searches ≤ (s.seek criterion timeout pick).searches
      rw [s.searches_seek]
      exact Nat.le_succ _
    | recheck name pick =>
      show s.searches ≤ (s.recheck name pick).searches
      unfold recheck
      split
      · next seeker _ => exact Nat.le_of_eq (s.searches_look seeker pick).symm
      · exact Nat.le_refl _
    | _ => cases hk

theorem Named.name_lt (h : Named s) (hk : s.looking? e = some k) :
    k.name < (s.step e).searches := by
  rcases mem_or_of_looking? hk with known | ⟨pick, rfl, name, -⟩
  · exact Nat.lt_of_lt_of_le (h.seekers k known) (s.searches_le_step e)
  · show k.name < (s.seek k.criterion k.timeout pick).searches
    rw [s.searches_seek, name]
    exact Nat.lt_succ_self _

theorem named_step (h : Named s) (e : Event) : Named (s.step e) := by
  have grown := s.searches_le_step e
  constructor
  · intro k hk
    obtain ⟨j, hj, same⟩ := mem_seekers_step hk
    have lt : j.name < (s.step e).searches := by
      rcases hj with known | looking
      · exact Nat.lt_of_lt_of_le (h.seekers j known) grown
      · exact h.name_lt looking
    rw [same]
    exact lt
  · intro a ha
    cases hk : s.looking? e with
    | none =>
      rw [(passed_step hk).answers_eq] at ha
      exact Nat.lt_of_lt_of_le (h.answers a ha) grown
    | some k =>
      obtain ⟨given, still, l⟩ := exists_looked_step hk
      rw [l.answers_eq] at ha
      rcases List.mem_append.1 ha with ha | ha
      · obtain ⟨answer, -, rfl⟩ := List.mem_map.1 ha
        exact h.name_lt hk
      · exact Nat.lt_of_lt_of_le (h.answers a ha) grown

theorem named_run (h : Named s) (events : List Event) : Named (s.run events) := by
  induction events generalizing s with
  | nil => exact h
  | cons e events ih => exact ih (named_step h e)

/-- A server is found only if it was selected. -/
theorem Outcome.exists_selected {c : Cluster} {held : Option Address} {clock : Instant}
    {given : List (Except Error Source)} {still : List Seeker} {source : Source}
    (h : Outcome c held clock k given still) (hs : .ok source ∈ given) :
    ∃ kept held', k.criterion.select c.description held = some (kept, held') ∧
      source.description ∈ kept := by
  cases h with
  | found isOpen selected hd member =>
    obtain same := List.mem_singleton.1 hs
    cases same
    exact ⟨_, _, selected, hd⟩
  | overflowed | blocked => cases hs
  | closed | timedOut => cases List.mem_singleton.1 hs

/-- A server is found only if it is one of a member. -/
theorem Outcome.exists_member {c : Cluster} {held : Option Address} {clock : Instant}
    {given : List (Except Error Source)} {still : List Seeker} {source : Source}
    (h : Outcome c held clock k given still) (hs : .ok source ∈ given) :
    ∃ m ∈ c.members, m.serial = source.serial := by
  cases h with
  | found isOpen selected hd member =>
    obtain same := List.mem_singleton.1 hs
    cases same
    exact ⟨_, List.mem_of_find?_eq_some member, rfl⟩
  | overflowed | blocked => cases hs
  | closed | timedOut => cases List.mem_singleton.1 hs

/-- A search that had not ended before, and now has found a server, has ended with this look. -/
theorem exists_outcome_of_answer? (h : s.looking? e = some k)
    (fresh : ∀ a ∈ s.answers, a.1 ≠ k.name) {source : Source}
    (ended : (s.step e).answer? k.name = some (.ok source)) :
    ∃ given still, Outcome s.cluster s.held s.clock k given still ∧ .ok source ∈ given := by
  obtain ⟨given, still, l⟩ := exists_looked_step h
  obtain ⟨later, earlier, answers_eq, -⟩ := List.lookup_eq_some_iff.1 ended
  have answered : (k.name, .ok source) ∈ (s.step e).answers := by
    rw [answers_eq]
    exact List.mem_append_right later List.mem_cons_self
  rw [l.answers_eq] at answered
  rcases List.mem_append.1 answered with now | before
  · obtain ⟨answer, hg, same⟩ := List.mem_map.1 now
    cases same
    exact ⟨given, still, l.outcome, hg⟩
  · exact absurd rfl (fresh _ before)

end

end ClusterSystem

end ClusterClient

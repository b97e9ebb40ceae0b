import ClusterClient.Proofs.Cluster.Looks
import ClusterClient.Proofs.Selection.Snapshot

/-!
# Searches

A caller that looks for a server sees one snapshot, and decides by it alone: it takes a server that
its rule matches, or it is blocked, or it gives up. The snapshot and the members tell of the same
servers, so a server that was matched is always there. Nothing but a new snapshot or the close can
give a blocked caller something to do, and both tell all callers. A caller that nobody told misses
nothing.

    Searched s₀ events (s₀.run events)     for each cluster that was started       (searched_run)
-/

namespace ClusterClient

namespace Cluster

theorem member?_eq_some_iff {c : Cluster} (nodup : c.addresses.Nodup) {a : Address} {m : Member} :
    c.member? a = some m ↔ m ∈ c.members ∧ m.address = a := by
  constructor
  · intro h
    exact ⟨List.mem_of_find?_eq_some h, by simpa using List.find?_some h⟩
  · rintro ⟨hm, rfl⟩
    cases found : c.member? m.address with
    | none => simpa using List.find?_eq_none.1 found m hm
    | some m' =>
      have same : m'.address = m.address := by simpa using List.find?_some found
      rw [List.inj_on_of_nodup_map nodup (List.mem_of_find?_eq_some found) hm same]

/-- In an open cluster each server of the snapshot is a member, described as in the snapshot. -/
theorem Consistent.exists_member {c : Cluster} (h : Consistent c) (isOpen : c.closed = false)
    {d : ServerDescription} (hd : d ∈ c.description.servers) :
    ∃ m, c.member? d.address = some m ∧ m.description = d := by
  rw [h.snapshot isOpen, ClusterDescription.infer, ClusterDescription.mem_ofServers] at hd
  obtain ⟨m, hm, rfl⟩ := List.mem_map.1 hd
  exact ⟨m, (member?_eq_some_iff h.nodup).2 ⟨hm, (h.named m hm).symm⟩, rfl⟩

end Cluster

namespace ClusterSystem

section

variable {s s' : ClusterSystem} {e : Event} {k : Seeker}

/-! ## Blocked callers -/

/-- Who is blocked and was told nothing has nothing to do. -/
structure Patient (s : ClusterSystem) : Prop where
  matching_eq : ∀ k ∈ s.seekers, k.notified = false → k.criterion.Pure →
    k.criterion.matching s.cluster.description = some []
  noticeOwed : ∀ k ∈ s.seekers, k.notified = false → s.cluster.closed = true →
    s.noticeOwed = true

theorem matching_of_selected (pure : k.criterion.Pure) {c : ClusterDescription}
    {held held' : Option Address} {kept : List ServerDescription}
    (selected : k.criterion.select c held = some (kept, held')) :
    k.criterion.matching c = some kept := by
  rw [pure.select_eq, Option.map_eq_some_iff] at selected
  obtain ⟨kept', matched, same⟩ := selected
  cases same
  exact matched

/-- A rule that needs nothing but the snapshot misses only if it matches nothing. -/
theorem eq_nil_of_missed {c : Cluster} (consistent : c.Consistent) (isOpen : c.closed = false)
    (pure : k.criterion.Pure) {kept : List ServerDescription}
    (matched : k.criterion.matching c.description = some kept) (missed : Missed c kept) :
    kept = [] := by
  rcases missed with none | ⟨d, hd, unknown⟩
  · exact none
  · obtain ⟨m, member, -⟩ := consistent.exists_member isOpen (pure.subset _ _ matched hd)
    rw [unknown] at member
    cases member

theorem patient_of_looked (h : Patient s) (consistent : s.cluster.Consistent)
    {given : List (Except Error Source)} {still : List Seeker} (l : Looked s k given still s') :
    Patient s' := by
  constructor
  · intro j hj hn pure
    rw [l.cluster_eq]
    rcases l.mem_seekers hj with ⟨known, -⟩ | ⟨rfl, -, isOpen, kept, held, selected, missed⟩
    · exact h.matching_eq j known hn pure
    · have matched := matching_of_selected (k := k) pure selected
      rw [eq_nil_of_missed (k := k) consistent isOpen pure matched missed] at matched
      exact matched
  · intro j hj hn closed
    rw [l.noticeOwed_eq]
    rw [l.cluster_eq] at closed
    rcases l.mem_seekers hj with ⟨known, -⟩ | ⟨rfl, -, isOpen, -⟩
    · exact h.noticeOwed j known hn closed
    · rw [isOpen] at closed
      cases closed

/-- All callers were told. -/
theorem patient_of_told (told : ∀ k ∈ s.seekers, k.notified = true) : Patient s := by
  constructor
  · intro k hk hn
    rw [told k hk] at hn
    cases hn
  · intro k hk hn
    rw [told k hk] at hn
    cases hn

theorem told_notifyAll (s : ClusterSystem) : ∀ k ∈ s.notifyAll.seekers, k.notified = true := by
  intro k hk
  obtain ⟨j, -, rfl⟩ := List.mem_map.1 hk
  rfl

theorem patient_onChange (h : Patient s) (d : ServerDescription) (spawn : Address → Spawn) :
    Patient (s.onChange d spawn) := by
  simp only [onChange]
  split
  · exact patient_of_told (told_notifyAll _)
  · next same =>
    have same : (s.cluster.onChange d spawn).description = s.cluster.description := by
      simpa using same
    refine ⟨fun k hk hn pure => ?_, fun k hk hn closed => ?_⟩
    · show k.criterion.matching (s.cluster.onChange d spawn).description = some []
      rw [same]
      exact h.matching_eq k hk hn pure
    · exact h.noticeOwed k hk hn (s.cluster.closed_onChange d spawn ▸ closed)

theorem patient_close (h : Patient s) : Patient s.close := by
  unfold close
  split
  · exact h
  · next isOpen =>
    refine ⟨fun k hk hn pure => ?_, fun _ _ _ _ => rfl⟩
    show k.criterion.matching s.cluster.close.description = some []
    rw [Cluster.close, if_neg isOpen]
    exact h.matching_eq k hk hn pure

theorem patient_step (h : Patient s) (consistent : s.cluster.Consistent) (e : Event) :
    Patient (s.step e) := by
  cases hk : s.looking? e with
  | some k =>
    obtain ⟨given, still, l⟩ := exists_looked_step hk
    exact patient_of_looked h consistent l
  | none =>
    cases e with
    | seek => cases hk
    | recheck name pick =>
      rw [step_recheck_of_nobody hk]
      exact h
    | onChange d spawn => exact patient_onChange h d spawn
    | close => exact patient_close h
    | notifyClosed =>
      show Patient s.notifyClosed
      unfold notifyClosed
      split
      · exact patient_of_told (told_notifyAll _)
      · exact h
    | tick => exact ⟨h.matching_eq, h.noticeOwed⟩

/-! ## What searches return -/

/-- What a search may return that looks at a cluster at some time. -/
inductive Returns (c : Cluster) (clock : Instant) (k : Seeker) : Except Error Source → Prop where
  | closed (isClosed : c.closed = true) : Returns c clock k (.error .clusterClosed)
  /-- A current member that was not closed, described as in the snapshot, where the rule
  matched it. -/
  | found {kept : List ServerDescription} {m : Member} (isOpen : c.closed = false)
      (matched : k.criterion.matching c.description = some kept) (selected : m.description ∈ kept)
      (current : m.description ∈ c.description.servers) (member : m ∈ c.members)
      (alive : m.serial ∉ c.closings) : Returns c clock k (.ok ⟨m.serial, m.description⟩)
  | timedOut (isOpen : c.closed = false)
      (nothing : k.criterion.matching c.description = some []) (late : k.deadline ≤ clock) :
      Returns c clock k
        (.error (.selectionTimeout k.timeout k.criterion.debugText c.description.text))

theorem returns_of_outcome {c : Cluster} (consistent : c.Consistent) (numbered : c.Numbered)
    (pure : k.criterion.Pure) {held : Option Address} {clock : Instant}
    {given : List (Except Error Source)} {still : List Seeker}
    (h : Outcome c held clock k given still) : ∀ answer ∈ given, Returns c clock k answer := by
  intro answer ha
  cases h with
  | closed isClosed =>
    obtain rfl := List.mem_singleton.1 ha
    exact .closed isClosed
  | overflowed | blocked => cases ha
  | found isOpen selected hd member =>
    obtain rfl := List.mem_singleton.1 ha
    have matched := matching_of_selected pure selected
    have current := pure.subset _ _ matched hd
    obtain ⟨m', member', rfl⟩ := consistent.exists_member isOpen current
    obtain rfl := Option.some.inj (member.symm.trans member')
    have hm := ((Cluster.member?_eq_some_iff consistent.nodup).1 member).1
    exact .found isOpen matched hd current hm (Cluster.not_mem_closings numbered hm)
  | timedOut isOpen selected missed late =>
    obtain rfl := List.mem_singleton.1 ha
    have matched := matching_of_selected pure selected
    rw [eq_nil_of_missed consistent isOpen pure matched missed] at matched
    exact .timedOut isOpen matched late

theorem closed_iff_of_looked {given : List (Except Error Source)} {still : List Seeker}
    (l : Looked s k given still s') :
    s'.answers = (k.name, .error .clusterClosed) :: s.answers ↔ s.cluster.closed = true := by
  rw [l.answers_eq]
  cases l.outcome with
  | closed isClosed => exact ⟨fun _ => isClosed, fun _ => rfl⟩
  | overflowed isOpen | blocked isOpen => simp [isOpen]
  | found isOpen | timedOut isOpen => simp [isOpen]

/-- A rule that matches something finds something, however short the time is. -/
theorem found_of_looked (consistent : s.cluster.Consistent) (pure : k.criterion.Pure)
    {given : List (Except Error Source)} {still : List Seeker} (l : Looked s k given still s')
    (isOpen : s.cluster.closed = false) {kept : List ServerDescription}
    (matched : k.criterion.matching s.cluster.description = some kept) (some : kept ≠ []) :
    ∃ source, s'.answers = (k.name, .ok source) :: s.answers := by
  have nothing : ∀ {kept' held'}, k.criterion.select s.cluster.description s.held =
      Option.some (kept', held') → ¬Missed s.cluster kept' := by
    intro kept' held' selected missed
    have matched' := matching_of_selected pure selected
    rw [matched] at matched'
    cases matched'
    exact some (eq_nil_of_missed consistent isOpen pure matched missed)
  rw [l.answers_eq]
  cases l.outcome with
  | closed isClosed =>
    rw [isOpen] at isClosed
    cases isClosed
  | overflowed _ none =>
    rw [pure.select_eq, matched] at none
    cases none
  | found => exact ⟨_, rfl⟩
  | timedOut _ selected missed => exact absurd missed (nothing selected)
  | blocked _ selected missed => exact absurd missed (nothing selected)

/-! ## Runs -/

/-- A caller asked in one of the events, and its time runs from then on. -/
def Asked (s₀ : ClusterSystem) (events : List Event) (k : Seeker) : Prop :=
  ∃ earlier pick later, events = earlier ++ .seek k.criterion k.timeout pick :: later ∧
    k.name = (s₀.run earlier).searches ∧
    k.deadline = ⟨(s₀.run earlier).clock.nanos + k.timeout.nanos⟩

theorem asked_append {s₀ : ClusterSystem} {events : List Event} (h : Asked s₀ events k)
    (e : Event) : Asked s₀ (events ++ [e]) k := by
  obtain ⟨earlier, pick, later, rfl, asked⟩ := h
  exact ⟨earlier, pick, later ++ [e], by simp, asked⟩

theorem asked_of_looking? {s₀ : ClusterSystem} {events : List Event}
    (known : ∀ k ∈ (s₀.run events).seekers, Asked s₀ events k)
    (h : (s₀.run events).looking? e = some k) : Asked s₀ (events ++ [e]) k := by
  rcases mem_or_of_looking? h with hk | ⟨pick, rfl, asked⟩
  · exact asked_append (known k hk) e
  · exact ⟨events, pick, [], rfl, asked⟩

theorem asked_run {s₀ : ClusterSystem} (nobody : s₀.seekers = []) (events : List Event) :
    ∀ k ∈ (s₀.run events).seekers, Asked s₀ events k := by
  induction events using List.reverseRecOn with
  | nil =>
    intro k hk
    have hk : k ∈ s₀.seekers := hk
    rw [nobody] at hk
    cases hk
  | append_singleton events e ih =>
    intro k hk
    rw [run_append] at hk
    obtain ⟨j, hj, same⟩ := mem_seekers_step hk
    have asked : Asked s₀ (events ++ [e]) j := by
      rcases hj with hj | hj
      · exact asked_append (ih j hj) e
      · exact asked_of_looking? ih hj
    rw [same]
    exact asked

/-- In one of the events a search came to its end: the caller looked, and returned the answer. -/
def Ended (s₀ : ClusterSystem) (events : List Event) (name : Nat)
    (answer : Except Error Source) : Prop :=
  ∃ earlier e later k, events = earlier ++ e :: later ∧
    (s₀.run earlier).looking? e = some k ∧ k.name = name ∧ Asked s₀ (earlier ++ [e]) k ∧
    (k.criterion.Pure →
      Returns (s₀.run earlier).cluster (s₀.run earlier).clock k answer)

theorem ended_run {s₀ : ClusterSystem} (nobody : s₀.seekers = []) (none : s₀.answers = [])
    (consistent : s₀.cluster.Consistent) (numbered : s₀.cluster.Numbered) (events : List Event) :
    ∀ name answer, (name, answer) ∈ (s₀.run events).answers → Ended s₀ events name answer := by
  induction events using List.reverseRecOn with
  | nil =>
    intro name answer ha
    have ha : (name, answer) ∈ s₀.answers := ha
    rw [none] at ha
    cases ha
  | append_singleton events e ih =>
    intro name answer ha
    rw [run_append] at ha
    change (name, answer) ∈ ((s₀.run events).step e).answers at ha
    have old : (name, answer) ∈ (s₀.run events).answers → Ended s₀ (events ++ [e]) name answer := by
      intro ha
      obtain ⟨earlier, e', later, k, rfl, ended⟩ := ih name answer ha
      exact ⟨earlier, e', later ++ [e], k, by simp, ended⟩
    cases hk : (s₀.run events).looking? e with
    | none =>
      rw [(passed_step hk).answers_eq] at ha
      exact old ha
    | some k =>
      obtain ⟨given, still, l⟩ := exists_looked_step hk
      rw [l.answers_eq] at ha
      rcases List.mem_append.1 ha with ha | ha
      · obtain ⟨a, hg, same⟩ := List.mem_map.1 ha
        cases same
        refine ⟨events, e, [], k, rfl, hk, rfl, asked_of_looking? (asked_run nobody events) hk, ?_⟩
        intro pure
        exact returns_of_outcome (consistent_run consistent events) (numbered_run numbered events)
          pure l.outcome _ hg
      · exact old ha

end

/-- What is true of the searches in a cluster, when after some events since the start `s₀` it has
come to the state `s`. -/
structure Searched (s₀ : ClusterSystem) (events : List Event) (s : ClusterSystem) : Prop where
  /-- Nobody is blocked without reason, unless a notification is still to come. -/
  blocked : s.noticeOwed = false → ∀ k ∈ s.seekers, k.notified = false →
    s.cluster.closed = false ∧
      (k.criterion.Pure → k.criterion.matching s.cluster.description = some [])
  /-- Each answer is right at the moment of the look that it comes from. -/
  ended : ∀ name answer, (name, answer) ∈ s.answers → Ended s₀ events name answer
  /-- A search fails with a closed cluster exactly if it looks at one. -/
  closed_iff : ∀ e k, s.looking? e = some k →
    ((s.step e).answers = (k.name, .error .clusterClosed) :: s.answers ↔ s.cluster.closed = true)
  /-- Whoever looks at a snapshot that matches succeeds, whatever the time is. -/
  prompt : ∀ e k kept, s.looking? e = some k → k.criterion.Pure → s.cluster.closed = false →
    k.criterion.matching s.cluster.description = some kept → kept ≠ [] →
    ∃ source, (s.step e).answers = (k.name, .ok source) :: s.answers

theorem searched_run {settings : ClusterSettings} {spawn : Address → Spawn} {c₀ : Cluster}
    (h : Cluster.start settings spawn = (.ok (), c₀)) (held : Option Address) (clock : Instant)
    (events : List Event) :
    let s₀ : ClusterSystem := { cluster := c₀, held, clock }
    Searched s₀ events (s₀.run events) := by
  intro s₀
  have consistent₀ : c₀.Consistent := (Cluster.started_of_start h).consistent
  have numbered₀ : c₀.Numbered := by
    have := Cluster.numbered_start settings spawn
    rwa [h] at this
  have consistent : ∀ events, (s₀.run events).cluster.Consistent := consistent_run consistent₀
  have patient : Patient (s₀.run events) := by
    induction events using List.reverseRecOn with
    | nil => exact patient_of_told (by simp [s₀, run])
    | append_singleton events e ih =>
      rw [run_append]
      exact patient_step ih (consistent events) e
  refine ⟨?_, ended_run rfl rfl consistent₀ numbered₀ events, ?_, ?_⟩
  · intro settled k hk hn
    refine ⟨?_, patient.matching_eq k hk hn⟩
    by_contra closed
    have := patient.noticeOwed k hk hn (by simpa using closed)
    rw [settled] at this
    cases this
  · intro e k hk
    obtain ⟨given, still, l⟩ := exists_looked_step hk
    exact closed_iff_of_looked l
  · intro e k kept hk pure isOpen matched some
    obtain ⟨given, still, l⟩ := exists_looked_step hk
    exact found_of_looked (consistent events) pure l isOpen matched some

/-- A caller is blocked until the only server is reported. -/
theorem searched_run_reported :
    let a : Address := ⟨"a", 1⟩
    let settings : ClusterSettings := { hosts := [a], mode? := some .single }
    let spawn : Address → Spawn := fun _ => .started
    let c₀ := (Cluster.start settings spawn).2
    let d : ServerDescription := { address := a, state := .connected, type := .standalone }
    let s₀ : ClusterSystem := { cluster := c₀ }
    let events : List Event :=
      [.seek Selector.primary (.ofSeconds 1) 0, .onChange d spawn, .recheck 0 0]
    Cluster.start settings spawn = (.ok (), c₀) ∧ Selector.primary.criterion.Pure ∧
      (s₀.run events).answers = [(0, .ok ⟨0, d⟩)] ∧ Searched s₀ events (s₀.run events) := by
  intro a settings spawn c₀ d s₀ events
  have started : Cluster.start settings spawn = (.ok (), c₀) := rfl
  have answered : (s₀.run events).answers = [(0, .ok ⟨0, d⟩)] := by decide +kernel
  exact ⟨started, Selector.pure_criterion rfl, answered, searched_run started none .zero events⟩

end ClusterSystem

end ClusterClient

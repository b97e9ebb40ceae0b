import ClusterClient.Proofs.Selection.Window
import Mathlib.Data.List.Nodup

/-!
# Members that a read preference allows

On a replica set a read preference allows primaries, secondaries, or both. The tag sets are tried in
order on all the servers that come into question, and the first one that any of them carries decides
for all of them. The two modes with a fallback treat it differently: a secondary has to carry its
tags wherever it stands in, a primary never has to. The latency window comes after the tags.

    d ∈ p.tagged candidates ↔ p.Picks (· ∈ candidates) d                     (mem_tagged_iff)
    d is selected ↔ p.Allows window cluster d                            (mem_selectMembers_iff)
    there is no answer ↔ p.Overflows window cluster               (selectMembers_eq_none_iff)
-/

namespace ClusterClient

/-! ## Tags -/

/-- The server has every tag of the set, with the same value. -/
def ServerDescription.Carries (d : ServerDescription) (tags : TagSet) : Prop :=
  ∀ tag ∈ tags.entries, d.tags.get? tag.1 = some tag.2

theorem hasTags_iff {d : ServerDescription} {tags : TagSet} :
    d.hasTags tags = true ↔ d.Carries tags :=
  TagSet.matches_iff

namespace ReadPreference

/-- The server comes into question and carries the first tag set that any server carries that comes
into question. Without tag sets there is nothing to carry. -/
def Picks (p : ReadPreference) (among : ServerDescription → Prop) (d : ServerDescription) : Prop :=
  among d ∧ (p.tagSets = [] ∨ ∃ before tags after, p.tagSets = before ++ tags :: after ∧
    d.Carries tags ∧ ∀ earlier ∈ before, ∀ e, among e → ¬e.Carries earlier)

variable {p : ReadPreference} {among among' : ServerDescription → Prop} {d : ServerDescription}
  {candidates kept : List ServerDescription} {window : Duration}

theorem picks_congr (same : ∀ e, among e ↔ among' e) : p.Picks among d ↔ p.Picks among' d := by
  obtain rfl : among = among' := funext fun e => propext (same e)
  exact Iff.rfl

/-- The first tag set that any of the candidates carries. -/
def first? (p : ReadPreference) (candidates : List ServerDescription) : Option TagSet :=
  p.tagSets.find? fun tags => !(candidates.filter (·.hasTags tags)).isEmpty

theorem isEmpty_filter_hasTags_iff {tags : TagSet} :
    (candidates.filter (·.hasTags tags)).isEmpty = true ↔ ∀ e ∈ candidates, ¬e.Carries tags := by
  simp only [List.isEmpty_iff, List.filter_eq_nil_iff, hasTags_iff]

theorem first?_eq_some_iff {tags : TagSet} : p.first? candidates = some tags ↔
    (∃ e ∈ candidates, e.Carries tags) ∧ ∃ before after, p.tagSets = before ++ tags :: after ∧
      ∀ earlier ∈ before, ∀ e ∈ candidates, ¬e.Carries earlier := by
  simp only [first?, List.find?_eq_some_iff_append, Bool.not_not, isEmpty_filter_hasTags_iff,
    Bool.not_eq_true', Bool.eq_false_iff, ne_eq, not_forall, not_not, exists_prop]

theorem tagged_of_first? (some : p.tagSets ≠ []) :
    p.tagged candidates = match p.first? candidates with
      | .some tags => candidates.filter (·.hasTags tags)
      | none => [] := by
  have listed : p.tagSets.isEmpty = false := by simpa using some
  simp only [tagged, listed, Bool.false_eq_true, if_false, List.find?_map]
  change ((p.first? candidates).map _).getD [] = _
  cases p.first? candidates <;> rfl

theorem mem_tagged_iff : d ∈ p.tagged candidates ↔ p.Picks (· ∈ candidates) d := by
  by_cases none : p.tagSets = []
  · simp [tagged, Picks, none]
  · rw [tagged_of_first? none, Picks, or_iff_right none]
    constructor
    · intro hd
      split at hd
      · next tags found =>
        obtain ⟨mem, carries⟩ := List.mem_filter.1 hd
        obtain ⟨-, before, after, split, fresh⟩ := first?_eq_some_iff.1 found
        exact ⟨mem, before, tags, after, split, hasTags_iff.1 carries, fresh⟩
      · cases hd
    · rintro ⟨mem, before, tags, after, split, carries, fresh⟩
      have found : p.first? candidates = some tags :=
        first?_eq_some_iff.2 ⟨⟨d, mem, carries⟩, before, after, split, fresh⟩
      rw [found]
      exact List.mem_filter.2 ⟨mem, hasTags_iff.2 carries⟩

theorem tagged_sublist (p : ReadPreference) (candidates : List ServerDescription) :
    (p.tagged candidates).Sublist candidates := by
  by_cases none : p.tagSets = []
  · simp [tagged, none]
  · rw [tagged_of_first? none]
    split
    · exact List.filter_sublist
    · exact List.nil_sublist _

end ReadPreference

/-! ## Members -/

namespace ClusterDescription

variable {cluster : ClusterDescription} {d : ServerDescription}

/-- A primary of the snapshot that is connected. -/
def HasPrimary (cluster : ClusterDescription) (d : ServerDescription) : Prop :=
  d ∈ cluster.servers ∧ d.state = .connected ∧ d.type = .replicaSetPrimary

/-- A secondary of the snapshot that is connected. -/
def HasSecondary (cluster : ClusterDescription) (d : ServerDescription) : Prop :=
  d ∈ cluster.servers ∧ d.state = .connected ∧ d.type = .replicaSetSecondary

/-- A member of the snapshot that may be read from. -/
def HasReadable (cluster : ClusterDescription) (d : ServerDescription) : Prop :=
  cluster.HasPrimary d ∨ cluster.HasSecondary d

theorem mem_primaries_iff : d ∈ cluster.primaries ↔ cluster.HasPrimary d := by
  simp only [primaries, List.mem_filter, ServerDescription.isPrimary,
    ServerDescription.isConnected, Bool.and_eq_true, beq_iff_eq, HasPrimary]

theorem mem_secondaries_iff : d ∈ cluster.secondaries ↔ cluster.HasSecondary d := by
  simp only [secondaries, List.mem_filter, ServerDescription.isSecondary,
    ServerDescription.isConnected, Bool.and_eq_true, beq_iff_eq, HasSecondary]

theorem mem_readable_iff :
    d ∈ cluster.primaries ++ cluster.secondaries ↔ cluster.HasReadable d := by
  rw [List.mem_append, mem_primaries_iff, mem_secondaries_iff, HasReadable]

theorem HasReadable.mem_connected (h : cluster.HasReadable d) : d ∈ cluster.connected := by
  rcases h with ⟨mem, connected, -⟩ | ⟨mem, connected, -⟩
  · exact List.mem_filter.2 ⟨mem, beq_iff_eq.2 connected⟩
  · exact List.mem_filter.2 ⟨mem, beq_iff_eq.2 connected⟩

theorem not_hasSecondary_of_hasPrimary (h : cluster.HasPrimary d) : ¬cluster.HasSecondary d := by
  rintro ⟨-, -, secondary⟩
  rw [h.2.2] at secondary
  cases secondary

section

variable (distinct : (cluster.servers.map (·.address)).Nodup)

include distinct

theorem nodup_connected : (cluster.connected.map (·.address)).Nodup :=
  distinct.sublist (List.filter_sublist.map _)

theorem nodup_primaries : (cluster.primaries.map (·.address)).Nodup :=
  distinct.sublist (List.filter_sublist.map _)

theorem nodup_secondaries : (cluster.secondaries.map (·.address)).Nodup :=
  distinct.sublist (List.filter_sublist.map _)

/-- No server is primary and secondary at once. -/
theorem nodup_readable :
    ((cluster.primaries ++ cluster.secondaries).map (·.address)).Nodup := by
  rw [List.map_append, List.nodup_append']
  refine ⟨nodup_primaries distinct, nodup_secondaries distinct, ?_⟩
  intro address hp hs
  obtain ⟨d, hd, rfl⟩ := List.mem_map.1 hp
  obtain ⟨e, he, same⟩ := List.mem_map.1 hs
  rw [mem_primaries_iff] at hd
  rw [mem_secondaries_iff] at he
  obtain rfl : e = d := List.inj_on_of_nodup_map distinct he.1 hd.1 same
  exact not_hasSecondary_of_hasPrimary hd he

end

end ClusterDescription

/-! ## The modes -/

namespace ReadPreference

variable {p : ReadPreference} {cluster : ClusterDescription} {d : ServerDescription}
  {kept : List ServerDescription} {window : Duration}

/-- The servers that each mode allows. -/
def Allows (p : ReadPreference) (window : Duration) (cluster : ClusterDescription)
    (d : ServerDescription) : Prop :=
  match p.mode with
  | .primary => cluster.HasPrimary d
  | .primaryPreferred =>
    cluster.HasPrimary d ∨ (∀ e, ¬cluster.HasPrimary e) ∧ p.Picks cluster.HasSecondary d
  | .secondary => p.Picks cluster.HasSecondary d
  | .secondaryPreferred => p.Picks cluster.HasSecondary d ∨
      (∀ e, ¬p.Picks cluster.HasSecondary e) ∧ cluster.HasPrimary d
  | .nearest => p.Picks cluster.HasReadable d ∧ ∀ e, p.Picks cluster.HasReadable e →
      d.latency.nanos ≤ e.latency.nanos + window.nanos

/-- The window reaches beyond the longest duration above the fastest server in question. -/
def Overflows (p : ReadPreference) (window : Duration) (cluster : ClusterDescription) : Prop :=
  p.mode = .nearest ∧ ∃ fastest, p.Picks cluster.HasReadable fastest ∧
    (∀ e, p.Picks cluster.HasReadable e → fastest.latency ≤ e.latency) ∧
    Duration.longest.nanos < fastest.latency.nanos + window.nanos

theorem mem_tagged_secondaries_iff :
    d ∈ p.tagged cluster.secondaries ↔ p.Picks cluster.HasSecondary d :=
  mem_tagged_iff.trans (picks_congr fun _ => ClusterDescription.mem_secondaries_iff)

theorem mem_tagged_readable_iff :
    d ∈ p.tagged (cluster.primaries ++ cluster.secondaries) ↔ p.Picks cluster.HasReadable d :=
  mem_tagged_iff.trans (picks_congr fun _ => ClusterDescription.mem_readable_iff)

theorem isEmpty_primaries_iff :
    cluster.primaries.isEmpty = true ↔ ∀ e, ¬cluster.HasPrimary e := by
  simp only [List.isEmpty_iff, List.eq_nil_iff_forall_not_mem, ClusterDescription.mem_primaries_iff]

theorem isEmpty_tagged_secondaries_iff :
    (p.tagged cluster.secondaries).isEmpty = true ↔ ∀ e, ¬p.Picks cluster.HasSecondary e := by
  simp only [List.isEmpty_iff, List.eq_nil_iff_forall_not_mem, mem_tagged_secondaries_iff]

theorem mem_selectMembers_iff (h : p.selectMembers window cluster = some kept) :
    d ∈ kept ↔ p.Allows window cluster d := by
  unfold selectMembers at h
  unfold Allows
  cases mode : p.mode with
  | primary =>
    simp only [mode, Option.some.injEq] at h ⊢
    subst h
    exact ClusterDescription.mem_primaries_iff
  | primaryPreferred =>
    simp only [mode, Option.some.injEq] at h ⊢
    subst h
    split
    · next empty =>
      have none := isEmpty_primaries_iff.1 empty
      rw [mem_tagged_secondaries_iff, or_iff_right (none d), and_iff_right none]
    · next nonempty =>
      have some := mt isEmpty_primaries_iff.2 nonempty
      rw [ClusterDescription.mem_primaries_iff, or_iff_left fun fallback => some fallback.1]
  | secondary =>
    simp only [mode, Option.some.injEq] at h ⊢
    subst h
    exact mem_tagged_secondaries_iff
  | secondaryPreferred =>
    simp only [mode, Option.some.injEq] at h ⊢
    subst h
    split
    · next empty =>
      have none := isEmpty_tagged_secondaries_iff.1 empty
      rw [ClusterDescription.mem_primaries_iff, or_iff_right (none d), and_iff_right none]
    · next nonempty =>
      have some := mt isEmpty_tagged_secondaries_iff.2 nonempty
      rw [mem_tagged_secondaries_iff, or_iff_left fun fallback => some fallback.1]
  | nearest =>
    simp only [mode] at h
    rw [mem_withinWindow_iff_near h, Near]
    simp only [mem_tagged_readable_iff]

theorem selectMembers_eq_none_iff :
    p.selectMembers window cluster = none ↔ p.Overflows window cluster := by
  unfold selectMembers Overflows
  split
  · next mode => simp [mode]
  · next mode => simp [mode]
  · next mode => simp [mode]
  · next mode => simp [mode]
  · next mode => simp only [mode, true_and, withinWindow_eq_none_iff, mem_tagged_readable_iff]

/-- A window is applied to members of replica sets only. -/
theorem overflows_of_select_eq_none (h : p.select window cluster = none) :
    p.Overflows window cluster := by
  unfold select at h
  split at h
  · cases h
  · cases h
  · cases h
  · cases h
  · exact selectMembers_eq_none_iff.1 h

/-- What is selected is part of the primaries, of the secondaries, or of both in a row. -/
theorem nodup_selectMembers (distinct : (cluster.servers.map (·.address)).Nodup)
    (h : p.selectMembers window cluster = some kept) : (kept.map (·.address)).Nodup := by
  have primaries := ClusterDescription.nodup_primaries distinct
  have secondaries : ((p.tagged cluster.secondaries).map (·.address)).Nodup :=
    (ClusterDescription.nodup_secondaries distinct).sublist ((p.tagged_sublist _).map _)
  unfold selectMembers at h
  split at h
  · cases h
    exact primaries
  · cases h
    split
    · exact secondaries
    · exact primaries
  · cases h
    exact secondaries
  · cases h
    split
    · exact primaries
    · exact secondaries
  · have part := (withinWindow_sublist h).trans (p.tagged_sublist _)
    exact (ClusterDescription.nodup_readable distinct).sublist (part.map _)

theorem nodup_select (distinct : (cluster.servers.map (·.address)).Nodup)
    (h : p.select window cluster = some kept) : (kept.map (·.address)).Nodup := by
  have connected := ClusterDescription.nodup_connected distinct
  unfold select at h
  split at h
  · cases h
    exact connected
  · cases h
    exact connected
  · cases h
    exact connected
  · cases h
    exact List.nodup_nil
  · exact nodup_selectMembers distinct h

theorem Allows.hasReadable (h : p.Allows window cluster d) : cluster.HasReadable d := by
  unfold Allows at h
  split at h
  · exact .inl h
  · exact h.elim .inl fun fallback => .inr fallback.2.1
  · exact .inr h.1
  · exact h.elim (fun picked => .inr picked.1) fun fallback => .inl fallback.2
  · exact h.1.1

/-! ## Main result -/

/-- What is selected from a replica set. -/
structure Allotted (p : ReadPreference) (window : Duration) (cluster : ClusterDescription)
    (kept : List ServerDescription) : Prop where
  mem_iff : ∀ d, d ∈ kept ↔ cluster.HasReadable d ∧ p.Allows window cluster d
  once : (kept.map (·.address)).Nodup
  /-- Servers that are not connected and members of other types are never selected. -/
  passedOver : ∀ d, d.state ≠ .connected ∨
    d.type ≠ .replicaSetPrimary ∧ d.type ≠ .replicaSetSecondary → d ∉ kept

/-- There is an answer unless the window overflows, and it is the one that is specified. -/
structure Allots (p : ReadPreference) (window : Duration) (cluster : ClusterDescription) :
    Prop where
  answered : (∃ kept, p.select window cluster = some kept) ↔ ¬p.Overflows window cluster
  allotted : ∀ kept, p.select window cluster = some kept → Allotted p window cluster kept

theorem allots_replicaSet (p : ReadPreference) (window : Duration) {cluster : ClusterDescription}
    (multiple : cluster.mode = .multiple) (typed : cluster.type = .replicaSet)
    (distinct : (cluster.servers.map (·.address)).Nodup) : p.Allots window cluster := by
  have select_eq : p.select window cluster = p.selectMembers window cluster := by
    rw [select, multiple, typed]
  refine ⟨?_, fun kept h => ?_⟩
  · rw [select_eq, ← selectMembers_eq_none_iff, ← Option.isSome_iff_exists,
      ← Option.not_isSome_iff_eq_none, not_not]
  · rw [select_eq] at h
    have mem_iff (d : ServerDescription) :
        d ∈ kept ↔ cluster.HasReadable d ∧ p.Allows window cluster d := by
      rw [mem_selectMembers_iff h, and_iff_right_of_imp Allows.hasReadable]
    refine ⟨mem_iff, nodup_selectMembers distinct h, fun d other hd => ?_⟩
    rcases ((mem_iff d).1 hd).1 with ⟨-, connected, primary⟩ | ⟨-, connected, secondary⟩
    · exact other.elim (fun down => down connected) fun neither => neither.1 primary
    · exact other.elim (fun down => down connected) fun neither => neither.2 secondary

/-- Nobody carries the first tag set, and the second one rules the fastest member out. An arbiter
and a secondary that is down carry it as well. -/
theorem allots_replicaSet_nearest :
    let far := TagSet.ofList [("dc", "far")]
    let near := TagSet.ofList [("dc", "near")]
    let member (host : String) (type : ServerType) (millis : Nat) (tags : TagSet) :
      ServerDescription := ⟨⟨host, 1⟩, .connected, type, .ofMillis millis, tags, some "rs", [], [],
        [], none, 0, 0, none⟩
    let primary := member "a" .replicaSetPrimary 20 near
    let slow := member "b" .replicaSetSecondary 36 near
    let quick := member "c" .replicaSetSecondary 31 near
    let untagged := member "d" .replicaSetSecondary 1 .empty
    let arbiter := member "e" .replicaSetArbiter 2 near
    let down : ServerDescription :=
      { member "f" .replicaSetSecondary 3 near with state := .unknown }
    let cluster : ClusterDescription :=
      ⟨.multiple, .replicaSet, [primary, slow, quick, untagged, arbiter, down]⟩
    let p : ReadPreference := ⟨.nearest, [far, near]⟩
    (cluster.servers.map (·.address)).Nodup ∧
      p.select (.ofMillis 15) cluster = some [primary, quick] ∧
      p.Allots (.ofMillis 15) cluster := by
  intro far near member primary slow quick untagged arbiter down cluster p
  have distinct : (cluster.servers.map (·.address)).Nodup := by decide
  have selected : p.select (.ofMillis 15) cluster = some [primary, quick] := by decide +kernel
  exact ⟨distinct, selected, allots_replicaSet p (.ofMillis 15) rfl rfl distinct⟩

end ReadPreference

end ClusterClient

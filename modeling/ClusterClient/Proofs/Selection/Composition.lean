import ClusterClient.Proofs.Selection.Stickiness
import Mathlib

/-!
# Composition of selectors

A selector is a stage from one snapshot to the next, with the router that is held beside it. A
composite is the sequence of its members, and sequences can be grouped as one likes: only the single
selectors that take part count, and the order in which they run.

    stage view (composite members) = members one after the other from view    (stage_composite)
    the single selectors of members in a row come to the same                    (chain_leaves)
    the composites of xs and of ys in a row select what that of xs ++ ys selects
                                                                         (composes_of_distinct)
-/

namespace ClusterClient

/-- The servers are in the order in which snapshots list them. -/
def ClusterDescription.Sorted (cluster : ClusterDescription) : Prop :=
  ofServers cluster.mode cluster.type cluster.servers = cluster

theorem ClusterDescription.Distinct.sorted {cluster : ClusterDescription}
    (distinct : cluster.Distinct) : cluster.Sorted := by
  obtain ⟨mode, type, servers, -, rfl⟩ := distinct
  exact ofServers_servers mode type servers

namespace Selector

/-! ## Single selectors -/

mutual

/-- The selectors that are no composites, at any depth, in the order in which they run. -/
def leaves : Selector → List Selector
  | .primary => [.primary]
  | .readPreference p window => [.readPreference p window]
  | .latency window => [.latency window]
  | .sticky => [.sticky]
  | .composite members => leavesOf members

def leavesOf : List Selector → List Selector
  | [] => []
  | member :: members => member.leaves ++ leavesOf members

end

theorem leavesOf_append (xs ys : List Selector) :
    leavesOf (xs ++ ys) = leavesOf xs ++ leavesOf ys := by
  induction xs with
  | nil => rfl
  | cons x xs ih => rw [List.cons_append, leavesOf, leavesOf, ih, List.append_assoc]

/-- The selectors that select connected servers only, whatever the type of the cluster. -/
inductive Filters : Selector → Prop where
  | primary : Filters .primary
  | readPreference (p : ReadPreference) (window : Duration) : Filters (.readPreference p window)
  | latency (window : Duration) : Filters (.latency window)

theorem Filters.requiresConnected {s : Selector} (h : s.Filters) (t : ClusterType) :
    s.requiresConnected t = true := by
  cases h <;> rfl

/-- The latency window that a single selector applies. -/
def window? : Selector → Option Duration
  | .readPreference p window => if p.mode = .nearest then some window else none
  | .latency window => some window
  | .primary | .sticky | .composite _ => none

/-- No window of the selectors reaches beyond the longest duration above one of the servers. -/
def Fits (selectors : List Selector) (servers : List ServerDescription) : Prop :=
  ∀ s ∈ selectors, ∀ window, s.window? = some window → ∀ d ∈ servers,
    d.latency.nanos + window.nanos ≤ Duration.longest.nanos

mutual

theorem requiresConnected_eq_any (t : ClusterType) : ∀ s : Selector,
    s.requiresConnected t = s.leaves.any (·.requiresConnected t)
  | .primary | .readPreference .. | .latency _ => rfl
  | .sticky => by simp [leaves]
  | .composite members => anyRequiresConnected_eq_any t members

theorem anyRequiresConnected_eq_any (t : ClusterType) : ∀ members : List Selector,
    anyRequiresConnected t members = (leavesOf members).any (·.requiresConnected t)
  | [] => rfl
  | member :: members => by
    rw [anyRequiresConnected, leavesOf, List.any_append, requiresConnected_eq_any t member,
      anyRequiresConnected_eq_any t members]

end

/-! ## Answers -/

theorem Fits.mono {selectors fewer : List Selector} {servers left : List ServerDescription}
    (h : Fits selectors servers) (part : fewer ⊆ selectors) (subset : left ⊆ servers) :
    Fits fewer left :=
  fun s hs window applied d hd => h s (part hs) window applied d (subset hd)

mutual

/-- There is an answer unless a window overflows. -/
theorem exists_select {cluster : ClusterDescription} (held : Option Address) :
    ∀ s : Selector, Fits s.leaves cluster.servers →
      ∃ kept held', s.select cluster held = some (kept, held')
  | .primary, _ => ⟨_, _, rfl⟩
  | .readPreference p window, fits => by
    cases found : p.select window cluster with
    | some kept => exact ⟨kept, held, by rw [select, found, Option.map_some]⟩
    | none =>
      obtain ⟨nearest, d, picked, -, far⟩ := ReadPreference.overflows_of_select_eq_none found
      have hd := (offers_of_mem_connected picked.1.mem_connected).1
      have := fits _ List.mem_cons_self window (by rw [window?, if_pos nearest]) d hd
      omega
  | .latency window, fits => by
    cases found : withinWindow cluster.connected window with
    | some kept => exact ⟨kept, held, by rw [select, found, Option.map_some]⟩
    | none =>
      obtain ⟨d, hd, -, far⟩ := withinWindow_eq_none_iff.1 found
      have := fits _ List.mem_cons_self window rfl d (offers_of_mem_connected hd).1
      omega
  | .sticky, _ => ⟨_, _, rfl⟩
  | .composite members, fits => exists_narrow held members fits

theorem exists_narrow {cluster : ClusterDescription} {candidates : List ServerDescription}
    (held : Option Address) : ∀ members : List Selector, Fits (leavesOf members) candidates →
      ∃ kept held', narrow members cluster candidates held = some (kept, held')
  | [], _ => ⟨candidates, held, rfl⟩
  | member :: members, fits => by
    let narrowed := ClusterDescription.ofServers cluster.mode cluster.type candidates
    have subset : narrowed.servers ⊆ candidates := (ClusterDescription.perm_ofServers ..).subset
    obtain ⟨left, held₁, found⟩ := exists_select held member
      (fits.mono (List.subset_append_left _ _) subset)
    have less : left ⊆ candidates := fun d hd => subset (mem_of_select member found d hd).1
    rw [narrow, found]
    simp only
    split
    · exact ⟨[], held₁, rfl⟩
    · exact exists_narrow held₁ members (fits.mono (List.subset_append_right _ _) less)

end

/-! ## No server twice -/

theorem nodup_selectPrimary {cluster : ClusterDescription}
    (distinct : (cluster.servers.map (·.address)).Nodup) :
    ((selectPrimary cluster).map (·.address)).Nodup := by
  unfold selectPrimary
  split
  · exact ClusterDescription.nodup_connected distinct
  · exact ClusterDescription.nodup_primaries distinct

theorem nodup_selectSticky {cluster : ClusterDescription} (held : Option Address)
    (distinct : (cluster.servers.map (·.address)).Nodup) :
    ((selectSticky cluster held).1.map (·.address)).Nodup := by
  unfold selectSticky
  split
  · exact distinct
  · split
    · exact List.nodup_singleton _
    · cases fastest? cluster.shardRouters with
      | none => exact List.nodup_nil
      | some router => exact List.nodup_singleton _

mutual

theorem nodup_of_select {cluster : ClusterDescription} {held held' : Option Address}
    {kept : List ServerDescription} (distinct : (cluster.servers.map (·.address)).Nodup) :
    ∀ s : Selector, s.select cluster held = some (kept, held') → (kept.map (·.address)).Nodup
  | .primary, h => by
    cases h
    exact nodup_selectPrimary distinct
  | .readPreference p window, h => by
    obtain ⟨kept', hp, same⟩ := Option.map_eq_some_iff.1 h
    cases same
    exact ReadPreference.nodup_select distinct hp
  | .latency window, h => by
    obtain ⟨kept', hw, same⟩ := Option.map_eq_some_iff.1 h
    cases same
    exact (ClusterDescription.nodup_connected distinct).sublist ((withinWindow_sublist hw).map _)
  | .sticky, h => by
    have same : selectSticky cluster held = (kept, held') := Option.some.inj h
    have nodup := nodup_selectSticky held distinct
    rwa [same] at nodup
  | .composite members, h => nodup_of_narrow distinct members h

theorem nodup_of_narrow {cluster : ClusterDescription} {held held' : Option Address}
    {candidates kept : List ServerDescription} (distinct : (candidates.map (·.address)).Nodup) :
    ∀ members : List Selector, narrow members cluster candidates held = some (kept, held') →
      (kept.map (·.address)).Nodup
  | [], h => by
    cases h
    exact distinct
  | member :: members, h => by
    unfold narrow at h
    split at h
    · cases h
    · next left held₁ found =>
      split at h
      · cases h
        exact List.nodup_nil
      · refine nodup_of_narrow (nodup_of_select ?_ member found) members h
        exact ((ClusterDescription.perm_ofServers ..).map _).nodup_iff.2 distinct

end

/-! ## Stages -/

/-- What a selector leaves, as the snapshot that the next one is given. -/
def rebuild (cluster : ClusterDescription) (found : List ServerDescription × Option Address) :
    ClusterDescription × Option Address :=
  (.ofServers cluster.mode cluster.type found.1, found.2)

/-- One selector at work on a snapshot, while a router is held. Where nothing is left, no selector
is asked any more. -/
def stage (view : ClusterDescription × Option Address) (s : Selector) :
    Option (ClusterDescription × Option Address) :=
  if view.1.servers.isEmpty then some view else (s.select view.1 view.2).map (rebuild view.1)

section

variable {cluster : ClusterDescription} {held : Option Address}
  {candidates : List ServerDescription} {view next : ClusterDescription × Option Address}
  {s : Selector}

theorem isEmpty_rebuild (found : List ServerDescription × Option Address) :
    (rebuild cluster found).1.servers.isEmpty = found.1.isEmpty :=
  (ClusterDescription.perm_ofServers ..).isEmpty_eq

theorem perm_of_rebuild {found found' : List ServerDescription × Option Address}
    (same : rebuild cluster found = rebuild cluster found') : found.1.Perm found'.1 := by
  have perm := ClusterDescription.perm_ofServers cluster.mode cluster.type found.1
  have perm' := ClusterDescription.perm_ofServers cluster.mode cluster.type found'.1
  have servers : (rebuild cluster found).1.servers = (rebuild cluster found').1.servers := by
    rw [same]
  exact (perm.symm.trans (.of_eq servers)).trans perm'

theorem stage_of_isEmpty (none : view.1.servers.isEmpty = true) (s : Selector) :
    stage view s = some view :=
  if_pos none

theorem chain_of_isEmpty (none : view.1.servers.isEmpty = true) (members : List Selector) :
    members.foldlM stage view = some view := by
  induction members with
  | nil => rfl
  | cons member members ih => rw [List.foldlM_cons, stage_of_isEmpty none member]; exact ih

theorem sorted_of_stage (h : stage view s = some next) (sorted : view.1.Sorted) :
    next.1.Sorted := by
  unfold stage at h
  split at h
  · cases h
    exact sorted
  · obtain ⟨found, -, rfl⟩ := Option.map_eq_some_iff.1 h
    exact ClusterDescription.ofServers_servers ..

/-- A composite passes on what its members have left. -/
theorem chain_rebuild (members : List Selector) (some : candidates ≠ []) :
    members.foldlM stage (rebuild cluster (candidates, held)) =
      (narrow members cluster candidates held).map (rebuild cluster) := by
  induction members generalizing candidates held with
  | nil => rfl
  | cons member members ih =>
    have more : (rebuild cluster (candidates, held)).1.servers.isEmpty = false := by
      rw [isEmpty_rebuild]
      exact List.isEmpty_eq_false_iff.2 some
    rw [List.foldlM_cons, stage, more, narrow]
    change ((member.select (.ofServers cluster.mode cluster.type candidates) held).map
      (rebuild cluster)).bind _ = _
    cases member.select (.ofServers cluster.mode cluster.type candidates) held with
    | none => rfl
    | some found =>
      obtain ⟨left, held₁⟩ := found
      simp only [Option.map_some, Option.bind_some]
      split
      · next none =>
        obtain rfl := List.isEmpty_iff.1 none
        exact chain_of_isEmpty ((isEmpty_rebuild _).trans none) members
      · next some => exact ih (mt List.isEmpty_iff.2 some)

theorem stage_composite (sorted : view.1.Sorted) (members : List Selector) :
    stage view (.composite members) = members.foldlM stage view := by
  by_cases none : view.1.servers.isEmpty = true
  · rw [stage_of_isEmpty none, chain_of_isEmpty none]
  · have same : rebuild view.1 (view.1.servers, view.2) = view := Prod.ext sorted rfl
    calc stage view (.composite members)
        = (narrow members view.1 view.1.servers view.2).map (rebuild view.1) := if_neg none
      _ = members.foldlM stage (rebuild view.1 (view.1.servers, view.2)) :=
          (chain_rebuild members (mt List.isEmpty_iff.2 none)).symm
      _ = members.foldlM stage view := by rw [same]

end

mutual

theorem stage_leaves {view : ClusterDescription × Option Address} (sorted : view.1.Sorted) :
    ∀ s : Selector, s.leaves.foldlM stage view = stage view s
  | .primary | .readPreference .. | .latency _ | .sticky => by
    simp only [leaves, List.foldlM_cons, List.foldlM_nil, bind_pure]
  | .composite members => (chain_leaves sorted members).trans (stage_composite sorted members).symm

/-- Only the single selectors count. -/
theorem chain_leaves {view : ClusterDescription × Option Address} (sorted : view.1.Sorted) :
    ∀ members : List Selector, (leavesOf members).foldlM stage view = members.foldlM stage view
  | [] => rfl
  | member :: members => by
    rw [leavesOf, List.foldlM_append, List.foldlM_cons, stage_leaves sorted member]
    cases found : stage view member with
    | none => rfl
    | some next => exact chain_leaves (sorted_of_stage found sorted) members

end

/-! ## Grouping -/

/-- Both select the same servers, in whatever order, and hold the same router afterwards, if there
was a server to select. Or neither has an answer. -/
def SelectsLike (cluster : ClusterDescription) (held : Option Address) (s s' : Selector) : Prop :=
  Option.Rel (fun found found' =>
      found.1.Perm found'.1 ∧ (cluster.servers ≠ [] → found.2 = found'.2))
    (s.select cluster held) (s'.select cluster held)

section

variable {cluster : ClusterDescription} {held : Option Address} {s s' : Selector}

theorem exists_select_of_nil (none : cluster.servers = []) (held : Option Address) (s : Selector) :
    ∃ held', s.select cluster held = some ([], held') := by
  have fits : Fits s.leaves cluster.servers := by
    rw [none]
    exact fun _ _ _ _ d hd => absurd hd List.not_mem_nil
  obtain ⟨kept, held', found⟩ := exists_select held s fits
  have subset : ∀ d ∈ kept, d ∈ cluster.servers := fun d hd => (mem_of_select s found d hd).1
  rw [none] at subset
  obtain rfl := List.eq_nil_iff_forall_not_mem.2 fun d hd => List.not_mem_nil (subset d hd)
  exact ⟨held', found⟩

theorem selectsLike_of_stage (same : stage (cluster, held) s = stage (cluster, held) s') :
    SelectsLike cluster held s s' := by
  unfold SelectsLike
  by_cases none : cluster.servers = []
  · obtain ⟨held₁, found⟩ := exists_select_of_nil none held s
    obtain ⟨held₂, found'⟩ := exists_select_of_nil none held s'
    rw [found, found']
    exact .some ⟨.refl _, fun some => absurd none some⟩
  · unfold stage at same
    rw [if_neg (mt List.isEmpty_iff.1 none), if_neg (mt List.isEmpty_iff.1 none)] at same
    simp only at same
    cases found : s.select cluster held with
    | none =>
      rw [found, Option.map_none, eq_comm, Option.map_eq_none_iff] at same
      rw [same]
      exact .none
    | some left =>
      rw [found, Option.map_some, eq_comm, Option.map_eq_some_iff] at same
      obtain ⟨left', found', same⟩ := same
      rw [found']
      exact .some ⟨perm_of_rebuild same.symm, fun _ => (congrArg Prod.snd same).symm⟩

theorem selectsLike_of_leaves (sorted : cluster.Sorted) {members others : List Selector}
    (same : leavesOf members = leavesOf others) :
    SelectsLike cluster held (.composite members) (.composite others) := by
  refine selectsLike_of_stage ?_
  have row : members.foldlM stage (cluster, held) = others.foldlM stage (cluster, held) := by
    rw [← chain_leaves sorted, same, chain_leaves sorted]
  rw [stage_composite sorted, stage_composite sorted, row]

end

/-! ## Main result -/

/-- What the members of a composite leave of a snapshot. -/
structure Composed (members : List Selector) (cluster : ClusterDescription)
    (kept : List ServerDescription) : Prop where
  /-- Servers as the snapshot describes them, ... -/
  subset : kept ⊆ cluster.servers
  /-- ... each of them once, ... -/
  once : (kept.map (·.address)).Nodup
  /-- ... and connected if a selector that passes over others takes part at any depth. -/
  connected : ∀ s ∈ leavesOf members, s.Filters → ∀ d ∈ kept, d.state = .connected

/-- How composites select from a snapshot while the router `held` is held. -/
structure Composes (cluster : ClusterDescription) (held : Option Address) : Prop where
  /-- Two composites in a row select what one composite of all their members selects. -/
  grouped : ∀ xs ys, SelectsLike cluster held
    (.composite [.composite xs, .composite ys]) (.composite (xs ++ ys))
  /-- However deep they are nested, the same single selectors in a row select the same. -/
  regrouped : ∀ members others, leavesOf members = leavesOf others →
    SelectsLike cluster held (.composite members) (.composite others)
  /-- There is an answer unless a window overflows. -/
  answered : ∀ members, Fits (leavesOf members) cluster.servers →
    ∃ kept held', (composite members).select cluster held = some (kept, held')
  composed : ∀ members kept held', (composite members).select cluster held = some (kept, held') →
    Composed members cluster kept

theorem composes_of_distinct {cluster : ClusterDescription} (distinct : cluster.Distinct)
    (held : Option Address) : Composes cluster held := by
  refine ⟨?_, ?_, ?_, ?_⟩
  · intro xs ys
    refine selectsLike_of_leaves distinct.sorted ?_
    simp only [leavesOf, leaves, leavesOf_append, List.append_nil]
  · exact fun members others same => selectsLike_of_leaves distinct.sorted same
  · exact fun members fits => exists_select held (.composite members) fits
  · intro members kept held' h
    refine ⟨fun d hd => (mem_of_select _ h d hd).1, nodup_of_select distinct.nodup _ h, ?_⟩
    intro s hs filters d hd
    have required : (composite members).requiresConnected cluster.type = true := by
      rw [requiresConnected_eq_any]
      exact List.any_eq_true.2 ⟨s, hs, filters.requiresConnected _⟩
    exact beq_iff_eq.1 ((mem_of_select _ h d hd).2 required)

/-- What is nearest lists the primary first. An empty composite after it lists the same servers by
address again, so grouping keeps the servers and not their order. -/
theorem composes_of_distinct_nearest :
    let member (host : String) (type : ServerType) (millis : Nat) : ServerDescription :=
      { address := ⟨host, 1⟩, state := .connected, type, latency := .ofMillis millis }
    let secondary := member "a" .replicaSetSecondary 20
    let primary := member "b" .replicaSetPrimary 5
    let cluster : ClusterDescription :=
      ⟨.multiple, .replicaSet, [secondary, primary, .unknown ⟨"c", 1⟩ "down"]⟩
    let nearest := readPreference ⟨.nearest, []⟩ (.ofMillis 15)
    cluster.Distinct ∧
      (composite [nearest]).select cluster none = some ([primary, secondary], none) ∧
      (composite [composite [nearest], composite []]).select cluster none =
        some ([secondary, primary], none) ∧
      Composes cluster none := by
  intro member secondary primary cluster nearest
  have distinct : cluster.Distinct :=
    ClusterDescription.distinct_of_pairwise (by decide +kernel)
  refine ⟨distinct, by cbv, by cbv, composes_of_distinct distinct none⟩

end Selector

end ClusterClient

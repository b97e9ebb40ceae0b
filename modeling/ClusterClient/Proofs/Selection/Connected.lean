import ClusterClient.Selection.Selector

/-!
# What selectors select

All selectors select among the servers of the snapshot. All but the sticky router selector pass over
the servers that are not connected, and a composite does so if one of its members does. The sticky
router selector passes over them where there are routers to choose from; it leaves a cluster of
another type as it is, and with it the servers that are not connected.

    s.select cluster held = some (kept, held') → kept ⊆ cluster.servers            (mem_of_select)
    kept = cluster.servers, in some order, if s does not pass over any            (perm_of_select)
-/

namespace ClusterClient

namespace Selector

mutual

/-- Whether only connected servers are selected from a cluster of the type `t`. -/
def requiresConnected (t : ClusterType) : Selector → Bool
  | .primary | .readPreference .. | .latency _ => true
  | .sticky => t == .sharded
  | .composite members => anyRequiresConnected t members

def anyRequiresConnected (t : ClusterType) : List Selector → Bool
  | [] => false
  | member :: members => member.requiresConnected t || anyRequiresConnected t members

end

end Selector

section

variable {cluster : ClusterDescription} {d : ServerDescription} {kept : List ServerDescription}

/-- A server of a snapshot that is connected. -/
def ClusterDescription.Offers (cluster : ClusterDescription) (d : ServerDescription) : Prop :=
  d ∈ cluster.servers ∧ d.isConnected = true

theorem offers_of_mem_connected (h : d ∈ cluster.connected) : cluster.Offers d :=
  List.mem_filter.1 h

theorem offers_of_mem_primaries (h : d ∈ cluster.primaries) : cluster.Offers d := by
  obtain ⟨hd, primary⟩ := List.mem_filter.1 h
  rw [ServerDescription.isPrimary, Bool.and_eq_true] at primary
  exact ⟨hd, primary.1⟩

theorem offers_of_mem_secondaries (h : d ∈ cluster.secondaries) : cluster.Offers d := by
  obtain ⟨hd, secondary⟩ := List.mem_filter.1 h
  rw [ServerDescription.isSecondary, Bool.and_eq_true] at secondary
  exact ⟨hd, secondary.1⟩

theorem mem_of_mem_withinWindow {servers : List ServerDescription} {window : Duration}
    (h : withinWindow servers window = some kept) (hd : d ∈ kept) : d ∈ servers := by
  unfold withinWindow at h
  split at h
  · cases h
    exact hd
  · obtain ⟨bound, -, rfl⟩ := Option.map_eq_some_iff.1 h
    exact (List.mem_filter.1 hd).1

theorem mem_of_mem_tagged {p : ReadPreference} {candidates : List ServerDescription}
    (h : d ∈ p.tagged candidates) : d ∈ candidates := by
  unfold ReadPreference.tagged at h
  simp only at h
  split at h
  · exact h
  · cases hf : (p.tagSets.map fun tags => candidates.filter (·.hasTags tags)).find?
        fun choice => !choice.isEmpty with
    | none => simp [hf] at h
    | some choice =>
      rw [hf, Option.getD_some] at h
      obtain ⟨tags, -, rfl⟩ := List.mem_map.1 (List.mem_of_find?_eq_some hf)
      exact (List.mem_filter.1 h).1

theorem offers_of_mem_selectMembers {p : ReadPreference} {window : Duration}
    (h : p.selectMembers window cluster = some kept) (hd : d ∈ kept) : cluster.Offers d := by
  unfold ReadPreference.selectMembers at h
  split at h
  · cases h
    exact offers_of_mem_primaries hd
  · cases h
    split at hd
    · exact offers_of_mem_secondaries (mem_of_mem_tagged hd)
    · exact offers_of_mem_primaries hd
  · cases h
    exact offers_of_mem_secondaries (mem_of_mem_tagged hd)
  · cases h
    split at hd
    · exact offers_of_mem_primaries hd
    · exact offers_of_mem_secondaries (mem_of_mem_tagged hd)
  · rcases List.mem_append.1 (mem_of_mem_tagged (mem_of_mem_withinWindow h hd)) with hd | hd
    · exact offers_of_mem_primaries hd
    · exact offers_of_mem_secondaries hd

theorem offers_of_mem_readPreference {p : ReadPreference} {window : Duration}
    (h : p.select window cluster = some kept) (hd : d ∈ kept) : cluster.Offers d := by
  unfold ReadPreference.select at h
  split at h
  · cases h
    exact offers_of_mem_connected hd
  · cases h
    exact offers_of_mem_connected hd
  · cases h
    exact offers_of_mem_connected hd
  · cases h
    cases hd
  · exact offers_of_mem_selectMembers h hd

theorem offers_of_mem_selectPrimary (hd : d ∈ selectPrimary cluster) : cluster.Offers d := by
  unfold selectPrimary at hd
  split at hd
  · exact offers_of_mem_connected hd
  · exact offers_of_mem_primaries hd

theorem mem_of_fastest?_eq_some {servers : List ServerDescription} (h : fastest? servers = some d) :
    d ∈ servers := by
  induction servers generalizing d with
  | nil => cases h
  | cons s rest ih =>
    unfold fastest? at h
    split at h
    · next t ht =>
      split at h
      · cases h
        exact List.mem_cons_of_mem _ (ih ht)
      · cases h
        exact List.mem_cons_self
    · cases h
      exact List.mem_cons_self

theorem offers_of_isShardRouter (h : d ∈ cluster.servers) (router : d.isShardRouter = true) :
    cluster.Offers d := by
  rw [ServerDescription.isShardRouter, Bool.and_eq_true] at router
  exact ⟨h, router.1⟩

theorem mem_of_mem_selectSticky {held : Option Address} (hd : d ∈ (selectSticky cluster held).1) :
    d ∈ cluster.servers ∧ (cluster.type = .sharded → d.isConnected = true) := by
  unfold selectSticky at hd
  split at hd
  · next other => exact ⟨hd, fun sharded => absurd sharded other⟩
  · split at hd
    · next router hr =>
      rw [List.mem_singleton.1 hd]
      obtain ⟨found, isRouter⟩ := Option.filter_eq_some_iff.1 hr
      obtain ⟨a, -, ha⟩ := Option.bind_eq_some_iff.1 found
      exact (offers_of_isShardRouter (List.mem_of_find?_eq_some ha) isRouter).imp_right fun h _ => h
    · rw [Option.mem_toList] at hd
      obtain ⟨mem, isRouter⟩ := List.mem_filter.1 (mem_of_fastest?_eq_some hd)
      exact (offers_of_isShardRouter mem isRouter).imp_right fun h _ => h

end

namespace Selector

mutual

theorem mem_of_select {cluster : ClusterDescription} {held held' : Option Address}
    {kept : List ServerDescription} : ∀ s : Selector, s.select cluster held = some (kept, held') →
      ∀ d ∈ kept, d ∈ cluster.servers ∧
        (s.requiresConnected cluster.type = true → d.isConnected = true)
  | .primary, h, d, hd => by
    cases h
    exact (offers_of_mem_selectPrimary hd).imp_right fun h _ => h
  | .readPreference p window, h, d, hd => by
    obtain ⟨kept', hp, same⟩ := Option.map_eq_some_iff.1 h
    cases same
    exact (offers_of_mem_readPreference hp hd).imp_right fun h _ => h
  | .latency window, h, d, hd => by
    obtain ⟨kept', hw, same⟩ := Option.map_eq_some_iff.1 h
    cases same
    exact (offers_of_mem_connected (mem_of_mem_withinWindow hw hd)).imp_right fun h _ => h
  | .sticky, h, d, hd => by
    have same : selectSticky cluster held = (kept, held') := Option.some.inj h
    have hd : d ∈ (selectSticky cluster held).1 := by
      rw [same]
      exact hd
    exact (mem_of_mem_selectSticky hd).imp_right fun h required => h (beq_iff_eq.1 required)
  | .composite members, h, d, hd => by
    obtain ⟨mem, connected⟩ := mem_of_narrow members h d hd
    exact ⟨mem, connected⟩

theorem mem_of_narrow {cluster : ClusterDescription} {held held' : Option Address}
    {candidates kept : List ServerDescription} :
    ∀ members : List Selector, narrow members cluster candidates held = some (kept, held') →
      ∀ d ∈ kept, d ∈ candidates ∧
        (anyRequiresConnected cluster.type members = true → d.isConnected = true)
  | [], h, d, hd => by
    cases h
    exact ⟨hd, fun h => by cases h⟩
  | member :: members, h, d, hd => by
    unfold narrow at h
    split at h
    · cases h
    · next left held₁ hm =>
      split at h
      · cases h
        cases hd
      · obtain ⟨hleft, connected⟩ := mem_of_narrow members h d hd
        obtain ⟨mem, connected'⟩ := mem_of_select member hm d hleft
        refine ⟨ClusterDescription.mem_ofServers.1 mem, fun required => ?_⟩
        rw [anyRequiresConnected, Bool.or_eq_true] at required
        exact required.elim connected' connected

end

/-! ## Selectors that pass over nothing -/

mutual

theorem perm_of_select {cluster : ClusterDescription} {held held' : Option Address}
    {kept : List ServerDescription} : ∀ s : Selector, s.requiresConnected cluster.type = false →
      s.select cluster held = some (kept, held') → kept.Perm cluster.servers
  | .primary, all, h => by cases all
  | .readPreference p window, all, h => by cases all
  | .latency window, all, h => by cases all
  | .sticky, all, h => by
    have other : cluster.type ≠ .sharded := beq_eq_false_iff_ne.1 all
    have same : selectSticky cluster held = (kept, held') := Option.some.inj h
    rw [selectSticky, if_pos other] at same
    cases same
    exact .refl _
  | .composite members, all, h => perm_of_narrow members all h

theorem perm_of_narrow {cluster : ClusterDescription} {held held' : Option Address}
    {candidates kept : List ServerDescription} :
    ∀ members : List Selector, anyRequiresConnected cluster.type members = false →
      narrow members cluster candidates held = some (kept, held') → kept.Perm candidates
  | [], all, h => by
    cases h
    exact .refl _
  | member :: members, all, h => by
    rw [anyRequiresConnected, Bool.or_eq_false_iff] at all
    unfold narrow at h
    split at h
    · cases h
    · next left held₁ hm =>
      let narrowed := ClusterDescription.ofServers cluster.mode cluster.type candidates
      have perm : left.Perm narrowed.servers := perm_of_select member all.1 hm
      have perm : left.Perm candidates := perm.trans (ClusterDescription.perm_ofServers ..)
      split at h
      · next none =>
        cases h
        rwa [List.isEmpty_iff.1 none] at perm
      · exact (perm_of_narrow members all.2 h).trans perm

end

end Selector

end ClusterClient

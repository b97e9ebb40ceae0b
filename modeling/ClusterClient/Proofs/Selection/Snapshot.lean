import ClusterClient.Proofs.Selection.Connected

/-!
# Rules that need nothing but the snapshot

What such a rule selects does not depend on the router that is held, and it holds none itself. All
selectors are of this kind, unless the sticky router selector takes part.

    s.hasSticky = false → s.criterion.Pure       (pure_criterion)
-/

namespace ClusterClient

namespace Criterion

/-- What a rule selects while no router is held. -/
def matching (r : Criterion) (cluster : ClusterDescription) : Option (List ServerDescription) :=
  (r.select cluster none).map (·.1)

/-- A rule whose answer is a function of the snapshot, and consists of servers of it. -/
structure Pure (r : Criterion) : Prop where
  select_eq : ∀ cluster held,
    r.select cluster held = (r.matching cluster).map fun kept => (kept, held)
  subset : ∀ cluster kept, r.matching cluster = some kept → kept ⊆ cluster.servers

end Criterion

namespace Selector

mutual

theorem select_of_not_hasSticky {cluster : ClusterDescription} (held held' : Option Address) :
    ∀ s : Selector, s.hasSticky = false →
      s.select cluster held' = (s.select cluster held).map fun found => (found.1, held')
  | .primary, _ => rfl
  | .readPreference p window, _ => by
    simp only [select]
    rw [Option.map_map]
    rfl
  | .latency window, _ => by
    simp only [select]
    rw [Option.map_map]
    rfl
  | .sticky, h => by cases h
  | .composite members, h => narrow_of_not_anySticky held held' members h

theorem narrow_of_not_anySticky {cluster : ClusterDescription} {candidates : List ServerDescription}
    (held held' : Option Address) :
    ∀ members : List Selector, anySticky members = false →
      narrow members cluster candidates held' =
        (narrow members cluster candidates held).map fun found => (found.1, held')
  | [], _ => rfl
  | member :: members, h => by
    rw [anySticky, Bool.or_eq_false_iff] at h
    simp only [narrow]
    rw [select_of_not_hasSticky held held' member h.1]
    cases member.select (.ofServers cluster.mode cluster.type candidates) held with
    | none => rfl
    | some found =>
      simp only [Option.map_some]
      split
      · rfl
      · exact narrow_of_not_anySticky found.2 held' members h.2

end

theorem pure_criterion {s : Selector} (h : s.hasSticky = false) : s.criterion.Pure where
  select_eq cluster held := by
    show s.select cluster held = ((s.select cluster none).map _).map _
    rw [select_of_not_hasSticky none held s h, Option.map_map]
    rfl
  subset cluster kept found := by
    obtain ⟨⟨_, held⟩, selected, rfl⟩ := Option.map_eq_some_iff.1 found
    exact fun d hd => (mem_of_select s selected d hd).1

end Selector

end ClusterClient

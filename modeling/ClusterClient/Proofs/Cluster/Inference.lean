import ClusterClient.Proofs.Cluster.Representation
import ClusterClient.Proofs.Server.Observed

/-!
# Inferred snapshots

The snapshot of a cluster is inferred from descriptions that monitors publish, whether the cluster
is open or not, as long as nothing else is delivered to it. A description that the cluster rejects
is declared unusable, which leaves it one that was observed.

    Inferred (c₀.run events)     if all delivered descriptions are observed       (inferred_run)
-/

namespace ClusterClient

namespace Cluster

structure Inferred (c : Cluster) : Prop where
  observed : ∀ m ∈ c.members, m.description.Observed
  inferred : ∃ servers : List ServerDescription, (∀ d ∈ servers, d.Observed) ∧
    c.description = .infer c.settings.mode servers

variable {c : Cluster}

theorem observed_judged (c : Cluster) {d : ServerDescription} (h : d.Observed) :
    (c.judged d).Observed := by
  unfold judged
  split
  · exact h
  · exact .excluded h _

/-- A snapshot of members that are observed. -/
theorem inferred_of_members (observed : ∀ m ∈ c.members, m.description.Observed)
    (h : c.description = .infer c.settings.mode (c.members.map (·.description))) : Inferred c := by
  refine ⟨observed, c.members.map (·.description), ?_, h⟩
  intro d hd
  obtain ⟨m, hm, rfl⟩ := List.mem_map.1 hd
  exact observed m hm

theorem inferred_step (h : Inferred c) (consistent : Consistent c) {e : Event}
    (observed : ∀ d spawn, e = .change d spawn → d.Observed) : Inferred (c.step e) := by
  rcases c.step_cases e with ⟨same, -⟩ | ⟨d, spawn, new, rfl, isOpen, known, changed⟩ |
    ⟨-, -, members_eq, -, settings_eq, description_eq⟩
  · rw [same]
    exact h
  · refine inferred_of_members ?_ ?_
    · intro m hm
      rcases mem_of_changed consistent.nodup changed hm with hm | ⟨m', hm', rfl⟩
      · rw [changed.fresh m hm]
        exact ServerDescription.observed_fresh _
      · split
        · exact c.observed_judged (observed d spawn rfl)
        · exact h.observed m' hm'
    · rw [changed.settings_eq]
      exact changed.description_eq
  · obtain ⟨servers, observed, inferred⟩ := h.inferred
    refine ⟨?_, servers, observed, ?_⟩
    · intro m hm
      rw [members_eq] at hm
      cases hm
    · rw [description_eq, settings_eq]
      exact inferred

theorem inferred_run (h : Inferred c) (consistent : Consistent c) {events : List Event}
    (observed : ∀ d spawn, .change d spawn ∈ events → d.Observed) : Inferred (c.run events) := by
  induction events generalizing c with
  | nil => exact h
  | cons e events ih =>
    refine ih (inferred_step h consistent ?_) (consistent_step consistent e) ?_
    · rintro d spawn rfl
      exact observed d spawn List.mem_cons_self
    · intro d spawn hd
      exact observed d spawn (List.mem_cons_of_mem _ hd)

theorem inferred_of_started {settings : ClusterSettings} (h : Started settings c) : Inferred c := by
  refine inferred_of_members ?_ (h.consistent.snapshot h.isOpen)
  intro m hm
  rw [h.fresh m hm]
  exact ServerDescription.observed_fresh _

end Cluster

end ClusterClient

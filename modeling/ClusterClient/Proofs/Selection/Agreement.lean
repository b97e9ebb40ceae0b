import ClusterClient.Proofs.Cluster.Unanimity
import ClusterClient.Proofs.Selection.Connected
import ClusterClient.Proofs.Server.Observed

/-!
# Agreement on the type of a cluster

The type of a cluster is the one that its connected servers agree on. Selectors go by this type
alone: on a standalone or a sharded cluster they do not look what the connected servers are. What
they select there is right because the servers agree.

    cluster.Agreed → d is selected for the primary → d.Principal       (principal_of_mem_select)
-/

namespace ClusterClient

/-- A server that accepts every command: no member of a replica set, or the primary of one. -/
def ServerDescription.Principal (d : ServerDescription) : Prop :=
  d.isConnected = true ∧
    (d.type = .replicaSetPrimary ∨ d.type = .standalone ∨ d.type = .shardRouter)

/-- A member of a replica set other than the primary. -/
def ServerDescription.Subordinate (d : ServerDescription) : Prop :=
  d.isReplicaSetMember = true ∧ d.type ≠ .replicaSetPrimary

theorem ServerDescription.Subordinate.type_ne_unknown {d : ServerDescription} (h : d.Subordinate) :
    d.type ≠ .unknown := by
  intro unknown
  have member := h.1
  rw [isReplicaSetMember, unknown, Bool.and_eq_true] at member
  cases member.2

theorem ServerDescription.Subordinate.not_principal {d : ServerDescription} (h : d.Subordinate) :
    ¬d.Principal := by
  obtain ⟨member, notPrimary⟩ := h
  rw [isReplicaSetMember, Bool.and_eq_true] at member
  rintro ⟨-, primary | standalone | router⟩
  · exact notPrimary primary
  · rw [standalone] at member
    cases member.2
  · rw [router] at member
    cases member.2

namespace ClusterDescription

/-- If the type of the cluster is known, the connected servers of known types belong to it. -/
def Agreed (cluster : ClusterDescription) : Prop :=
  cluster.type ≠ .unknown → ∀ d ∈ cluster.servers, d.isConnected = true → d.type ≠ .unknown →
    d.type.clusterType = cluster.type

variable {cluster : ClusterDescription} {d : ServerDescription} {kept : List ServerDescription}

theorem clusterType_ne_unknown {t : ServerType} (h : t ≠ .unknown) : t.clusterType ≠ .unknown := by
  cases t with
  | unknown => exact absurd rfl h
  | _ => decide

theorem agreed_infer (mode : ConnectionMode) (servers : List ServerDescription) :
    (infer mode servers).Agreed := by
  intro typed d hd connected known
  have unanimous : Unanimous (inferType servers) servers := (inferType_eq_iff typed).1 rfl
  have told := unanimous.only d (mem_ofServers.1 hd) (beq_iff_eq.1 connected)
  exact told.resolve_right (clusterType_ne_unknown known)

/-- The servers still agree if there are fewer of them. -/
theorem Agreed.ofServers (h : cluster.Agreed) {candidates : List ServerDescription}
    (subset : candidates ⊆ cluster.servers) :
    (ClusterDescription.ofServers cluster.mode cluster.type candidates).Agreed :=
  fun typed d hd => h typed d (subset (mem_ofServers.1 hd))

theorem principal_of_clusterType (connected : d.isConnected = true)
    (other : d.type.clusterType ≠ .replicaSet) (known : d.type ≠ .unknown) : d.Principal := by
  refine ⟨connected, ?_⟩
  cases ht : d.type with
  | standalone => exact Or.inr (Or.inl rfl)
  | shardRouter => exact Or.inr (Or.inr rfl)
  | unknown => exact absurd ht known
  | replicaSetPrimary => exact Or.inl rfl
  | replicaSetSecondary | replicaSetArbiter | replicaSetOther =>
    rw [ht] at other
    exact absurd rfl other

theorem principal_of_mem_primaries (hd : d ∈ cluster.primaries) : d.Principal := by
  have primary := (List.mem_filter.1 hd).2
  rw [ServerDescription.isPrimary, Bool.and_eq_true, beq_iff_eq] at primary
  exact ⟨primary.1, Or.inl primary.2⟩

/-- What is selected for the primary accepts every command. -/
theorem principal_of_mem_select (agreed : cluster.Agreed) (multiple : cluster.mode = .multiple)
    {p : ReadPreference} (primary : p.mode = .primary) {window : Duration}
    (h : p.select window cluster = some kept) (hd : d ∈ kept) (known : d.type ≠ .unknown) :
    d.Principal := by
  have outside : ∀ t : ClusterType, cluster.type = t → t ≠ .unknown → t ≠ .replicaSet →
      d ∈ cluster.connected → d.Principal := by
    rintro t rfl typed other hd
    obtain ⟨mem, connected⟩ := offers_of_mem_connected hd
    refine principal_of_clusterType connected ?_ known
    rw [agreed typed d mem connected known]
    exact other
  unfold ReadPreference.select at h
  split at h
  · next single =>
    rw [multiple] at single
    cases single
  · next typed =>
    cases h
    exact outside _ typed (by decide) (by decide) hd
  · next typed =>
    cases h
    exact outside _ typed (by decide) (by decide) hd
  · cases h
    cases hd
  · unfold ReadPreference.selectMembers at h
    rw [primary] at h
    cases h
    exact principal_of_mem_primaries hd

end ClusterDescription

namespace Selector

/-- What a composite selects, its first member had selected before. -/
theorem exists_first_of_narrow {member : Selector} {members : List Selector}
    {cluster : ClusterDescription} {candidates kept : List ServerDescription}
    {held held' : Option Address} {d : ServerDescription}
    (h : narrow (member :: members) cluster candidates held = some (kept, held')) (hd : d ∈ kept) :
    ∃ left held₁,
      member.select (.ofServers cluster.mode cluster.type candidates) held = some (left, held₁) ∧
        d ∈ left := by
  unfold narrow at h
  split at h
  · cases h
  · next left held₁ hm =>
    split at h
    · cases h
      cases hd
    · exact ⟨left, held₁, hm, (mem_of_narrow members h d hd).1⟩

end Selector

end ClusterClient

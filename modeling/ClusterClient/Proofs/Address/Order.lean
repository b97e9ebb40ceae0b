import ClusterClient.Address.Basic
import ClusterClient.Cluster.Description

/-!
# The order of addresses

Addresses are in a linear order, so the servers of a snapshot are sorted; if no two of them have
the same address, each address is strictly less than those that follow.

    (servers.map address).Nodup → (ofServers m t servers).servers is ascending
-/

namespace ClusterClient

open Std

namespace Address

instance : TransOrd Address := inferInstanceAs (TransCmp (compareLex _ _))

instance : LawfulEqOrd Address where
  eq_of_compare {a b} h := by
    have h : (compare a.host b.host).then (compare a.port b.port) = .eq := h
    rw [Ordering.then_eq_eq] at h
    cases a
    cases b
    rw [Address.mk.injEq]
    exact ⟨LawfulEqOrd.eq_of_compare h.1, LawfulEqOrd.eq_of_compare h.2⟩

theorem le_trans {a b c : Address} (h : a.le b = true) (h' : b.le c = true) : a.le c = true :=
  TransCmp.isLE_trans h h'

theorem le_total (a b : Address) : (a.le b || b.le a) = true := by
  have swap : compare b a = (compare a b).swap := OrientedCmp.eq_swap
  rw [le, le, swap]
  cases compare a b <;> rfl

theorem lt_of_le_of_ne {a b : Address} (h : a.le b = true) (ne : a ≠ b) : compare a b = .lt := by
  unfold le at h
  cases hc : compare a b with
  | lt => rfl
  | eq => exact absurd (LawfulEqOrd.eq_of_compare hc) ne
  | gt =>
    rw [hc] at h
    cases h

end Address

namespace ClusterDescription

theorem pairwise_le_ofServers (mode : ConnectionMode) (type : ClusterType)
    (servers : List ServerDescription) :
    (ofServers mode type servers).servers.Pairwise
      fun a b => a.address.le b.address = true := by
  refine List.pairwise_mergeSort (fun a b c => ?_) (fun a b => ?_) servers
  · exact Address.le_trans
  · exact Address.le_total a.address b.address

/-- Servers that are in order stay in order. -/
theorem ofServers_of_pairwise {servers : List ServerDescription}
    (h : servers.Pairwise fun a b => a.address.le b.address = true) (mode : ConnectionMode)
    (type : ClusterType) : ofServers mode type servers = ⟨mode, type, servers⟩ :=
  congrArg (ClusterDescription.mk mode type) (List.mergeSort_of_pairwise h)

/-- A snapshot rebuilt from its own servers is the same snapshot. -/
theorem ofServers_servers (mode : ConnectionMode) (type : ClusterType)
    (servers : List ServerDescription) :
    ofServers mode type (ofServers mode type servers).servers = ofServers mode type servers :=
  ofServers_of_pairwise (pairwise_le_ofServers mode type servers) mode type

theorem pairwise_ofServers {servers : List ServerDescription}
    (nodup : (servers.map (·.address)).Nodup) (mode : ConnectionMode) (type : ClusterType) :
    (ofServers mode type servers).servers.Pairwise
      fun a b => compare a.address b.address = .lt := by
  have distinct : (ofServers mode type servers).servers.Pairwise
      fun a b => a.address ≠ b.address :=
    List.pairwise_map.1 (((perm_ofServers mode type servers).map _).nodup_iff.2 nodup)
  exact ((pairwise_le_ofServers mode type servers).and distinct).imp
    fun h => Address.lt_of_le_of_ne h.1 h.2

theorem nodup_of_pairwise {servers : List ServerDescription}
    (h : servers.Pairwise fun a b => compare a.address b.address = .lt) :
    (servers.map (·.address)).Nodup :=
  List.pairwise_map.2 (h.imp fun lt same => by
    rw [same, ReflOrd.compare_self] at lt
    cases lt)

/-- The order does not depend on how the servers were given. -/
theorem ofServers_of_perm {servers sorted : List ServerDescription} (perm : servers.Perm sorted)
    (h : sorted.Pairwise fun a b => compare a.address b.address = .lt) (mode : ConnectionMode)
    (type : ClusterType) : ofServers mode type servers = ⟨mode, type, sorted⟩ := by
  have ascending := pairwise_ofServers ((perm.map _).nodup_iff.2 (nodup_of_pairwise h)) mode type
  refine congrArg (ClusterDescription.mk mode type)
    (List.Perm.eq_of_pairwise (fun a b _ _ lt gt => ?_) ascending h
      ((perm_ofServers mode type servers).trans perm))
  have swapped : compare b.address a.address = (compare a.address b.address).swap :=
    OrientedCmp.eq_swap
  rw [lt, gt] at swapped
  cases swapped

end ClusterDescription

end ClusterClient

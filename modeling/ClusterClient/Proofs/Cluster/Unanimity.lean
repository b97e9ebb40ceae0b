import ClusterClient.Proofs.Address.Order
import Mathlib.Data.List.Pairwise

/-!
# The type that servers agree on

A snapshot has a type if one connected server tells it and no connected server tells another one;
what a server is that is not connected does not count. So the type depends only on which connected
servers there are, and with distinct addresses the whole snapshot does not depend on the order in
which the servers are given.

    inferType servers = t ↔ Unanimous t servers       for every t but unknown   (inferType_eq_iff)
    the same connected servers → the same type                                  (inferType_congr)
    servers of one address stay in their order                          (filter_address_ofServers)
-/

namespace ClusterClient

namespace ClusterDescription

/-- One connected server at least is of the type `t`, and none is of another type that is known. -/
structure Unanimous (t : ClusterType) (servers : List ServerDescription) : Prop where
  told : ∃ d ∈ servers, d.state = .connected ∧ d.type.clusterType = t
  only : ∀ d ∈ servers, d.state = .connected →
    d.type.clusterType = t ∨ d.type.clusterType = .unknown

section

variable {servers others : List ServerDescription} {t : ClusterType} {mode : ConnectionMode}
  {type : ClusterType}

/-! ## The type -/

theorem mem_toldTypes_iff : t ∈ toldTypes servers ↔
    t ≠ .unknown ∧ ∃ d ∈ servers, d.state = .connected ∧ d.type.clusterType = t := by
  simp only [toldTypes, List.mem_filter, List.mem_map, ServerDescription.isConnected, beq_iff_eq,
    bne_iff_ne, and_assoc]
  exact and_comm

/-- The type is the first one that is told, if no other one is told after it. -/
theorem inferType_eq_iff_told (known : t ≠ .unknown) :
    inferType servers = t ↔ t ∈ toldTypes servers ∧ ∀ u ∈ toldTypes servers, u = t := by
  unfold inferType
  cases toldTypes servers with
  | nil => simp [known.symm]
  | cons first rest =>
    simp only [List.forall_mem_cons]
    split
    · next all =>
      have same := List.all_eq_true.1 all
      constructor
      · rintro rfl
        exact ⟨List.mem_cons_self, rfl, fun u hu => beq_iff_eq.1 (same u hu)⟩
      · rintro ⟨-, rfl, -⟩
        rfl
    · next differ =>
      constructor
      · rintro rfl
        exact absurd rfl known
      · rintro ⟨-, rfl, same⟩
        exact absurd (List.all_eq_true.2 fun u hu => beq_iff_eq.2 (same u hu)) differ

theorem inferType_eq_iff (known : t ≠ .unknown) :
    inferType servers = t ↔ Unanimous t servers := by
  rw [inferType_eq_iff_told known]
  constructor
  · rintro ⟨told, same⟩
    refine ⟨(mem_toldTypes_iff.1 told).2, fun d hd connected => ?_⟩
    by_cases unknown : d.type.clusterType = .unknown
    · exact .inr unknown
    · exact .inl (same _ (mem_toldTypes_iff.2 ⟨unknown, d, hd, connected, rfl⟩))
  · rintro ⟨told, only⟩
    refine ⟨mem_toldTypes_iff.2 ⟨known, told⟩, fun u hu => ?_⟩
    obtain ⟨typed, d, hd, connected, rfl⟩ := mem_toldTypes_iff.1 hu
    exact (only d hd connected).resolve_right typed

theorem Unanimous.congr (h : Unanimous t servers)
    (same : ∀ d, d.state = .connected → (d ∈ others ↔ d ∈ servers)) : Unanimous t others := by
  obtain ⟨d, hd, connected, told⟩ := h.told
  refine ⟨⟨d, (same d connected).2 hd, connected, told⟩, fun e he connected => ?_⟩
  exact h.only e ((same e connected).1 he) connected

theorem inferType_congr (same : ∀ d, d.state = .connected → (d ∈ others ↔ d ∈ servers)) :
    inferType others = inferType servers := by
  have typed (t : ClusterType) (known : t ≠ .unknown) :
      inferType others = t ↔ inferType servers = t := by
    rw [inferType_eq_iff known, inferType_eq_iff known]
    exact ⟨fun h => h.congr fun d connected => (same d connected).symm, fun h => h.congr same⟩
  by_cases known : inferType servers = .unknown
  · by_contra differ
    rw [known] at differ
    exact differ (((typed _ differ).1 rfl).symm.trans known)
  · exact (typed _ known).2 rfl

/-! ## The servers -/

/-- Sorting is stable. -/
theorem filter_address_ofServers (a : Address) :
    (ofServers mode type servers).servers.filter (·.address == a) =
      servers.filter (·.address == a) := by
  have equal : (servers.filter (·.address == a)).Pairwise
      fun x y => x.address.le y.address = true := by
    refine List.pairwise_of_forall_mem_list fun x hx y hy => ?_
    have hx : x.address = a := by simpa using (List.mem_filter.1 hx).2
    have hy : y.address = a := by simpa using (List.mem_filter.1 hy).2
    simpa [hx, hy] using Address.le_total a a
  have kept : (servers.filter (·.address == a)).Sublist (ofServers mode type servers).servers := by
    refine List.sublist_mergeSort (fun x y z => ?_) (fun x y => ?_) equal List.filter_sublist
    · exact Address.le_trans
    · exact Address.le_total x.address y.address
  have kept := kept.filter (·.address == a)
  rw [List.filter_filter] at kept
  simp only [Bool.and_self] at kept
  exact (kept.eq_of_length ((perm_ofServers mode type servers).filter _).length_eq.symm).symm

end

/-! ## Main result -/

/-- What is inferred from some servers. -/
structure Infers (mode : ConnectionMode) (servers : List ServerDescription) : Prop where
  mode_eq : (infer mode servers).mode = mode
  type_eq_iff : ∀ t, t ≠ .unknown → ((infer mode servers).type = t ↔ Unanimous t servers)
  /-- The servers are those given, ... -/
  perm : (infer mode servers).servers.Perm servers
  /-- ... in ascending order of their addresses, ... -/
  ascending : (infer mode servers).servers.Pairwise fun a b => a.address.le b.address = true
  /-- ... and those of one address in the order in which they were given. -/
  stable : ∀ a, (infer mode servers).servers.filter (·.address == a) =
    servers.filter (·.address == a)
  /-- The order in which they were given does not matter if their addresses are distinct. -/
  unordered : (servers.map (·.address)).Nodup → ∀ others : List ServerDescription,
    others.Perm servers → infer mode others = infer mode servers
  /-- For the type only the connected servers count. Others may be added and removed. -/
  unconnected : ∀ others : List ServerDescription,
    (∀ d, d.state = .connected → (d ∈ others ↔ d ∈ servers)) →
      (infer mode others).type = (infer mode servers).type

theorem infers_all (mode : ConnectionMode) (servers : List ServerDescription) :
    Infers mode servers := by
  refine ⟨rfl, ?_, perm_ofServers .., pairwise_le_ofServers .., ?_, ?_, ?_⟩
  · exact fun t known => inferType_eq_iff known
  · exact fun a => filter_address_ofServers a
  · intro distinct others perm
    have type_eq : inferType others = inferType servers :=
      inferType_congr fun d _ => perm.mem_iff
    have ascending := pairwise_ofServers distinct mode (inferType servers)
    rw [infer, infer, type_eq]
    exact ofServers_of_perm (perm.trans (perm_ofServers ..).symm) ascending mode _
  · exact fun others same => inferType_congr same

end ClusterDescription

end ClusterClient

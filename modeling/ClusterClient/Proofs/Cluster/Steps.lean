import ClusterClient.Cluster.Membership
import Mathlib.Data.List.Nodup

/-!
# The steps of a cluster

What each operation does to the members. Adding servers appends fresh members of new addresses; a
change replaces the description of one member, appends fresh members, and then keeps those that are
reported.

    m ∈ (c.step e).members → m is new in c.step e, or m = e.update c m' for some m' ∈ c.members
-/

namespace ClusterClient

namespace Cluster

/-- What can happen to a cluster. -/
inductive Event where
  /-- A description is delivered. -/
  | change (description : ServerDescription) (spawn : Address → Spawn)
  | close

def step (c : Cluster) : Event → Cluster
  | .change d spawn => c.onChange d spawn
  | .close => c.close

def run (c : Cluster) (events : List Event) : Cluster := events.foldl step c

theorem run_append (c : Cluster) (before after : List Event) :
    c.run (before ++ after) = (c.run before).run after :=
  List.foldl_append

theorem run_snoc (c : Cluster) (events : List Event) (e : Event) :
    c.run (events ++ [e]) = (c.run events).step e :=
  c.run_append events [e]

/-! ## Adding servers -/

/-- A cluster after servers were added: the members that are new are fresh and of new addresses. -/
structure Grown (c c' : Cluster) (new : List Member) : Prop where
  settings_eq : c'.settings = c.settings
  description_eq : c'.description = c.description
  closed_eq : c'.closed = c.closed
  members_eq : c'.members = c.members ++ new
  fresh : ∀ m ∈ new, m.description = .fresh m.address
  unknown : ∀ m ∈ new, m.address ∉ c.addresses
  nodup : (new.map (·.address)).Nodup

theorem nodup_append_addresses {known : List Address} {new : List Member} (nodup : known.Nodup)
    (nodup' : (new.map (·.address)).Nodup) (unknown : ∀ m ∈ new, m.address ∉ known) :
    (known ++ new.map (·.address)).Nodup := by
  refine List.nodup_append'.2 ⟨nodup, nodup', fun a ha ha' => ?_⟩
  obtain ⟨m, hm, rfl⟩ := List.mem_map.1 ha'
  exact unknown m hm ha

theorem grown_self (c : Cluster) : Grown c c [] :=
  ⟨rfl, rfl, rfl, (List.append_nil _).symm, by simp, by simp, List.nodup_nil⟩

theorem Grown.addresses_eq {c c' : Cluster} {new : List Member} (h : Grown c c' new) :
    c'.addresses = c.addresses ++ new.map (·.address) := by
  rw [addresses, h.members_eq, List.map_append]
  rfl

theorem Grown.trans {c₁ c₂ c₃ : Cluster} {new new' : List Member} (h : Grown c₁ c₂ new)
    (h' : Grown c₂ c₃ new') : Grown c₁ c₃ (new ++ new') where
  settings_eq := h'.settings_eq.trans h.settings_eq
  description_eq := h'.description_eq.trans h.description_eq
  closed_eq := h'.closed_eq.trans h.closed_eq
  members_eq := by rw [h'.members_eq, h.members_eq, List.append_assoc]
  fresh := List.forall_mem_append.2 ⟨h.fresh, h'.fresh⟩
  unknown := by
    refine List.forall_mem_append.2 ⟨h.unknown, fun m hm known => h'.unknown m hm ?_⟩
    rw [h.addresses_eq]
    exact List.mem_append_left _ known
  nodup := by
    rw [List.map_append]
    refine nodup_append_addresses h.nodup h'.nodup fun m hm known => h'.unknown m hm ?_
    rw [h.addresses_eq]
    exact List.mem_append_right _ known

theorem Grown.nodup_addresses {c c' : Cluster} {new : List Member} (h : Grown c c' new)
    (nodup : c.addresses.Nodup) : c'.addresses.Nodup := by
  rw [h.addresses_eq]
  exact nodup_append_addresses nodup h.nodup h.unknown

theorem exists_grown_addServer (c : Cluster) (address : Address) (spawn : Spawn) :
    ∃ new, Grown c (c.addServer address spawn).2 new ∧ (∀ m ∈ new, m.address = address) ∧
      ((c.addServer address spawn).1 = .ok () →
        address ∈ (c.addServer address spawn).2.addresses) := by
  unfold addServer
  split
  · next known => exact ⟨[], c.grown_self, by simp, fun _ => known⟩
  · next unknown =>
    cases spawn with
    | refused cause => exact ⟨[], c.grown_self, by simp, by simp⟩
    | unstarted cause =>
      refine ⟨[], ⟨rfl, rfl, rfl, ?_, by simp, by simp, List.nodup_nil⟩, by simp, by simp⟩
      exact (List.append_nil _).symm
    | started =>
      refine ⟨[⟨c.created.length, address, .fresh address⟩], ?_, by simp, by simp [addresses]⟩
      exact ⟨rfl, rfl, rfl, rfl, by simp, by simpa using unknown, by simp⟩

theorem exists_grown_addHosts (c : Cluster) (spawn : Address → Spawn) (hosts : List Address) :
    ∃ new, Grown c (c.addHosts spawn hosts).2 new ∧ (∀ m ∈ new, m.address ∈ hosts) ∧
      ((c.addHosts spawn hosts).1 = .ok () →
        ∀ a ∈ hosts, a ∈ (c.addHosts spawn hosts).2.addresses) := by
  induction hosts generalizing c with
  | nil => exact ⟨[], c.grown_self, by simp, by simp⟩
  | cons host hosts ih =>
    obtain ⟨new, grown, named, added⟩ := c.exists_grown_addServer host (spawn host)
    unfold addHosts
    split
    · next c' h =>
      rw [h] at grown added
      obtain ⟨new', grown', named', added'⟩ := ih c'
      refine ⟨new ++ new', grown.trans grown', ?_, fun ok => ?_⟩
      · refine List.forall_mem_append.2 ⟨fun m hm => ?_, fun m hm => ?_⟩
        · exact List.mem_cons.2 (Or.inl (named m hm))
        · exact List.mem_cons_of_mem _ (named' m hm)
      · refine List.forall_mem_cons.2 ⟨?_, added' ok⟩
        rw [grown'.addresses_eq]
        exact List.mem_append_left _ (added rfl)
    · next c' h =>
      rw [h] at grown
      refine ⟨new, grown, fun m hm => ?_, by simp⟩
      exact List.mem_cons.2 (Or.inl (named m hm))

theorem exists_grown_enlist (c : Cluster) (spawn : Address → Spawn) (wanted : List Address) :
    ∃ new, Grown c (c.enlist spawn wanted) new ∧ ∀ m ∈ new, m.address ∈ wanted := by
  induction wanted generalizing c with
  | nil => exact ⟨[], c.grown_self, by simp⟩
  | cons a wanted ih =>
    obtain ⟨new, grown, named, -⟩ := c.exists_grown_addServer a (spawn a)
    obtain ⟨new', grown', named'⟩ := ih (c.addServer a (spawn a)).2
    refine ⟨new ++ new', grown.trans grown', ?_⟩
    refine List.forall_mem_append.2 ⟨fun m hm => ?_, fun m hm => ?_⟩
    · exact List.mem_cons.2 (Or.inl (named m hm))
    · exact List.mem_cons_of_mem _ (named' m hm)

/-! ## Describing a member -/

theorem address_judged (c : Cluster) (d : ServerDescription) :
    (c.judged d).address = d.address := by
  unfold judged
  split <;> rfl

/-- The only description that passes unchanged and is of use is one of the required replica set. -/
theorem judged_eq_of_isConnected {c : Cluster} {d : ServerDescription}
    (h : (c.judged d).isConnected = true) :
    c.judged d = d ∧
      ∀ name, c.settings.requiredReplicaSetName = some name → d.setName = some name := by
  unfold judged at h ⊢
  split at h
  · next passed =>
    refine ⟨rfl, fun name required => ?_⟩
    by_contra other
    simp [ServerDescription.checkSetName, required, h, other] at passed
  · cases h

/-- If each address has one member, a description replaces that of the member with its address. -/
theorem describe_eq_map {d : ServerDescription} {ms : List Member}
    (nodup : (ms.map (·.address)).Nodup) :
    describe d ms =
      ms.map fun m => if m.address = d.address then { m with description := d } else m := by
  induction ms with
  | nil => rfl
  | cons m ms ih =>
    rw [List.map_cons, List.nodup_cons] at nodup
    rw [describe, List.map_cons]
    split
    · next same =>
      refine congrArg _ ((List.map_congr_left fun m' hm' => ?_).trans (List.map_id ms)).symm
      have other : m'.address ≠ d.address := fun h =>
        nodup.1 (same.trans h.symm ▸ List.mem_map_of_mem hm')
      rw [if_neg other, id]
    · rw [ih nodup.2]

theorem map_address_describe (d : ServerDescription) (ms : List Member) :
    (describe d ms).map (·.address) = ms.map (·.address) := by
  induction ms with
  | nil => rfl
  | cons m ms ih =>
    rw [describe]
    split
    · rfl
    · rw [List.map_cons, List.map_cons, ih]

/-! ## Discovery -/

theorem mem_reported {ms : List Member} {a : Address} :
    a ∈ reported ms ↔
      ∃ m ∈ ms, m.description.isReplicaSetMember = true ∧ a ∈ m.description.reported := by
  simp only [reported, List.mem_eraseDups, List.mem_mergeSort, List.mem_flatMap, List.mem_filter]
  tauto

/-- Whether discovery keeps a server when these are the members. -/
def keeps (ms : List Member) (m : Member) : Bool :=
  (reported ms).isEmpty || m.address ∈ reported ms

theorem exists_grown_discover (c : Cluster) (spawn : Address → Spawn) :
    ∃ c' new, Grown c c' new ∧ (∀ m ∈ new, m.address ∈ reported c.members) ∧
      (c.discover spawn).1 = { c' with members := c'.members.filter (keeps c.members) } := by
  obtain ⟨new, grown, named⟩ := c.exists_grown_enlist spawn (reported c.members)
  refine ⟨_, new, grown, named, ?_⟩
  unfold discover
  simp only
  split
  · next none =>
    have all : (c.enlist spawn (reported c.members)).members.filter (keeps c.members) =
        (c.enlist spawn (reported c.members)).members :=
      List.filter_eq_self.2 fun m _ => by simp [keeps, none]
    rw [all]
  · next some =>
    have same : keeps c.members = fun m => decide (m.address ∈ reported c.members) := by
      funext m
      simp [keeps, some]
    rw [same]

/-! ## Changes -/

theorem isNone_member?_iff {c : Cluster} {a : Address} :
    (c.member? a).isNone = true ↔ a ∉ c.addresses := by
  rw [Option.isNone_iff_eq_none, member?, List.find?_eq_none]
  simp [addresses]

/-- What a description of a member makes of an open cluster. -/
structure Changed (c : Cluster) (d : ServerDescription) (c' : Cluster) (new : List Member) :
    Prop where
  settings_eq : c'.settings = c.settings
  closed_eq : c'.closed = c.closed
  description_eq :
    c'.description = .infer c.settings.mode (c'.members.map (·.description))
  fresh : ∀ m ∈ new, m.description = .fresh m.address
  unknown : ∀ m ∈ new, m.address ∉ c.addresses
  nodup : (new.map (·.address)).Nodup
  reported : ∀ m ∈ new, m.address ∈ reported (describe (c.judged d) c.members)
  members_eq : c'.members =
    (describe (c.judged d) c.members ++ new).filter fun m =>
      c.settings.mode = .single || keeps (describe (c.judged d) c.members) m
  single : c.settings.mode = .single → new = []

theorem exists_changed_onChange {c : Cluster} {d : ServerDescription} (isOpen : c.closed = false)
    (known : d.address ∈ c.addresses) (spawn : Address → Spawn) :
    ∃ new, Changed c d (c.onChange d spawn) new := by
  have proceeds : ¬(c.closed = true ∨ (c.member? d.address).isNone = true) := by
    rw [isNone_member?_iff]
    simp [isOpen, known]
  unfold onChange
  rw [if_neg proceeds]
  cases hmode : c.settings.mode with
  | single =>
    refine ⟨[], ?_⟩
    simp only [hmode]
    exact ⟨rfl, rfl, by simp [publish], by simp, by simp, by simp, by simp,
      by simp [publish, hmode], fun _ => rfl⟩
  | multiple =>
    obtain ⟨c', new, grown, named, found⟩ :=
      exists_grown_discover { c with members := describe (c.judged d) c.members } spawn
    have same : addresses { c with members := describe (c.judged d) c.members } = c.addresses :=
      (map_address_describe ..).trans rfl
    refine ⟨new, ?_⟩
    simp only [hmode, found]
    refine ⟨grown.settings_eq, grown.closed_eq, ?_, grown.fresh, same ▸ grown.unknown, grown.nodup,
      named, ?_, by simp [hmode]⟩
    · simp only [publish, grown.settings_eq, hmode]
    · simp [publish, grown.members_eq, hmode]

end Cluster

end ClusterClient

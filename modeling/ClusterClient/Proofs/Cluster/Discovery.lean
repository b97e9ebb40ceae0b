import ClusterClient.Proofs.Address.Order
import ClusterClient.Proofs.Cluster.Steps

/-!
# Discovery

What a cluster makes of the members that its servers report. Servers are created for the addresses
that are new, in ascending order; those that could be started become members. Then all members that
nobody reports are closed. The servers that report are among the members before any of this, so a
server may be dropped by its own report.

    c.enlist spawn wanted in one step                                        (enlist_eq)
    Discovered c d spawn (c.onChange d spawn)    for each description d of a member of c
                                                                             (discovered_onChange)
-/

namespace ClusterClient

namespace Spawn

/-- Whether there was a server at all. -/
def isCreated : Spawn → Bool
  | .refused _ => false
  | _ => true

/-- Whether there was a server without a monitor. -/
def isUnstarted : Spawn → Bool
  | .unstarted _ => true
  | _ => false

end Spawn

namespace Member

/-- The member is described by `d` if that is about its server. -/
def described (d : ServerDescription) (m : Member) : Member :=
  if m.address = d.address then { m with description := d } else m

theorem address_described (m : Member) (d : ServerDescription) :
    (m.described d).address = m.address := by
  unfold described
  split <;> rfl

end Member

namespace Cluster

/-! ## What is reported -/

theorem sublist_nodup_eraseDups (l : List Address) : l.eraseDups.Sublist l ∧ l.eraseDups.Nodup := by
  induction h : l.length using Nat.strongRecOn generalizing l with
  | ind n ih =>
    cases l with
    | nil => exact ⟨List.Sublist.refl _, List.nodup_nil⟩
    | cons a l =>
      have shorter : (l.filter fun b => !b == a).length < n := by
        have := List.length_filter_le (fun b => !b == a) l
        rw [List.length_cons] at h
        omega
      obtain ⟨sublist, nodup⟩ := ih _ shorter _ rfl
      rw [List.eraseDups_cons]
      refine ⟨(sublist.trans List.filter_sublist).cons_cons a, ?_⟩
      refine List.nodup_cons.2 ⟨fun ha => ?_, nodup⟩
      have := (List.mem_filter.1 (sublist.subset ha)).2
      simp at this

/-- Each address is reported once, in ascending order. -/
theorem ascending_reported (ms : List Member) :
    (reported ms).Pairwise fun a b => compare a b = .lt := by
  unfold reported
  generalize (ms.filter (·.description.isReplicaSetMember)).flatMap (·.description.reported) = all
  have sorted : (all.mergeSort Address.le).Pairwise fun a b => a.le b = true := by
    refine List.pairwise_mergeSort (fun a b c => ?_) Address.le_total all
    exact Address.le_trans
  obtain ⟨sublist, nodup⟩ := sublist_nodup_eraseDups (all.mergeSort Address.le)
  exact ((sorted.sublist sublist).and nodup).imp fun h => Address.lt_of_le_of_ne h.1 h.2

theorem nodup_reported (ms : List Member) : (reported ms).Nodup :=
  (sublist_nodup_eraseDups _).2

/-! ## Adding servers -/

/-- The members for those of the servers that were started; they are numbered from `n` on. -/
def newcomers (spawn : Address → Spawn) (n : Nat) (created : List Address) : List Member :=
  (created.zipIdx n).filterMap fun p =>
    if spawn p.1 = .started then some ⟨p.2, p.1, .fresh p.1⟩ else none

/-- The numbers of those of the servers that were not started. -/
def failures (spawn : Address → Spawn) (n : Nat) (created : List Address) : List Nat :=
  ((created.zipIdx n).filter fun p => (spawn p.1).isUnstarted).map (·.2)

/-- The addresses for which a server is created. -/
def creatable (c : Cluster) (spawn : Address → Spawn) (wanted : List Address) : List Address :=
  wanted.filter fun a => a ∉ c.addresses && (spawn a).isCreated

theorem enlist_eq (c : Cluster) (spawn : Address → Spawn) {wanted : List Address}
    (nodup : wanted.Nodup) :
    let created := c.creatable spawn wanted
    c.enlist spawn wanted = { c with
      members := c.members ++ newcomers spawn c.created.length created
      created := c.created ++ created
      closings := c.closings ++ failures spawn c.created.length created } := by
  induction wanted generalizing c with
  | nil => simp [enlist, creatable, newcomers, failures]
  | cons a wanted ih =>
    rw [List.nodup_cons] at nodup
    have next : c.enlist spawn (a :: wanted) =
        (c.addServer a (spawn a)).2.enlist spawn wanted := rfl
    intro created
    rw [next, ih _ nodup.2]
    by_cases known : a ∈ c.addresses
    · have skipped : created = c.creatable spawn wanted := by simp [created, creatable, known]
      rw [addServer, if_pos known, skipped]
    · rw [addServer, if_neg known]
      cases hs : spawn a with
      | refused cause =>
        have skipped : created = c.creatable spawn wanted := by
          simp [created, creatable, hs, Spawn.isCreated]
        rw [skipped]
      | unstarted cause =>
        have first : created = a :: c.creatable spawn wanted := by
          simp [created, creatable, known, hs, Spawn.isCreated]
        rw [first]
        simp [newcomers, failures, creatable, addresses, hs, Spawn.isUnstarted]
      | started =>
        have first : created = a :: c.creatable spawn wanted := by
          simp [created, creatable, known, hs, Spawn.isCreated]
        have others : creatable { c with
            created := c.created ++ [a]
            members := c.members ++ [⟨c.created.length, a, .fresh a⟩] } spawn wanted =
            c.creatable spawn wanted := by
          refine List.filter_congr fun b hb => ?_
          have ne : b ≠ a := fun h => nodup.1 (h ▸ hb)
          simp [addresses, ne]
        rw [first]
        simp [newcomers, failures, others, hs, Spawn.isUnstarted]

theorem map_newcomers (spawn : Address → Spawn) (n : Nat) (created : List Address) :
    (newcomers spawn n created).map (fun m => (m.address, m.description)) =
      (created.filter (spawn · = .started)).map fun a => (a, .fresh a) := by
  induction created generalizing n with
  | nil => rfl
  | cons a created ih =>
    by_cases h : spawn a = .started
    · simpa [newcomers, h] using ih (n + 1)
    · simpa [newcomers, h] using ih (n + 1)

theorem mem_newcomers {spawn : Address → Spawn} {n : Nat} {created : List Address} {m : Member}
    (h : m ∈ newcomers spawn n created) :
    m.address ∈ created ∧ spawn m.address = .started ∧ m.description = .fresh m.address := by
  obtain ⟨p, hp, joined⟩ := List.mem_filterMap.1 h
  split at joined
  · next started =>
    cases joined
    exact ⟨List.fst_mem_of_mem_zipIdx hp, started, rfl⟩
  · cases joined

/-! ## A change -/

/-- A connected member of a replica set that is among `ms` lists the address. -/
def Reports (ms : List Member) (a : Address) : Prop :=
  ∃ m ∈ ms, m.description.isConnected = true ∧ m.description.type.clusterType = .replicaSet ∧
    (a ∈ m.description.hosts ∨ a ∈ m.description.passives ∨ a ∈ m.description.arbiters)

theorem mem_reported_iff {ms : List Member} {a : Address} : a ∈ reported ms ↔ Reports ms a := by
  simp [mem_reported, Reports, ServerDescription.isReplicaSetMember, ServerDescription.reported,
    and_assoc]

instance (ms : List Member) (a : Address) : Decidable (Reports ms a) :=
  decidable_of_iff (a ∈ reported ms) mem_reported_iff

/-- The members of the cluster once `d` is stored. -/
def stored (c : Cluster) (d : ServerDescription) : List Member :=
  c.members.map (·.described (c.judged d))

theorem describe_judged_eq_stored {c : Cluster} (nodup : c.addresses.Nodup)
    (d : ServerDescription) : describe (c.judged d) c.members = c.stored d := by
  rw [describe_eq_map nodup]
  rfl

theorem map_address_stored (c : Cluster) (d : ServerDescription) :
    (c.stored d).map (·.address) = c.addresses := by
  rw [stored, List.map_map]
  exact List.map_congr_left fun m _ => m.address_described (c.judged d)

/-- What becomes of a cluster of the members `ms` when something is reported and servers are
`created` for it. -/
structure Reconciled (c : Cluster) (ms : List Member) (spawn : Address → Spawn)
    (created : List Address) (c' : Cluster) : Prop where
  ascending : created.Pairwise fun a b => compare a b = .lt
  mem_created : ∀ a, a ∈ created ↔
    Reports ms a ∧ a ∉ c.addresses ∧ (spawn a).isCreated = true
  created_eq : c'.created = c.created ++ created
  members_eq : c'.members =
    ms.filter (Reports ms ·.address) ++ newcomers spawn c.created.length created
  /-- Those that join are the ones that were started, each fresh. -/
  joined : (newcomers spawn c.created.length created).map (fun m => (m.address, m.description)) =
    (created.filter (spawn · = .started)).map fun a => (a, .fresh a)
  /-- Those that are closed are the ones that were not started, and the members that are dropped. -/
  closings_eq : c'.closings = c.closings ++ failures spawn c.created.length created ++
    (ms.filter (¬Reports ms ·.address)).map (·.serial)

/-- Addresses that are reported are monitored unless there is no server to be had. -/
theorem Reconciled.mem_addresses {c c' : Cluster} {ms : List Member} {spawn : Address → Spawn}
    {created : List Address} (h : Reconciled c ms spawn created c')
    (same : ms.map (·.address) = c.addresses) {a : Address} :
    a ∈ c'.addresses ↔ Reports ms a ∧ (a ∈ c.addresses ∨ spawn a = .started) := by
  have joined := congrArg (List.map Prod.fst) h.joined
  simp only [List.map_map, Function.comp_def, List.map_id'] at joined
  rw [addresses, h.members_eq, List.map_append, joined, List.mem_append, List.mem_filter,
    h.mem_created, ← same]
  constructor
  · rintro (kept | ⟨⟨reports, -, -⟩, started⟩)
    · obtain ⟨m, hm, rfl⟩ := List.mem_map.1 kept
      obtain ⟨hm, reports⟩ := List.mem_filter.1 hm
      exact ⟨of_decide_eq_true reports, .inl (List.mem_map_of_mem hm)⟩
    · exact ⟨reports, .inr (of_decide_eq_true started)⟩
  · rintro ⟨reports, monitored⟩
    by_cases known : a ∈ ms.map (·.address)
    · obtain ⟨m, hm, rfl⟩ := List.mem_map.1 known
      exact .inl (List.mem_map_of_mem (List.mem_filter.2 ⟨hm, decide_eq_true reports⟩))
    · have started := monitored.resolve_left known
      exact .inr ⟨⟨reports, known, by rw [started]; rfl⟩, decide_eq_true started⟩

/-- What the description of a member makes of an open cluster. -/
structure Discovered (c : Cluster) (d : ServerDescription) (spawn : Address → Spawn)
    (c' : Cluster) : Prop where
  settings_eq : c'.settings = c.settings
  closed_eq : c'.closed = c.closed
  description_eq : c'.description = .infer c.settings.mode (c'.members.map (·.description))
  /-- As long as nothing is reported, no server is created or closed. -/
  nothing : (∀ a, ¬Reports (c.stored d) a) →
    c'.members = c.stored d ∧ c'.created = c.created ∧ c'.closings = c.closings
  something : (∃ a, Reports (c.stored d) a) →
    ∃ created, Reconciled c (c.stored d) spawn created c'

section

variable {c : Cluster} {d : ServerDescription}

theorem onChange_eq (isOpen : c.closed = false) (multiple : c.settings.mode = .multiple)
    (nodup : c.addresses.Nodup) (known : d.address ∈ c.addresses) (spawn : Address → Spawn) :
    c.onChange d spawn =
      let (c', removed) := discover { c with members := c.stored d } spawn
      { c'.publish with closings := c'.closings ++ removed } := by
  have proceeds : ¬(c.closed = true ∨ (c.member? d.address).isNone = true) := by
    rw [isNone_member?_iff]
    simp [isOpen, known]
  unfold onChange
  rw [if_neg proceeds]
  simp only [multiple, describe_judged_eq_stored nodup]
  rfl

theorem discover_of_nothing (none : ∀ a, ¬Reports c.members a) (spawn : Address → Spawn) :
    c.discover spawn = (c, []) := by
  have empty : reported c.members = [] :=
    List.eq_nil_iff_forall_not_mem.2 fun a ha => none a (mem_reported_iff.1 ha)
  simp [discover, empty, enlist]

theorem discover_of_something (some : ∃ a, Reports c.members a) (spawn : Address → Spawn) :
    let created := c.creatable spawn (reported c.members)
    c.discover spawn = ({ c with
      members := c.members.filter (Reports c.members ·.address) ++
        newcomers spawn c.created.length created
      created := c.created ++ created
      closings := c.closings ++ failures spawn c.created.length created },
      (c.members.filter (¬Reports c.members ·.address)).map (·.serial)) := by
  intro created
  have nonempty : (reported c.members).isEmpty = false := by
    obtain ⟨a, ha⟩ := some
    exact List.isEmpty_eq_false_iff.2 (List.ne_nil_of_mem (mem_reported_iff.2 ha))
  -- those that join were reported, so none of them is dropped
  have stay : ∀ m ∈ newcomers spawn c.created.length created, Reports c.members m.address :=
    fun m hm => mem_reported_iff.1 (List.mem_filter.1 (mem_newcomers hm).1).1
  have kept := List.filter_eq_self.2 fun m hm => decide_eq_true (stay m hm)
  have dropped : (newcomers spawn c.created.length created).filter
      (fun m => ¬Reports c.members m.address) = [] :=
    List.filter_eq_nil_iff.2 fun m hm => by simpa using stay m hm
  unfold discover
  simp only [nonempty, enlist_eq c spawn (nodup_reported c.members), mem_reported_iff]
  simp only [Bool.false_eq_true, if_false, List.filter_append]
  rw [kept, dropped, List.append_nil]

theorem creatable_stored (c : Cluster) (d : ServerDescription) (spawn : Address → Spawn)
    (wanted : List Address) :
    creatable { c with members := c.stored d } spawn wanted = c.creatable spawn wanted := by
  rw [creatable, addresses, map_address_stored]
  rfl

theorem mem_creatable {spawn : Address → Spawn} {a : Address} :
    a ∈ c.creatable spawn (reported (c.stored d)) ↔
      Reports (c.stored d) a ∧ a ∉ c.addresses ∧ (spawn a).isCreated = true := by
  simp [creatable, mem_reported_iff]

theorem reconciled_onChange (isOpen : c.closed = false) (multiple : c.settings.mode = .multiple)
    (nodup : c.addresses.Nodup) (known : d.address ∈ c.addresses) (spawn : Address → Spawn)
    (some : ∃ a, Reports (c.stored d) a) :
    Reconciled c (c.stored d) spawn (c.creatable spawn (reported (c.stored d)))
      (c.onChange d spawn) := by
  have ascending := (ascending_reported (c.stored d)).sublist
    (List.filter_sublist (p := fun a => a ∉ c.addresses && (spawn a).isCreated))
  rw [onChange_eq isOpen multiple nodup known, discover_of_something some]
  simp only [creatable_stored]
  exact ⟨ascending, fun _ => mem_creatable, rfl, rfl, map_newcomers .., rfl⟩

theorem discovered_of_mem (isOpen : c.closed = false) (multiple : c.settings.mode = .multiple)
    (nodup : c.addresses.Nodup) (known : d.address ∈ c.addresses) (spawn : Address → Spawn) :
    Discovered c d spawn (c.onChange d spawn) := by
  obtain ⟨new, changed⟩ := exists_changed_onChange isOpen known spawn
  refine ⟨changed.settings_eq, changed.closed_eq, changed.description_eq, fun none => ?_,
    fun some => ⟨_, reconciled_onChange isOpen multiple nodup known spawn some⟩⟩
  rw [onChange_eq isOpen multiple nodup known, discover_of_nothing none]
  exact ⟨rfl, rfl, List.append_nil _⟩

end

/-- A description of a server that is no member changes nothing. -/
theorem discovered_onChange {c : Cluster} (isOpen : c.closed = false)
    (multiple : c.settings.mode = .multiple) (nodup : c.addresses.Nodup) (d : ServerDescription)
    (spawn : Address → Spawn) :
    (d.address ∈ c.addresses → Discovered c d spawn (c.onChange d spawn)) ∧
      (d.address ∉ c.addresses → c.onChange d spawn = c) :=
  ⟨fun known => discovered_of_mem isOpen multiple nodup known spawn,
    fun unknown => onChange_of_not_member (isNone_member?_iff.2 unknown) spawn⟩

/-- A server reports another one and not itself. -/
theorem discovered_onChange_reported :
    let a : Address := ⟨"a", 1⟩
    let b : Address := ⟨"b", 1⟩
    let settings : ClusterSettings := { hosts := [a], mode? := some .multiple }
    let c : Cluster := { settings, members := [⟨0, a, .fresh a⟩], created := [a] }
    let spawn : Address → Spawn := fun _ => .started
    let d : ServerDescription :=
      { address := a, state := .connected, type := .replicaSetPrimary, hosts := [b] }
    c.closed = false ∧ c.settings.mode = .multiple ∧ c.addresses.Nodup ∧ d.address ∈ c.addresses ∧
      Reports (c.stored d) b ∧ ¬Reports (c.stored d) a ∧
      Discovered c d spawn (c.onChange d spawn) := by
  intro a b settings c spawn d
  have nodup : c.addresses.Nodup := List.nodup_singleton a
  have known : d.address ∈ c.addresses := List.mem_singleton.2 rfl
  have told : c.stored d = [⟨0, a, d⟩] := rfl
  have reported : Reports (c.stored d) b := by
    rw [told]
    exact ⟨_, List.mem_singleton.2 rfl, rfl, rfl, .inl (List.mem_singleton.2 rfl)⟩
  have unreported : ¬Reports (c.stored d) a := by
    rw [told]
    simp [Reports, d, a, b]
  exact ⟨rfl, rfl, nodup, known, reported, unreported,
    (discovered_onChange rfl rfl nodup d spawn).1 known⟩

end Cluster

end ClusterClient

import ClusterClient.Proofs.Address.Order
import ClusterClient.Proofs.Cluster.Steps
import Mathlib.Data.List.Induction

/-!
# The representation of a cluster

The snapshot of an open cluster is always made of its members as they are described, the members
have different addresses, and each is described by what was delivered for it last. A closed cluster
has no members and stays as it is.

    Represented settings c₀ events (c₀.run events)     for each cluster c₀ that was started
-/

namespace ClusterClient

namespace Cluster

/-! ## Invariant -/

structure Consistent (c : Cluster) : Prop where
  nodup : c.addresses.Nodup
  named : ∀ m ∈ c.members, m.description.address = m.address
  snapshot : c.closed = false →
    c.description = .infer c.settings.mode (c.members.map (·.description))
  emptied : c.closed = true → c.members = []

section

variable {c c' : Cluster} {d : ServerDescription} {new : List Member}

theorem mem_of_changed (nodup : c.addresses.Nodup) (h : Changed c d c' new) {m : Member}
    (hm : m ∈ c'.members) :
    m ∈ new ∨ ∃ m' ∈ c.members,
      m = if m'.address = d.address then { m' with description := c.judged d } else m' := by
  rw [h.members_eq, describe_eq_map nodup] at hm
  rcases List.mem_append.1 (List.mem_filter.1 hm).1 with hm | hm
  · obtain ⟨m', hm', rfl⟩ := List.mem_map.1 hm
    refine Or.inr ⟨m', hm', ?_⟩
    rw [address_judged]
  · exact Or.inl hm

theorem consistent_of_changed (h : Consistent c) (isOpen : c.closed = false)
    (g : Changed c d c' new) : Consistent c' where
  nodup := by
    have subset : c'.addresses.Sublist
        ((describe (c.judged d) c.members ++ new).map (·.address)) := by
      rw [addresses, g.members_eq]
      exact List.filter_sublist.map _
    refine List.Nodup.sublist subset ?_
    rw [List.map_append, map_address_describe]
    exact nodup_append_addresses h.nodup g.nodup g.unknown
  named m hm := by
    rcases mem_of_changed h.nodup g hm with hm | ⟨m', hm', rfl⟩
    · rw [g.fresh m hm]
      rfl
    · split
      · next same => exact (c.address_judged d).trans same.symm
      · exact h.named m' hm'
  snapshot _ := by rw [g.description_eq, g.settings_eq]
  emptied closed := by
    rw [g.closed_eq, isOpen] at closed
    cases closed

/-! ## Steps -/

theorem step_cases (c : Cluster) (e : Event) :
    (c.step e = c ∧ ∀ d spawn, e = .change d spawn → c.closed = true ∨ d.address ∉ c.addresses) ∨
      (∃ d spawn new, e = .change d spawn ∧ c.closed = false ∧ d.address ∈ c.addresses ∧
        Changed c d (c.step e) new) ∨
      (e = .close ∧ c.closed = false ∧ (c.step e).members = [] ∧ (c.step e).closed = true ∧
        (c.step e).settings = c.settings ∧ (c.step e).description = c.description) := by
  cases e with
  | change d spawn =>
    cases hc : c.closed with
    | true =>
      refine Or.inl ⟨?_, fun _ _ _ => Or.inl rfl⟩
      rw [step, onChange, if_pos (Or.inl hc)]
    | false =>
      by_cases known : d.address ∈ c.addresses
      · obtain ⟨new, changed⟩ := exists_changed_onChange hc known spawn
        exact Or.inr (Or.inl ⟨d, spawn, new, rfl, rfl, known, changed⟩)
      · refine Or.inl ⟨onChange_of_not_member (isNone_member?_iff.2 known) spawn, ?_⟩
        intro d' spawn' h
        cases h
        exact Or.inr known
  | close =>
    cases hc : c.closed with
    | true =>
      refine Or.inl ⟨?_, fun _ _ h => by cases h⟩
      rw [step, close, if_pos hc]
    | false =>
      refine Or.inr (Or.inr ⟨rfl, rfl, ?_⟩)
      rw [step, close, if_neg (by simp [hc])]
      exact ⟨rfl, rfl, rfl, rfl⟩

theorem closed_onChange (c : Cluster) (d : ServerDescription) (spawn : Address → Spawn) :
    (c.onChange d spawn).closed = c.closed := by
  show (c.step (.change d spawn)).closed = _
  rcases c.step_cases (.change d spawn) with ⟨same, -⟩ | ⟨_, _, _, -, -, -, changed⟩ | ⟨none, -⟩
  · rw [same]
  · exact changed.closed_eq
  · cases none

theorem consistent_step (h : Consistent c) (e : Event) : Consistent (c.step e) := by
  rcases c.step_cases e with ⟨same, -⟩ | ⟨d, spawn, new, -, isOpen, -, changed⟩ |
    ⟨-, -, members_eq, closed_eq, -, -⟩
  · rw [same]
    exact h
  · exact consistent_of_changed h isOpen changed
  · refine ⟨?_, ?_, fun isOpen => ?_, fun _ => members_eq⟩
    · rw [addresses, members_eq]
      exact List.nodup_nil
    · rw [members_eq]
      simp
    · rw [closed_eq] at isOpen
      cases isOpen

theorem settings_step (c : Cluster) (e : Event) : (c.step e).settings = c.settings := by
  rcases c.step_cases e with ⟨same, -⟩ | ⟨d, spawn, new, -, -, -, changed⟩ |
    ⟨-, -, -, -, settings_eq, -⟩
  · rw [same]
  · exact changed.settings_eq
  · exact settings_eq

theorem step_of_closed (closed : c.closed = true) (e : Event) : c.step e = c := by
  cases e with
  | change d spawn => rw [step, onChange, if_pos (Or.inl closed)]
  | close => rw [step, close, if_pos closed]

theorem consistent_run (h : Consistent c) (events : List Event) :
    Consistent (c.run events) ∧ (c.run events).settings = c.settings := by
  induction events generalizing c with
  | nil => exact ⟨h, rfl⟩
  | cons e events ih =>
    obtain ⟨consistent, settings_eq⟩ := ih (consistent_step h e)
    exact ⟨consistent, settings_eq.trans (c.settings_step e)⟩

theorem run_of_closed (closed : c.closed = true) (events : List Event) : c.run events = c := by
  induction events with
  | nil => rfl
  | cons e events ih =>
    show (c.step e).run events = c
    rw [step_of_closed closed, ih]

/-! ## The start -/

/-- A cluster that was just started. -/
structure Started (settings : ClusterSettings) (c : Cluster) : Prop where
  valid : settings.validate = .ok ()
  settings_eq : c.settings = settings
  consistent : Consistent c
  isOpen : c.closed = false
  fresh : ∀ m ∈ c.members, m.description = .fresh m.address
  configured : ∀ m ∈ c.members, m.address ∈ settings.hosts
  complete : ∀ a ∈ settings.hosts, a ∈ c.addresses

theorem started_of_start {settings : ClusterSettings} {spawn : Address → Spawn}
    (h : start settings spawn = (.ok (), c)) : Started settings c := by
  unfold start at h
  simp only at h
  split at h
  · cases h
  · next valid =>
    obtain ⟨new, grown, named, added⟩ := exists_grown_addHosts { settings } spawn settings.hosts
    split at h
    · next c' hc =>
      rw [hc] at grown added
      cases h
      have members_eq : c'.members = new := grown.members_eq
      have settings_eq : c'.settings = settings := grown.settings_eq
      have fresh : ∀ m ∈ c'.members, m.description = .fresh m.address := members_eq ▸ grown.fresh
      have nodup : c'.addresses.Nodup := grown.nodup_addresses List.nodup_nil
      refine ⟨valid, settings_eq, ⟨nodup, fun m hm => ?_, fun _ => rfl, fun closed => ?_⟩,
        grown.closed_eq, fresh, members_eq ▸ named, added rfl⟩
      · rw [fresh m hm]
        rfl
      · rw [publish, grown.closed_eq] at closed
        cases closed
    · cases h

/-! ## Where the descriptions come from -/

/-- The description that an event delivers for an address. -/
def Event.delivered? (a : Address) : Event → Option ServerDescription
  | .change d _ => if d.address = a then some d else none
  | .close => none

def lastDelivered? (events : List Event) (a : Address) : Option ServerDescription :=
  (events.filterMap (·.delivered? a)).getLast?

theorem lastDelivered?_snoc (events : List Event) (e : Event) (a : Address) :
    lastDelivered? (events ++ [e]) a = (e.delivered? a).or (lastDelivered? events a) := by
  rw [lastDelivered?, List.filterMap_append]
  cases h : e.delivered? a <;> simp [lastDelivered?, h]

theorem judged_congr (h : c'.settings = c.settings) (d : ServerDescription) :
    c'.judged d = c.judged d := by
  rw [judged, judged, h]

/-- A member of the cluster after a step joined it in the step, or was a member before. -/
theorem mem_members_step (h : Consistent c) {e : Event} {m : Member}
    (hm : m ∈ (c.step e).members) :
    m.description = .fresh m.address ∧ m.address ∉ c.addresses ∨
      ∃ m' ∈ c.members, m'.serial = m.serial ∧ m'.address = m.address ∧
        m.description = ((e.delivered? m.address).map c.judged).getD m'.description := by
  rcases c.step_cases e with ⟨same, foreign⟩ | ⟨d, spawn, new, rfl, -, -, changed⟩ |
    ⟨rfl, -, members_eq, -⟩
  · rw [same] at hm
    refine Or.inr ⟨m, hm, rfl, rfl, ?_⟩
    have nothing : e.delivered? m.address = none := by
      cases e with
      | close => rfl
      | change d spawn =>
        refine if_neg fun address => ?_
        rcases foreign d spawn rfl with closed | unknown
        · rw [h.emptied closed] at hm
          cases hm
        · exact unknown (address ▸ List.mem_map_of_mem hm)
    rw [nothing]
    rfl
  · rcases mem_of_changed h.nodup changed hm with hm | ⟨m', hm', rfl⟩
    · exact Or.inl ⟨changed.fresh m hm, changed.unknown m hm⟩
    · refine Or.inr ⟨m', hm', ?_⟩
      by_cases same : m'.address = d.address
      · rw [if_pos same]
        exact ⟨rfl, rfl, by simp [Event.delivered?, same]⟩
      · rw [if_neg same]
        exact ⟨rfl, rfl, by simp [Event.delivered?, Ne.symm same]⟩
  · rw [members_eq] at hm
    cases hm

/-- A member joined the cluster with the last of the `earlier` events, or was there from the start;
it stayed during the `later` ones and is described by what they delivered for it last. -/
structure Since (c₀ : Cluster) (earlier later : List Event) (m : Member) : Prop where
  joined : ⟨m.serial, m.address, .fresh m.address⟩ ∈ (c₀.run earlier).members
  absent : ∀ before e, earlier = before ++ [e] → m.address ∉ (c₀.run before).addresses
  stayed : ∀ during rest, later = during ++ rest →
    ∃ m' ∈ (c₀.run (earlier ++ during)).members, m'.serial = m.serial ∧ m'.address = m.address
  description_eq :
    m.description = ((lastDelivered? later m.address).map c₀.judged).getD (.fresh m.address)

theorem exists_since {c₀ : Cluster} (h : Consistent c₀)
    (fresh : ∀ m ∈ c₀.members, m.description = .fresh m.address) (events : List Event) :
    ∀ m ∈ (c₀.run events).members, ∃ earlier later, events = earlier ++ later ∧
      Since c₀ earlier later m := by
  induction events using List.reverseRecOn with
  | nil =>
    intro m hm
    have hm : m ∈ c₀.members := hm
    have same : (⟨m.serial, m.address, .fresh m.address⟩ : Member) = m := by rw [← fresh m hm]
    refine ⟨[], [], rfl, ⟨same.symm ▸ hm, by simp, fun during rest none => ?_, fresh m hm⟩⟩
    rw [(List.append_eq_nil_iff.1 none.symm).1]
    exact ⟨m, hm, rfl, rfl⟩
  | append_singleton events e ih =>
    intro m hm
    have hm' := hm
    rw [run_snoc] at hm'
    obtain ⟨consistent, settings_eq⟩ := consistent_run h events
    rcases mem_members_step consistent hm' with
      ⟨isFresh, absent⟩ | ⟨m', known, serial, address, description⟩
    · have same : (⟨m.serial, m.address, .fresh m.address⟩ : Member) = m := by rw [← isFresh]
      refine ⟨events ++ [e], [], (List.append_nil _).symm,
        ⟨same.symm ▸ hm, fun before e' split => ?_, fun during rest none => ?_, isFresh⟩⟩
      · rw [← (List.append_inj_left' split rfl)]
        exact absent
      · rw [(List.append_eq_nil_iff.1 none.symm).1, List.append_nil]
        exact ⟨m, hm, rfl, rfl⟩
    · obtain ⟨earlier, later, rfl, since⟩ := ih m' known
      refine ⟨earlier, later ++ [e], by simp, ⟨?_, ?_, fun during rest split => ?_, ?_⟩⟩
      · exact serial ▸ address ▸ since.joined
      · exact address ▸ since.absent
      · rcases List.eq_nil_or_concat rest with rfl | ⟨rest, e', rfl⟩
        · rw [List.append_nil] at split
          rw [← split, ← List.append_assoc]
          exact ⟨m, hm, rfl, rfl⟩
        · rw [List.concat_eq_append, ← List.append_assoc] at split
          have split := List.append_inj_left' split rfl
          obtain ⟨m'', hm'', serial', address'⟩ := since.stayed during rest split
          exact ⟨m'', hm'', serial'.trans serial, address'.trans address⟩
      · rw [description, lastDelivered?_snoc, since.description_eq, address]
        cases e.delivered? m.address with
        | none => rfl
        | some d => exact judged_congr settings_eq d

/-! ## A single server -/

theorem addresses_run_of_single (single : c.settings.mode = .single) (h : Consistent c)
    (events : List Event) (isOpen : (c.run events).closed = false) :
    (c.run events).addresses = c.addresses := by
  induction events using List.reverseRecOn with
  | nil => rfl
  | append_singleton events e ih =>
    rw [run_snoc] at isOpen ⊢
    have openBefore : (c.run events).closed = false := by
      by_contra closed
      rw [Bool.not_eq_false] at closed
      rw [step_of_closed closed, closed] at isOpen
      cases isOpen
    rw [← ih openBefore]
    rcases (c.run events).step_cases e with ⟨same, -⟩ | ⟨d, spawn, new, -, -, -, changed⟩ |
      ⟨-, -, -, closed, -⟩
    · rw [same]
    · have single : (c.run events).settings.mode = .single := (consistent_run h events).2 ▸ single
      rw [addresses, changed.members_eq, changed.single single, List.append_nil,
        List.filter_eq_self.2 (by simp [single]), map_address_describe]
      rfl
    · rw [closed] at isOpen
      cases isOpen

theorem eq_singleton_of_nodup {l : List Address} {a : Address} (nodup : l.Nodup)
    (only : ∀ b ∈ l, b = a) (mem : a ∈ l) : l = [a] := by
  refine List.perm_singleton.1 ((List.perm_ext_iff_of_nodup nodup (List.nodup_singleton a)).2 ?_)
  intro b
  rw [List.mem_singleton]
  exact ⟨only b, fun h => h ▸ mem⟩

theorem exists_host_of_single {settings : ClusterSettings} (h : Started settings c)
    (single : settings.mode = .single) :
    ∃ host, settings.hosts = [host] ∧ c.addresses = [host] := by
  have valid := h.valid
  unfold ClusterSettings.validate at valid
  split at valid
  · cases valid
  · next some =>
    split at valid
    · cases valid
    · next notMany =>
      have one : settings.hosts.length = 1 := by
        have := List.length_pos_iff.2 some
        have : ¬1 < settings.hosts.length := fun many => notMany ⟨single, many⟩
        omega
      obtain ⟨host, hosts_eq⟩ := List.length_eq_one_iff.1 one
      refine ⟨host, hosts_eq, eq_singleton_of_nodup h.consistent.nodup ?_ ?_⟩
      · intro a ha
        obtain ⟨m, hm, rfl⟩ := List.mem_map.1 ha
        have := h.configured m hm
        rwa [hosts_eq, List.mem_singleton] at this
      · exact h.complete host (by simp [hosts_eq])

end

/-! ## All states -/

/-- What is true of an open cluster after some events since it was started as `c₀`. -/
structure Represented (settings : ClusterSettings) (c₀ : Cluster) (events : List Event)
    (c : Cluster) : Prop where
  nodup : c.addresses.Nodup
  description_eq : c.description = .infer settings.mode (c.members.map (·.description))
  servers_perm : c.description.servers.Perm (c.members.map (·.description))
  addresses_perm : (c.description.servers.map (·.address)).Perm c.addresses
  ascending : c.description.servers.Pairwise fun a b => compare a.address b.address = .lt
  named : ∀ m ∈ c.members, m.description.address = m.address
  since : ∀ m ∈ c.members, ∃ earlier later, events = earlier ++ later ∧ Since c₀ earlier later m
  single : settings.mode = .single → ∃ host, settings.hosts = [host] ∧ c.addresses = [host]

theorem represented_of_started {settings : ClusterSettings} {c₀ : Cluster}
    (h : Started settings c₀) (events : List Event) (isOpen : (c₀.run events).closed = false) :
    Represented settings c₀ events (c₀.run events) := by
  obtain ⟨consistent, settings_eq⟩ := consistent_run h.consistent events
  have description_eq := consistent.snapshot isOpen
  rw [settings_eq, h.settings_eq] at description_eq
  have named : (c₀.run events).members.map (·.description.address) = (c₀.run events).addresses :=
    List.map_congr_left consistent.named
  have servers_perm : (c₀.run events).description.servers.Perm
      ((c₀.run events).members.map (·.description)) := by
    rw [description_eq]
    exact ClusterDescription.perm_ofServers ..
  refine ⟨consistent.nodup, description_eq, servers_perm, ?_, ?_, consistent.named,
    exists_since h.consistent h.fresh events, fun single => ?_⟩
  · have addresses_perm := servers_perm.map (·.address)
    rw [List.map_map] at addresses_perm
    exact addresses_perm.trans (List.Perm.of_eq named)
  · rw [description_eq]
    refine ClusterDescription.pairwise_ofServers ?_ ..
    rw [List.map_map]
    exact named ▸ consistent.nodup
  · obtain ⟨host, hosts_eq, addresses_eq⟩ := exists_host_of_single h single
    refine ⟨host, hosts_eq, ?_⟩
    rw [addresses_run_of_single (h.settings_eq ▸ single) h.consistent events isOpen, addresses_eq]

theorem represented_run {settings : ClusterSettings} {spawn : Address → Spawn} {c₀ : Cluster}
    (h : start settings spawn = (.ok (), c₀)) (events : List Event) :
    let c := c₀.run events
    (c.closed = false → Represented settings c₀ events c) ∧
      (c.closed = true → c.members = [] ∧ ∀ later, c.run later = c) ∧
      (c.step .close).closed = true ∧ (c.step .close).description = c.description := by
  have started := started_of_start h
  have consistent := (consistent_run started.consistent events).1
  refine ⟨represented_of_started started events, fun closed => ?_, closed_close _, ?_⟩
  · exact ⟨consistent.emptied closed, run_of_closed closed⟩
  · rw [step, close]
    split <;> rfl

/-- A member of a replica set that is reported is added. -/
theorem represented_run_reported :
    let a : Address := ⟨"a", 1⟩
    let b : Address := ⟨"b", 1⟩
    let settings : ClusterSettings := { hosts := [a], mode? := some .multiple }
    let spawn : Address → Spawn := fun _ => .started
    let c₀ := (start settings spawn).2
    let d : ServerDescription :=
      { address := a, state := .connected, type := .replicaSetPrimary, hosts := [a, b] }
    let c := c₀.run [.change d spawn]
    start settings spawn = (.ok (), c₀) ∧ c.addresses = [a, b] ∧ c.closed = false ∧
      Represented settings c₀ [.change d spawn] c := by
  intro a b settings spawn c₀ d c
  have started : start settings spawn = (.ok (), c₀) := rfl
  have sorted : [a, b].mergeSort Address.le = [a, b] :=
    List.mergeSort_of_pairwise (by simp only [List.pairwise_cons]; decide)
  have told : reported [⟨0, a, d⟩] = [a, b] := by
    show ([a, b].mergeSort Address.le).eraseDups = [a, b]
    rw [sorted]
    rfl
  have of_a : d.address = a := rfl
  have changed : c.addresses = [a, b] ∧ c.closed = false := by
    simp [c, c₀, settings, spawn, run, step, start, addHosts, addServer, addresses, publish,
      onChange, member?, judged, describe, discover, enlist, ClusterSettings.validate,
      ClusterSettings.mode, ServerDescription.checkSetName, of_a, told, a, b]
  exact ⟨started, changed.1, changed.2, (represented_run started _).1 changed.2⟩

end Cluster

end ClusterClient

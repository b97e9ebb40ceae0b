import ClusterClient.Proofs.Cluster.Representation
import ClusterClient.Proofs.Selection.Connected

/-!
# The required replica set

A cluster that requires a replica set lets no server of another one in. A description of a connected
server is stored only if it names the set, so whatever counts for discovery or for selection does;
and each address that is monitored was configured or goes back to such a description.

    Exclusive name settings c₀ events (c₀.run events)     for each cluster c₀ that was started
-/

namespace ClusterClient

namespace Cluster

section

variable {c c₀ c' : Cluster} {settings : ClusterSettings} {d : ServerDescription} {name : String}

/-! ## Deliveries -/

theorem exists_of_lastDelivered? {events : List Event} {a : Address}
    (h : lastDelivered? events a = some d) :
    ∃ earlier spawn later, events = earlier ++ .change d spawn :: later ∧ d.address = a := by
  induction events using List.reverseRecOn with
  | nil => cases h
  | append_singleton events e ih =>
    rw [lastDelivered?_snoc] at h
    cases he : e.delivered? a with
    | none =>
      rw [he, Option.none_or] at h
      obtain ⟨earlier, spawn, later, rfl, address⟩ := ih h
      exact ⟨earlier, spawn, later ++ [e], by simp, address⟩
    | some d' =>
      rw [he, Option.some_or] at h
      cases h
      cases e with
      | close => cases he
      | change d'' spawn =>
        rw [Event.delivered?, Option.ite_none_right_eq_some] at he
        obtain ⟨address, same⟩ := he
        cases same
        exact ⟨events, spawn, [], rfl, address⟩

/-- One of the events delivered a description of a server that was monitored then. -/
def Delivered (c₀ : Cluster) (events : List Event) (d : ServerDescription) : Prop :=
  ∃ earlier spawn later, events = earlier ++ .change d spawn :: later ∧
    d.address ∈ (c₀.run earlier).addresses

theorem delivered_append {events : List Event} (h : Delivered c₀ events d) (e : Event) :
    Delivered c₀ (events ++ [e]) d := by
  obtain ⟨earlier, spawn, later, rfl, known⟩ := h
  exact ⟨earlier, spawn, later ++ [e], by simp, known⟩

/-- A connected member is described as the required replica set has been told of it. -/
theorem delivered_of_isConnected (started : Started settings c₀)
    (required : settings.requiredReplicaSetName = some name) {events : List Event} {m : Member}
    (hm : m ∈ (c₀.run events).members) (connected : m.description.isConnected = true) :
    Delivered c₀ events m.description ∧ m.description.setName = some name := by
  obtain ⟨earlier, later, rfl, since⟩ := exists_since started.consistent started.fresh events m hm
  have description_eq := since.description_eq
  cases hd : lastDelivered? later m.address with
  | none =>
    rw [hd] at description_eq
    rw [description_eq] at connected
    cases connected
  | some d =>
    rw [hd] at description_eq
    have description_eq : m.description = c₀.judged d := description_eq
    rw [description_eq] at connected ⊢
    obtain ⟨passed, named⟩ := judged_eq_of_isConnected connected
    obtain ⟨during, spawn, rest, rfl, address⟩ := exists_of_lastDelivered? hd
    obtain ⟨m', hm', -, address'⟩ := since.stayed during _ rfl
    rw [passed]
    refine ⟨⟨earlier ++ during, spawn, rest, by simp, ?_⟩, named name ?_⟩
    · rw [address, ← address']
      exact List.mem_map_of_mem hm'
    · rw [started.settings_eq, required]

/-! ## The snapshot -/

theorem setName_of_mem_servers (started : Started settings c₀)
    (required : settings.requiredReplicaSetName = some name) (events : List Event) :
    ∀ s ∈ (c₀.run events).description.servers, s.isConnected = true → s.setName = some name := by
  have ofMembers : ∀ events, (c₀.run events).closed = false →
      ∀ s ∈ (c₀.run events).description.servers, s.isConnected = true → s.setName = some name := by
    intro events isOpen s hs connected
    have consistent := (consistent_run started.consistent events).1
    rw [consistent.snapshot isOpen] at hs
    obtain ⟨m, hm, rfl⟩ := List.mem_map.1 (ClusterDescription.mem_ofServers.1 hs)
    exact (delivered_of_isConnected started required hm connected).2
  induction events using List.reverseRecOn with
  | nil => exact ofMembers [] started.isOpen
  | append_singleton events e ih =>
    cases closed : (c₀.run (events ++ [e])).closed with
    | false => exact ofMembers _ closed
    | true =>
      rw [run_snoc] at closed ⊢
      rcases (c₀.run events).step_cases e with ⟨same, -⟩ | ⟨d, spawn, new, -, isOpen, -, changed⟩ |
        ⟨-, -, -, -, -, description_eq⟩
      · rw [same]
        exact ih
      · rw [changed.closed_eq, isOpen] at closed
        cases closed
      · rw [description_eq]
        exact ih

theorem clusterType_of_setName {r : ProbeReply} (named : r.setName = some name)
    (notRouter : r.msg ≠ some "isdbgrid") : r.serverType.clusterType = .replicaSet := by
  unfold ProbeReply.serverType
  rw [if_neg notRouter, if_neg (by simp [named])]
  split_ifs <;> rfl

/-! ## The addresses -/

/-- An address that is configured, or that a member of the replica set has listed. -/
def Listed (name : String) (settings : ClusterSettings) (c₀ : Cluster) (events : List Event)
    (a : Address) : Prop :=
  a ∈ settings.hosts ∨ ∃ d, Delivered c₀ events d ∧ d.isReplicaSetMember = true ∧
    d.setName = some name ∧ a ∈ d.reported

theorem listed_append {events : List Event} {a : Address} (h : Listed name settings c₀ events a)
    (e : Event) : Listed name settings c₀ (events ++ [e]) a :=
  h.imp_right fun ⟨d, delivered, counts⟩ => ⟨d, delivered_append delivered e, counts⟩

theorem isConnected_of_isReplicaSetMember (h : d.isReplicaSetMember = true) :
    d.isConnected = true := by
  rw [ServerDescription.isReplicaSetMember, Bool.and_eq_true] at h
  exact h.1

/-- Whatever is reported after a change was listed by a member of the replica set. -/
theorem listed_of_reported (started : Started settings c₀)
    (required : settings.requiredReplicaSetName = some name) {events : List Event}
    {spawn : Address → Spawn} (known : d.address ∈ (c₀.run events).addresses) {a : Address}
    (h : a ∈ reported (describe ((c₀.run events).judged d) (c₀.run events).members)) :
    Listed name settings c₀ (events ++ [.change d spawn]) a := by
  obtain ⟨consistent, settings_eq⟩ := consistent_run started.consistent events
  obtain ⟨m, hm, counts, ha⟩ := mem_reported.1 h
  have connected := isConnected_of_isReplicaSetMember counts
  rw [describe_eq_map consistent.nodup] at hm
  obtain ⟨m', hm', rfl⟩ := List.mem_map.1 hm
  split at counts
  · next same =>
    rw [if_pos same] at connected ha
    obtain ⟨passed, named⟩ := judged_eq_of_isConnected connected
    simp only [passed] at counts ha
    refine Or.inr ⟨d, ⟨events, spawn, [], rfl, known⟩, counts, named name ?_, ha⟩
    rw [settings_eq, started.settings_eq, required]
  · next other =>
    rw [if_neg other] at connected ha
    obtain ⟨delivered, named⟩ := delivered_of_isConnected started required hm' connected
    exact Or.inr ⟨_, delivered_append delivered _, counts, named, ha⟩

theorem listed_of_mem_addresses (started : Started settings c₀)
    (required : settings.requiredReplicaSetName = some name) (events : List Event) :
    ∀ a ∈ (c₀.run events).addresses, Listed name settings c₀ events a := by
  induction events using List.reverseRecOn with
  | nil =>
    intro a ha
    obtain ⟨m, hm, rfl⟩ := List.mem_map.1 ha
    exact Or.inl (started.configured m hm)
  | append_singleton events e ih =>
    intro a ha
    rw [run_snoc] at ha
    rcases (c₀.run events).step_cases e with ⟨same, -⟩ | ⟨d, spawn, new, rfl, -, known, changed⟩ |
      ⟨-, -, members_eq, -⟩
    · rw [same] at ha
      exact listed_append (ih a ha) e
    · obtain ⟨m, hm, rfl⟩ := List.mem_map.1 ha
      have nodup := (consistent_run started.consistent events).1.nodup
      rcases mem_of_changed nodup changed hm with hm | ⟨m', hm', rfl⟩
      · exact listed_of_reported started required known (changed.reported m hm)
      · have address : (if m'.address = d.address then
            { m' with description := (c₀.run events).judged d } else m').address = m'.address := by
          split <;> rfl
        rw [address]
        exact listed_append (ih _ (List.mem_map_of_mem hm')) _
    · rw [addresses, members_eq] at ha
      cases ha

/-! ## A server of another set -/

/-- The members with other addresses. -/
def others (c : Cluster) (a : Address) : List Member := c.members.filter (·.address ≠ a)

theorem isConnected_judged_of_foreign (required : c.settings.requiredReplicaSetName = some name)
    (foreign : d.setName ≠ some name) : (c.judged d).isConnected = false := by
  by_contra connected
  rw [Bool.not_eq_false] at connected
  exact foreign ((judged_eq_of_isConnected connected).2 name required)

/-- What a server of another set reports does not count. -/
theorem mem_reported_of_foreign (nodup : c.addresses.Nodup)
    (required : c.settings.requiredReplicaSetName = some name) (foreign : d.setName ≠ some name)
    {a : Address} :
    a ∈ reported (describe (c.judged d) c.members) ↔ a ∈ reported (c.others d.address) := by
  have useless : (c.judged d).isReplicaSetMember = false := by
    rw [ServerDescription.isReplicaSetMember, isConnected_judged_of_foreign required foreign,
      Bool.false_and]
  rw [mem_reported, mem_reported, describe_eq_map nodup, address_judged]
  constructor
  · rintro ⟨m, hm, counts, ha⟩
    obtain ⟨m', hm', rfl⟩ := List.mem_map.1 hm
    split at counts
    · rw [useless] at counts
      cases counts
    · next other =>
      rw [if_neg other] at ha
      exact ⟨m', List.mem_filter.2 ⟨hm', by simpa using other⟩, counts, ha⟩
  · rintro ⟨m, hm, counts, ha⟩
    obtain ⟨hm, other⟩ := List.mem_filter.1 hm
    refine ⟨m, List.mem_map.2 ⟨m, hm, if_neg (by simpa using other)⟩, counts, ha⟩

theorem mem_addresses_of_foreign (consistent : Consistent c)
    (required : c.settings.requiredReplicaSetName = some name) (foreign : d.setName ≠ some name)
    (known : d.address ∈ c.addresses) (spawn : Address → Spawn) :
    ∀ a ∈ (c.step (.change d spawn)).addresses, a ∈ reported (c.others d.address) ∨
      a ∈ c.addresses ∧ (c.settings.mode = .single ∨ reported (c.others d.address) = []) := by
  intro a ha
  have isOpen : c.closed = false := by
    by_contra closed
    rw [Bool.not_eq_false] at closed
    rw [addresses, consistent.emptied closed] at known
    cases known
  have reported_iff : ∀ a, a ∈ reported (describe (c.judged d) c.members) ↔
      a ∈ reported (c.others d.address) :=
    fun _ => mem_reported_of_foreign consistent.nodup required foreign
  obtain ⟨new, changed⟩ := exists_changed_onChange isOpen known spawn
  obtain ⟨m, hm, rfl⟩ := List.mem_map.1 ha
  have old : m ∉ new → m.address ∈ c.addresses := by
    intro notNew
    obtain ⟨m', hm', rfl⟩ := (mem_of_changed consistent.nodup changed hm).resolve_left notNew
    split <;> exact List.mem_map.2 ⟨m', hm', rfl⟩
  have kept := (List.mem_filter.1 (changed.members_eq ▸ hm)).2
  rw [Bool.or_eq_true, decide_eq_true_eq, keeps, Bool.or_eq_true, List.isEmpty_iff,
    decide_eq_true_eq, reported_iff] at kept
  rcases kept with single | nothing | listed
  · refine Or.inr ⟨old ?_, Or.inl single⟩
    rw [changed.single single]
    exact List.not_mem_nil
  · refine Or.inr ⟨old fun hm => ?_, Or.inr ?_⟩
    · have := changed.reported m hm
      rw [nothing] at this
      cases this
    · refine List.eq_nil_iff_forall_not_mem.2 fun a ha => ?_
      rw [← reported_iff, nothing] at ha
      cases ha
  · exact Or.inl listed

end

/-! ## All states -/

/-- What is true of a cluster that requires the replica set `name`, after some events since it was
started as `c₀`. -/
structure Exclusive (name : String) (settings : ClusterSettings) (c₀ : Cluster)
    (events : List Event) (c : Cluster) : Prop where
  connected : ∀ s ∈ c.description.servers, s.isConnected = true → s.setName = some name
  /-- If a server is described as it replied, it is a member of the set, or a router that names
  it. -/
  replied : ∀ a r latency, .ofReply a r latency ∈ c.description.servers → r.setName = some name ∧
    (r.msg ≠ some "isdbgrid" → r.serverType.clusterType = .replicaSet)
  selected : ∀ selector : Selector, selector.requiresConnected c.description.type = true →
    ∀ held held' kept, selector.select c.description held = some (kept, held') →
      ∀ s ∈ kept, s.setName = some name
  /-- The other selectors leave the snapshot as it is. -/
  passed : ∀ selector : Selector, selector.requiresConnected c.description.type = false →
    ∀ held held' kept, selector.select c.description held = some (kept, held') →
      kept.Perm c.description.servers
  listed : ∀ a ∈ c.addresses, Listed name settings c₀ events a
  /-- A server of another set adds no address and keeps none. -/
  foreign : ∀ d spawn, d.setName ≠ some name → d.address ∈ c.addresses →
    ∀ a ∈ (c.step (.change d spawn)).addresses, a ∈ reported (c.others d.address) ∨
      a ∈ c.addresses ∧ (settings.mode = .single ∨ reported (c.others d.address) = [])

theorem exclusive_run {settings : ClusterSettings} {spawn : Address → Spawn} {c₀ : Cluster}
    {name : String} (h : start settings spawn = (.ok (), c₀))
    (required : settings.requiredReplicaSetName = some name) (events : List Event) :
    Exclusive name settings c₀ events (c₀.run events) := by
  have started := started_of_start h
  have connected := setName_of_mem_servers started required events
  obtain ⟨consistent, settings_eq⟩ := consistent_run started.consistent events
  have settings_eq := settings_eq.trans started.settings_eq
  refine ⟨connected, fun a r latency hs => ?_,
    fun selector requires held held' kept selected s hs => ?_,
    fun selector all _ _ _ passed => selector.perm_of_select all passed,
    listed_of_mem_addresses started required events, fun d spawn foreign known => ?_⟩
  · have named : r.setName = some name := connected _ hs rfl
    exact ⟨named, clusterType_of_setName named⟩
  · obtain ⟨mem, isConnected⟩ := selector.mem_of_select selected s hs
    exact connected s mem (isConnected requires)
  · have := mem_addresses_of_foreign consistent (settings_eq ▸ required) foreign known spawn
    rwa [settings_eq] at this

/-- A server of another set is there, and it is of no use. -/
theorem exclusive_run_foreign :
    let a : Address := ⟨"a", 1⟩
    let settings : ClusterSettings :=
      { hosts := [a], mode? := some .multiple, requiredReplicaSetName := some "rs0" }
    let spawn : Address → Spawn := fun _ => .started
    let c₀ := (start settings spawn).2
    let d : ServerDescription :=
      { address := a, state := .connected, type := .replicaSetPrimary, setName := some "rs1"
        hosts := [⟨"b", 1⟩] }
    let c := c₀.run [.change d spawn]
    start settings spawn = (.ok (), c₀) ∧ settings.requiredReplicaSetName = some "rs0" ∧
      Exclusive "rs0" settings c₀ [.change d spawn] c :=
  have started : start { hosts := [⟨"a", 1⟩], mode? := some .multiple
                         requiredReplicaSetName := some "rs0" } (fun _ => .started) =
      (.ok (), _) := rfl
  ⟨started, rfl, exclusive_run started rfl _⟩

/-- The sticky router selector by itself does not pass over a server of another set, and a router
that names the required set is let in. -/
theorem exists_foreign_selected_router_connected :
    let a : Address := ⟨"a", 1⟩
    let settings : ClusterSettings :=
      { hosts := [a], mode? := some .multiple, requiredReplicaSetName := some "rs0" }
    let spawn : Address → Spawn := fun _ => .started
    let c₀ := (start settings spawn).2
    let member : ServerDescription :=
      .ofReply a { isMaster := true, setName := some "rs1", hosts := [⟨"b", 1⟩] } .zero
    let router : ServerDescription :=
      .ofReply a { msg := some "isdbgrid", setName := some "rs0" } .zero
    start settings spawn = (.ok (), c₀) ∧
      (∃ s kept, Selector.sticky.select (c₀.run [.change member spawn]).description none =
        some (kept, none) ∧ s ∈ kept ∧ s.setName = some "rs1") ∧
      ∃ s ∈ (c₀.run [.change router spawn]).description.servers,
        s.isConnected = true ∧ s.type = .shardRouter := by
  intro a settings spawn c₀ member router
  have started : start settings spawn = (.ok (), c₀) := rfl
  refine ⟨started, ?_, ?_⟩
  · simp [c₀, settings, spawn, member, run, step, start, addHosts, addServer, addresses, publish,
      onChange, member?, judged, describe, discover, reported, enlist, ClusterSettings.validate,
      ClusterSettings.mode, ClusterDescription.infer, ClusterDescription.ofServers,
      ClusterDescription.inferType, ClusterDescription.toldTypes, Selector.select, selectSticky,
      ServerDescription.checkSetName, ServerDescription.unusable, ServerDescription.ofReply,
      ServerDescription.isReplicaSetMember, ServerDescription.isConnected]
  · simp [c₀, settings, spawn, router, run, step, start, addHosts, addServer, addresses, publish,
      onChange, member?, judged, describe, discover, reported, enlist, ClusterSettings.validate,
      ClusterSettings.mode, ClusterDescription.infer, ClusterDescription.ofServers,
      ServerDescription.checkSetName, ServerDescription.ofReply,
      ServerDescription.isReplicaSetMember, ServerDescription.isConnected, ProbeReply.serverType,
      ServerType.clusterType]

end Cluster

end ClusterClient

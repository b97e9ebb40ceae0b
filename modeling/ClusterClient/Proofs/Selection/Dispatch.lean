import ClusterClient.Client
import ClusterClient.Proofs.Address.Order
import ClusterClient.Proofs.Selection.Agreement
import ClusterClient.Proofs.Selection.Preference

/-!
# What commands are dispatched by

The selector for commands chains three others: the read preference, the sticky router selector and
the latency window. Each works on a snapshot rebuilt from what the one before it left. The rebuilt
snapshot keeps the type of the cluster, so each of them answers as it would alone, and none of them
takes away the last server.

    the servers selected = near ones among those that the preference selects     (replica sets)
    the servers selected = [router], the held one if it is still there            (sharded clusters)
    nothing is selected ↔ nothing is selected by the preference alone             (available)
-/

namespace ClusterClient

namespace ClusterDescription

variable {servers left : List ServerDescription} {mode : ConnectionMode} {type : ClusterType}
  {d : ServerDescription}

/-! ## Rebuilt snapshots -/

theorem ofServers_nil : ofServers mode type [] = ⟨mode, type, []⟩ :=
  congrArg (ClusterDescription.mk mode type) List.mergeSort_nil

/-- What only consists of connected servers is connected once it is rebuilt. -/
theorem mem_connected_ofServers (connected : ∀ d ∈ left, d.isConnected = true) :
    d ∈ (ofServers mode type left).connected ↔ d ∈ left := by
  rw [ClusterDescription.connected, List.mem_filter, mem_ofServers]
  exact and_iff_left_of_imp (connected d)

theorem connected_singleton (connected : d.isConnected = true) :
    (ofServers mode type [d]).connected = [d] := by
  rw [ClusterDescription.connected, ofServers, List.mergeSort_singleton]
  exact List.filter_eq_self.2 (List.forall_mem_singleton.2 connected)

theorem get?_address {cluster : ClusterDescription}
    (distinct : (cluster.servers.map (·.address)).Nodup) (hd : d ∈ cluster.servers) :
    cluster.get? d.address = some d := by
  cases found : cluster.get? d.address with
  | none => simpa using List.find?_eq_none.1 found d hd
  | some e =>
    have same : e.address = d.address := by simpa using List.find?_some found
    rw [List.inj_on_of_nodup_map distinct (List.mem_of_find?_eq_some found) hd same]

/-! ## Inferred snapshots -/

/-- All connected servers of a sharded cluster are routers. -/
theorem isShardRouter_of_mem_connected (observed : ∀ d ∈ servers, d.Observed)
    (sharded : (infer mode servers).type = .sharded) (hd : d ∈ (infer mode servers).connected) :
    d.isShardRouter = true := by
  obtain ⟨mem, connected⟩ := offers_of_mem_connected hd
  have known := (observed d (mem_ofServers.1 mem)).type_ne_unknown connected
  have agreed : d.type.clusterType = (infer mode servers).type :=
    agreed_infer mode servers (by rw [sharded]; decide) d mem connected known
  rw [sharded] at agreed
  rw [ServerDescription.isShardRouter, connected, Bool.true_and, beq_iff_eq]
  cases ht : d.type with
  | shardRouter => rfl
  | _ =>
    rw [ht] at agreed
    cases agreed

/-- The type of a cluster is unknown while no server is connected. -/
theorem connected_ne_nil (typed : (infer mode servers).type ≠ .unknown) :
    (infer mode servers).connected ≠ [] := by
  have unanimous : Unanimous (inferType servers) servers := (inferType_eq_iff typed).1 rfl
  obtain ⟨d, hd, connected, -⟩ := unanimous.told
  exact List.ne_nil_of_mem (List.mem_filter.2 ⟨mem_ofServers.2 hd, beq_iff_eq.2 connected⟩)

/-- A sharded cluster has a router, for its type was told by a connected server. -/
theorem shardRouters_ne_nil (observed : ∀ d ∈ servers, d.Observed)
    (sharded : (infer mode servers).type = .sharded) : (infer mode servers).shardRouters ≠ [] := by
  have typed : (infer mode servers).type ≠ .unknown := by
    rw [sharded]
    decide
  obtain ⟨d, hd⟩ := List.exists_mem_of_ne_nil _ (connected_ne_nil typed)
  exact List.ne_nil_of_mem (List.mem_filter.2 ⟨(offers_of_mem_connected hd).1,
    isShardRouter_of_mem_connected observed sharded hd⟩)

end ClusterDescription

/-! ## The sticky router -/

section

variable {cluster : ClusterDescription} {held : Option Address} {router : ServerDescription}

theorem selectSticky_of_ne_sharded (other : cluster.type ≠ .sharded) :
    selectSticky cluster held = (cluster.servers, held) := by
  rw [selectSticky, if_pos other]

theorem selectSticky_of_held (sharded : cluster.type = .sharded)
    (distinct : (cluster.servers.map (·.address)).Nodup) (hr : router ∈ cluster.shardRouters) :
    selectSticky cluster (some router.address) = ([router], some router.address) := by
  obtain ⟨mem, isRouter⟩ := List.mem_filter.1 hr
  rw [selectSticky, if_neg (not_not_intro sharded), Option.bind_some,
    ClusterDescription.get?_address distinct mem, Option.filter_some, if_pos isRouter]

theorem selectSticky_of_not_held (sharded : cluster.type = .sharded)
    (free : ∀ router ∈ cluster.shardRouters, held ≠ some router.address) :
    selectSticky cluster held = ((fastest? cluster.shardRouters).toList,
      (fastest? cluster.shardRouters).map (·.address)) := by
  have none : (held.bind cluster.get?).filter (·.isShardRouter) = none := by
    refine Option.eq_none_iff_forall_not_mem.2 fun router hr => ?_
    obtain ⟨found, isRouter⟩ := Option.filter_eq_some_iff.1 hr
    obtain ⟨a, rfl, ha⟩ := Option.bind_eq_some_iff.1 found
    have same : router.address = a := by simpa using List.find?_some ha
    exact free router (List.mem_filter.2 ⟨List.mem_of_find?_eq_some ha, isRouter⟩)
      (congrArg some same.symm)
  rw [selectSticky, if_neg (not_not_intro sharded), none]

theorem selectSticky_of_servers_eq_nil (none : cluster.servers = []) :
    (selectSticky cluster held).1 = [] :=
  List.eq_nil_iff_forall_not_mem.2 fun d hd => by
    have mem := (mem_of_mem_selectSticky hd).1
    rw [none] at mem
    cases mem

end

/-- Exactly one router of a cluster is left: the one that is held if there is such a router, or else
one that is no slower than any other. -/
structure Stuck (cluster : ClusterDescription) (held : Option Address)
    (left : List ServerDescription) (router : ServerDescription) : Prop where
  mem : router ∈ cluster.shardRouters
  left_eq : left = [router]
  held_eq : ∀ r ∈ cluster.shardRouters, held = some r.address → router = r
  fastest : (∀ r ∈ cluster.shardRouters, held ≠ some r.address) →
    ∀ r ∈ cluster.shardRouters, router.latency ≤ r.latency

theorem exists_stuck_of_selectSticky {cluster : ClusterDescription} (held : Option Address)
    (sharded : cluster.type = .sharded) (distinct : (cluster.servers.map (·.address)).Nodup)
    (nonempty : cluster.shardRouters ≠ []) :
    ∃ router, Stuck cluster held (selectSticky cluster held).1 router := by
  by_cases taken : ∃ r ∈ cluster.shardRouters, held = some r.address
  · obtain ⟨r, hr, rfl⟩ := taken
    rw [selectSticky_of_held sharded distinct hr]
    refine ⟨r, hr, rfl, fun r' hr' same => ?_, fun free => ?_⟩
    · exact List.inj_on_of_nodup_map distinct (List.mem_filter.1 hr).1 (List.mem_filter.1 hr').1
        (Option.some.inj same)
    · exact absurd rfl (free r hr)
  · have free : ∀ r ∈ cluster.shardRouters, held ≠ some r.address :=
      fun r hr same => taken ⟨r, hr, same⟩
    rw [selectSticky_of_not_held sharded free]
    cases found : fastest? cluster.shardRouters with
    | none => exact absurd (fastest?_eq_none_iff.1 found) nonempty
    | some router =>
      exact ⟨router, mem_of_fastest?_eq_some found, rfl, fun r hr same => absurd same (free r hr),
        fun _ r hr => Duration.le_iff.2 (latency_le_of_fastest? found r hr)⟩

/-! ## The chain -/

namespace Client

variable {c : Client} {p : ReadPreference} {cluster : ClusterDescription} {held : Option Address}
  {window : Duration} {selected kept : List ServerDescription} {d : ServerDescription}

/-- What the sticky router selector leaves of the servers that the preference selects. -/
def routed (cluster : ClusterDescription) (held : Option Address)
    (selected : List ServerDescription) : List ServerDescription :=
  (selectSticky (.ofServers cluster.mode cluster.type selected) held).1

/-- The chain as one equation. A stage that leaves nothing ends the chain, and on nothing the later
stages select nothing. -/
theorem select_selectorFor (c : Client) (p : ReadPreference) (held : Option Address)
    (rebuilt : ClusterDescription.ofServers cluster.mode cluster.type cluster.servers = cluster) :
    ((c.selectorFor p).select cluster held).map (·.1) =
      (p.select c.settings.acceptableLatencyDifference cluster).bind fun selected =>
        withinWindow
          (ClusterDescription.ofServers cluster.mode cluster.type
            (routed cluster held selected)).connected
          c.settings.acceptableLatencyDifference := by
  simp only [selectorFor, Selector.select, Selector.narrow, rebuilt]
  cases p.select c.settings.acceptableLatencyDifference cluster with
  | none => rfl
  | some selected =>
    simp only [Option.map_some, Option.bind_some]
    rw [← routed]
    split
    · next none =>
      have left : routed cluster held selected = [] := by
        rw [List.isEmpty_iff.1 none, routed, ClusterDescription.ofServers_nil]
        exact selectSticky_of_servers_eq_nil rfl
      rw [left, ClusterDescription.ofServers_nil]
      rfl
    · split
      · next none =>
        rw [List.isEmpty_iff.1 none, ClusterDescription.ofServers_nil]
        rfl
      · cases withinWindow (ClusterDescription.ofServers cluster.mode cluster.type
            (routed cluster held selected)).connected c.settings.acceptableLatencyDifference with
        | none => rfl
        | some kept =>
          simp only [Option.map_some]
          split
          · next none => rw [List.isEmpty_iff.1 none, Option.map_some]
          · rfl

theorem isConnected_of_mem_routed (h : p.select window cluster = some selected)
    (hd : d ∈ routed cluster held selected) : d.isConnected = true := by
  have mem := (mem_of_mem_selectSticky hd).1
  exact (offers_of_mem_readPreference h (ClusterDescription.mem_ofServers.1 mem)).2

/-- The last stage looks at exactly the servers that the stages before it left. -/
theorem mem_iff_near_routed (h : p.select window cluster = some selected)
    (hw : withinWindow (ClusterDescription.ofServers cluster.mode cluster.type
      (routed cluster held selected)).connected window = some kept) :
    d ∈ kept ↔ Near window (routed cluster held selected) d := by
  rw [mem_withinWindow_iff_near hw]
  exact near_congr fun e =>
    ClusterDescription.mem_connected_ofServers fun d hd => isConnected_of_mem_routed h hd

theorem mem_routed (other : cluster.type ≠ .sharded) :
    d ∈ routed cluster held selected ↔ d ∈ selected := by
  let narrowed := ClusterDescription.ofServers cluster.mode cluster.type selected
  have passed : selectSticky narrowed held = (narrowed.servers, held) :=
    selectSticky_of_ne_sharded other
  rw [routed, passed, ClusterDescription.mem_ofServers]

/-! ## Sharded clusters -/

theorem select_eq_connected (typed : cluster.type = .sharded ∨ cluster.type = .standalone ∨
    cluster.mode = .single) : p.select window cluster = some cluster.connected := by
  unfold ReadPreference.select
  rcases typed with typed | typed | single
  · rw [typed]
    cases cluster.mode <;> rfl
  · rw [typed]
    cases cluster.mode <;> rfl
  · rw [single]

/-- Without the servers that are not connected, the routers are the same. -/
theorem mem_shardRouters_connected : d ∈ (ClusterDescription.ofServers cluster.mode cluster.type
    cluster.connected).shardRouters ↔ d ∈ cluster.shardRouters := by
  simp only [ClusterDescription.shardRouters, List.mem_filter, ClusterDescription.mem_ofServers]
  refine and_congr_left fun router => ⟨fun h => (offers_of_mem_connected h).1, fun h => ?_⟩
  exact List.mem_filter.2 (offers_of_isShardRouter h router)

theorem exists_stuck_routed (held : Option Address) (sharded : cluster.type = .sharded)
    (distinct : (cluster.servers.map (·.address)).Nodup) (nonempty : cluster.shardRouters ≠ []) :
    ∃ router, Stuck cluster held (routed cluster held cluster.connected) router := by
  let narrowed := ClusterDescription.ofServers cluster.mode cluster.type cluster.connected
  have distinct' : (narrowed.servers.map (·.address)).Nodup := by
    rw [((ClusterDescription.perm_ofServers ..).map _).nodup_iff]
    exact distinct.sublist (List.filter_sublist.map _)
  have same : ∀ r, r ∈ narrowed.shardRouters ↔ r ∈ cluster.shardRouters :=
    fun r => mem_shardRouters_connected
  have nonempty' : narrowed.shardRouters ≠ [] := by
    obtain ⟨r, hr⟩ := List.exists_mem_of_ne_nil _ nonempty
    exact List.ne_nil_of_mem ((same r).2 hr)
  have narrowed_sharded : narrowed.type = .sharded := sharded
  obtain ⟨router, mem, left_eq, held_eq, fastest⟩ :=
    exists_stuck_of_selectSticky held narrowed_sharded distinct' nonempty'
  simp only [same] at mem held_eq fastest
  exact ⟨router, mem, left_eq, held_eq, fastest⟩

/-! ## What is selected -/

/-- What is selected for commands with a read preference, in each kind of cluster. -/
structure Dispatched (window : Duration) (p : ReadPreference) (cluster : ClusterDescription)
    (held : Option Address) (kept : List ServerDescription) : Prop where
  /-- The second window takes nothing away from what the preference for the nearest selects. -/
  replicaSet : cluster.mode = .multiple → cluster.type = .replicaSet →
    ∃ selected, p.select window cluster = some selected ∧
      (∀ d, d ∈ kept ↔ Near window selected d) ∧
      (p.mode = .nearest → ∀ d, d ∈ kept ↔ d ∈ selected)
  sharded : cluster.type = .sharded → ∃ router, Stuck cluster held kept router
  direct : cluster.type = .standalone ∨ cluster.mode = .single ∧ cluster.type ≠ .sharded →
    ∀ d, d ∈ kept ↔ Near window cluster.connected d
  unknown : cluster.mode = .multiple → cluster.type = .unknown → kept = []
  available : kept ≠ [] ↔ ∃ selected, p.select window cluster = some selected ∧ selected ≠ []

/-- The selector for commands answers as long as no latency window overflows, and its answer is the
one that is specified. -/
structure Dispatches (c : Client) (p : ReadPreference) (cluster : ClusterDescription)
    (held : Option Address) : Prop where
  answered :
    (∀ d ∈ cluster.connected, (d.latency.add? c.settings.acceptableLatencyDifference).isSome) →
      ∃ kept held', (c.selectorFor p).select cluster held = some (kept, held')
  selected : ∀ kept held', (c.selectorFor p).select cluster held = some (kept, held') →
    Dispatched c.settings.acceptableLatencyDifference p cluster held kept

/-- The preference has an answer unless a sum overflows. -/
theorem exists_select (fits : ∀ d ∈ cluster.connected, (d.latency.add? window).isSome) :
    ∃ selected, p.select window cluster = some selected := by
  rw [← Option.ne_none_iff_exists']
  intro none
  obtain ⟨-, fastest, picked, -, far⟩ := ReadPreference.overflows_of_select_eq_none none
  have near := Duration.add?_isSome_iff.1 (fits fastest picked.1.mem_connected)
  omega

theorem exists_select_selectorFor
    (rebuilt : ClusterDescription.ofServers cluster.mode cluster.type cluster.servers = cluster)
    (fits : ∀ d ∈ cluster.connected,
      (d.latency.add? c.settings.acceptableLatencyDifference).isSome) :
    ∃ kept held', (c.selectorFor p).select cluster held = some (kept, held') := by
  obtain ⟨selected, hp⟩ := exists_select (p := p) fits
  have answered : (((c.selectorFor p).select cluster held).map (·.1)).isSome := by
    rw [select_selectorFor c p held rebuilt, hp, Option.bind_some]
    refine isSome_withinWindow fun d hd => fits d ?_
    have mem := (mem_of_mem_selectSticky
      (ClusterDescription.mem_ofServers.1 (offers_of_mem_connected hd).1)).1
    exact List.mem_filter.2
      (offers_of_mem_readPreference hp (ClusterDescription.mem_ofServers.1 mem))
  rw [Option.isSome_map] at answered
  obtain ⟨⟨kept, held'⟩, h⟩ := Option.isSome_iff_exists.1 answered
  exact ⟨kept, held', h⟩

/-- Outside of sharded clusters the sticky router selector does nothing. -/
theorem mem_iff_near_selected (other : cluster.type ≠ .sharded)
    (h : p.select window cluster = some selected)
    (hw : withinWindow (ClusterDescription.ofServers cluster.mode cluster.type
      (routed cluster held selected)).connected window = some kept) :
    d ∈ kept ↔ Near window selected d := by
  rw [mem_iff_near_routed h hw]
  exact near_congr fun e => mem_routed other

/-- In a sharded cluster the window is around one router, which stays. -/
theorem exists_stuck_of_withinWindow (sharded : cluster.type = .sharded)
    (distinct : (cluster.servers.map (·.address)).Nodup) (nonempty : cluster.shardRouters ≠ [])
    (hw : withinWindow (ClusterDescription.ofServers cluster.mode cluster.type
      (routed cluster held cluster.connected)).connected window = some kept) :
    ∃ router, Stuck cluster held kept router := by
  obtain ⟨router, stuck⟩ := exists_stuck_routed held sharded distinct nonempty
  have connected : router.isConnected = true :=
    (offers_of_isShardRouter (List.mem_filter.1 stuck.mem).1 (List.mem_filter.1 stuck.mem).2).2
  rw [stuck.left_eq, ClusterDescription.connected_singleton connected] at hw
  exact ⟨router, { stuck with left_eq := withinWindow_singleton hw }⟩

/-- The preference for the nearest has applied the window before. -/
theorem near_iff_mem_of_nearest (multiple : cluster.mode = .multiple)
    (typed : cluster.type = .replicaSet) (nearest : p.mode = .nearest)
    (h : p.select window cluster = some selected) : Near window selected d ↔ d ∈ selected := by
  rw [ReadPreference.select, multiple, typed] at h
  simp only [ReadPreference.selectMembers, nearest] at h
  exact near_iff_mem_of_withinWindow h

/-- The chain takes away the last server nowhere. -/
theorem eq_nil_iff_selected (other : cluster.type ≠ .sharded)
    (h : p.select window cluster = some selected)
    (hw : withinWindow (ClusterDescription.ofServers cluster.mode cluster.type
      (routed cluster held selected)).connected window = some kept) :
    kept = [] ↔ selected = [] := by
  have same : ∀ d, d ∈ (ClusterDescription.ofServers cluster.mode cluster.type
      (routed cluster held selected)).connected ↔ d ∈ selected := fun d =>
    (ClusterDescription.mem_connected_ofServers
      fun d hd => isConnected_of_mem_routed h hd).trans (mem_routed other)
  simp only [withinWindow_eq_nil_iff hw, List.eq_nil_iff_forall_not_mem, same]

theorem dispatched_of_sharded (sharded : cluster.type = .sharded)
    (distinct : (cluster.servers.map (·.address)).Nodup) (nonempty : cluster.shardRouters ≠ [])
    (h : p.select window cluster = some selected)
    (hw : withinWindow (ClusterDescription.ofServers cluster.mode cluster.type
      (routed cluster held selected)).connected window = some kept) :
    Dispatched window p cluster held kept := by
  obtain rfl : cluster.connected = selected :=
    Option.some.inj ((select_eq_connected (.inl sharded)).symm.trans h)
  obtain ⟨router, stuck⟩ := exists_stuck_of_withinWindow sharded distinct nonempty hw
  have offers := offers_of_isShardRouter (List.mem_filter.1 stuck.mem).1
    (List.mem_filter.1 stuck.mem).2
  refine ⟨fun _ typed => ?_, fun _ => ⟨router, stuck⟩, ?_, fun _ typed => ?_, ?_⟩
  · rw [sharded] at typed
    cases typed
  · rintro (typed | ⟨-, other⟩)
    · rw [sharded] at typed
      cases typed
    · exact absurd sharded other
  · rw [sharded] at typed
    cases typed
  · rw [stuck.left_eq]
    exact iff_of_true (List.cons_ne_nil _ _)
      ⟨_, h, List.ne_nil_of_mem (List.mem_filter.2 offers)⟩

theorem dispatched_of_ne_sharded (other : cluster.type ≠ .sharded)
    (h : p.select window cluster = some selected)
    (hw : withinWindow (ClusterDescription.ofServers cluster.mode cluster.type
      (routed cluster held selected)).connected window = some kept) :
    Dispatched window p cluster held kept := by
  have near (d) : d ∈ kept ↔ Near window selected d := mem_iff_near_selected other h hw
  have empty := eq_nil_iff_selected other h hw
  refine ⟨fun multiple typed => ?_, fun sharded => absurd sharded other, fun typed => ?_,
    fun multiple typed => ?_, ?_⟩
  · refine ⟨selected, h, near, fun nearest d => (near d).trans ?_⟩
    exact near_iff_mem_of_nearest multiple typed nearest h
  · obtain rfl : cluster.connected = selected :=
      Option.some.inj ((select_eq_connected (.inr (typed.imp_right And.left))).symm.trans h)
    exact near
  · rw [ReadPreference.select, multiple, typed] at h
    exact empty.2 (Option.some.inj h).symm
  · rw [h]
    refine (not_congr empty).trans ⟨fun nonempty => ⟨selected, rfl, nonempty⟩, ?_⟩
    rintro ⟨other, same, nonempty⟩
    rwa [Option.some.inj same]

theorem dispatched_of_select {mode : ConnectionMode} {servers : List ServerDescription}
    (distinct : (servers.map (·.address)).Nodup) (observed : ∀ d ∈ servers, d.Observed)
    {held' : Option Address}
    (h : (c.selectorFor p).select (.infer mode servers) held = some (kept, held')) :
    Dispatched c.settings.acceptableLatencyDifference p (.infer mode servers) held kept := by
  let cluster := ClusterDescription.infer mode servers
  have rebuilt : ClusterDescription.ofServers cluster.mode cluster.type cluster.servers = cluster :=
    ClusterDescription.ofServers_servers mode _ servers
  have chain := select_selectorFor c p held rebuilt
  rw [h] at chain
  obtain ⟨selected, hp, hw⟩ := Option.bind_eq_some_iff.1 chain.symm
  by_cases sharded : (ClusterDescription.infer mode servers).type = .sharded
  · have nonempty := ClusterDescription.shardRouters_ne_nil observed sharded
    refine dispatched_of_sharded sharded ?_ nonempty hp hw
    exact ((ClusterDescription.perm_ofServers ..).map _).nodup_iff.2 distinct
  · exact dispatched_of_ne_sharded sharded hp hw

/-- All inferred snapshots of servers with distinct addresses, as their monitors describe them. -/
theorem dispatches_infer (c : Client) (p : ReadPreference) (mode : ConnectionMode)
    (servers : List ServerDescription) (distinct : (servers.map (·.address)).Nodup)
    (observed : ∀ d ∈ servers, d.Observed) (held : Option Address) :
    c.Dispatches p (.infer mode servers) held where
  answered := exists_select_selectorFor (ClusterDescription.ofServers_servers mode _ servers)
  selected _ _ h := dispatched_of_select distinct observed h

/-- The router that is held is the slower of two, and a third is down. -/
theorem dispatches_infer_routers :
    let c : Client := { cluster := { cluster := { settings := {} } } }
    let router (host : String) (millis : Nat) : ServerDescription :=
      .ofReply ⟨host, 1⟩ { msg := some "isdbgrid" } (.ofMillis millis)
    let servers := [router "b" 90, router "a" 1, .unknown ⟨"c", 1⟩ "down"]
    let held := some ⟨"b", 1⟩
    (servers.map (·.address)).Nodup ∧ (∀ d ∈ servers, d.Observed) ∧
      (c.selectorFor {}).select (.infer .multiple servers) held = some ([router "b" 90], held) ∧
      c.Dispatches {} (.infer .multiple servers) held := by
  intro c router servers held
  have distinct : (servers.map (·.address)).Nodup := by decide
  have observed : ∀ d ∈ servers, d.Observed :=
    List.forall_mem_cons.2 ⟨.replied _ _ _, List.forall_mem_cons.2 ⟨.replied _ _ _,
      List.forall_mem_singleton.2 (.unreachable _ _)⟩⟩
  have inferred : ClusterDescription.infer .multiple servers =
      ⟨.multiple, .sharded, [router "a" 1, router "b" 90, .unknown ⟨"c", 1⟩ "down"]⟩ :=
    ClusterDescription.ofServers_of_perm (.swap ..) (by decide +kernel) .multiple .sharded
  have preferred : ReadPreference.select {} c.settings.acceptableLatencyDifference
      ⟨.multiple, .sharded, [router "a" 1, router "b" 90, .unknown ⟨"c", 1⟩ "down"]⟩ =
        some [router "a" 1, router "b" 90] := by
    decide +kernel
  have selected : (c.selectorFor {}).select (.infer .multiple servers) held =
      some ([router "b" 90], held) := by
    rw [inferred]
    simp only [selectorFor, Selector.select, Selector.narrow]
    rw [ClusterDescription.ofServers_of_pairwise (by decide +kernel), preferred]
    simp only [Option.map_some]
    rw [ClusterDescription.ofServers_of_pairwise (by decide +kernel)]
    decide +kernel
  exact ⟨distinct, observed, selected,
    dispatches_infer c {} .multiple servers distinct observed held⟩

end Client

end ClusterClient

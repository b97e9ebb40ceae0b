import ClusterClient.Proofs.Client.Pools
import ClusterClient.Proofs.Server.Silence

/-!
# Late publications

A server that the cluster removes is closed, but its monitor finishes the check that it is at and
still publishes what comes of it. The cluster knows servers by their addresses only. So it does not
listen to the monitor of a removed server as long as it has no server for that address. If it has
added one again meanwhile, what the old monitor publishes takes the place of what the new one has
found out.

    Late (c₀.run events) serial address      for each server that was removed           (late_run)
    the old monitor of a server that was added again overwrites its description
                                                                                   (late_overwrites)
-/

namespace ClusterClient

namespace Client

/-! ## Monitors -/

/-- The monitors have made steps of their own, and no server is lost. -/
def Continues (c c' : Client) : Prop :=
  ∀ (i : Nat) (s : Server), c.servers[i]? = some s →
    ∃ s' events, c'.servers[i]? = some s' ∧ s'.monitor = s.monitor.run events

section

variable {c c' c'' : Client}

theorem Continues.of_servers_eq (h : c'.servers = c.servers) : Continues c c' :=
  fun _ s hs => ⟨s, [], h ▸ hs, rfl⟩

theorem Continues.trans (h : Continues c c') (h' : Continues c' c'') : Continues c c'' := by
  intro i s hs
  obtain ⟨s', events, hs', monitor_eq⟩ := h i s hs
  obtain ⟨s'', events', hs'', monitor_eq'⟩ := h' i s' hs'
  exact ⟨s'', events ++ events', hs'', by rw [monitor_eq', monitor_eq, Monitor.run_append]⟩

/-- If there are no more servers than before, each of them was there before. -/
theorem Continues.exists_before (h : Continues c c') (length : c'.servers.length = c.servers.length)
    {i : Nat} {s' : Server} (hs' : c'.servers[i]? = some s') :
    ∃ s events, c.servers[i]? = some s ∧ s'.monitor = s.monitor.run events := by
  have lt := (List.getElem?_eq_some_iff.1 hs').1
  have hs := List.getElem?_eq_getElem (length ▸ lt)
  obtain ⟨s'', events, hs'', monitor_eq⟩ := h i _ hs
  obtain rfl := Option.some.inj (hs'.symm.trans hs'')
  exact ⟨_, events, hs, monitor_eq⟩

theorem length_servers_modifyServer (c : Client) (serial : Nat) (f : Server → Server) :
    (c.modifyServer serial f).servers.length = c.servers.length :=
  List.length_modify ..

theorem continues_modifyServer {serial : Nat} {f : Server → Server}
    (h : ∀ s, c.servers[serial]? = some s → ∃ events, (f s).monitor = s.monitor.run events) :
    Continues c (c.modifyServer serial f) := by
  intro i s hs
  rw [modifyServer, List.getElem?_modify, hs]
  split
  · next same =>
    obtain ⟨events, monitor_eq⟩ := h s (same ▸ hs)
    exact ⟨f s, events, rfl, monitor_eq⟩
  · exact ⟨s, [], rfl, rfl⟩

/-- The monitor of one server makes a step. -/
theorem continues_monitor {serial : Nat} {server : Server}
    (known : c.servers[serial]? = some server) (e : Monitor.Event) :
    Continues c (c.modifyServer serial fun s => { s with monitor := server.monitor.step e }) := by
  refine continues_modifyServer fun s hs => ⟨[e], ?_⟩
  obtain rfl := Option.some.inj (known.symm.trans hs)
  rfl

theorem continues_close (c : Client) (serial : Nat) : Continues c (c.modifyServer serial .close) :=
  continues_modifyServer fun _ _ => ⟨[.close], rfl⟩

theorem continues_foldl_close (c : Client) (serials : List Nat) :
    Continues c (serials.foldl (fun c serial => c.modifyServer serial .close) c) := by
  induction serials generalizing c with
  | nil => exact .of_servers_eq rfl
  | cons serial serials ih => exact (c.continues_close serial).trans (ih _)

theorem length_servers_foldl_close (c : Client) (serials : List Nat) :
    (serials.foldl (fun c serial => c.modifyServer serial .close) c).servers.length =
      c.servers.length := by
  induction serials generalizing c with
  | nil => rfl
  | cons serial serials ih => exact (ih _).trans (c.length_servers_modifyServer serial _)

theorem closed_of_foldl_close {serials : List Nat} {i : Nat} (hi : i ∈ serials) {s' : Server}
    (hs' : (serials.foldl (fun c serial => c.modifyServer serial .close) c).servers[i]? = some s') :
    s'.monitor.closed = true := by
  induction serials generalizing c with
  | nil => cases hi
  | cons serial serials ih =>
    rcases List.mem_cons.1 hi with rfl | later
    · -- the server is closed now, and its monitor stays closed
      obtain ⟨s₁, events, hs₁, monitor_eq⟩ := (continues_foldl_close _ serials).exists_before
        (length_servers_foldl_close _ serials) hs'
      change (c.modifyServer i .close).servers[i]? = _ at hs₁
      simp only [modifyServer, List.getElem?_modify, Option.map_eq_map, if_true] at hs₁
      obtain ⟨s, -, rfl⟩ := Option.map_eq_some_iff.1 hs₁
      have told : s.close.monitor.closed = true :=
        (Monitor.fades_notify (m := s.monitor) (n := { s.monitor with closed := true }) rfl
          ⟨rfl, rfl⟩).closed
      rw [monitor_eq]
      exact (Monitor.fades_run told events).closed
    · exact ih later hs'

/-! ## Attendance -/

/-- The servers are those that the cluster has created, each with a monitor for its address, as far
as the client has followed its cluster, and the monitors of those that were removed are closed. -/
structure Following (c : Client) : Prop where
  numbered : c.cluster.cluster.Numbered
  named : ∀ (i : Nat) (s : Server), c.servers[i]? = some s →
    c.cluster.cluster.created[i]? = some s.monitor.address
  told : ∀ i ∈ c.cluster.cluster.closings.take c.closed, ∃ s : Server,
    c.servers[i]? = some s ∧ s.monitor.closed = true

/-- The client has followed its cluster up to now. -/
structure Attended (c : Client) : Prop extends Following c where
  complete : c.cluster.cluster.created.length ≤ c.servers.length
  closed_eq : c.closed = c.cluster.cluster.closings.length

theorem cluster_adopt (c : Client) : c.adopt.cluster = c.cluster := by
  have modified (serials : List Nat) (c : Client) :
      (serials.foldl (fun c serial => c.modifyServer serial .close) c).cluster = c.cluster := by
    induction serials generalizing c with
    | nil => rfl
    | cons serial serials ih => exact ih _
  exact modified ..

/-- The client has created the servers that its cluster has created, and closed none yet. -/
def enroll (c : Client) : Client :=
  { c with servers := c.servers ++ (c.cluster.cluster.created.drop c.servers.length).map c.create }

theorem continues_enroll (c : Client) : Continues c c.enroll := by
  intro i s hs
  refine ⟨s, [], ?_, rfl⟩
  show (c.servers ++ _)[i]? = some s
  rw [List.getElem?_append_left (List.getElem?_eq_some_iff.1 hs).1]
  exact hs

theorem length_created_le_enroll (c : Client) :
    c.cluster.cluster.created.length ≤ c.enroll.servers.length := by
  simp only [enroll, List.length_append, List.length_map, List.length_drop]
  omega

/-- A server that was not there before is one of those that are created now. -/
theorem Following.named_enroll (h : Following c) {i : Nat} {s : Server}
    (hs : c.enroll.servers[i]? = some s) :
    c.cluster.cluster.created[i]? = some s.monitor.address := by
  simp only [enroll] at hs
  by_cases old : i < c.servers.length
  · rw [List.getElem?_append_left old] at hs
    exact h.named i s hs
  · have beyond := Nat.le_of_not_lt old
    rw [List.getElem?_append_right beyond, List.getElem?_map, List.getElem?_drop,
      Nat.add_sub_cancel' beyond] at hs
    obtain ⟨address, known, rfl⟩ := Option.map_eq_some_iff.1 hs
    exact known

theorem length_servers_adopt (c : Client) : c.adopt.servers.length = c.enroll.servers.length :=
  c.enroll.length_servers_foldl_close (c.cluster.cluster.closings.drop c.closed)

theorem continues_enroll_adopt (c : Client) : Continues c.enroll c.adopt := by
  have closed := c.enroll.continues_foldl_close (c.cluster.cluster.closings.drop c.closed)
  exact closed.trans (.of_servers_eq rfl)

theorem continues_adopt (c : Client) : Continues c c.adopt :=
  c.continues_enroll.trans c.continues_enroll_adopt

/-- Of the servers that were removed, some were closed earlier, and all others are closed now. -/
theorem Following.told_adopt (h : Following c) {i : Nat} (hi : i ∈ c.cluster.cluster.closings) :
    ∃ s : Server, c.adopt.servers[i]? = some s ∧ s.monitor.closed = true := by
  rw [← List.take_append_drop c.closed c.cluster.cluster.closings] at hi
  rcases List.mem_append.1 hi with earlier | now
  · obtain ⟨s, hs, closed⟩ := h.told i earlier
    obtain ⟨s', events, hs', monitor_eq⟩ := c.continues_adopt i s hs
    exact ⟨s', hs', monitor_eq ▸ (Monitor.fades_run closed events).closed⟩
  · have known := List.mem_range.1 (h.numbered.mem_iff.1 (List.mem_append_right _
      (List.mem_of_mem_drop now)))
    have created := Nat.lt_of_lt_of_le known c.length_created_le_enroll
    have hs' := List.getElem?_eq_getElem (c.length_servers_adopt ▸ created)
    exact ⟨_, hs', closed_of_foldl_close now hs'⟩

/-- Whatever the cluster has decided, the client catches up with it. -/
theorem attended_adopt (h : Following c) : Attended c.adopt := by
  have cluster_eq : c.adopt.cluster = c.cluster := c.cluster_adopt
  refine ⟨⟨cluster_eq ▸ h.numbered, fun i s' hs' => ?_, fun i hi => ?_⟩, ?_, ?_⟩
  · obtain ⟨s, events, hs, monitor_eq⟩ :=
      c.continues_enroll_adopt.exists_before c.length_servers_adopt hs'
    rw [cluster_eq, monitor_eq, Monitor.address_run]
    exact h.named_enroll hs
  · rw [cluster_eq] at hi
    exact h.told_adopt (List.mem_of_mem_take hi)
  · rw [cluster_eq, length_servers_adopt]
    exact c.length_created_le_enroll
  · rw [cluster_eq]
    rfl

/-- Something has happened to the cluster that only adds to what was created and what was closed. -/
theorem Attended.following (h : Attended c) {cluster : ClusterSystem}
    (numbered : cluster.cluster.Numbered)
    (created : c.cluster.cluster.created <+: cluster.cluster.created)
    (closings : c.cluster.cluster.closings <+: cluster.cluster.closings) :
    Following { c with cluster } where
  numbered := numbered
  named i s hs := by
    obtain ⟨more, created_eq⟩ := created
    have known := h.named i s hs
    rw [← created_eq, List.getElem?_append_left (List.getElem?_eq_some_iff.1 known).1]
    exact known
  told i hi := by
    obtain ⟨more, closings_eq⟩ := closings
    rw [← closings_eq, h.closed_eq, List.take_left] at hi
    exact h.told i (by rwa [h.closed_eq, List.take_length])

/-! ## Steps -/

theorem Attended.modifyServer (h : Attended c) {serial : Nat} {f : Server → Server}
    (continues : Continues c (c.modifyServer serial f)) : Attended (c.modifyServer serial f) where
  numbered := h.numbered
  named i s' hs' := by
    obtain ⟨s, events, hs, monitor_eq⟩ :=
      continues.exists_before (c.length_servers_modifyServer serial f) hs'
    rw [monitor_eq, Monitor.address_run]
    exact h.named i s hs
  told i hi := by
    obtain ⟨s, hs, closed⟩ := h.told i hi
    obtain ⟨s', events, hs', monitor_eq⟩ := continues i s hs
    exact ⟨s', hs', monitor_eq ▸ (Monitor.fades_run closed events).closed⟩
  complete := Nat.le_trans h.complete (Nat.le_of_eq (c.length_servers_modifyServer serial f).symm)
  closed_eq := h.closed_eq

theorem Attended.of_cluster_eq (h : Attended c) {cluster : ClusterSystem}
    (same : cluster.cluster = c.cluster.cluster) : Attended { c with cluster } where
  numbered := same ▸ h.numbered
  named i s hs := same ▸ h.named i s hs
  told i hi := h.told i (same ▸ hi)
  complete := same ▸ h.complete
  closed_eq := same ▸ h.closed_eq

/-- An event of the cluster, and the client catches up. -/
theorem Attended.event (h : Attended c) (e : Cluster.Event) {cluster : ClusterSystem}
    (cluster_eq : cluster.cluster = c.cluster.cluster.step e) :
    Attended (adopt { c with cluster }) := by
  obtain ⟨created, closings⟩ := c.cluster.cluster.prefix_step e
  rw [← cluster_eq] at created closings
  exact attended_adopt
    (h.following (cluster_eq ▸ Cluster.numbered_step h.numbered e) created closings)

theorem Attended.report (h : Attended c) (d : ServerDescription) (spawn : Address → Spawn) :
    Attended (c.report d spawn) :=
  h.event (.change d spawn) (c.cluster.cluster_step (.onChange d spawn))

theorem Attended.foldl_report (h : Attended c) (news : List ServerDescription)
    (spawn : Address → Spawn) : Attended (news.foldl (fun c d => c.report d spawn) c) := by
  induction news generalizing c with
  | nil => exact h
  | cons d news ih => exact ih (h.report d spawn)

theorem attended_step (h : Attended c) (e : Event) : Attended (c.step e) := by
  cases e with
  | seek criterion timeout pick =>
    exact h.of_cluster_eq (c.cluster.cluster_step (.seek criterion timeout pick))
  | recheck name pick => exact h.of_cluster_eq (c.cluster.cluster_step (.recheck name pick))
  | monitor serial event spawn =>
    show Attended (c.stepMonitor serial event spawn)
    unfold stepMonitor
    split
    · exact h
    · next server known =>
      exact (h.modifyServer (continues_monitor known event)).foldl_report _ spawn
  | pool serial event =>
    have kept : Continues c (c.stepPool serial event) :=
      continues_modifyServer fun _ _ => ⟨[], rfl⟩
    exact h.modifyServer kept
  | issue => exact ⟨⟨h.numbered, h.named, h.told⟩, h.complete, h.closed_eq⟩
  | close =>
    refine h.event .close ?_
    have closed := c.cluster.close.cluster_step .notifyClosed
    exact closed.trans (c.cluster.cluster_step .close)
  | tick elapsed => exact h.of_cluster_eq (c.cluster.cluster_step (.tick elapsed))

theorem attended_run (h : Attended c) (events : List Event) : Attended (c.run events) := by
  induction events generalizing c with
  | nil => exact h
  | cons e events ih => exact ih (attended_step h e)

theorem attended_start {settings : ClientSettings} {dialer heartbeatDialer : Dialer}
    {spawn : Address → Spawn} (h : start settings dialer heartbeatDialer spawn = (.ok (), c)) :
    Attended c := by
  rw [(eq_adopt_of_start h).2]
  refine attended_adopt ⟨Cluster.numbered_start settings.cluster spawn, by simp, ?_⟩
  simp

theorem continues_foldl_report (c : Client) (news : List ServerDescription)
    (spawn : Address → Spawn) :
    Continues c (news.foldl (fun c d => c.report d spawn) c) := by
  induction news generalizing c with
  | nil => exact .of_servers_eq rfl
  | cons d news ih =>
    have told : Continues c { c with cluster := c.cluster.onChange d spawn } := .of_servers_eq rfl
    exact (told.trans (continues_adopt _)).trans (ih _)

theorem continues_step (c : Client) (e : Event) : Continues c (c.step e) := by
  cases e with
  | seek | recheck | issue | tick => exact .of_servers_eq rfl
  | monitor serial event spawn =>
    show Continues c (c.stepMonitor serial event spawn)
    unfold stepMonitor
    split
    · exact .of_servers_eq rfl
    · next server known =>
      exact (continues_monitor known event).trans (continues_foldl_report _ _ spawn)
  | pool serial event => exact continues_modifyServer fun _ _ => ⟨[], rfl⟩
  | close =>
    have told : Continues c { c with cluster := c.cluster.close.notifyClosed } :=
      .of_servers_eq rfl
    exact told.trans (continues_adopt _)

theorem continues_run (c : Client) (events : List Event) : Continues c (c.run events) := by
  induction events generalizing c with
  | nil => exact .of_servers_eq rfl
  | cons e events ih => exact (c.continues_step e).trans (ih _)

/-! ## What the cluster is told -/

theorem cluster_foldl_report (c : Client) (news : List ServerDescription)
    (spawn : Address → Spawn) :
    (news.foldl (fun c d => c.report d spawn) c).cluster =
      news.foldl (fun k d => k.onChange d spawn) c.cluster := by
  induction news generalizing c with
  | nil => rfl
  | cons d news ih =>
    have reported : (c.report d spawn).cluster = c.cluster.onChange d spawn := cluster_adopt _
    rw [List.foldl_cons, List.foldl_cons, ih, reported]

theorem onChange_of_absent (k : ClusterSystem) {d : ServerDescription}
    (absent : d.address ∉ k.cluster.addresses) (spawn : Address → Spawn) :
    k.onChange d spawn = k := by
  have unknown := Cluster.isNone_member?_iff.2 absent
  simp [ClusterSystem.onChange, Cluster.onChange_of_not_member unknown]

/-- What a step of a monitor means to the cluster. -/
theorem cluster_stepMonitor {serial : Nat} {server : Server}
    (known : c.servers[serial]? = some server) (e : Monitor.Event) (spawn : Address → Spawn) :
    (c.step (.monitor serial e spawn)).cluster = c.cluster ∨
      ∃ d, server.monitor.Finding e d ∧
        (c.step (.monitor serial e spawn)).cluster = c.cluster.onChange d spawn := by
  simp only [step, stepMonitor, known]
  rw [cluster_foldl_report]
  rcases (server.monitor.took_step e).description_eq with ⟨-, same⟩ | ⟨found, -, published_eq⟩
  · refine .inl ?_
    rw [same, List.drop_length]
    rfl
  · refine .inr ⟨_, found, ?_⟩
    rw [published_eq, List.drop_left]
    rfl

/-- What the monitor of the server `serial`, which was removed, still does. -/
structure Late (c : Client) (serial : Nat) (a : Address) : Prop where
  exists_server : ∃ server, c.servers[serial]? = some server ∧ server.monitor.address = a ∧
    server.monitor.closed = true ∧
    ∀ events, ∃ server', (c.run events).servers[serial]? = some server' ∧
      server'.monitor.published.length ≤ server.monitor.published.length + 2
  unheard : a ∉ c.cluster.cluster.addresses →
    ∀ e spawn, (c.step (.monitor serial e spawn)).cluster = c.cluster
  heard : ∀ e spawn, (c.step (.monitor serial e spawn)).cluster = c.cluster ∨
    ∃ d, d.address = a ∧
      (c.step (.monitor serial e spawn)).cluster = c.cluster.onChange d spawn

theorem published_le_of_closed_run (c : Client) (events : List Event) {serial : Nat}
    {server : Server} (known : c.servers[serial]? = some server)
    (closed : server.monitor.closed = true) :
    ∃ server', (c.run events).servers[serial]? = some server' ∧
      server'.monitor.published.length ≤ server.monitor.published.length + 2 := by
  obtain ⟨server', steps, known', monitor_eq⟩ := c.continues_run events serial server known
  exact ⟨server', known', monitor_eq ▸ Monitor.length_published_le closed steps⟩

theorem Attended.late (h : Attended c) {serial : Nat} {a : Address}
    (removed : serial ∈ c.cluster.cluster.closings)
    (created : c.cluster.cluster.created[serial]? = some a) : Late c serial a := by
  obtain ⟨server, known, closed⟩ :=
    h.told serial (by rwa [h.closed_eq, List.take_length])
  have address_eq : server.monitor.address = a :=
    Option.some.inj ((h.named serial server known).symm.trans created)
  have heard (e : Monitor.Event) (spawn : Address → Spawn) :
      (c.step (.monitor serial e spawn)).cluster = c.cluster ∨
        ∃ d, d.address = a ∧
          (c.step (.monitor serial e spawn)).cluster = c.cluster.onChange d spawn := by
    refine (cluster_stepMonitor known e spawn).imp id ?_
    rintro ⟨d, found, cluster_eq⟩
    exact ⟨d, found.address_eq.trans address_eq, cluster_eq⟩
  refine ⟨⟨server, known, address_eq, closed, fun events => ?_⟩, fun absent e spawn => ?_, heard⟩
  · exact c.published_le_of_closed_run events known closed
  · rcases heard e spawn with same | ⟨d, rfl, cluster_eq⟩
    · exact same
    · rw [cluster_eq, onChange_of_absent _ absent]

theorem late_run {settings : ClientSettings} {dialer heartbeatDialer : Dialer}
    {spawn : Address → Spawn} {c₀ : Client}
    (h : start settings dialer heartbeatDialer spawn = (.ok (), c₀)) (events : List Event)
    {serial : Nat} {a : Address}
    (removed : serial ∈ (c₀.run events).cluster.cluster.closings)
    (created : (c₀.run events).cluster.cluster.created[serial]? = some a) :
    Late (c₀.run events) serial a :=
  (attended_run (attended_start h) events).late removed created

/-- The primary drops `b` while the monitor of `b` is probing. -/
theorem late_run_dropped :
    let a : Address := ⟨"a", 1⟩
    let b : Address := ⟨"b", 1⟩
    let settings : ClientSettings := { cluster := { hosts := [a, b], mode? := some .multiple } }
    let spawn : Address → Spawn := fun _ => .started
    let c₀ := (start settings {} {} spawn).2
    let primary : ProbeReply := { isMaster := true, setName := some "rs", hosts := [a] }
    let events : List Event := [
      .monitor 1 .begin spawn, .monitor 1 (.dialed (.ok {})) spawn,
      .monitor 0 .begin spawn, .monitor 0 (.dialed (.ok {})) spawn,
      .monitor 0 (.probed (.ok primary) (.ofMillis 1)) spawn]
    start settings {} {} spawn = (.ok (), c₀) ∧
      1 ∈ (c₀.run events).cluster.cluster.closings ∧
      (c₀.run events).cluster.cluster.created[1]? = some b ∧ Late (c₀.run events) 1 b := by
  intro a b settings spawn c₀ primary events
  have started : start settings {} {} spawn = (.ok (), c₀) := rfl
  have removed : 1 ∈ (c₀.run events).cluster.cluster.closings := by decide +kernel
  have created : (c₀.run events).cluster.cluster.created[1]? = some b := by decide +kernel
  exact ⟨started, removed, created, late_run started events removed created⟩

/-- The secondary `a` reports itself alone, and `b` is dropped while its monitor is probing. Then
`a` reports `b` alone as a primary, and `b` is added again. The new monitor of `b` finds a
secondary; after that the old one publishes that its probe has failed, and so `b` is described from
then on. -/
theorem late_overwrites :
    let a : Address := ⟨"a", 1⟩
    let b : Address := ⟨"b", 1⟩
    let settings : ClientSettings := { cluster := { hosts := [a, b], mode? := some .multiple } }
    let spawn : Address → Spawn := fun _ => .started
    let c₀ := (start settings {} {} spawn).2
    let secondary (hosts : List Address) : ProbeReply :=
      { secondary := true, setName := some "rs", hosts }
    let primary : ProbeReply := { isMaster := true, setName := some "rs", hosts := [b] }
    let c := c₀.run [
      .monitor 1 .begin spawn, .monitor 1 (.dialed (.ok {})) spawn,
      .monitor 0 .begin spawn, .monitor 0 (.dialed (.ok {})) spawn,
      .monitor 0 (.probed (.ok (secondary [a])) (.ofMillis 1)) spawn,
      .monitor 0 .invalidate spawn, .monitor 0 .pause spawn, .monitor 0 .begin spawn,
      .monitor 0 (.probed (.ok primary) (.ofMillis 1)) spawn,
      .monitor 2 .begin spawn, .monitor 2 (.dialed (.ok {})) spawn,
      .monitor 2 (.probed (.ok (secondary [b])) (.ofMillis 1)) spawn]
    let late := c.step (.monitor 1 (.probed (.error (.io .writeZero)) .zero) spawn)
    let states (c : Client) := c.description.servers.map fun d => (d.address, d.state)
    start settings {} {} spawn = (.ok (), c₀) ∧ c.cluster.cluster.closings = [1, 0] ∧
      c.cluster.cluster.members.map (fun m => (m.serial, m.address)) = [(2, b)] ∧
      states c = [(b, .connected)] ∧ states late = [(b, .unknown)] ∧
      late.cluster.cluster.members ≠ c.cluster.cluster.members ∧
      late.description ≠ c.description := by
  intro a b settings spawn c₀ secondary primary c late states
  exact ⟨rfl, by decide +kernel, by decide +kernel, by decide +kernel, by decide +kernel,
    by decide +kernel, by decide +kernel⟩

end

end Client

end ClusterClient

import ClusterClient.Client
import ClusterClient.Proofs.Cluster.Inference
import ClusterClient.Proofs.Cluster.Looks

/-!
# What a client reaches

Whatever happens to a client, its settings stay as they are, and to its cluster nothing happens but
events of the cluster. The only descriptions that are delivered come from monitors.

    c.Follows (c.step e)                                  (follows_step)
    Reached settings (c₀.run events)     for each client that was started       (reached_run)
-/

namespace ClusterClient

namespace Client

open ClusterSystem (Named)

/-- What a client may become. -/
structure Follows (c c' : Client) : Prop where
  settings_eq : c'.settings = c.settings
  cluster : ∃ events : List ClusterSystem.Event, c'.cluster = c.cluster.run events ∧
    ∀ d spawn, .onChange d spawn ∈ events → d.Observed

theorem Follows.refl (c : Client) : Follows c c := ⟨rfl, [], rfl, by simp⟩

section

variable {c c' c'' : Client}

theorem Follows.trans (h : Follows c c') (h' : Follows c' c'') : Follows c c'' := by
  obtain ⟨settings_eq, events, cluster_eq, observed⟩ := h
  obtain ⟨settings_eq', events', cluster_eq', observed'⟩ := h'
  refine ⟨settings_eq'.trans settings_eq, events ++ events', ?_, ?_⟩
  · rw [cluster_eq', cluster_eq, ClusterSystem.run_append]
  · intro d spawn hd
    rcases List.mem_append.1 hd with hd | hd
    · exact observed d spawn hd
    · exact observed' d spawn hd

/-- What does not concern the cluster. -/
theorem Follows.of_eq (settings : c'.settings = c.settings) (cluster : c'.cluster = c.cluster) :
    Follows c c' :=
  ⟨settings, [], cluster, by simp⟩

/-- One event of the cluster. -/
theorem Follows.of_step (settings : c'.settings = c.settings) (e : ClusterSystem.Event)
    (cluster : c'.cluster = c.cluster.step e) (observed : ∀ d spawn, e = .onChange d spawn →
      d.Observed) : Follows c c' :=
  ⟨settings, [e], cluster, fun d spawn hd => observed d spawn (List.mem_singleton.1 hd).symm⟩

/-! ## Steps -/

theorem follows_foldl_modifyServer (c : Client) (serials : List Nat) (f : Server → Server) :
    Follows c (serials.foldl (fun c serial => c.modifyServer serial f) c) := by
  induction serials generalizing c with
  | nil => exact .refl c
  | cons serial serials ih =>
    have first : Follows c (c.modifyServer serial f) := .of_eq rfl rfl
    exact first.trans (ih _)

theorem follows_adopt (c : Client) : Follows c c.adopt := by
  let created := { c with
    servers := c.servers ++ (c.cluster.cluster.created.drop c.servers.length).map c.create }
  have first : Follows c created := .of_eq rfl rfl
  have closed :=
    created.follows_foldl_modifyServer (c.cluster.cluster.closings.drop c.closed) .close
  exact (first.trans closed).trans (.of_eq rfl rfl)

theorem follows_report (c : Client) {d : ServerDescription} (observed : d.Observed)
    (spawn : Address → Spawn) : Follows c (c.report d spawn) := by
  let reported := { c with cluster := c.cluster.onChange d spawn }
  have first : Follows c reported := by
    refine .of_step rfl (.onChange d spawn) rfl ?_
    intro d' spawn' same
    cases same
    exact observed
  exact first.trans reported.follows_adopt

theorem follows_foldl_report (c : Client) {news : List ServerDescription}
    (observed : ∀ d ∈ news, d.Observed) (spawn : Address → Spawn) :
    Follows c (news.foldl (fun c d => c.report d spawn) c) := by
  induction news generalizing c with
  | nil => exact .refl c
  | cons d news ih =>
    rw [List.forall_mem_cons] at observed
    exact (c.follows_report observed.1 spawn).trans (ih _ observed.2)

theorem follows_stepMonitor (c : Client) (serial : Nat) (e : Monitor.Event)
    (spawn : Address → Spawn) : Follows c (c.stepMonitor serial e spawn) := by
  unfold stepMonitor
  split
  · exact .refl c
  · next server _ =>
    obtain ⟨news, published, observed⟩ := server.monitor.news_step e
    simp only
    rw [published, List.drop_left]
    have first : Follows c (c.modifyServer serial fun server' =>
        { server' with monitor := server.monitor.step e }) := .of_eq rfl rfl
    exact first.trans (follows_foldl_report _ observed spawn)

theorem follows_close (c : Client) : Follows c c.close := by
  let closed := { c with cluster := c.cluster.close }
  let told := { c with cluster := c.cluster.close.notifyClosed }
  have first : Follows c closed := .of_step rfl .close rfl (by simp)
  have second : Follows closed told := .of_step rfl .notifyClosed rfl (by simp)
  exact (first.trans second).trans told.follows_adopt

theorem follows_step (c : Client) (e : Event) : Follows c (c.step e) := by
  cases e with
  | seek criterion timeout pick => exact .of_step rfl (.seek criterion timeout pick) rfl (by simp)
  | recheck name pick => exact .of_step rfl (.recheck name pick) rfl (by simp)
  | monitor serial e spawn => exact c.follows_stepMonitor serial e spawn
  | pool | issue => exact .of_eq rfl rfl
  | close => exact c.follows_close
  | tick elapsed => exact .of_step rfl (.tick elapsed) rfl (by simp)

theorem follows_run (c : Client) (events : List Event) : Follows c (c.run events) := by
  induction events generalizing c with
  | nil => exact .refl c
  | cons e events ih => exact (c.follows_step e).trans (ih (c.step e))

end

/-! ## Reachable clients -/

/-- What is true of a client in all states. -/
structure Reached (settings : ClientSettings) (c : Client) : Prop where
  settings_eq : c.settings = settings
  cluster_settings_eq : c.cluster.cluster.settings = settings.cluster
  consistent : c.cluster.cluster.Consistent
  inferred : c.cluster.cluster.Inferred
  named : c.cluster.Named

theorem reached_of_follows {settings : ClientSettings} {c c' : Client} (h : Reached settings c)
    (f : Follows c c') : Reached settings c' := by
  obtain ⟨settings_eq, events, cluster_eq, observed⟩ := f
  obtain ⟨consistent, cluster_settings_eq⟩ := Cluster.consistent_run h.consistent
    (events.filterMap ClusterSystem.Event.clusterEvent?)
  have cluster_run := c.cluster.cluster_run events
  rw [← cluster_eq] at cluster_run
  refine ⟨settings_eq.trans h.settings_eq, ?_, cluster_run ▸ consistent, ?_, ?_⟩
  · rw [cluster_run, cluster_settings_eq]
    exact h.cluster_settings_eq
  · rw [cluster_run]
    refine Cluster.inferred_run h.inferred h.consistent ?_
    intro d spawn hd
    obtain ⟨e, he, same⟩ := List.mem_filterMap.1 hd
    cases e with
    | onChange d' spawn' =>
      cases same
      exact observed d spawn he
    | _ => cases same
  · rw [cluster_eq]
    exact ClusterSystem.named_run h.named events

theorem reached_start {settings : ClientSettings} {dialer heartbeatDialer : Dialer}
    {spawn : Address → Spawn} {c : Client}
    (h : start settings dialer heartbeatDialer spawn = (.ok (), c)) : Reached settings c := by
  unfold start at h
  split at h
  · cases h
  · cases hs : Cluster.start settings.cluster spawn with
    | mk result cluster =>
      rw [hs] at h
      obtain ⟨rfl, rfl⟩ := Prod.mk.inj h
      have started := Cluster.started_of_start hs
      have reached : Reached settings
          { settings, cluster := { cluster }, dialer, heartbeatDialer } :=
        ⟨rfl, started.settings_eq, started.consistent, Cluster.inferred_of_started started,
          by simp, by simp⟩
      exact reached_of_follows reached (follows_adopt _)

theorem reached_run {settings : ClientSettings} {dialer heartbeatDialer : Dialer}
    {spawn : Address → Spawn} {c₀ : Client}
    (h : start settings dialer heartbeatDialer spawn = (.ok (), c₀)) (events : List Event) :
    Reached settings (c₀.run events) :=
  reached_of_follows (reached_start h) (c₀.follows_run events)

end Client

end ClusterClient

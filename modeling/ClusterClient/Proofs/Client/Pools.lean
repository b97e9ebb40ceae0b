import ClusterClient.Proofs.Client.Reach
import ClusterClient.Proofs.Pool.Barrier

/-!
# The pools of a client

A client makes a pool for each server that its cluster creates, and from then on does nothing to it
but steps of pools. So whatever is true of all pools in use is true of the pools of a client. There
is a server for each member of the cluster.

    Stocked settings dialer (c₀.run events)     for each client that was started       (stocked_run)
    server ∈ c.servers → server.pool is sound                              (Stocked.sound_of_mem)
-/

namespace ClusterClient

/-- A pool some time after it was created. -/
def PoolSystem.Runs (settings : PoolSettings) (dialer : Dialer) (s : PoolSystem) : Prop :=
  ∃ address clock events, s = (fresh address settings dialer clock).run events

namespace PoolSystem

variable {settings : PoolSettings} {dialer : Dialer} {s : PoolSystem}

theorem Runs.step (h : s.Runs settings dialer) (e : Event) : (s.step e).Runs settings dialer := by
  obtain ⟨address, clock, events, rfl⟩ := h
  exact ⟨address, clock, events ++ [e], (run_append _ events [e]).symm⟩

theorem Runs.dialer_eq (h : s.Runs settings dialer) : s.dialer = dialer := by
  obtain ⟨address, clock, events, rfl⟩ := h
  exact dialer_run _ events

theorem Runs.sound (h : s.Runs settings dialer) (valid : settings.validate = .ok ()) :
    s.ledger.Sound := by
  obtain ⟨address, clock, events, rfl⟩ := h
  have created : create address settings dialer clock = .ok (fresh address settings dialer clock) :=
    congrArg (Except.map _) valid
  exact sound_run created events

end PoolSystem

namespace Client

/-! ## Servers -/

/-- All pools are in use with these settings, and the cluster has no more servers than there are. -/
structure Stocked (settings : ClientSettings) (dialer : Dialer) (c : Client) : Prop where
  settings_eq : c.settings = settings
  dialer_eq : c.dialer = dialer
  runs : ∀ server ∈ c.servers, server.pool.Runs settings.pool dialer
  created_le : c.cluster.cluster.created.length ≤ c.servers.length

theorem Stocked.exists_server {settings : ClientSettings} {dialer : Dialer} {c : Client}
    (h : Stocked settings dialer c) (numbered : c.cluster.cluster.Numbered) {m : Member}
    (hm : m ∈ c.cluster.cluster.members) : ∃ server, c.servers[m.serial]? = some server := by
  have known : m.serial ∈ c.cluster.cluster.serials :=
    List.mem_append_left _ (List.mem_map_of_mem hm)
  have lt := List.mem_range.1 (numbered.mem_iff.1 known)
  exact ⟨_, List.getElem?_eq_getElem (Nat.lt_of_lt_of_le lt h.created_le)⟩

section

variable {settings : ClientSettings} {dialer : Dialer} {c : Client}

theorem runs_modifyServer (h : ∀ server ∈ c.servers, server.pool.Runs settings.pool dialer)
    (serial : Nat) {f : Server → Server}
    (kept : ∀ server : Server, server.pool.Runs settings.pool dialer →
      (f server).pool.Runs settings.pool dialer) :
    ∀ server ∈ (c.modifyServer serial f).servers, server.pool.Runs settings.pool dialer := by
  intro server hs
  obtain ⟨i, hi⟩ := List.mem_iff_getElem?.1 hs
  rw [modifyServer, List.getElem?_modify] at hi
  obtain ⟨old, hold, rfl⟩ := Option.map_eq_some_iff.1 hi
  have known := h old (List.mem_of_getElem? hold)
  split
  · exact kept old known
  · exact known

theorem Stocked.modifyServer (h : Stocked settings dialer c) (serial : Nat) {f : Server → Server}
    (kept : ∀ server : Server, server.pool.Runs settings.pool dialer →
      (f server).pool.Runs settings.pool dialer) :
    Stocked settings dialer (c.modifyServer serial f) where
  settings_eq := h.settings_eq
  dialer_eq := h.dialer_eq
  runs := runs_modifyServer h.runs serial kept
  created_le := Nat.le_trans h.created_le (Nat.le_of_eq (List.length_modify ..).symm)

theorem Stocked.foldl_modifyServer (h : Stocked settings dialer c) (serials : List Nat)
    {f : Server → Server} (kept : ∀ server : Server, server.pool.Runs settings.pool dialer →
      (f server).pool.Runs settings.pool dialer) :
    Stocked settings dialer (serials.foldl (fun c serial => c.modifyServer serial f) c) := by
  induction serials generalizing c with
  | nil => exact h
  | cons serial serials ih => exact ih (h.modifyServer serial kept)

/-- A client that has new pools for the new servers, whatever its cluster has become. -/
theorem stocked_adopt (settings_eq : c.settings = settings) (dialer_eq : c.dialer = dialer)
    (runs : ∀ server ∈ c.servers, server.pool.Runs settings.pool dialer) :
    Stocked settings dialer c.adopt := by
  let new := (c.cluster.cluster.created.drop c.servers.length).map c.create
  have created : Stocked settings dialer { c with servers := c.servers ++ new } := by
    refine ⟨settings_eq, dialer_eq, List.forall_mem_append.2 ⟨runs, fun server hs => ?_⟩, ?_⟩
    · obtain ⟨address, -, rfl⟩ := List.mem_map.1 hs
      rw [← settings_eq, ← dialer_eq]
      exact ⟨address, c.cluster.clock, [], rfl⟩
    · simp only [new, List.length_append, List.length_map, List.length_drop]
      omega
  have closed := created.foldl_modifyServer (c.cluster.cluster.closings.drop c.closed)
    (f := .close) fun server h => h.step .close
  exact ⟨closed.settings_eq, closed.dialer_eq, closed.runs, closed.created_le⟩

/-! ## Steps -/

theorem Stocked.report (h : Stocked settings dialer c) (d : ServerDescription)
    (spawn : Address → Spawn) : Stocked settings dialer (c.report d spawn) :=
  stocked_adopt h.settings_eq h.dialer_eq h.runs

theorem Stocked.foldl_report (h : Stocked settings dialer c) (news : List ServerDescription)
    (spawn : Address → Spawn) :
    Stocked settings dialer (news.foldl (fun c d => c.report d spawn) c) := by
  induction news generalizing c with
  | nil => exact h
  | cons d news ih => exact ih (h.report d spawn)

/-- An event of the cluster that creates no server. -/
theorem Stocked.of_cluster_eq (h : Stocked settings dialer c) {cluster : ClusterSystem}
    (same : cluster.cluster = c.cluster.cluster) : Stocked settings dialer { c with cluster } :=
  ⟨h.settings_eq, h.dialer_eq, h.runs, same ▸ h.created_le⟩

theorem stocked_step (h : Stocked settings dialer c) (e : Event) :
    Stocked settings dialer (c.step e) := by
  cases e with
  | seek criterion timeout pick =>
    exact h.of_cluster_eq (c.cluster.cluster_step (.seek criterion timeout pick))
  | recheck name pick => exact h.of_cluster_eq (c.cluster.cluster_step (.recheck name pick))
  | monitor serial event spawn =>
    show Stocked settings dialer (c.stepMonitor serial event spawn)
    unfold stepMonitor
    split
    · exact h
    · next server _ =>
      let f (s : Server) : Server := { s with monitor := server.monitor.step event }
      exact (h.modifyServer serial (f := f) fun _ runs => runs).foldl_report _ spawn
  | pool serial event => exact h.modifyServer serial fun _ runs => runs.step event
  | issue => exact ⟨h.settings_eq, h.dialer_eq, h.runs, h.created_le⟩
  | close => exact stocked_adopt h.settings_eq h.dialer_eq h.runs
  | tick elapsed => exact h.of_cluster_eq (c.cluster.cluster_step (.tick elapsed))

theorem Stocked.run (h : Stocked settings dialer c) (events : List Event) :
    Stocked settings dialer (c.run events) := by
  induction events generalizing c with
  | nil => exact h
  | cons e events ih => exact ih (stocked_step h e)

/-! ## Runs -/

variable {heartbeatDialer : Dialer} {spawn : Address → Spawn}

/-- A client begins with the servers of its cluster. -/
theorem eq_adopt_of_start (h : start settings dialer heartbeatDialer spawn = (.ok (), c)) :
    settings.validate = .ok () ∧ c = adopt {
      settings, cluster := { cluster := (Cluster.start settings.cluster spawn).2 }, dialer
      heartbeatDialer } := by
  unfold start at h
  split at h
  · cases h
  · next valid =>
    cases hs : Cluster.start settings.cluster spawn with
    | mk result cluster =>
      rw [hs] at h
      exact ⟨valid, (congrArg Prod.snd h).symm⟩

theorem validate_of_start (h : start settings dialer heartbeatDialer spawn = (.ok (), c)) :
    settings.pool.validate = .ok () := by
  have valid := (eq_adopt_of_start h).1
  simp only [ClientSettings.validate, bind, Except.bind] at valid
  grind

theorem numbered_run (h : start settings dialer heartbeatDialer spawn = (.ok (), c))
    (events : List Event) : (c.run events).cluster.cluster.Numbered := by
  obtain ⟨-, events, cluster_eq, -⟩ := c.follows_run events
  rw [cluster_eq]
  refine ClusterSystem.numbered_run ?_ events
  rw [(eq_adopt_of_start h).2]
  obtain ⟨-, events, cluster_eq, -⟩ := follows_adopt {
    settings, cluster := { cluster := (Cluster.start settings.cluster spawn).2 }, dialer
    heartbeatDialer }
  rw [cluster_eq]
  exact ClusterSystem.numbered_run (Cluster.numbered_start settings.cluster spawn) events

theorem stocked_run (h : start settings dialer heartbeatDialer spawn = (.ok (), c))
    (events : List Event) : Stocked settings dialer (c.run events) := by
  refine Stocked.run ?_ events
  rw [(eq_adopt_of_start h).2]
  exact stocked_adopt rfl rfl (by simp)

end

end Client

end ClusterClient

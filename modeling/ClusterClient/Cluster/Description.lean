import ClusterClient.Server.Description

/-!
# Cluster descriptions

A snapshot of all servers that are monitored, in ascending order of their addresses. The type of
the cluster is the one type that all connected servers agree on, as far as they tell.

    (ofServers m t servers).servers is a permutation of servers     (perm_ofServers)
-/

namespace ClusterClient

structure ClusterDescription where
  mode : ConnectionMode
  type : ClusterType
  servers : List ServerDescription
deriving DecidableEq

namespace ClusterDescription

/-! ## Algorithm -/

def ofServers (mode : ConnectionMode) (type : ClusterType) (servers : List ServerDescription) :
    ClusterDescription :=
  ⟨mode, type, servers.mergeSort fun a b => a.address.le b.address⟩

/-- The types that connected servers tell. -/
def toldTypes (servers : List ServerDescription) : List ClusterType :=
  ((servers.filter (·.isConnected)).map (·.type.clusterType)).filter (· != .unknown)

/-- The type that all connected servers agree on, unknown if there is none. -/
def inferType (servers : List ServerDescription) : ClusterType :=
  match toldTypes servers with
  | t :: ts => if ts.all (· == t) then t else .unknown
  | [] => .unknown

def infer (mode : ConnectionMode) (servers : List ServerDescription) : ClusterDescription :=
  ofServers mode (inferType servers) servers

def get? (c : ClusterDescription) (address : Address) : Option ServerDescription :=
  c.servers.find? fun s => s.address == address

def connected (c : ClusterDescription) : List ServerDescription := c.servers.filter (·.isConnected)

def primaries (c : ClusterDescription) : List ServerDescription := c.servers.filter (·.isPrimary)

def secondaries (c : ClusterDescription) : List ServerDescription :=
  c.servers.filter (·.isSecondary)

def shardRouters (c : ClusterDescription) : List ServerDescription :=
  c.servers.filter (·.isShardRouter)

def text (c : ClusterDescription) : String :=
  "\x7bmode: " ++ c.mode.label ++ ", type: " ++ c.type.label ++ ", servers: [" ++
    ", ".intercalate (c.servers.map (·.text)) ++ "]\x7d"

/-! ## Lemmas -/

theorem perm_ofServers (mode : ConnectionMode) (type : ClusterType)
    (servers : List ServerDescription) :
    (ofServers mode type servers).servers.Perm servers :=
  List.mergeSort_perm ..

theorem mem_ofServers {mode : ConnectionMode} {type : ClusterType}
    {servers : List ServerDescription} {s : ServerDescription} :
    s ∈ (ofServers mode type servers).servers ↔ s ∈ servers :=
  (perm_ofServers mode type servers).mem_iff

end ClusterDescription

end ClusterClient

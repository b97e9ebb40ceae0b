/-!
# Types of servers and clusters

What a server turned out to be, and the kind of deployment that a server of this type belongs to.
-/

namespace ClusterClient

inductive ClusterType where
  | standalone
  | replicaSet
  | sharded
  | unknown
deriving DecidableEq, Repr

def ClusterType.label : ClusterType → String
  | standalone => "Standalone"
  | replicaSet => "ReplicaSet"
  | sharded => "Sharded"
  | unknown => "Unknown"

inductive ServerType where
  | standalone
  | replicaSetPrimary
  | replicaSetSecondary
  | replicaSetArbiter
  | replicaSetOther
  | shardRouter
  | unknown
deriving DecidableEq, Repr

namespace ServerType

def label : ServerType → String
  | standalone => "Standalone"
  | replicaSetPrimary => "ReplicaSetPrimary"
  | replicaSetSecondary => "ReplicaSetSecondary"
  | replicaSetArbiter => "ReplicaSetArbiter"
  | replicaSetOther => "ReplicaSetOther"
  | shardRouter => "ShardRouter"
  | unknown => "Unknown"

def clusterType : ServerType → ClusterType
  | standalone => .standalone
  | replicaSetPrimary | replicaSetSecondary | replicaSetArbiter | replicaSetOther => .replicaSet
  | shardRouter => .sharded
  | unknown => .unknown

end ServerType

end ClusterClient

import ClusterClient.Server.Type
import ClusterClient.Settings.Decode

/-!
# Probe replies

What a server says about itself when it is probed. A shard router names itself by its message;
otherwise a set name makes it a member of a replica set, of which a hidden member counts as
"other" whatever else it says.
-/

namespace ClusterClient

structure ProbeReply where
  isOk : Bool := true
  errmsg : Option String := none
  isMaster : Bool := false
  secondary : Bool := false
  arbiterOnly : Bool := false
  hidden : Bool := false
  msg : Option String := none
  setName : Option String := none
  hosts : List Address := []
  passives : List Address := []
  arbiters : List Address := []
  primary : Option Address := none
  tags : TagSet := .empty
  minWireVersion : Int32 := 0
  maxWireVersion : Int32 := 0
deriving DecidableEq

namespace ProbeReply

def serverType (r : ProbeReply) : ServerType :=
  if r.msg = some "isdbgrid" then .shardRouter
  else if r.setName.isNone then .standalone
  else if r.hidden then .replicaSetOther
  else if r.isMaster then .replicaSetPrimary
  else if r.secondary then .replicaSetSecondary
  else if r.arbiterOnly then .replicaSetArbiter
  else .replicaSetOther

def ofJson : Json → Except Refusal ProbeReply :=
  Json.foldFields (fun r key value => do
    match key with
    | "ok" => return { r with isOk := ← value.asIsOne }
    | "errmsg" => return { r with errmsg := ← value.asOptional Json.asText }
    | "ismaster" => return { r with isMaster := ← value.asBool }
    | "secondary" => return { r with secondary := ← value.asBool }
    | "arbiterOnly" => return { r with arbiterOnly := ← value.asBool }
    | "hidden" => return { r with hidden := ← value.asBool }
    | "msg" => return { r with msg := ← value.asOptional Json.asText }
    | "setName" => return { r with setName := ← value.asOptional Json.asText }
    | "hosts" => return { r with hosts := ← value.asList Address.ofJson }
    | "passives" => return { r with passives := ← value.asList Address.ofJson }
    | "arbiters" => return { r with arbiters := ← value.asList Address.ofJson }
    | "primary" => return { r with primary := ← value.asOptional Address.ofJson }
    | "tags" => return { r with tags := ← TagSet.ofJson value }
    | "minWireVersion" => return { r with minWireVersion := ← value.asInt32 }
    | "maxWireVersion" => return { r with maxWireVersion := ← value.asInt32 }
    | _ => return r) {}

end ProbeReply

end ClusterClient

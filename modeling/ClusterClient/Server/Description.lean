import ClusterClient.Server.Reply

/-!
# Server descriptions

What is known about one server: a snapshot that the next probe replaces. A server counts for
selection only while it is connected; what it reported is kept for diagnostics even if it was
declared unusable.

    (s.unusable e).isConnected = false     (isConnected_unusable)
-/

namespace ClusterClient

inductive ServerState where
  | connecting
  | connected
  | unknown
deriving DecidableEq, Repr

def ServerState.label : ServerState → String
  | connecting => "Connecting"
  | connected => "Connected"
  | unknown => "Unknown"

structure ServerDescription where
  address : Address
  state : ServerState := .connecting
  type : ServerType := .unknown
  /-- The smoothed round trip time of the probes. -/
  latency : Duration := .zero
  tags : TagSet := .empty
  setName : Option String := none
  hosts : List Address := []
  passives : List Address := []
  arbiters : List Address := []
  primary : Option Address := none
  minWireVersion : Int32 := 0
  maxWireVersion : Int32 := 0
  /-- The failure that made the server unknown. -/
  error : Option String := none
deriving DecidableEq

namespace ServerDescription

/-! ## Algorithm -/

/-- A server that has not been probed yet. -/
def fresh (address : Address) : ServerDescription := { address }

/-- A server that could not be probed. -/
def unknown (address : Address) (error : String) : ServerDescription :=
  { address, state := .unknown, error := some error }

def ofReply (address : Address) (r : ProbeReply) (latency : Duration) : ServerDescription where
  address := address
  state := .connected
  type := r.serverType
  latency := latency
  tags := r.tags
  setName := r.setName
  hosts := r.hosts
  passives := r.passives
  arbiters := r.arbiters
  primary := r.primary
  minWireVersion := r.minWireVersion
  maxWireVersion := r.maxWireVersion

def isConnected (s : ServerDescription) : Bool := s.state == .connected

def isPrimary (s : ServerDescription) : Bool := s.isConnected && s.type == .replicaSetPrimary

def isSecondary (s : ServerDescription) : Bool := s.isConnected && s.type == .replicaSetSecondary

def isShardRouter (s : ServerDescription) : Bool := s.isConnected && s.type == .shardRouter

def isReplicaSetMember (s : ServerDescription) : Bool :=
  s.isConnected && s.type.clusterType == .replicaSet

def hasTags (s : ServerDescription) (wanted : TagSet) : Bool := wanted.matches s.tags

/-- All members of the replica set that the server reported. -/
def reported (s : ServerDescription) : List Address := s.hosts ++ s.passives ++ s.arbiters

/-- A connected server has to name the replica set that is required, if one is. -/
def checkSetName (s : ServerDescription) (required : Option String) : Except Error Unit :=
  match required with
  | some name =>
    if s.isConnected ∧ s.setName ≠ some name then
      .error (.replicaSetMismatch s.address name (s.setName.getD ""))
    else .ok ()
  | none => .ok ()

/-- The same server excluded from selection. -/
def unusable (s : ServerDescription) (error : String) : ServerDescription :=
  { s with state := .unknown, type := .unknown, error := some error }

def text (s : ServerDescription) : String :=
  "\x7b" ++ s.address.text ++ " " ++ s.state.label ++ " " ++ s.type.label ++ " " ++
    s.latency.text ++ (match s.error with
      | some e => " error: " ++ e
      | none => "") ++ "\x7d"

/-! ## Lemmas -/

theorem isConnected_unusable (s : ServerDescription) (e : String) :
    (s.unusable e).isConnected = false := rfl

theorem isConnected_ofReply (address : Address) (r : ProbeReply) (latency : Duration) :
    (ofReply address r latency).isConnected = true := rfl

end ServerDescription

end ClusterClient

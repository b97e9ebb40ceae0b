import ClusterClient.ReadPreference

/-!
# Settings

Everything that is configured from outside, with its defaults and with the checks that have to
pass before it is used. A zero time limit of a socket or of a pooled connection means no limit.
-/

namespace ClusterClient

/-- The largest number of a 64 bit word. -/
def wordMax : Nat := 18446744073709551615

/-- Whether a client talks to one server directly or finds the members of a deployment itself. -/
inductive ConnectionMode where
  | single
  | multiple
deriving DecidableEq, Repr

namespace ConnectionMode

/-- The name of the mode in settings. -/
def key : ConnectionMode → String
  | single => "single"
  | multiple => "multiple"

/-- The name of the mode in debug texts. -/
def label : ConnectionMode → String
  | single => "Single"
  | multiple => "Multiple"

def ofKey? : String → Option ConnectionMode
  | "single" => some single
  | "multiple" => some multiple
  | _ => none

end ConnectionMode

structure SocketSettings where
  connectTimeout : Duration := .ofSeconds 10
  readTimeout : Duration := .zero
deriving DecidableEq, Repr

structure PoolSettings where
  minSize : Nat := 0
  maxSize : Nat := 100
  waitQueueMultiplier : Nat := 5
  maxWaitTime : Duration := .ofSeconds 120
  maxIdleTime : Duration := .zero
  maxLifeTime : Duration := .zero
  maintenanceFrequency : Duration := .ofSeconds 60
deriving DecidableEq, Repr

structure ServerSettings where
  heartbeatFrequency : Duration := .ofSeconds 5
  heartbeatConnectRetryFrequency : Duration := .ofMillis 10
  heartbeatSocket : SocketSettings := ⟨.ofSeconds 20, .ofSeconds 20⟩
  heartbeatThreadCount : Nat := 1
deriving DecidableEq, Repr

structure ClusterSettings where
  hosts : List Address := [Address.localhost]
  mode? : Option ConnectionMode := none
  requiredReplicaSetName : Option String := none
  serverSelectionTimeout : Duration := .ofSeconds 30
deriving DecidableEq, Repr

structure MessageSettings where
  maxMessageSize : Nat := 48000000
  maxDocumentSize : Nat := 16777216
deriving DecidableEq, Repr

/-- How much slower than the fastest server a server may be and still be selected. -/
def defaultLatencyWindow : Duration := .ofMillis 15

structure ClientSettings where
  cluster : ClusterSettings := {}
  server : ServerSettings := {}
  pool : PoolSettings := {}
  socket : SocketSettings := {}
  message : MessageSettings := {}
  readPreference : ReadPreference := {}
  acceptableLatencyDifference : Duration := defaultLatencyWindow
deriving DecidableEq

namespace PoolSettings

/-- How many callers may wait for a connection at a time. -/
def maxWaitQueueSize (s : PoolSettings) : Nat :=
  min (s.maxSize * s.waitQueueMultiplier) wordMax

def validate (s : PoolSettings) : Except Error Unit :=
  if s.maxSize = 0 then .error (.invalidSettings "maxSize must be greater than zero")
  else if s.maxSize < s.minSize then
    .error (.invalidSettings ("minSize (" ++ toString s.minSize ++ ") must not exceed maxSize (" ++
      toString s.maxSize ++ ")"))
  else if s.waitQueueMultiplier = 0 then
    .error (.invalidSettings "waitQueueMultiplier must be greater than zero")
  else if s.maintenanceFrequency = .zero then
    .error (.invalidSettings "maintenanceFrequency must be greater than zero")
  else .ok ()

/-- Whether a pool with these settings has work that is due by itself: connections to keep ready
or connections that run out. -/
def needsMaintenance (s : PoolSettings) : Bool :=
  0 < s.minSize || s.maxIdleTime != .zero || s.maxLifeTime != .zero

theorem validate_eq_ok_iff {s : PoolSettings} :
    s.validate = .ok () ↔
      0 < s.maxSize ∧ s.minSize ≤ s.maxSize ∧ 0 < s.waitQueueMultiplier ∧
        s.maintenanceFrequency ≠ .zero := by
  unfold validate
  split
  · simp_all
  · split
    · simp; omega
    · split
      · simp_all
      · split
        · simp_all
        · simp_all; omega

end PoolSettings

namespace ServerSettings

def validate (s : ServerSettings) : Except Error Unit :=
  if s.heartbeatFrequency = .zero then
    .error (.invalidSettings "heartbeatFrequency must be greater than zero")
  else if s.heartbeatConnectRetryFrequency = .zero then
    .error (.invalidSettings "heartbeatConnectRetryFrequency must be greater than zero")
  else if s.heartbeatThreadCount = 0 then
    .error (.invalidSettings "heartbeatThreadCount must be greater than zero")
  else .ok ()

end ServerSettings

namespace ClusterSettings

/-- The mode that is set, or else a direct connection to a single host. -/
def mode (s : ClusterSettings) : ConnectionMode :=
  s.mode?.getD (if s.hosts.length = 1 then .single else .multiple)

def validate (s : ClusterSettings) : Except Error Unit :=
  if s.hosts = [] then .error (.invalidSettings "at least one host is required")
  else if s.mode = .single ∧ 1 < s.hosts.length then
    .error (.invalidSettings ("single mode requires exactly one host, got " ++
      toString s.hosts.length))
  else .ok ()

end ClusterSettings

namespace ClientSettings

def validate (s : ClientSettings) : Except Error Unit := do
  s.cluster.validate
  s.server.validate
  s.pool.validate
  s.readPreference.validate

end ClientSettings

end ClusterClient

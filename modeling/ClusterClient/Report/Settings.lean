import ClusterClient.Credential
import ClusterClient.Report.Description
import ClusterClient.Settings.Basic

/-!
# Reports of settings

Settings with everything that is derived from them and the outcome of their check. Sizes and
durations are reported as texts, durations in nanoseconds.
-/

namespace ClusterClient

def ReadPreference.report (p : ReadPreference) : Json :=
  .object [("mode", .string p.mode.label), ("tagSets", .list TagSet.report p.tagSets),
    ("slaveOk", .bool p.isSlaveOk)]

/-- A credential with its password, which debug texts hide. -/
def Credential.report (c : Credential) : Json :=
  .object [("username", .ofOption .string c.username), ("password", .ofOption .string c.password),
    ("source", .string c.source), ("mechanism", .ofOption (fun m => .string m.name) c.mechanism),
    ("debug", .string c.debugText)]

def SocketSettings.report (s : SocketSettings) : Json :=
  .object [("connectTimeout", .nanos s.connectTimeout), ("readTimeout", .nanos s.readTimeout)]

def MessageSettings.report (s : MessageSettings) : Json :=
  .object [("maxMessageSize", .numeral s.maxMessageSize),
    ("maxDocumentSize", .numeral s.maxDocumentSize)]

def PoolSettings.report (s : PoolSettings) : Json :=
  .object [("minSize", .numeral s.minSize), ("maxSize", .numeral s.maxSize),
    ("waitQueueMultiplier", .numeral s.waitQueueMultiplier),
    ("maxWaitQueueSize", .numeral s.maxWaitQueueSize), ("maxWaitTime", .nanos s.maxWaitTime),
    ("maxIdleTime", .nanos s.maxIdleTime), ("maxLifeTime", .nanos s.maxLifeTime),
    ("maintenanceFrequency", .nanos s.maintenanceFrequency), ("invalid", checkReport s.validate)]

def ServerSettings.report (s : ServerSettings) : Json :=
  .object [("heartbeatFrequency", .nanos s.heartbeatFrequency),
    ("heartbeatConnectRetryFrequency", .nanos s.heartbeatConnectRetryFrequency),
    ("heartbeatSocket", s.heartbeatSocket.report),
    ("heartbeatThreadCount", .numeral s.heartbeatThreadCount), ("invalid", checkReport s.validate)]

def ClusterSettings.report (s : ClusterSettings) : Json :=
  .object [("hosts", addressesReport s.hosts),
    ("mode", .ofOption (fun m => .string m.label) s.mode?),
    ("effectiveMode", .string s.mode.label),
    ("requiredReplicaSetName", .ofOption .string s.requiredReplicaSetName),
    ("serverSelectionTimeout", .nanos s.serverSelectionTimeout),
    ("invalid", checkReport s.validate)]

def ClientSettings.report (s : ClientSettings) : Json :=
  .object [("cluster", s.cluster.report), ("server", s.server.report), ("pool", s.pool.report),
    ("socket", s.socket.report), ("message", s.message.report),
    ("readPreference", s.readPreference.report),
    ("acceptableLatencyDifference", .nanos s.acceptableLatencyDifference),
    ("invalid", checkReport s.validate)]

end ClusterClient

import ClusterClient.Cluster.Description
import ClusterClient.Report.Failure

/-!
# Reports of servers and clusters

What is known about servers, what they said about themselves, and the snapshot of a cluster.
-/

namespace ClusterClient

def Address.report (a : Address) : Json := .string a.text

def addressesReport (addresses : List Address) : Json := .list Address.report addresses

/-- The tags as pairs of name and value. -/
def TagSet.report (tags : TagSet) : Json :=
  .list (fun e => .array [.string e.1, .string e.2]) tags.entries

namespace ServerDescription

def fields (s : ServerDescription) : List (String × Json) :=
  [("address", s.address.report), ("state", .string s.state.label),
    ("type", .string s.type.label), ("tags", s.tags.report),
    ("setName", .ofOption .string s.setName), ("hosts", addressesReport s.hosts),
    ("passives", addressesReport s.passives), ("arbiters", addressesReport s.arbiters),
    ("primary", .ofOption Address.report s.primary),
    ("wire", .array [.integer s.minWireVersion.toInt, .integer s.maxWireVersion.toInt]),
    ("error", .ofOption .string s.error)]

def report (s : ServerDescription) : Json := .object s.fields

def reportWithLatency (s : ServerDescription) : Json :=
  .object (s.fields ++ [("latency", .nanos s.latency), ("display", .string s.text)])

/-- A server on one line. -/
def brief (s : ServerDescription) : Json :=
  .array [s.address.report, .string s.state.label, .string s.type.label,
    .ofOption .string s.setName, .ofOption .string s.error]

end ServerDescription

/-- A cluster with one line for each server. -/
def ClusterDescription.brief (c : ClusterDescription) : Json :=
  .object [("mode", .string c.mode.label), ("type", .string c.type.label),
    ("servers", .list ServerDescription.brief c.servers)]

def ProbeReply.report (r : ProbeReply) : Json :=
  .object [("isOk", .bool r.isOk), ("serverType", .string r.serverType.label),
    ("clusterType", .string r.serverType.clusterType.label), ("errmsg", .ofOption .string r.errmsg),
    ("ismaster", .bool r.isMaster), ("secondary", .bool r.secondary),
    ("arbiterOnly", .bool r.arbiterOnly), ("hidden", .bool r.hidden),
    ("msg", .ofOption .string r.msg), ("setName", .ofOption .string r.setName),
    ("hosts", addressesReport r.hosts), ("passives", addressesReport r.passives),
    ("arbiters", addressesReport r.arbiters), ("primary", .ofOption Address.report r.primary),
    ("tags", r.tags.report),
    ("wire", .array [.integer r.minWireVersion.toInt, .integer r.maxWireVersion.toInt])]

end ClusterClient

import ClusterClient.Cluster.Description
import ClusterClient.Selection.Window

/-!
# Server selectors

A selector narrows a snapshot of the cluster down to the servers that an operation may run on.
All but one depend on the snapshot alone. The sticky router selector keeps using one router of a
sharded cluster as long as it stays connected; the router that it holds goes in and out as a value.

With a direct connection there is nothing to choose from: the connected server is taken.

There is no answer where a latency window reaches beyond the longest duration.

A caller may as well bring a rule of its own. All that a search knows of either is its `Criterion`.
-/

namespace ClusterClient

inductive Selector where
  | primary
  | readPreference (preference : ReadPreference) (window : Duration)
  | latency (window : Duration)
  | sticky
  /-- Each selector works on what the one before it left. -/
  | composite (members : List Selector)

/-! ## Single selectors -/

/-- The candidates with the tags of the first tag set that any of them has. -/
def ReadPreference.tagged (p : ReadPreference) (candidates : List ServerDescription) :
    List ServerDescription :=
  if p.tagSets.isEmpty then candidates
  else
    let choices := p.tagSets.map fun tags => candidates.filter (·.hasTags tags)
    (choices.find? fun choice => !choice.isEmpty).getD []

/-- The members of a replica set that the preference allows. -/
def ReadPreference.selectMembers (p : ReadPreference) (window : Duration)
    (cluster : ClusterDescription) : Option (List ServerDescription) :=
  match p.mode with
  | .primary => some cluster.primaries
  | .primaryPreferred =>
    some (if cluster.primaries.isEmpty then p.tagged cluster.secondaries else cluster.primaries)
  | .secondary => some (p.tagged cluster.secondaries)
  | .secondaryPreferred =>
    let secondaries := p.tagged cluster.secondaries
    some (if secondaries.isEmpty then cluster.primaries else secondaries)
  | .nearest => withinWindow (p.tagged (cluster.primaries ++ cluster.secondaries)) window

def ReadPreference.select (p : ReadPreference) (window : Duration) (cluster : ClusterDescription) :
    Option (List ServerDescription) :=
  match cluster.mode, cluster.type with
  | .single, _ => some cluster.connected
  | .multiple, .standalone | .multiple, .sharded => some cluster.connected
  | .multiple, .unknown => some []
  | .multiple, .replicaSet => p.selectMembers window cluster

def selectPrimary (cluster : ClusterDescription) : List ServerDescription :=
  match cluster.mode with
  | .single => cluster.connected
  | .multiple => cluster.primaries

/-- The router that is held, if it is still connected, or else the fastest one, which is held from
then on. Clusters of other types are left alone. -/
def selectSticky (cluster : ClusterDescription) (held : Option Address) :
    List ServerDescription × Option Address :=
  if cluster.type ≠ .sharded then (cluster.servers, held)
  else match (held.bind cluster.get?).filter (·.isShardRouter) with
    | some router => ([router], held)
    | none =>
      let router := fastest? cluster.shardRouters
      (router.toList, router.map (·.address))

/-! ## All selectors -/

namespace Selector

mutual

/-- The servers selected, and the router held afterwards. -/
def select : Selector → ClusterDescription → Option Address →
    Option (List ServerDescription × Option Address)
  | .primary, cluster, held => some (selectPrimary cluster, held)
  | .readPreference p window, cluster, held => (p.select window cluster).map fun s => (s, held)
  | .latency window, cluster, held => (withinWindow cluster.connected window).map fun s => (s, held)
  | .sticky, cluster, held => some (selectSticky cluster held)
  | .composite members, cluster, held => narrow members cluster cluster.servers held

/-- Runs selectors one after the other until nothing is left. -/
def narrow : List Selector → ClusterDescription → List ServerDescription → Option Address →
    Option (List ServerDescription × Option Address)
  | [], _, candidates, held => some (candidates, held)
  | member :: members, cluster, candidates, held =>
    match member.select (.ofServers cluster.mode cluster.type candidates) held with
    | none => none
    | some (left, held) =>
      if left.isEmpty then some ([], held) else narrow members cluster left held

end

/-! ## Debug text -/

end Selector

def TagSet.debugText (tags : TagSet) : String :=
  "TagSet(\x7b" ++
    ", ".intercalate (tags.entries.map fun e => Text.quoted e.1 ++ ": " ++ Text.quoted e.2) ++
    "\x7d)"

def ReadPreference.debugText (p : ReadPreference) : String :=
  "ReadPreference \x7b mode: " ++ p.mode.label ++ ", tag_sets: [" ++
    ", ".intercalate (p.tagSets.map (·.debugText)) ++ "] \x7d"

namespace Selector

mutual

def debugText : Selector → String
  | .primary => "PrimaryServerSelector"
  | .readPreference p window =>
    "ReadPreferenceServerSelector \x7b read_preference: " ++ p.debugText ++
      ", acceptable_latency_difference: " ++ window.text ++ " \x7d"
  | .latency window =>
    "LatencyMinimizingServerSelector \x7b acceptable_latency_difference: " ++ window.text ++ " \x7d"
  | .sticky => "MongosHaServerSelector"
  | .composite members => "CompositeServerSelector([" ++ debugTexts members ++ "])"

def debugTexts : List Selector → String
  | [] => ""
  | [member] => member.debugText
  | member :: members => member.debugText ++ ", " ++ debugTexts members

end

/-! ## Criteria -/

end Selector

/-- What a search selects by: the servers selected from a snapshot and the router held afterwards,
if there is an answer, and the text that stands for the rule in errors. -/
structure Criterion where
  debugText : String
  select : ClusterDescription → Option Address → Option (List ServerDescription × Option Address)

namespace Selector

def criterion (s : Selector) : Criterion where
  debugText := s.debugText
  select := s.select

instance : Coe Selector Criterion := ⟨criterion⟩

/-! ## Sticky members -/

mutual

/-- Whether the sticky router selector takes part. -/
def hasSticky : Selector → Bool
  | .sticky => true
  | .composite members => anySticky members
  | _ => false

def anySticky : List Selector → Bool
  | [] => false
  | member :: members => member.hasSticky || anySticky members

end

end Selector

end ClusterClient

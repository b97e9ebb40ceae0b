import ClusterClient.Cluster.Description

/-!
# Commands

The commands that are known, and which of them have to run on the primary of a replica set. A
command that can write its result into a collection has to if it does, and one that writes
unless told otherwise has to unless it is told.

    Command.ofName c.label = c                                        (ofName_label)
    a command for the primary only, in no direct connection and no
    sharded cluster, runs with the read preference primary            (resolve_of_isPrimaryOnly)
-/

namespace ClusterClient

/-- Where a command that can write its result puts it. -/
inductive CommandOutput where
  | unspecified
  | inline
  | collection
deriving DecidableEq, Repr

def CommandOutput.label : CommandOutput → String
  | unspecified => "Unspecified"
  | inline => "Inline"
  | collection => "Collection"

inductive Command where
  | aggregate
  | collStats
  | count
  | dbStats
  | distinct
  | geoNear
  | geoSearch
  | geoWalk
  | group
  | isMaster
  | mapReduce
  | parallelCollectionScan
  | replSetGetStatus
  | text
  | compact
  | create
  | createIndexes
  | delete
  | drop
  | dropDatabase
  | dropIndexes
  | findAndModify
  | fsync
  | insert
  | renameCollection
  | replSetFreeze
  | replSetReconfig
  | replSetStepDown
  | shutdown
  | update
  | unknown
deriving DecidableEq, Repr

namespace Command

/-- The name of the command in upper camel case. -/
def label : Command → String
  | aggregate => "Aggregate"
  | collStats => "CollStats"
  | count => "Count"
  | dbStats => "DbStats"
  | distinct => "Distinct"
  | geoNear => "GeoNear"
  | geoSearch => "GeoSearch"
  | geoWalk => "GeoWalk"
  | group => "Group"
  | isMaster => "IsMaster"
  | mapReduce => "MapReduce"
  | parallelCollectionScan => "ParallelCollectionScan"
  | replSetGetStatus => "ReplSetGetStatus"
  | text => "Text"
  | compact => "Compact"
  | create => "Create"
  | createIndexes => "CreateIndexes"
  | delete => "Delete"
  | drop => "Drop"
  | dropDatabase => "DropDatabase"
  | dropIndexes => "DropIndexes"
  | findAndModify => "FindAndModify"
  | fsync => "Fsync"
  | insert => "Insert"
  | renameCollection => "RenameCollection"
  | replSetFreeze => "ReplSetFreeze"
  | replSetReconfig => "ReplSetReconfig"
  | replSetStepDown => "ReplSetStepDown"
  | shutdown => "Shutdown"
  | update => "Update"
  | unknown => "Unknown"

/-- The commands that have a name. -/
def named : List Command :=
  [aggregate, collStats, count, dbStats, distinct, geoNear, geoSearch, geoWalk, group, isMaster,
    mapReduce, parallelCollectionScan, replSetGetStatus, text, compact, create, createIndexes,
    delete, drop, dropDatabase, dropIndexes, findAndModify, fsync, insert, renameCollection,
    replSetFreeze, replSetReconfig, replSetStepDown, shutdown, update]

/-- ASCII letters are compared without regard to case. -/
def folded (name : String) : List Char := name.toList.map Char.toLower

def ofName (name : String) : Command :=
  (named.find? fun c => folded c.label == folded name).getD .unknown

/-- Whether the command has to run on the primary of a replica set. -/
def isPrimaryOnly (c : Command) (output : CommandOutput) : Bool :=
  match c with
  | aggregate => output == .collection
  | mapReduce => output != .inline
  | collStats | count | dbStats | distinct | geoNear | geoSearch | geoWalk | group | isMaster
  | parallelCollectionScan | replSetGetStatus | text | unknown => false
  | compact | create | createIndexes | delete | drop | dropDatabase | dropIndexes | findAndModify
  | fsync | insert | renameCollection | replSetFreeze | replSetReconfig | replSetStepDown
  | shutdown | update => true

theorem ofName_label (c : Command) : ofName c.label = c := by
  cases c <;> rfl

end Command

/-- The name of a command and where its result goes. -/
structure CommandRequest where
  name : String
  output : CommandOutput := .unspecified
deriving DecidableEq, Repr

namespace CommandRequest

def command (r : CommandRequest) : Command := .ofName r.name

def isPrimaryOnly (r : CommandRequest) : Bool := r.command.isPrimaryOnly r.output

/-- The read preference that a command runs with. Direct connections and sharded clusters honor
the one that is requested; elsewhere a command that has to run on the primary does. -/
def resolve (r : CommandRequest) (requested : ReadPreference) (cluster : ClusterDescription) :
    ReadPreference :=
  if cluster.mode = .single ∨ cluster.type = .sharded ∨ r.isPrimaryOnly = false then requested
  else .primary

theorem resolve_of_isPrimaryOnly {r : CommandRequest} {requested : ReadPreference}
    {cluster : ClusterDescription} (hr : r.isPrimaryOnly = true) (hm : cluster.mode ≠ .single)
    (ht : cluster.type ≠ .sharded) : r.resolve requested cluster = .primary := by
  simp [resolve, hr, hm, ht]

end CommandRequest

end ClusterClient

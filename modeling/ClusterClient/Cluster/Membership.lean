import ClusterClient.Cluster.Description

/-!
# Cluster membership

A cluster owns one server for each address that it knows and puts their descriptions together into
one snapshot. A cluster that was not told to keep to a single host follows what the members of a
replica set report: it adds the servers that are reported and drops the others.

Servers are named by the order in which they were created. What creating one comes to is decided
outside and given as a `Spawn`. Every server that was created and is no member any more is in the
list of those that were closed.

    a description of a server that is no member changes nothing     (onChange_of_not_member)
    c.close.close = c.close                                         (close_close)
-/

namespace ClusterClient

/-- How the attempt to create a server and start its monitor ends. -/
inductive Spawn where
  | started
  /-- The server was created but its monitor could not be started. -/
  | unstarted (cause : Error)
  | refused (cause : Error)
deriving DecidableEq, Repr

structure Member where
  /-- The number of the server among all that were created. -/
  serial : Nat
  address : Address
  description : ServerDescription
deriving DecidableEq

structure Cluster where
  settings : ClusterSettings
  members : List Member := []
  /-- The current snapshot. -/
  description : ClusterDescription := .ofServers settings.mode .unknown []
  closed : Bool := false
  /-- The addresses of all servers that were created, in order. -/
  created : List Address := []
  /-- The servers that were closed, in order. -/
  closings : List Nat := []
deriving DecidableEq

namespace Cluster

/-! ## Algorithm -/

def member? (c : Cluster) (address : Address) : Option Member :=
  c.members.find? (·.address == address)

def addresses (c : Cluster) : List Address := c.members.map (·.address)

/-- Adds a server unless there is one for the address. -/
def addServer (c : Cluster) (address : Address) (spawn : Spawn) : Except Error Unit × Cluster :=
  if address ∈ c.addresses then (.ok (), c)
  else
    let serial := c.created.length
    match spawn with
    | .refused cause => (.error cause, c)
    | .unstarted cause =>
      (.error cause, { c with
        created := c.created ++ [address]
        closings := c.closings ++ [serial] })
    | .started =>
      (.ok (), { c with
        created := c.created ++ [address]
        members := c.members ++ [⟨serial, address, .fresh address⟩] })

/-- Replaces the snapshot by one of the members as they are described now. -/
def publish (c : Cluster) : Cluster :=
  { c with description := .infer c.settings.mode (c.members.map (·.description)) }

/-- Closes all members, as it happens when nobody holds the cluster any more. -/
def drop (c : Cluster) : Cluster :=
  { c with members := [], closings := c.closings ++ c.members.map (·.serial) }

/-- Adds servers one after the other, up to the first that fails. -/
def addHosts (c : Cluster) (spawn : Address → Spawn) : List Address → Except Error Unit × Cluster
  | [] => (.ok (), c)
  | host :: hosts =>
    match c.addServer host (spawn host) with
    | (.ok (), c) => c.addHosts spawn hosts
    | (.error cause, c) => (.error cause, c)

/-- A new cluster of the hosts that are configured. If one of them cannot be added, the cluster is
dropped. -/
def start (settings : ClusterSettings) (spawn : Address → Spawn) : Except Error Unit × Cluster :=
  let c : Cluster := { settings }
  match settings.validate with
  | .error cause => (.error cause, c)
  | .ok () =>
    match c.addHosts spawn settings.hosts with
    | (.ok (), c) => (.ok (), c.publish)
    | (.error cause, c) => (.error cause, c.drop)

/-- The members of replica sets that the servers report, each once, in ascending order. -/
def reported (members : List Member) : List Address :=
  let all := (members.filter (·.description.isReplicaSetMember)).flatMap (·.description.reported)
  (all.mergeSort Address.le).eraseDups

/-- Adds the servers that are reported, as far as they can be created. -/
def enlist (c : Cluster) (spawn : Address → Spawn) (addresses : List Address) : Cluster :=
  addresses.foldl (fun c address => (c.addServer address (spawn address)).2) c

/-- Adds the servers that are reported and removes those that are not: the cluster, and the servers
that were removed. As long as nothing is reported nothing is removed. -/
def discover (c : Cluster) (spawn : Address → Spawn) : Cluster × List Nat :=
  let reported := reported c.members
  let c := c.enlist spawn reported
  if reported.isEmpty then (c, [])
  else
    let removed := c.members.filter (·.address ∉ reported)
    ({ c with members := c.members.filter (·.address ∈ reported) }, removed.map (·.serial))

/-- A server that does not belong to the replica set that is required is of no use. -/
def judged (c : Cluster) (d : ServerDescription) : ServerDescription :=
  match d.checkSetName c.settings.requiredReplicaSetName with
  | .ok () => d
  | .error cause => d.unusable cause.message

/-- Replaces the description of the first member with its address. -/
def describe (d : ServerDescription) : List Member → List Member
  | [] => []
  | m :: ms =>
    if m.address = d.address then { m with description := d } :: ms else m :: describe d ms

/-- A monitor has published a new description. -/
def onChange (c : Cluster) (d : ServerDescription) (spawn : Address → Spawn) : Cluster :=
  if c.closed ∨ (c.member? d.address).isNone then c
  else
    let c := { c with members := describe (c.judged d) c.members }
    match c.settings.mode with
    | .single => c.publish
    | .multiple =>
      let (c, removed) := c.discover spawn
      let c := c.publish
      { c with closings := c.closings ++ removed }

def close (c : Cluster) : Cluster := if c.closed then c else { c.drop with closed := true }

/-! ## Lemmas -/

theorem onChange_of_not_member {c : Cluster} {d : ServerDescription}
    (h : (c.member? d.address).isNone) (spawn : Address → Spawn) : c.onChange d spawn = c := by
  rw [onChange, if_pos (Or.inr h)]

theorem closed_close (c : Cluster) : c.close.closed = true := by
  unfold close
  split <;> simp_all

theorem close_close (c : Cluster) : c.close.close = c.close := by
  rw [close, if_pos (closed_close c)]

end Cluster

end ClusterClient

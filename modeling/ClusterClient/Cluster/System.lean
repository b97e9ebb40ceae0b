import ClusterClient.Cluster.Membership
import ClusterClient.Selection.Selector

/-!
# Clusters in use

A cluster together with the callers that look for a server in it. A caller that finds none is
blocked until the snapshot changes, the cluster is closed or its time is over, and then looks
again. Everything that happens is one of the steps below, each of them indivisible.

    (s.seek criterion timeout pick).searches = s.searches + 1     (searches_seek)
-/

namespace ClusterClient

/-- A caller that looks for a server. -/
structure Seeker where
  name : Nat
  criterion : Criterion
  timeout : Duration
  deadline : Instant
  /-- Whether it was told to look again and has not done so yet. -/
  notified : Bool := false

/-- A server that was selected, with the description that it was selected by. -/
structure Source where
  serial : Nat
  description : ServerDescription
deriving DecidableEq

structure ClusterSystem where
  cluster : Cluster
  /-- The router that the sticky selector holds. -/
  held : Option Address := none
  clock : Instant := .zero
  /-- How many searches there were. A search is named by the number before it. -/
  searches : Nat := 0
  /-- The callers that are blocked. -/
  seekers : List Seeker := []
  /-- Whether the notification of the close is still to be made. -/
  noticeOwed : Bool := false
  /-- How the searches ended, the latest first. -/
  answers : List (Nat × Except Error Source) := []
  /-- Whether a latency window reached beyond the longest duration; nothing is defined then. -/
  overflowed : Bool := false

namespace ClusterSystem

/-! ## Steps of a caller -/

def conclude (s : ClusterSystem) (name : Nat) (answer : Except Error Source) : ClusterSystem :=
  { s with answers := (name, answer) :: s.answers }

/-- A caller that found nothing gives up if its time is over. -/
def postpone (s : ClusterSystem) (seeker : Seeker) : ClusterSystem :=
  if seeker.deadline ≤ s.clock then
    s.conclude seeker.name (.error (.selectionTimeout seeker.timeout seeker.criterion.debugText
      s.cluster.description.text))
  else { s with seekers := s.seekers ++ [{ seeker with notified := false }] }

/-- One look of a caller at the current snapshot. Of several candidates it takes the one at position
`pick` (counted around). -/
def look (s : ClusterSystem) (seeker : Seeker) (pick : Nat) : ClusterSystem :=
  let s := { s with seekers := s.seekers.filter (·.name != seeker.name) }
  if s.cluster.closed then s.conclude seeker.name (.error .clusterClosed)
  else match seeker.criterion.select s.cluster.description s.held with
    | none => { s with overflowed := true }
    | some (candidates, held) =>
      let s := { s with held }
      match candidates[pick % candidates.length]? with
      | none => s.postpone seeker
      | some chosen =>
        match s.cluster.member? chosen.address with
        | some member => s.conclude seeker.name (.ok ⟨member.serial, chosen⟩)
        | none => s.postpone seeker

/-- Somebody looks for a server for the first time. -/
def seek (s : ClusterSystem) (criterion : Criterion) (timeout : Duration) (pick : Nat) :
    ClusterSystem :=
  let deadline : Instant := ⟨s.clock.nanos + timeout.nanos⟩
  let seeker : Seeker := { name := s.searches, criterion, timeout, deadline }
  look { s with searches := s.searches + 1 } seeker pick

/-- A blocked caller looks again. -/
def recheck (s : ClusterSystem) (name pick : Nat) : ClusterSystem :=
  match s.seekers.find? (·.name == name) with
  | some seeker => s.look seeker pick
  | none => s

/-! ## Steps of the cluster -/

def notifyAll (s : ClusterSystem) : ClusterSystem :=
  { s with seekers := s.seekers.map fun k => { k with notified := true } }

/-- A monitor has published a new description. If that changes the snapshot, all callers are
told. -/
def onChange (s : ClusterSystem) (d : ServerDescription) (spawn : Address → Spawn) :
    ClusterSystem :=
  let cluster := s.cluster.onChange d spawn
  let changed : Bool := cluster.description ≠ s.cluster.description
  let s := { s with cluster }
  if changed then s.notifyAll else s

def close (s : ClusterSystem) : ClusterSystem :=
  if s.cluster.closed then s else { s with cluster := s.cluster.close, noticeOwed := true }

/-- The notification of the close is made. -/
def notifyClosed (s : ClusterSystem) : ClusterSystem :=
  if s.noticeOwed then { s with noticeOwed := false }.notifyAll else s

/-- Time passes. -/
def tick (s : ClusterSystem) (elapsed : Duration) : ClusterSystem :=
  { s with clock := ⟨s.clock.nanos + elapsed.nanos⟩ }

/-! ## Events -/

/-- Everything that can happen. -/
inductive Event where
  | seek (criterion : Criterion) (timeout : Duration) (pick : Nat)
  | recheck (name pick : Nat)
  | onChange (description : ServerDescription) (spawn : Address → Spawn)
  | close
  | notifyClosed
  | tick (elapsed : Duration)

/-- What an event does. An event that makes no sense in the state at hand changes nothing. -/
def step (s : ClusterSystem) : Event → ClusterSystem
  | .seek criterion timeout pick => s.seek criterion timeout pick
  | .recheck name pick => s.recheck name pick
  | .onChange d spawn => s.onChange d spawn
  | .close => s.close
  | .notifyClosed => s.notifyClosed
  | .tick elapsed => s.tick elapsed

def run (s : ClusterSystem) (events : List Event) : ClusterSystem := events.foldl step s

/-! ## Observations -/

/-- How a search ended, if it did. -/
def answer? (s : ClusterSystem) (name : Nat) : Option (Except Error Source) :=
  s.answers.lookup name

/-- Lets all callers that were told to look again do so. -/
def recheckNotified (s : ClusterSystem) (pick : Nat) : ClusterSystem :=
  (s.seekers.filter (·.notified)).foldl (fun s k => s.recheck k.name pick) s

/-! ## Lemmas -/

theorem searches_postpone (s : ClusterSystem) (seeker : Seeker) :
    (s.postpone seeker).searches = s.searches := by
  unfold postpone
  split <;> rfl

theorem searches_look (s : ClusterSystem) (seeker : Seeker) (pick : Nat) :
    (s.look seeker pick).searches = s.searches := by
  simp only [look]
  split
  · rfl
  · split
    · rfl
    · split
      · exact searches_postpone ..
      · split
        · rfl
        · exact searches_postpone ..

theorem searches_seek (s : ClusterSystem) (criterion : Criterion) (timeout : Duration)
    (pick : Nat) : (s.seek criterion timeout pick).searches = s.searches + 1 :=
  searches_look ..

theorem run_append (s : ClusterSystem) (before after : List Event) :
    s.run (before ++ after) = (s.run before).run after :=
  List.foldl_append

end ClusterSystem

end ClusterClient

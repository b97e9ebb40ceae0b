import ClusterClient.Proofs.Cluster.Lifetimes
import Mathlib.Data.List.Perm.Basic

/-!
# The disposal of servers

A step of a cluster has its turn when it gets the lock, and closes the servers that it removed after
it gave the lock back, one after the other; other steps come in between. As long as somebody has the
cluster or a step is in progress the cluster is there. When the last of them is gone it is dropped,
and the drop closes the servers that still are members.

At each moment every server that was created is a member, or was removed by exactly one step and is
in the hands of that step, or was removed by exactly one step and closed by it, once.

    (l.removals).Perm (l.closures ++ what the steps in progress have in their hands)
    a step that closes the cluster was begun, and has had its turn → l.closed
                                                                    (closed_run_of_close)
    l.closed ∨ l.handles = 0, l.underway = [] → every server was closed, once, and none is created
      any more                                                               (disposed_run)
-/

namespace ClusterClient

/-- A server and the step that removed or closed it. -/
structure Disposal where
  step : Nat
  server : Nat
deriving DecidableEq

/-- A step in progress. -/
inductive PendingStep where
  /-- It waits for its turn. -/
  | waiting (name : Nat) (event : Cluster.Event)
  /-- It has had its turn and closes the servers that it removed. -/
  | clearing (name : Nat) (servers : List Nat)

/-- A cluster from the time it is created until nobody has it any more. -/
structure ClusterLife where
  cluster : Cluster
  /-- How many have the cluster, not counting the steps in progress. -/
  handles : Nat
  underway : List PendingStep := []
  /-- How many steps were begun. A step is named by the number before it; the first is the one that
  creates the cluster. -/
  begun : Nat := 1
  dropped : Bool := false
  /-- Who removed which server, in order. -/
  removals : List Disposal := []
  /-- Who closed which server, in order. -/
  closures : List Disposal := []

namespace PendingStep

def name : PendingStep → Nat
  | waiting name _ => name
  | clearing name _ => name

/-- What the step still has to close. -/
def owed : PendingStep → List Disposal
  | waiting _ _ => []
  | clearing name servers => servers.map (⟨name, ·⟩)

end PendingStep

namespace ClusterLife

/-! ## Algorithm -/

/-- A step begins. -/
def begin (l : ClusterLife) (e : Cluster.Event) : ClusterLife :=
  { l with underway := l.underway ++ [PendingStep.waiting l.begun e], begun := l.begun + 1 }

/-- Monitors have published something while the cluster was being created. -/
def beginAll (l : ClusterLife) (reports : List (ServerDescription × (Address → Spawn))) :
    ClusterLife :=
  reports.foldl (fun l r => l.begin (.change r.1 r.2)) l

/-- Drops the cluster if nobody has it any more. -/
def expire (l : ClusterLife) : ClusterLife :=
  if l.handles = 0 ∧ l.underway = [] ∧ l.dropped = false then
    let servers := l.cluster.members.map (·.serial)
    { l with
      cluster := { l.cluster with members := [] }
      underway := [PendingStep.clearing l.begun servers]
      begun := l.begun + 1
      dropped := true
      removals := l.removals ++ servers.map (⟨l.begun, ·⟩) }
  else l

/-- The step at position `i` has its turn. New servers that could not be started are removed and
closed at once. -/
def turn (l : ClusterLife) (i name : Nat) (e : Cluster.Event) : ClusterLife :=
  let (cluster, removed) := l.cluster.turn e
  let failed := cluster.closings.drop l.cluster.closings.length
  { l with
    cluster
    underway := l.underway.set i (.clearing name removed)
    removals := l.removals ++ (failed ++ removed).map (⟨name, ·⟩)
    closures := l.closures ++ failed.map (⟨name, ·⟩) }

/-- The step at position `i` closes a server; others are left. -/
def shut (l : ClusterLife) (i name server : Nat) (others : List Nat) : ClusterLife :=
  { l with
    cluster := { l.cluster with closings := l.cluster.closings ++ [server] }
    underway := l.underway.set i (.clearing name others)
    closures := l.closures ++ [⟨name, server⟩] }

/-- The step at position `i` goes on. -/
def advance (l : ClusterLife) (i : Nat) : ClusterLife :=
  match l.underway[i]? with
  | none => l
  | some (.waiting name e) => l.turn i name e
  | some (.clearing name (server :: others)) => l.shut i name server others
  | some (.clearing _ []) => { l with underway := l.underway.eraseIdx i }.expire

inductive Event where
  /-- A monitor has published a description. -/
  | report (description : ServerDescription) (spawn : Address → Spawn)
  /-- Somebody who has the cluster closes it. -/
  | close
  /-- Somebody who has the cluster shares it with one more. -/
  | share
  | release
  | advance (i : Nat)

/-- What an event does. An event that makes no sense in the state at hand changes nothing; a monitor
does not reach a cluster that was dropped. -/
def step (l : ClusterLife) : Event → ClusterLife
  | .report d spawn => if l.dropped then l else l.begin (.change d spawn)
  | .close => if l.handles = 0 then l else l.begin .close
  | .share => if l.handles = 0 then l else { l with handles := l.handles + 1 }
  | .release => if l.handles = 0 then l else { l with handles := l.handles - 1 }.expire
  | .advance i => l.advance i

def run (l : ClusterLife) (events : List Event) : ClusterLife := events.foldl step l

/-- A cluster is created. While that went on, the monitors of servers that were started already may
have published something, and wait for their turn. -/
def start (settings : ClusterSettings) (spawn : Address → Spawn)
    (reports : List (ServerDescription × (Address → Spawn))) : Except Error Unit × ClusterLife :=
  let (result, cluster) := Cluster.assemble settings spawn
  let failed := cluster.closings.map (⟨0, ·⟩)
  let l : ClusterLife := {
    cluster, handles := if result.isOk then 1 else 0, removals := failed, closures := failed }
  (result, (l.beginAll reports).expire)

/-! ## Invariant -/

/-- What the steps in progress have in their hands. -/
def owed (l : ClusterLife) : List Disposal := l.underway.flatMap PendingStep.owed

/-- The disposals of a server. -/
def about (server : Nat) (ds : List Disposal) : List Disposal := ds.filter (·.server == server)

/-- The books are in order. -/
structure Booked (l : ClusterLife) : Prop where
  counted : (l.cluster.members.map (·.serial) ++ l.removals.map (·.server)).Perm
    (List.range l.cluster.created.length)
  matched : l.removals.Perm (l.closures ++ l.owed)
  closings_eq : l.cluster.closings = l.closures.map (·.server)
  absent : l.dropped = true → l.handles = 0 ∧ l.cluster.members = [] ∧
    ∀ p ∈ l.underway, ∃ name servers, p = .clearing name servers
  emptied : l.cluster.closed = true → l.cluster.members = []

/-- The books are in order, and the cluster is dropped when the last that has it lets it go. -/
structure Orderly (l : ClusterLife) : Prop extends Booked l where
  present : l.dropped = false → l.handles ≠ 0 ∨ l.underway ≠ []

section

variable {l : ClusterLife}

theorem map_server_disposals (name : Nat) (servers : List Nat) :
    (servers.map (Disposal.mk name)).map (·.server) = servers := by
  rw [List.map_map]
  exact List.map_id _

theorem owed_begin (l : ClusterLife) (e : Cluster.Event) : (l.begin e).owed = l.owed := by
  simp [begin, owed, PendingStep.owed]

/-- What is owed by the step at position `i` and by the others, before and after it goes on. -/
theorem exists_owed_perm {i : Nat} {p : PendingStep} (hp : l.underway[i]? = some p) :
    ∃ others, l.owed.Perm (p.owed ++ others) ∧
      others = (l.underway.eraseIdx i).flatMap PendingStep.owed ∧
      ∀ q, ((l.underway.set i q).flatMap PendingStep.owed).Perm (q.owed ++ others) := by
  obtain ⟨hi, rfl⟩ := List.getElem?_eq_some_iff.1 hp
  have all := (List.getElem_cons_eraseIdx_perm hi).flatMap_right PendingStep.owed
  refine ⟨_, all.symm, rfl, fun q => ?_⟩
  exact (List.set_perm_cons_eraseIdx hi q).flatMap_right PendingStep.owed

/-! ## Steps -/

theorem orderly_begin (h : Orderly l) (there : l.dropped = false) (e : Cluster.Event) :
    Orderly (l.begin e) where
  counted := h.counted
  matched := by
    rw [owed_begin]
    exact h.matched
  closings_eq := h.closings_eq
  absent gone := absurd (there.symm.trans gone) nofun
  emptied := h.emptied
  present _ := .inr (List.append_ne_nil_of_right_ne_nil _ nofun)

theorem orderly_expire (h : Booked l) : Orderly l.expire := by
  unfold expire
  split
  · next last =>
    refine ⟨⟨?_, ?_, h.closings_eq, fun _ => ⟨last.1, rfl, by simp⟩, fun _ => rfl⟩, nofun⟩
    · simp only [List.map_nil, List.nil_append, List.map_append, map_server_disposals]
      exact List.perm_append_comm.trans h.counted
    · have none : l.owed = [] := by rw [owed, last.2.1, List.flatMap_nil]
      have closed := h.matched
      rw [none, List.append_nil] at closed
      simpa [owed, PendingStep.owed] using closed.append_right _
  · next held =>
    refine ⟨h, fun there => ?_⟩
    by_contra none
    simp only [not_or, not_not, ne_eq] at none
    exact held ⟨none.1, none.2, there⟩

/-- The step at position `i` goes on with `servers` in its hands. -/
theorem Orderly.of_set (h : Orderly l) {i name : Nat} {p : PendingStep}
    (hp : l.underway[i]? = some p) {cluster : Cluster} {removals closures : List Disposal}
    {servers : List Nat}
    (counted : (cluster.members.map (·.serial) ++ removals.map (·.server)).Perm
      (List.range cluster.created.length))
    (matched : ∀ others, l.removals.Perm (l.closures ++ (p.owed ++ others)) →
      removals.Perm (closures ++ (servers.map (⟨name, ·⟩) ++ others)))
    (closings_eq : cluster.closings = closures.map (·.server))
    (absent : l.dropped = true → cluster.members = [])
    (emptied : cluster.closed = true → cluster.members = []) :
    Orderly { l with
      cluster, removals, closures, underway := l.underway.set i (.clearing name servers) } := by
  refine ⟨⟨counted, ?_, closings_eq, fun gone => ?_, emptied⟩, fun there => ?_⟩
  · obtain ⟨others, before, -, after⟩ := exists_owed_perm hp
    have now := matched others (h.matched.trans (before.append_left _))
    exact now.trans ((after (.clearing name servers)).symm.append_left _)
  · obtain ⟨unowned, -, clearing⟩ := h.absent gone
    refine ⟨unowned, absent gone, fun q hq => ?_⟩
    rcases List.mem_or_eq_of_mem_set hq with old | rfl
    · exact clearing q old
    · exact ⟨name, servers, rfl⟩
  · refine (h.present there).imp id fun busy none => busy ?_
    exact (List.set_eq_nil_iff ..).1 none

theorem orderly_turn (h : Orderly l) {i name : Nat} {e : Cluster.Event}
    (hp : l.underway[i]? = some (.waiting name e)) : Orderly (l.turn i name e) := by
  obtain ⟨failed, balanced⟩ := l.cluster.balanced_turn e
  have fresh : (l.cluster.turn e).1.closings.drop l.cluster.closings.length = failed := by
    rw [balanced.closings_eq, List.drop_left]
  simp only [turn, fresh]
  refine h.of_set hp ?_ ?_ ?_ ?_ ?_
  · rw [List.map_append, map_server_disposals]
    exact balanced.perm_range h.counted
  · intro others before
    rw [List.map_append]
    calc l.removals ++ (failed.map (⟨name, ·⟩) ++ (l.cluster.turn e).2.map (⟨name, ·⟩))
      List.Perm _ (l.closures ++ others ++
          (failed.map (⟨name, ·⟩) ++ (l.cluster.turn e).2.map (⟨name, ·⟩))) :=
        before.append_right _
      _ = l.closures ++ (others ++
          (failed.map (⟨name, ·⟩) ++ (l.cluster.turn e).2.map (⟨name, ·⟩))) :=
        List.append_assoc ..
      List.Perm _ (l.closures ++
          (failed.map (⟨name, ·⟩) ++ (l.cluster.turn e).2.map (⟨name, ·⟩) ++ others)) :=
        List.perm_append_comm.append_left _
      _ = l.closures ++ failed.map (⟨name, ·⟩) ++
          ((l.cluster.turn e).2.map (⟨name, ·⟩) ++ others) := by
        simp only [List.append_assoc]
  · rw [balanced.closings_eq, List.map_append, map_server_disposals, h.closings_eq]
  · intro gone
    obtain ⟨-, -, clearing⟩ := h.absent gone
    obtain ⟨_, _, not⟩ := clearing _ (List.mem_of_getElem? hp)
    cases not
  · exact Cluster.emptied_turn h.emptied e

theorem orderly_shut (h : Orderly l) {i name server : Nat} {others : List Nat}
    (hp : l.underway[i]? = some (.clearing name (server :: others))) :
    Orderly (l.shut i name server others) := by
  refine h.of_set hp h.counted ?_ ?_ (fun gone => (h.absent gone).2.1) h.emptied
  · intro rest before
    simpa [PendingStep.owed] using before
  · simp [h.closings_eq]

theorem orderly_end (h : Orderly l) {i name : Nat}
    (hp : l.underway[i]? = some (.clearing name [])) :
    Orderly { l with underway := l.underway.eraseIdx i }.expire := by
  refine orderly_expire ⟨h.counted, ?_, h.closings_eq, fun gone => ?_, h.emptied⟩
  · obtain ⟨others, before, rfl, -⟩ := exists_owed_perm hp
    exact h.matched.trans (before.append_left _)
  · obtain ⟨unowned, empty, clearing⟩ := h.absent gone
    exact ⟨unowned, empty, fun q hq => clearing q (List.mem_of_mem_eraseIdx hq)⟩

theorem orderly_step (h : Orderly l) (e : Event) : Orderly (l.step e) := by
  have there (held : l.handles ≠ 0) : l.dropped = false :=
    Bool.eq_false_iff.2 fun gone => held (h.absent gone).1
  cases e with
  | report d spawn =>
    simp only [step]
    split
    · exact h
    · next present => exact orderly_begin h (Bool.eq_false_iff.2 present) _
  | close =>
    simp only [step]
    split
    · exact h
    · next held => exact orderly_begin h (there held) _
  | share =>
    simp only [step]
    split
    · exact h
    · next held =>
      refine ⟨⟨h.counted, h.matched, h.closings_eq, fun gone => ?_, h.emptied⟩,
        fun _ => .inl (Nat.succ_ne_zero _)⟩
      exact absurd ((there held).symm.trans gone) nofun
  | release =>
    simp only [step]
    split
    · exact h
    · next held =>
      refine orderly_expire ⟨h.counted, h.matched, h.closings_eq, fun gone => ?_, h.emptied⟩
      exact absurd ((there held).symm.trans gone) nofun
  | advance i =>
    simp only [step, advance]
    split
    · exact h
    · next hp => exact orderly_turn h hp
    · next hp => exact orderly_shut h hp
    · next hp => exact orderly_end h hp

theorem orderly_run (h : Orderly l) (events : List Event) : Orderly (l.run events) := by
  induction events generalizing l with
  | nil => exact h
  | cons e events ih => exact ih (orderly_step h e)

/-! ## The beginning -/

theorem booked_beginAll (h : Booked l) (there : l.dropped = false)
    (reports : List (ServerDescription × (Address → Spawn))) : Booked (l.beginAll reports) := by
  induction reports generalizing l with
  | nil => exact h
  | cons r reports ih =>
    refine ih ⟨h.counted, ?_, h.closings_eq, fun gone => ?_, h.emptied⟩ there
    · rw [owed_begin]
      exact h.matched
    · exact absurd (there.symm.trans gone) nofun

theorem orderly_start (settings : ClusterSettings) (spawn : Address → Spawn)
    (reports : List (ServerDescription × (Address → Spawn))) :
    Orderly (start settings spawn reports).2 := by
  obtain ⟨failed, balanced⟩ := Cluster.balanced_assemble settings spawn
  have isOpen := Cluster.closed_assemble settings spawn
  simp only [start]
  generalize Cluster.assemble settings spawn = result at balanced isOpen
  obtain ⟨outcome, cluster⟩ := result
  have closings : cluster.closings = failed := balanced.closings_eq
  refine orderly_expire (booked_beginAll ?_ rfl reports)
  refine ⟨?_, ?_, ?_, fun gone => Bool.noConfusion gone, ?_⟩
  · rw [map_server_disposals, closings]
    let bare : Cluster := { settings }
    have empty : (bare.members.map Member.serial ++ []).Perm (List.range bare.created.length) :=
      .refl _
    have all := balanced.perm_range empty
    rwa [List.nil_append, List.append_nil] at all
  · simp [owed]
  · rw [map_server_disposals]
  · intro closed
    exact absurd (isOpen.symm.trans closed) nofun

/-! ## Names -/

def names (l : ClusterLife) : List Nat := l.underway.map (·.name)

/-- Steps in progress end, and a step begins under a name that none had before. -/
inductive Renamed (l l' : ClusterLife) : Prop where
  | fewer (sublist : l'.names.Sublist l.names) (begun_eq : l'.begun = l.begun)
  | more {kept : List Nat} (sublist : kept.Sublist l.names)
      (names_eq : l'.names = kept ++ [l.begun]) (begun_eq : l'.begun = l.begun + 1)

theorem renamed_begin (l : ClusterLife) (e : Cluster.Event) : Renamed l (l.begin e) :=
  .more (List.Sublist.refl _) (by simp [names, begin, PendingStep.name]) rfl

theorem Renamed.expire {l' : ClusterLife} (sublist : l'.names.Sublist l.names)
    (begun_eq : l'.begun = l.begun) : Renamed l l'.expire := by
  unfold ClusterLife.expire
  split
  · refine .more (List.nil_sublist _) ?_ (by simp [begun_eq])
    simp [names, PendingStep.name, begun_eq]
  · exact .fewer sublist begun_eq

theorem Renamed.of_set {l' : ClusterLife} {i : Nat} {p q : PendingStep}
    (hp : l.underway[i]? = some p) (same : q.name = p.name)
    (underway_eq : l'.underway = l.underway.set i q) (begun_eq : l'.begun = l.begun) :
    Renamed l l' := by
  obtain ⟨hi, rfl⟩ := List.getElem?_eq_some_iff.1 hp
  have hi' : i < (l.underway.map (·.name)).length := by simpa using hi
  have kept : q.name = (l.underway.map (·.name))[i] := by simpa using same
  have names_eq : l'.names = l.names := by
    rw [names, underway_eq, List.map_set, kept]
    exact List.set_getElem_self hi'
  exact .fewer (names_eq ▸ List.Sublist.refl _) begun_eq

theorem renamed_step (l : ClusterLife) (e : Event) : Renamed l (l.step e) := by
  have same : Renamed l l := .fewer (List.Sublist.refl _) rfl
  cases e with
  | report d spawn =>
    simp only [step]
    split
    · exact same
    · exact l.renamed_begin _
  | close =>
    simp only [step]
    split
    · exact same
    · exact l.renamed_begin _
  | share =>
    simp only [step]
    split
    · exact same
    · exact .fewer (List.Sublist.refl _) rfl
  | release =>
    simp only [step]
    split
    · exact same
    · exact .expire (List.Sublist.refl _) rfl
  | advance i =>
    simp only [step, advance]
    split
    · exact same
    · next name e hp => exact .of_set (q := .clearing name _) hp rfl rfl rfl
    · next name server others hp => exact .of_set (q := .clearing name others) hp rfl rfl rfl
    · exact .expire ((List.eraseIdx_sublist ..).map _) rfl

/-- No two steps in progress have one name, and the next one gets another. -/
def Named (l : ClusterLife) : Prop := l.names.Nodup ∧ ∀ n ∈ l.names, n < l.begun

theorem Named.of_renamed {l' : ClusterLife} (h : Named l) (renamed : Renamed l l') :
    Named l' := by
  cases renamed with
  | fewer sublist begun_eq =>
    exact ⟨h.1.sublist sublist, fun n hn => begun_eq ▸ h.2 n (sublist.subset hn)⟩
  | more sublist names_eq begun_eq =>
    refine ⟨?_, fun n hn => ?_⟩
    · rw [names_eq]
      refine List.nodup_append'.2 ⟨h.1.sublist sublist, List.nodup_singleton _, ?_⟩
      intro n hn last
      obtain rfl := List.mem_singleton.1 last
      exact Nat.lt_irrefl _ (h.2 _ (sublist.subset hn))
    · rw [names_eq] at hn
      rcases List.mem_append.1 hn with old | last
      · have := h.2 n (sublist.subset old)
        omega
      · have := List.mem_singleton.1 last
        omega

theorem named_beginAll (h : Named l) (reports : List (ServerDescription × (Address → Spawn))) :
    Named (l.beginAll reports) := by
  induction reports generalizing l with
  | nil => exact h
  | cons r reports ih => exact ih (h.of_renamed (l.renamed_begin _))

theorem named_run (h : Named l) (events : List Event) : Named (l.run events) := by
  induction events generalizing l with
  | nil => exact h
  | cons e events ih => exact ih (h.of_renamed (l.renamed_step e))

theorem named_start (settings : ClusterSettings) (spawn : Address → Spawn)
    (reports : List (ServerDescription × (Address → Spawn))) :
    Named (start settings spawn reports).2 := by
  refine Named.of_renamed (named_beginAll ?_ reports) (.expire (List.Sublist.refl _) rfl)
  exact ⟨List.nodup_nil, by simp [names]⟩

/-! ## Ends -/

/-- A cluster that was closed creates no server any more. -/
theorem created_step_of_closed (closed : l.cluster.closed = true) (e : Event) :
    (l.step e).cluster.closed = true ∧ (l.step e).cluster.created = l.cluster.created := by
  have expired (l : ClusterLife) (closed : l.cluster.closed = true) :
      l.expire.cluster.closed = true ∧ l.expire.cluster.created = l.cluster.created := by
    unfold expire
    split <;> exact ⟨closed, rfl⟩
  cases e with
  | report | close | share =>
    simp only [step]
    split <;> exact ⟨closed, rfl⟩
  | release =>
    simp only [step]
    split
    · exact ⟨closed, rfl⟩
    · exact expired _ closed
  | advance i =>
    simp only [step, advance]
    split
    · exact ⟨closed, rfl⟩
    · rw [turn, Cluster.turn_of_closed closed]
      exact ⟨closed, rfl⟩
    · exact ⟨closed, rfl⟩
    · exact expired _ closed

theorem created_run_of_closed (closed : l.cluster.closed = true) (events : List Event) :
    (l.run events).cluster.created = l.cluster.created := by
  induction events generalizing l with
  | nil => rfl
  | cons e events ih =>
    obtain ⟨still, created⟩ := created_step_of_closed closed e
    exact (ih still).trans created

/-- Nothing happens to a cluster any more that nobody has and in which no step is in progress. -/
theorem run_of_ended (h : Orderly l) (unowned : l.handles = 0) (idle : l.underway = [])
    (events : List Event) : l.run events = l := by
  have gone : l.dropped = true := by
    by_contra there
    exact (h.present (Bool.eq_false_iff.2 there)).elim (· unowned) (· idle)
  have still (e : Event) : l.step e = l := by
    cases e with
    | report => exact if_pos gone
    | close | share | release => exact if_pos unowned
    | advance i =>
      simp only [step, advance]
      rw [idle, List.getElem?_nil]
  induction events with
  | nil => rfl
  | cons e events ih => exact (congrArg (run · events) (still e)).trans ih

theorem handles_expire (l : ClusterLife) : l.expire.handles = l.handles := by
  unfold expire
  split <;> rfl

theorem handles_beginAll (l : ClusterLife)
    (reports : List (ServerDescription × (Address → Spawn))) :
    (l.beginAll reports).handles = l.handles := by
  induction reports generalizing l with
  | nil => rfl
  | cons r reports ih => exact ih (l.begin (.change r.1 r.2))

theorem handles_start_of_error {settings : ClusterSettings} {spawn : Address → Spawn}
    {reports : List (ServerDescription × (Address → Spawn))} {cause : Error}
    (failed : (start settings spawn reports).1 = .error cause) :
    (start settings spawn reports).2.handles = 0 := by
  simp only [start] at failed ⊢
  rw [handles_expire, handles_beginAll, failed]
  rfl

/-- Nobody gets hold of a cluster that nobody has. -/
theorem handles_run_of_zero (unowned : l.handles = 0) (events : List Event) :
    (l.run events).handles = 0 := by
  induction events generalizing l with
  | nil => exact unowned
  | cons e events ih =>
    refine ih (l := l.step e) ?_
    cases e with
    | report =>
      simp only [step]
      split <;> exact unowned
    | close | share | release =>
      simp only [step, if_pos unowned]
      exact unowned
    | advance i =>
      simp only [step, advance]
      split
      · exact unowned
      · exact unowned
      · exact unowned
      · exact (handles_expire _).trans unowned

/-! ## Steps that are left alone -/

theorem expire_of_owned (owned : l.handles ≠ 0) : l.expire = l := if_neg fun last => owned last.1

theorem run_append (l : ClusterLife) (before after : List Event) :
    l.run (before ++ after) = (l.run before).run after :=
  List.foldl_append

/-- A step closes all that it removed, if it goes on often enough. -/
theorem run_clearing {i name : Nat} {servers : List Nat}
    (hp : l.underway[i]? = some (.clearing name servers)) :
    l.run (List.replicate servers.length (.advance i)) = { l with
      cluster := { l.cluster with closings := l.cluster.closings ++ servers }
      underway := l.underway.set i (.clearing name [])
      closures := l.closures ++ servers.map (⟨name, ·⟩) } := by
  induction servers generalizing l with
  | nil =>
    obtain ⟨hi, same⟩ := List.getElem?_eq_some_iff.1 hp
    have kept : l.underway.set i (.clearing name []) = l.underway := by
      rw [← same]
      exact List.set_getElem_self hi
    rw [kept, List.map_nil, List.append_nil, List.append_nil]
    rfl
  | cons server servers ih =>
    obtain ⟨hi, -⟩ := List.getElem?_eq_some_iff.1 hp
    have first : l.step (.advance i) = l.shut i name server servers := by
      simp only [step, advance, hp]
    rw [List.length_cons, List.replicate_succ]
    change (l.step (.advance i)).run _ = _
    rw [first, ih (by simp [shut, hi])]
    simp [shut]

/-- A step that has had its turn ends when it has closed all that it removed. -/
theorem run_end {i name : Nat} {servers : List Nat}
    (hp : l.underway[i]? = some (.clearing name servers)) :
    l.run (List.replicate (servers.length + 1) (.advance i)) = expire { l with
      cluster := { l.cluster with closings := l.cluster.closings ++ servers }
      underway := l.underway.eraseIdx i
      closures := l.closures ++ servers.map (⟨name, ·⟩) } := by
  obtain ⟨hi, -⟩ := List.getElem?_eq_some_iff.1 hp
  rw [List.replicate_succ', run_append, run_clearing hp]
  show advance _ i = _
  simp [advance, hi, List.eraseIdx_set_eq]

/-- A step that nobody comes in between does to the cluster what the step of the cluster does. -/
theorem run_alone (l : ClusterLife) (owned : l.handles ≠ 0) (e : Cluster.Event) :
    let alone := (l.begin e).run
      (List.replicate ((l.cluster.turn e).2.length + 2) (.advance l.underway.length))
    alone.cluster = l.cluster.step e ∧ alone.underway = l.underway := by
  let n := l.underway.length
  have waits : (l.begin e).underway[n]? = some (.waiting l.begun e) := by simp [begin, n]
  have turned : (l.begin e).step (.advance n) = (l.begin e).turn n l.begun e := by
    simp only [step, advance, waits]
  have clears : ((l.begin e).turn n l.begun e).underway[n]? =
      some (.clearing l.begun (l.cluster.turn e).2) := by
    simp [turn, begin, n]
  intro alone
  have ended : alone = ((l.begin e).turn n l.begun e).run
      (List.replicate ((l.cluster.turn e).2.length + 1) (.advance n)) := by
    rw [← turned]
    rfl
  rw [ended, run_end clears, expire_of_owned]
  · refine ⟨(Cluster.step_eq_turn ..).symm, ?_⟩
    simp [turn, begin, n, List.eraseIdx_append_of_length_le]
  · exact owned

/-- How many steps may still end: those in progress, and the drop. -/
def outstanding (l : ClusterLife) : Nat := l.underway.length + (!l.dropped).toNat

theorem outstanding_expire_le (l : ClusterLife) : l.expire.outstanding ≤ l.outstanding := by
  unfold expire
  split
  · next last => simp [outstanding, last.2.2]
  · exact Nat.le_refl _

/-- The first step in progress ends when it goes on often enough. -/
theorem exists_outstanding_lt (busy : l.underway ≠ []) :
    ∃ k, (l.run (List.replicate k (.advance 0))).outstanding < l.outstanding := by
  have cleared {l : ClusterLife} {name : Nat} {servers : List Nat} {others : List PendingStep}
      (h : l.underway = .clearing name servers :: others) :
      ∃ k, (l.run (List.replicate k (.advance 0))).outstanding < l.outstanding := by
    refine ⟨servers.length + 1, ?_⟩
    rw [run_end (i := 0) (by rw [h]; rfl)]
    refine Nat.lt_of_le_of_lt (outstanding_expire_le _) ?_
    simp [outstanding, h]
  match h : l.underway with
  | [] => exact absurd h busy
  | .clearing name servers :: others => exact cleared h
  | .waiting name e :: others =>
    have turned : l.step (.advance 0) = l.turn 0 name e := by
      simp only [step, advance, h, List.getElem?_cons_zero]
    have now : (l.turn 0 name e).underway = .clearing name (l.cluster.turn e).2 :: others := by
      simp [turn, h]
    obtain ⟨k, less⟩ := cleared now
    refine ⟨k + 1, ?_⟩
    rw [List.replicate_succ]
    change ((l.step (.advance 0)).run _).outstanding < _
    rw [turned]
    refine Nat.lt_of_lt_of_eq less ?_
    simp [outstanding, turn]

theorem exists_idle (l : ClusterLife) :
    ∃ k, (l.run (List.replicate k (.advance 0))).underway = [] := by
  induction h : l.outstanding using Nat.strongRecOn generalizing l with
  | ind n ih =>
    by_cases idle : l.underway = []
    · exact ⟨0, idle⟩
    · obtain ⟨k, less⟩ := exists_outstanding_lt idle
      obtain ⟨k', idle'⟩ := ih _ (h ▸ less) _ rfl
      refine ⟨k + k', ?_⟩
      rwa [← List.replicate_append_replicate, run_append]

/-! ## Closing -/

/-- The step waits for its turn to close the cluster, or the cluster is closed. -/
def Closing (l : ClusterLife) (name : Nat) : Prop :=
  .waiting name .close ∈ l.underway ∨ l.cluster.closed = true

theorem closing_expire {name : Nat} (waits : .waiting name .close ∈ l.underway) :
    l.expire.Closing name := by
  rw [expire, if_neg fun last => List.ne_nil_of_mem waits last.2.1]
  exact .inl waits

/-- Whoever goes on, the step keeps waiting until it is its own turn. -/
theorem closing_advance {name : Nat} (waits : .waiting name .close ∈ l.underway) (i : Nat) :
    (l.advance i).Closing name := by
  obtain ⟨j, hj⟩ := List.mem_iff_getElem?.1 waits
  have others (p : PendingStep) (apart : i ≠ j) : .waiting name .close ∈ l.underway.set i p :=
    List.mem_of_getElem? ((List.getElem?_set_ne apart).trans hj)
  unfold advance
  split
  · exact .inl waits
  · next e hp =>
    by_cases own : i = j
    · subst own
      obtain ⟨rfl, rfl⟩ := PendingStep.waiting.inj (Option.some.inj (hp.symm.trans hj))
      exact .inr l.cluster.closed_turn_close
    · exact .inl (others _ own)
  · next hp =>
    refine .inl (others _ ?_)
    rintro rfl
    cases hp.symm.trans hj
  · next hp =>
    refine closing_expire (List.mem_eraseIdx_iff_getElem?.2 ⟨j, ?_, hj⟩)
    rintro rfl
    cases hp.symm.trans hj

theorem closing_step {name : Nat} (h : l.Closing name) (e : Event) : (l.step e).Closing name := by
  rcases h with waits | closed
  · have begins (e : Cluster.Event) : (l.begin e).Closing name :=
      .inl (List.mem_append_left _ waits)
    cases e with
    | report d spawn =>
      simp only [step]
      split
      · exact .inl waits
      · exact begins _
    | close =>
      simp only [step]
      split
      · exact .inl waits
      · exact begins _
    | share =>
      simp only [step]
      split <;> exact .inl waits
    | release =>
      simp only [step]
      split
      · exact .inl waits
      · exact closing_expire waits
    | advance i => exact closing_advance waits i
  · exact .inr (created_step_of_closed closed e).1

theorem closing_run {name : Nat} (h : l.Closing name) (events : List Event) :
    (l.run events).Closing name := by
  induction events generalizing l with
  | nil => exact h
  | cons e events ih => exact ih (closing_step h e)

/-- A step that was begun to close the cluster has closed it when it has had its turn. -/
theorem closed_run_of_close {before after : List Event} (held : (l.run before).handles ≠ 0)
    (turned : .waiting (l.run before).begun .close ∉
      (l.run (before ++ .close :: after)).underway) :
    (l.run (before ++ .close :: after)).cluster.closed = true := by
  have begins : (l.run before).step .close = (l.run before).begin .close := if_neg held
  have went : l.run (before ++ .close :: after) = ((l.run before).begin .close).run after := by
    rw [run_append, ← begins]
    rfl
  have waits : ((l.run before).begin .close).Closing (l.run before).begun :=
    .inl (List.mem_append_right _ (List.mem_singleton.2 rfl))
  rw [went] at turned ⊢
  exact (closing_run waits after).resolve_left turned

/-! ## Fates -/

/-- What has become of a server. -/
inductive Fate (l : ClusterLife) (server : Nat) : Prop where
  | member (isMember : server ∈ l.cluster.members.map (·.serial))
      (unremoved : about server l.removals = []) (unclosed : about server l.closures = [])
  | held (step : Nat) (noMember : server ∉ l.cluster.members.map (·.serial))
      (removed : about server l.removals = [⟨step, server⟩])
      (unclosed : about server l.closures = []) (owed : ⟨step, server⟩ ∈ l.owed)
  | closed (step : Nat) (noMember : server ∉ l.cluster.members.map (·.serial))
      (removed : about server l.removals = [⟨step, server⟩])
      (closed : about server l.closures = [⟨step, server⟩]) (unowed : about server l.owed = [])

theorem about_eq_nil_iff {server : Nat} {ds : List Disposal} :
    about server ds = [] ↔ server ∉ ds.map (·.server) := by
  simp [about, List.filter_eq_nil_iff]

theorem about_eq_singleton {d : Disposal} {ds : List Disposal} (nodup : (ds.map (·.server)).Nodup)
    (hd : d ∈ ds) : about d.server ds = [d] := by
  induction ds with
  | nil => cases hd
  | cons d' ds ih =>
    obtain ⟨fresh, nodup⟩ := List.nodup_cons.1 nodup
    rcases List.mem_cons.1 hd with rfl | hd
    · rw [about, List.filter_cons_of_pos (by simp)]
      exact congrArg _ (about_eq_nil_iff.2 fresh)
    · have other : d'.server ≠ d.server := fun same =>
        fresh (List.mem_map.2 ⟨d, hd, same.symm⟩)
      rw [about, List.filter_cons_of_neg (by simpa using other)]
      exact ih nodup hd

theorem Orderly.fate (h : Orderly l) {server : Nat}
    (created : server < l.cluster.created.length) : Fate l server := by
  have nodup := h.counted.nodup_iff.2 List.nodup_range
  obtain ⟨-, removedOnce, apart⟩ := List.nodup_append'.1 nodup
  have disposed : (l.removals.map (·.server)).Perm
      (l.closures.map (·.server) ++ l.owed.map (·.server)) :=
    List.map_append ▸ h.matched.map (·.server)
  obtain ⟨closedOnce, owedOnce, disjoint⟩ :=
    List.nodup_append'.1 (disposed.nodup_iff.1 removedOnce)
  rcases List.mem_append.1 (h.counted.mem_iff.2 (List.mem_range.2 created)) with current | gone
  · have unremoved := apart current
    refine .member current (about_eq_nil_iff.2 unremoved) (about_eq_nil_iff.2 fun closed => ?_)
    exact unremoved (disposed.mem_iff.2 (List.mem_append_left _ closed))
  · have noMember : server ∉ l.cluster.members.map (·.serial) := fun current => apart current gone
    obtain ⟨d, hd, rfl⟩ := List.mem_map.1 gone
    have removed := about_eq_singleton removedOnce hd
    rcases List.mem_append.1 (h.matched.mem_iff.1 hd) with closed | owed
    · refine .closed d.step noMember removed (about_eq_singleton closedOnce closed) ?_
      exact about_eq_nil_iff.2 (disjoint (List.mem_map_of_mem closed))
    · refine .held d.step noMember removed (about_eq_nil_iff.2 fun closed => ?_) owed
      exact disjoint closed (List.mem_map_of_mem owed)

/-- Every server was closed, once, by the step that removed it. -/
def AllClosed (l : ClusterLife) : Prop :=
  ∀ server < l.cluster.created.length, ∃ step, about server l.removals = [⟨step, server⟩] ∧
    about server l.closures = [⟨step, server⟩]

theorem Orderly.allClosed (h : Orderly l) (empty : l.cluster.members = [])
    (idle : l.underway = []) : AllClosed l := by
  intro server created
  cases h.fate created with
  | member isMember => simp [empty] at isMember
  | held _ _ _ _ owed => simp [ClusterLife.owed, idle] at owed
  | closed step _ removed closed => exact ⟨step, removed, closed⟩

/-- What is true of the cluster `l`, which was created with `outcome` as `first` and went through
these events, and of whatever may happen after that. -/
structure Disposed (outcome : Except Error Unit) (first : ClusterLife) (events : List Event)
    (l : ClusterLife) : Prop where
  named : Named l
  closings_eq : l.cluster.closings = l.closures.map (·.server)
  fate : ∀ server < l.cluster.created.length, Fate l server
  /-- If somebody who had the cluster has closed it, and this step does not wait for its turn any
  more, the cluster is closed. -/
  closed : ∀ before after, events = before ++ .close :: after → (first.run before).handles ≠ 0 →
    .waiting (first.run before).begun .close ∉ l.underway → l.cluster.closed = true
  allClosed : l.cluster.closed = true ∨ l.handles = 0 → l.underway = [] → AllClosed l
  closed_creates : l.cluster.closed = true →
    ∀ events, (l.run events).cluster.created = l.cluster.created
  ended : l.handles = 0 → l.underway = [] → ∀ events, l.run events = l
  ends : ∃ k, (l.run (List.replicate k (.advance 0))).underway = []
  /-- A step that nobody comes in between does to the cluster what the step of the cluster does. -/
  alone : l.handles ≠ 0 → ∀ e, ∃ k,
    let alone := (l.begin e).run (List.replicate k (.advance l.underway.length))
    alone.cluster = l.cluster.step e ∧ alone.underway = l.underway
  failed : outcome ≠ .ok () → l.handles = 0

theorem Orderly.disposed (h : Orderly l) (named : Named l) {outcome : Except Error Unit}
    {first : ClusterLife} {events : List Event} (ran : first.run events = l)
    (failed : outcome ≠ .ok () → l.handles = 0) : Disposed outcome first events l where
  named := named
  failed := failed
  closings_eq := h.closings_eq
  fate server created := h.fate created
  closed before after split held turned := by
    subst ran split
    exact closed_run_of_close held turned
  allClosed done idle := by
    refine h.allClosed ?_ idle
    rcases done with closed | unowned
    · exact h.emptied closed
    · refine (h.absent (by_contra fun there => ?_)).2.1
      exact (h.present (Bool.eq_false_iff.2 there)).elim (· unowned) (· idle)
  closed_creates closed := created_run_of_closed closed
  ended unowned idle := run_of_ended h unowned idle
  ends := l.exists_idle
  alone owned e := ⟨_, l.run_alone owned e⟩

theorem disposed_run (settings : ClusterSettings) (spawn : Address → Spawn)
    (reports : List (ServerDescription × (Address → Spawn))) (events : List Event) :
    Disposed (start settings spawn reports).1 (start settings spawn reports).2 events
      ((start settings spawn reports).2.run events) := by
  have orderly := orderly_run (orderly_start settings spawn reports) events
  have named := named_run (named_start settings spawn reports) events
  refine orderly.disposed named rfl fun failed => handles_run_of_zero ?_ events
  cases h : (start settings spawn reports).1 with
  | ok u => exact absurd h failed
  | error cause => exact handles_start_of_error h

/-- The cluster is closed while a step that dropped a server has not closed it yet. When both steps
have ended, each of the two servers was closed by the step that removed it. -/
theorem disposed_run_overtaken :
    let a : Address := ⟨"a", 1⟩
    let settings : ClusterSettings := { hosts := [a, ⟨"b", 1⟩], mode? := some .multiple }
    let spawn : Address → Spawn := fun _ => .started
    let d : ServerDescription :=
      { address := a, state := .connected, type := .replicaSetPrimary, hosts := [a] }
    let outcome := (start settings spawn []).1
    let first := (start settings spawn []).2
    let before : List Event := [.report d spawn, .advance 0]
    let after : List Event := [.advance 1, .advance 1, .advance 0, .advance 0, .advance 0]
    let l := first.run (before ++ .close :: after)
    (first.run before).handles ≠ 0 ∧ (first.run before).owed = [⟨1, 1⟩] ∧ l.underway = [] ∧
      l.removals = [⟨1, 1⟩, ⟨2, 0⟩] ∧ l.closures = [⟨2, 0⟩, ⟨1, 1⟩] ∧
      l.cluster.closed = true ∧ AllClosed l ∧
      Disposed outcome first (before ++ .close :: after) l := by
  intro a settings spawn d outcome first before after l
  have disposed : Disposed outcome first (before ++ .close :: after) l :=
    disposed_run settings spawn [] (before ++ .close :: after)
  have held : (first.run before).handles ≠ 0 := by decide +kernel
  have idle : l.underway = [] := List.isEmpty_iff.1 (by decide +kernel)
  have closed : l.cluster.closed = true := by
    refine disposed.closed before after rfl held ?_
    rw [idle]
    exact List.not_mem_nil
  exact ⟨held, by decide +kernel, idle, by decide +kernel, by decide +kernel, closed,
    disposed.allClosed (.inl closed) idle, disposed⟩

end

end ClusterLife

end ClusterClient

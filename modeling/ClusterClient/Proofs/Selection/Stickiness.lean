import ClusterClient.Proofs.Selection.Dispatch

/-!
# Stickiness

One sticky router selector is asked for servers of one snapshot after another. All that it keeps
from one to the next is the router that it holds. It lets go of it only in a snapshot of a sharded
cluster that has no such router any more, and then takes the fastest one there is.

    (∀ s ∈ during, s is not sharded or routes a) → heldAfter (some a) during = some a
                                                                         (heldAfter_of_routes)
    Sticks held snapshots      for all snapshots of servers with distinct addresses  (sticks_run)
-/

namespace ClusterClient

namespace ClusterDescription

/-- A snapshot of servers with distinct addresses. -/
def Distinct (cluster : ClusterDescription) : Prop :=
  ∃ mode type servers, (servers.map (·.address)).Nodup ∧ cluster = ofServers mode type servers

/-- One of the connected routers has this address. -/
def Routes (cluster : ClusterDescription) (a : Address) : Prop :=
  ∃ router ∈ cluster.shardRouters, router.address = a

/-- No connected router is faster, and of those that are as fast none has a smaller address. -/
structure Best (cluster : ClusterDescription) (router : ServerDescription) : Prop where
  mem : router ∈ cluster.shardRouters
  le : ∀ r ∈ cluster.shardRouters, router.latency ≤ r.latency
  first : ∀ r ∈ cluster.shardRouters, r.latency = router.latency →
    r = router ∨ compare router.address r.address = .lt

section

variable {cluster : ClusterDescription} {router : ServerDescription}

theorem Distinct.ascending (h : cluster.Distinct) :
    cluster.servers.Pairwise fun a b => compare a.address b.address = .lt := by
  obtain ⟨mode, type, servers, nodup, rfl⟩ := h
  exact pairwise_ofServers nodup mode type

theorem distinct_of_pairwise
    (h : cluster.servers.Pairwise fun a b => compare a.address b.address = .lt) :
    cluster.Distinct :=
  ⟨cluster.mode, cluster.type, cluster.servers, nodup_of_pairwise h,
    (ofServers_of_perm (.refl _) h _ _).symm⟩

theorem Distinct.nodup (h : cluster.Distinct) : (cluster.servers.map (·.address)).Nodup := by
  obtain ⟨mode, type, servers, nodup, rfl⟩ := h
  exact ((perm_ofServers mode type servers).map _).nodup_iff.2 nodup

/-- Snapshots list their servers in ascending order, so the first of the fastest has the smallest
address of them. -/
theorem best_of_fastest? (h : cluster.Distinct)
    (fastest : fastest? cluster.shardRouters = some router) : cluster.Best router := by
  have le := latency_le_of_fastest? fastest
  refine ⟨mem_of_fastest?_eq_some fastest, fun r hr => Duration.le_iff.2 (le r hr), ?_⟩
  intro r hr same
  have ascending := h.ascending.sublist (List.filter_sublist (p := fun s => s.isShardRouter))
  obtain ⟨before, after, split, faster, -⟩ := exists_split_of_fastest? fastest
  change cluster.shardRouters.Pairwise _ at ascending
  rw [split] at ascending hr
  rcases List.mem_append.1 hr with hr | hr
  · have := faster r hr
    rw [same] at this
    exact absurd this (Nat.lt_irrefl _)
  · rcases List.mem_cons.1 hr with rfl | hr
    · exact .inl rfl
    · exact .inr ((List.pairwise_cons.1 (List.pairwise_append.1 ascending).2.1).1 r hr)

end

end ClusterDescription

namespace Selector

/-! ## Runs -/

/-- The router that is held after some snapshots, if it was `held` before them. -/
def heldAfter (held : Option Address) (snapshots : List ClusterDescription) : Option Address :=
  snapshots.foldl (fun held cluster => (selectSticky cluster held).2) held

theorem heldAfter_append (held : Option Address) (before after : List ClusterDescription) :
    heldAfter held (before ++ after) = heldAfter (heldAfter held before) after :=
  List.foldl_append

section

variable {cluster : ClusterDescription} {held : Option Address} {a : Address}

theorem selectSticky_of_routes (sharded : cluster.type = .sharded) (h : cluster.Distinct)
    (routes : cluster.Routes a) :
    ∃ router ∈ cluster.shardRouters, router.address = a ∧
      selectSticky cluster (some a) = ([router], some a) := by
  obtain ⟨router, hr, rfl⟩ := routes
  exact ⟨router, hr, rfl, selectSticky_of_held sharded h.nodup hr⟩

theorem heldAfter_of_routes {during : List ClusterDescription}
    (distinct : ∀ s ∈ during, s.Distinct)
    (routes : ∀ s ∈ during, s.type = .sharded → s.Routes a) :
    heldAfter (some a) during = some a := by
  induction during with
  | nil => rfl
  | cons s during ih =>
    rw [List.forall_mem_cons] at distinct routes
    have kept : (selectSticky s (some a)).2 = some a := by
      by_cases sharded : s.type = .sharded
      · obtain ⟨router, -, -, same⟩ :=
          selectSticky_of_routes sharded distinct.1 (routes.1 sharded)
        rw [same]
      · rw [selectSticky_of_ne_sharded sharded]
    show heldAfter (selectSticky s (some a)).2 during = some a
    rw [kept]
    exact ih distinct.2 routes.2

/-- Without a router to hold on to, the best one is taken, if there is any. -/
theorem selectSticky_of_not_routes (sharded : cluster.type = .sharded) (h : cluster.Distinct)
    (lost : ∀ a, held = some a → ¬cluster.Routes a) :
    ∃ router : Option ServerDescription,
      selectSticky cluster held = (router.toList, router.map (·.address)) ∧
        (∀ r ∈ router, cluster.Best r) ∧ (router = none → cluster.shardRouters = []) := by
  refine ⟨fastest? cluster.shardRouters, selectSticky_of_not_held sharded ?_, ?_, ?_⟩
  · rintro r hr rfl
    exact lost r.address rfl ⟨r, hr, rfl⟩
  · exact fun r fastest => ClusterDescription.best_of_fastest? h fastest
  · exact fastest?_eq_none_iff.1

theorem exists_router_of_sharded (sharded : cluster.type = .sharded) (h : cluster.Distinct) :
    ∃ router : Option ServerDescription,
      selectSticky cluster held = (router.toList, router.map (·.address)) ∧
        ∀ r ∈ router, r ∈ cluster.shardRouters := by
  by_cases routed : ∃ a, held = some a ∧ cluster.Routes a
  · obtain ⟨a, rfl, routes⟩ := routed
    obtain ⟨router, hr, rfl, same⟩ := selectSticky_of_routes sharded h routes
    exact ⟨some router, same, by simpa using hr⟩
  · have lost : ∀ a, held = some a → ¬cluster.Routes a :=
      fun a holds routes => routed ⟨a, holds, routes⟩
    obtain ⟨router, same, best, -⟩ := selectSticky_of_not_routes sharded h lost
    exact ⟨router, same, fun r hr => (best r hr).mem⟩

end

/-! ## All runs -/

/-- How a sticky router selector that holds `held` at first answers one snapshot after another. -/
structure Sticks (held : Option Address) (snapshots : List ClusterDescription) : Prop where
  /-- Clusters of other types are left alone, and so is the router that is held. -/
  passed : ∀ before c after, snapshots = before ++ c :: after → c.type ≠ .sharded →
    sticky.select c (heldAfter held before) = some (c.servers, heldAfter held before)
  /-- Of a sharded cluster at most one connected router is selected, and that is held. -/
  single : ∀ before c after, snapshots = before ++ c :: after → c.type = .sharded →
    ∃ router : Option ServerDescription,
      sticky.select c (heldAfter held before) = some (router.toList, router.map (·.address)) ∧
        ∀ r ∈ router, r ∈ c.shardRouters
  /-- As long as each sharded cluster has the router that is held, that router is selected, however
  slow it is, ... -/
  stays : ∀ before during c after a, snapshots = before ++ during ++ c :: after →
    heldAfter held before = some a → (∀ s ∈ during, s.type = .sharded → s.Routes a) →
    heldAfter held (before ++ during) = some a ∧
      (c.type = .sharded → c.Routes a → ∃ router ∈ c.shardRouters, router.address = a ∧
        sticky.select c (heldAfter held (before ++ during)) = some ([router], some a))
  /-- ... and in the first one that has not, or if none is held, the best one is taken. -/
  moves : ∀ before c after, snapshots = before ++ c :: after → c.type = .sharded →
    (∀ a, heldAfter held before = some a → ¬c.Routes a) →
    ∃ router : Option ServerDescription,
      sticky.select c (heldAfter held before) = some (router.toList, router.map (·.address)) ∧
        (∀ r ∈ router, c.Best r) ∧ (router = none → c.shardRouters = [])

theorem sticks_run (held : Option Address) {snapshots : List ClusterDescription}
    (distinct : ∀ c ∈ snapshots, c.Distinct) : Sticks held snapshots := by
  refine ⟨?_, ?_, ?_, ?_⟩
  · rintro before c after rfl other
    rw [select, selectSticky_of_ne_sharded other]
  · rintro before c after rfl sharded
    obtain ⟨router, same, isRouter⟩ := exists_router_of_sharded sharded (distinct c (by simp))
    exact ⟨router, congrArg some same, isRouter⟩
  · rintro before during c after a rfl holds routes
    have kept : heldAfter held (before ++ during) = some a := by
      rw [heldAfter_append, holds]
      exact heldAfter_of_routes (fun s hs => distinct s (by simp [hs])) routes
    refine ⟨kept, fun sharded routed => ?_⟩
    obtain ⟨router, hr, address, same⟩ :=
      selectSticky_of_routes sharded (distinct c (by simp)) routed
    exact ⟨router, hr, address, by rw [kept, select, same]⟩
  · rintro before c after rfl sharded lost
    obtain ⟨router, same, best⟩ :=
      selectSticky_of_not_routes sharded (distinct c (by simp)) lost
    exact ⟨router, congrArg some same, best⟩

/-- The router that was chosen becomes the slower one, and goes down later; in between the cluster
is none of routers for a while. -/
theorem sticks_run_failover :
    let router (host : String) (millis : Nat) : ServerDescription :=
      .ofReply ⟨host, 1⟩ { msg := some "isdbgrid" } (.ofMillis millis)
    let down : ServerDescription := .unknown ⟨"b", 1⟩ "down"
    let before : List ClusterDescription :=
      [⟨.multiple, .sharded, [router "a" 10, router "b" 5]⟩, ⟨.multiple, .unknown, [down]⟩,
        ⟨.multiple, .sharded, [router "a" 1, router "b" 20]⟩]
    let last : ClusterDescription := ⟨.multiple, .sharded, [router "a" 1, down, router "c" 1]⟩
    (∀ c ∈ before ++ [last], c.Distinct) ∧ heldAfter none before = some ⟨"b", 1⟩ ∧
      sticky.select last (heldAfter none before) = some ([router "a" 1], some ⟨"a", 1⟩) ∧
      Sticks none (before ++ [last]) := by
  intro router down before last
  have distinct : ∀ c ∈ before ++ [last], c.Distinct := by
    have ascending : ∀ c ∈ before ++ [last],
        c.servers.Pairwise fun a b => compare a.address b.address = .lt := by
      decide +kernel
    exact fun c hc => ClusterDescription.distinct_of_pairwise (ascending c hc)
  exact ⟨distinct, by decide +kernel, by decide +kernel, sticks_run none distinct⟩

end Selector

end ClusterClient

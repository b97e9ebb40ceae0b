import ClusterClient.Proofs.Client.Pools
import ClusterClient.Proofs.Pool.Custody

/-!
# Tending

What happens to a client outside its commands is no step of a borrower, so it keeps the loans and
the open streams of all pools. A pool that is new has no connections yet. No request is numbered
either.

    Keeps (fun _ _ => False) c (c.step e)       unless e is a step of a command       (keeps_step)
-/

namespace ClusterClient

namespace Client

/-- The pool of a server. -/
def pool? (c : Client) (serial : Nat) : Option PoolSystem := (c.servers[serial]?).map (·.pool)

/-- What is no step of a command. -/
def Event.Quiet : Event → Prop
  | .pool _ e => e.Quiet
  | .issue => False
  | _ => True

/-- What the pools of a client keep, but for some borrowers. -/
structure Keeps (concerned : Nat → Nat → Prop) (c c' : Client) : Prop where
  kept : ∀ i s, c.pool? i = some s → ∃ s', c'.pool? i = some s' ∧ s.Keeps (concerned i) s'
  made : ∀ i s', c.pool? i = none → c'.pool? i = some s' → ∀ d ∈ s'.ledger.connections,
    d.closed = false → Link.payload d.link.arrivals = []

section

variable {concerned : Nat → Nat → Prop} {c c' c'' : Client}

theorem Keeps.of_pool?_eq (h : ∀ i, c'.pool? i = c.pool? i) : Keeps concerned c c' where
  kept i s found := ⟨s, (h i).trans found, .refl ..⟩
  made i s' none some := by
    rw [h, none] at some
    cases some

theorem Keeps.trans (h : Keeps concerned c c') (h' : Keeps concerned c' c'') :
    Keeps concerned c c'' where
  kept i s found := by
    obtain ⟨s', found', kept⟩ := h.kept i s found
    obtain ⟨s'', found'', kept'⟩ := h'.kept i s' found'
    exact ⟨s'', found'', kept.trans kept'⟩
  made i s'' none found'' d hd isOpen := by
    cases found' : c'.pool? i with
    | none => exact h'.made i s'' found' found'' d hd isOpen
    | some s' =>
      obtain ⟨t, same, kept⟩ := h'.kept i s' found'
      rw [found''] at same
      cases same
      rcases kept.connection d hd isOpen with old | ⟨-, nothing⟩
      · exact h.made i s' none found' d old isOpen
      · exact nothing

/-! ## Servers -/

theorem pool?_modifyServer (c : Client) (serial : Nat) (f : Server → Server) (i : Nat) :
    (c.modifyServer serial f).pool? i =
      if serial = i then (c.servers[i]?).map fun s => (f s).pool else c.pool? i := by
  rw [pool?, modifyServer, List.getElem?_modify, Option.map_eq_map, Option.map_map]
  split
  · rfl
  · rfl

theorem pool?_step_pool (c : Client) (serial : Nat) (e : PoolSystem.Event) (i : Nat) :
    (c.step (.pool serial e)).pool? i =
      if serial = i then (c.pool? i).map (·.step e) else c.pool? i := by
  rw [step, stepPool, pool?_modifyServer]
  split
  · rw [pool?, Option.map_map]
    rfl
  · rfl

/-- Events of one pool, one after the other. -/
theorem pool?_run_pool (c : Client) (serial : Nat) (events : List PoolSystem.Event) (i : Nat) :
    (c.run (events.map (.pool serial))).pool? i =
      if serial = i then (c.pool? i).map (·.run events) else c.pool? i := by
  induction events generalizing c with
  | nil => simp [run, PoolSystem.run]
  | cons e events ih =>
    refine (ih (c.step (.pool serial e))).trans ?_
    rw [pool?_step_pool]
    split
    · rw [Option.map_map]
      rfl
    · rfl

theorem keeps_modifyServer {serial : Nat} {f : Server → Server}
    (h : ∀ s, c.servers[serial]? = some s → s.pool.Keeps (concerned serial) (f s).pool) :
    Keeps concerned c (c.modifyServer serial f) where
  kept i s found := by
    rw [pool?_modifyServer]
    split
    · next same =>
      subst same
      obtain ⟨server, known, rfl⟩ := Option.map_eq_some_iff.1 found
      rw [known]
      exact ⟨_, rfl, h server known⟩
    · exact ⟨s, found, .refl ..⟩
  made i s' none some := by
    have unknown : c.servers[i]? = Option.none := Option.map_eq_none_iff.1 none
    rw [pool?_modifyServer, unknown, none] at some
    split at some <;> cases some

theorem keeps_foldl_close (c : Client) (serials : List Nat) :
    Keeps concerned c
      (serials.foldl (fun c serial => c.modifyServer serial .close) c) := by
  induction serials generalizing c with
  | nil => exact .of_pool?_eq fun _ => rfl
  | cons serial serials ih =>
    have first : Keeps concerned c (c.modifyServer serial .close) :=
      keeps_modifyServer fun s _ => s.pool.keeps_close
    exact first.trans (ih _)

theorem keeps_adopt (c : Client) : Keeps concerned c c.adopt := by
  let created := { c with
    servers := c.servers ++ (c.cluster.cluster.created.drop c.servers.length).map c.create }
  have first : Keeps concerned c created := by
    refine ⟨fun i s found => ?_, fun i s' none some => ?_⟩
    · obtain ⟨server, known, rfl⟩ := Option.map_eq_some_iff.1 found
      refine ⟨_, ?_, .refl ..⟩
      show (created.servers[i]?).map (·.pool) = _
      rw [List.getElem?_append_left (List.getElem?_eq_some_iff.1 known).1, known]
      rfl
    · have beyond : c.servers.length ≤ i :=
        List.getElem?_eq_none_iff.1 (Option.map_eq_none_iff.1 none)
      obtain ⟨server, known, rfl⟩ := Option.map_eq_some_iff.1 some
      change (c.servers ++ _)[i]? = _ at known
      rw [List.getElem?_append_right beyond] at known
      obtain ⟨address, -, rfl⟩ := List.mem_map.1 (List.mem_of_getElem? known)
      exact fun d hd => absurd hd (List.not_mem_nil)
  have closed : Keeps concerned created _ :=
    created.keeps_foldl_close (c.cluster.cluster.closings.drop c.closed)
  exact (first.trans closed).trans (.of_pool?_eq fun _ => rfl)

theorem keeps_foldl_report (c : Client) (news : List ServerDescription)
    (spawn : Address → Spawn) :
    Keeps concerned c (news.foldl (fun c d => c.report d spawn) c) := by
  induction news generalizing c with
  | nil => exact .of_pool?_eq fun _ => rfl
  | cons d news ih =>
    let reported := { c with cluster := c.cluster.onChange d spawn }
    have first : Keeps concerned c reported := .of_pool?_eq fun _ => rfl
    exact (first.trans reported.keeps_adopt).trans (ih _)

theorem keeps_stepMonitor (c : Client) (serial : Nat) (e : Monitor.Event)
    (spawn : Address → Spawn) : Keeps concerned c (c.stepMonitor serial e spawn) := by
  unfold stepMonitor
  split
  · exact .of_pool?_eq fun _ => rfl
  · next server _ =>
    have first : Keeps concerned c (c.modifyServer serial fun s =>
        { s with monitor := server.monitor.step e }) :=
      keeps_modifyServer fun s _ => .refl ..
    exact first.trans (keeps_foldl_report ..)

/-! ## Steps -/

theorem keeps_step {settings : ClientSettings} {dialer : Dialer} (h : Stocked settings dialer c)
    (plain : dialer.authenticator = none) {e : Event} (quiet : e.Quiet) :
    Keeps concerned c (c.step e) := by
  cases e with
  | seek | recheck | tick => exact .of_pool?_eq fun _ => rfl
  | issue => exact quiet.elim
  | monitor serial event spawn => exact c.keeps_stepMonitor serial event spawn
  | close =>
    let told := { c with cluster := c.cluster.close.notifyClosed }
    have first : Keeps concerned c told := .of_pool?_eq fun _ => rfl
    exact first.trans told.keeps_adopt
  | pool serial event =>
    refine keeps_modifyServer fun s known => PoolSystem.keeps_step ?_ quiet
    rw [PoolSystem.Runs.dialer_eq (h.runs s (List.mem_of_getElem? known))]
    exact plain

/-! ## Numbers -/

theorem nextRequestId_foldl {α : Type} {f : Client → α → Client}
    (same : ∀ c a, (f c a).nextRequestId = c.nextRequestId) (as : List α) (c : Client) :
    (as.foldl f c).nextRequestId = c.nextRequestId := by
  induction as generalizing c with
  | nil => rfl
  | cons a as ih => exact (ih (f c a)).trans (same c a)

theorem nextRequestId_adopt (c : Client) : c.adopt.nextRequestId = c.nextRequestId :=
  nextRequestId_foldl (f := fun c serial => c.modifyServer serial .close) (fun _ _ => rfl) _ _

theorem nextRequestId_step {e : Event} (quiet : e.Quiet) :
    (c.step e).nextRequestId = c.nextRequestId := by
  cases e with
  | seek | recheck | tick | pool => rfl
  | issue => exact quiet.elim
  | monitor serial event spawn =>
    simp only [step, stepMonitor]
    split
    · rfl
    · exact nextRequestId_foldl (f := fun c d => c.report d spawn)
        (fun _ _ => nextRequestId_adopt _) _ _
  | close => exact nextRequestId_adopt _

end

end Client

end ClusterClient

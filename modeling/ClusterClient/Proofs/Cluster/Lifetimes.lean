import ClusterClient.Proofs.Cluster.Representation

/-!
# The lifetimes of servers

Servers are numbered in the order in which they are created. Each server that was created is either
a member or was closed, and that once: no server is closed that still is a member, and none is lost
without being closed.

A step takes its turn, in which it changes the members and closes new servers that could not be
started, and after that closes the servers that it removed.

    m ∈ (c₀.run events).members → m.serial ∉ (c₀.run events).closings       (not_mem_closings)
    c.step e = c' with the servers removed closed, if c.turn e = (c', removed)      (step_eq_turn)
-/

namespace ClusterClient

namespace Cluster

/-- The numbers of the servers that are members, and of those that were closed. -/
def serials (c : Cluster) : List Nat := c.members.map (·.serial) ++ c.closings

/-- Each of the servers that were created is a member or was closed, exactly once. -/
def Numbered (c : Cluster) : Prop := c.serials.Perm (List.range c.created.length)

section

variable {c c' : Cluster}

theorem not_mem_closings (h : Numbered c) {m : Member} (hm : m ∈ c.members) :
    m.serial ∉ c.closings := by
  have nodup : c.serials.Nodup := h.nodup_iff.2 List.nodup_range
  exact (List.nodup_append'.1 nodup).2.2 (List.mem_map_of_mem hm)

/-! ## Turns -/

/-- What becomes of a cluster when a description is delivered, before the servers that are removed
are closed, and those servers. -/
def revise (c : Cluster) (d : ServerDescription) (spawn : Address → Spawn) : Cluster × List Nat :=
  if c.closed ∨ (c.member? d.address).isNone then (c, [])
  else
    let c := { c with members := describe (c.judged d) c.members }
    match c.settings.mode with
    | .single => (c.publish, [])
    | .multiple =>
      let (c, removed) := c.discover spawn
      (c.publish, removed)

/-- What becomes of a cluster when it is closed, before its servers are, and those servers. -/
def vacate (c : Cluster) : Cluster × List Nat :=
  if c.closed then (c, []) else ({ c with members := [], closed := true }, c.members.map (·.serial))

def turn (c : Cluster) : Event → Cluster × List Nat
  | .change d spawn => c.revise d spawn
  | .close => c.vacate

/-- A new cluster before it is dropped if one of its hosts cannot be added. -/
def assemble (settings : ClusterSettings) (spawn : Address → Spawn) : Except Error Unit × Cluster :=
  let c : Cluster := { settings }
  match settings.validate with
  | .error cause => (.error cause, c)
  | .ok () =>
    match c.addHosts spawn settings.hosts with
    | (.ok (), c) => (.ok (), c.publish)
    | (.error cause, c) => (.error cause, c)

theorem step_eq_turn (c : Cluster) (e : Event) : c.step e =
    { (c.turn e).1 with closings := (c.turn e).1.closings ++ (c.turn e).2 } := by
  cases e with
  | change d spawn =>
    simp only [step, turn, onChange, revise]
    split
    · simp only [List.append_nil]
    · cases c.settings.mode with
      | single => simp only [List.append_nil]
      | multiple => rfl
  | close =>
    simp only [step, turn, close, vacate]
    split
    · simp only [List.append_nil]
    · rfl

theorem turn_of_closed (closed : c.closed = true) (e : Event) : c.turn e = (c, []) := by
  cases e with
  | change d spawn => exact if_pos (.inl closed)
  | close => exact if_pos closed

theorem closed_turn_close (c : Cluster) : (c.turn .close).1.closed = true := by
  have closed := c.closed_close
  rwa [show c.close = _ from c.step_eq_turn .close] at closed

theorem emptied_turn (emptied : c.closed = true → c.members = []) (e : Event)
    (closed : (c.turn e).1.closed = true) : (c.turn e).1.members = [] := by
  by_cases before : c.closed = true
  · rw [turn_of_closed before]
    exact emptied before
  · cases e with
    | change d spawn =>
      have kept := c.closed_onChange d spawn
      rw [show c.onChange d spawn = _ from c.step_eq_turn (.change d spawn)] at kept
      exact absurd (kept.symm.trans closed) before
    | close =>
      simp only [turn, vacate, if_neg before]

theorem closed_assemble (settings : ClusterSettings) (spawn : Address → Spawn) :
    (assemble settings spawn).2.closed = false := by
  obtain ⟨new, grown, -, -⟩ := exists_grown_addHosts { settings } spawn settings.hosts
  simp only [assemble]
  split
  · rfl
  · generalize addHosts { settings } spawn settings.hosts = result at grown
    obtain ⟨cause | u, c⟩ := result <;> exact grown.closed_eq

theorem start_eq_assemble (settings : ClusterSettings) (spawn : Address → Spawn) :
    start settings spawn = match assemble settings spawn with
      | (.ok (), c) => (.ok (), c)
      | (.error cause, c) => (.error cause, c.drop) := by
  simp only [start, assemble]
  cases settings.validate with
  | error cause => rfl
  | ok =>
    rcases addHosts { settings } spawn settings.hosts with ⟨cause | u, c⟩ <;> rfl

/-! ## Balance -/

/-- The members of `c` and the servers that are created on the way to `c'` are the members of `c'`
and those that are gone, each of them once. Of the latter some were closed at once; they failed to
start. -/
structure Balanced (c c' : Cluster) (failed removed : List Nat) : Prop where
  closings_eq : c'.closings = c.closings ++ failed
  created : ∃ new : List Address, c'.created = c.created ++ new ∧
    (c'.members.map (·.serial) ++ (failed ++ removed)).Perm
      (c.members.map (·.serial) ++ List.range' c.created.length new.length)

theorem Balanced.of_perm {members : List Member} {removed : List Nat}
    (perm : (members.map (·.serial) ++ removed).Perm (c.members.map (·.serial))) :
    Balanced c { c with members } [] removed :=
  ⟨(List.append_nil _).symm, [], (List.append_nil _).symm, by simpa using perm⟩

theorem Balanced.refl (c : Cluster) : Balanced c c [] [] := .of_perm (by simp)

theorem Balanced.publish {failed removed : List Nat} (h : Balanced c c' failed removed) :
    Balanced c c'.publish failed removed :=
  ⟨h.closings_eq, h.created⟩

theorem Balanced.trans {c'' : Cluster} {failed failed' removed : List Nat}
    (h : Balanced c c' failed []) (h' : Balanced c' c'' failed' removed) :
    Balanced c c'' (failed ++ failed') removed := by
  obtain ⟨new, created, perm⟩ := h.created
  obtain ⟨new', created', perm'⟩ := h'.created
  refine ⟨by rw [h'.closings_eq, h.closings_eq, List.append_assoc], new ++ new',
    by rw [created', created, List.append_assoc], ?_⟩
  rw [created, List.length_append] at perm'
  rw [List.append_nil] at perm
  calc c''.members.map (·.serial) ++ (failed ++ failed' ++ removed)
    _ = c''.members.map (·.serial) ++ (failed ++ (failed' ++ removed)) := by
      rw [List.append_assoc]
    List.Perm _ (failed ++ (c''.members.map (·.serial) ++ (failed' ++ removed))) :=
      List.perm_append_comm_assoc ..
    List.Perm _ (failed ++ (c'.members.map (·.serial) ++
        List.range' (c.created.length + new.length) new'.length)) := perm'.append_left failed
    List.Perm _ (c'.members.map (·.serial) ++ failed ++
        List.range' (c.created.length + new.length) new'.length) := by
      rw [List.append_assoc]
      exact List.perm_append_comm_assoc ..
    List.Perm _ (c.members.map (·.serial) ++ List.range' c.created.length new.length ++
        List.range' (c.created.length + new.length) new'.length) := perm.append_right _
    _ = c.members.map (·.serial) ++ List.range' c.created.length (new ++ new').length := by
      rw [List.append_assoc, List.range'_append_1, List.length_append]

/-- If the members and `before` are all servers that were created, they still are together with the
servers that are gone. -/
theorem Balanced.perm_range {failed removed before : List Nat} (h : Balanced c c' failed removed)
    (all : (c.members.map (·.serial) ++ before).Perm (List.range c.created.length)) :
    (c'.members.map (·.serial) ++ (before ++ (failed ++ removed))).Perm
      (List.range c'.created.length) := by
  obtain ⟨new, created, perm⟩ := h.created
  calc c'.members.map (·.serial) ++ (before ++ (failed ++ removed))
    List.Perm _ (before ++ (c'.members.map (·.serial) ++ (failed ++ removed))) :=
      List.perm_append_comm_assoc ..
    List.Perm _ (before ++ (c.members.map (·.serial) ++ List.range' c.created.length new.length)) :=
      perm.append_left before
    List.Perm _
        (c.members.map (·.serial) ++ before ++ List.range' c.created.length new.length) := by
      rw [List.append_assoc]
      exact List.perm_append_comm_assoc ..
    List.Perm _ (List.range c.created.length ++ List.range' c.created.length new.length) :=
      all.append_right _
    _ = List.range c'.created.length := by
      rw [created, List.length_append, List.range_eq_range', List.range_eq_range',
        ← List.range'_append_1, Nat.zero_add]

theorem balanced_addServer (c : Cluster) (address : Address) (spawn : Spawn) :
    ∃ failed, Balanced c (c.addServer address spawn).2 failed [] := by
  unfold addServer
  split
  · exact ⟨[], .refl c⟩
  · cases spawn with
    | refused cause => exact ⟨[], .refl c⟩
    | unstarted cause => exact ⟨[c.created.length], rfl, [address], rfl, .refl _⟩
    | started =>
      refine ⟨[], (List.append_nil _).symm, [address], rfl, ?_⟩
      simp

theorem balanced_addHosts (c : Cluster) (spawn : Address → Spawn) (hosts : List Address) :
    ∃ failed, Balanced c (c.addHosts spawn hosts).2 failed [] := by
  induction hosts generalizing c with
  | nil => exact ⟨[], .refl c⟩
  | cons host hosts ih =>
    obtain ⟨failed, added⟩ := c.balanced_addServer host (spawn host)
    unfold addHosts
    split
    · next c' hc =>
      rw [hc] at added
      obtain ⟨failed', others⟩ := ih c'
      exact ⟨_, added.trans others⟩
    · next c' hc =>
      rw [hc] at added
      exact ⟨failed, added⟩

theorem balanced_enlist (c : Cluster) (spawn : Address → Spawn) (wanted : List Address) :
    ∃ failed, Balanced c (c.enlist spawn wanted) failed [] := by
  induction wanted generalizing c with
  | nil => exact ⟨[], .refl c⟩
  | cons a wanted ih =>
    obtain ⟨failed, added⟩ := c.balanced_addServer a (spawn a)
    obtain ⟨failed', others⟩ := ih (c.addServer a (spawn a)).2
    exact ⟨_, added.trans others⟩

theorem map_serial_describe (d : ServerDescription) (ms : List Member) :
    (describe d ms).map (·.serial) = ms.map (·.serial) := by
  induction ms with
  | nil => rfl
  | cons m ms ih =>
    rw [describe]
    split
    · rfl
    · rw [List.map_cons, List.map_cons, ih]

theorem balanced_discover (c : Cluster) (spawn : Address → Spawn) :
    ∃ failed, Balanced c (c.discover spawn).1 failed (c.discover spawn).2 := by
  obtain ⟨failed, enlisted⟩ := c.balanced_enlist spawn (reported c.members)
  unfold discover
  simp only
  split
  · exact ⟨failed, enlisted⟩
  · generalize c.enlist spawn (reported c.members) = c' at enlisted ⊢
    have parted := List.filter_append_perm
      (fun m : Member => decide (m.address ∈ reported c.members)) c'.members
    have parted := parted.map (·.serial)
    rw [List.map_append] at parted
    simp only [decide_not]
    exact ⟨failed ++ [], enlisted.trans (.of_perm parted)⟩

theorem balanced_turn (c : Cluster) (e : Event) :
    ∃ failed, Balanced c (c.turn e).1 failed (c.turn e).2 := by
  cases e with
  | change d spawn =>
    simp only [turn, revise]
    split
    · exact ⟨[], .refl c⟩
    · have first : Balanced c { c with members := describe (c.judged d) c.members } [] [] :=
        .of_perm (by rw [map_serial_describe, List.append_nil])
      generalize ({ c with members := describe (c.judged d) c.members } : Cluster) = described
        at first ⊢
      split
      · exact ⟨[], first.publish⟩
      · obtain ⟨failed, discovered⟩ := described.balanced_discover spawn
        exact ⟨failed, (first.trans discovered).publish⟩
  | close =>
    simp only [turn, vacate]
    split
    · exact ⟨[], .refl c⟩
    · exact ⟨[], (List.append_nil _).symm, [], (List.append_nil _).symm, by simp⟩

theorem balanced_assemble (settings : ClusterSettings) (spawn : Address → Spawn) :
    ∃ failed, Balanced { settings } (assemble settings spawn).2 failed [] := by
  obtain ⟨failed, added⟩ := balanced_addHosts { settings } spawn settings.hosts
  simp only [assemble]
  split
  · exact ⟨[], .refl _⟩
  · generalize addHosts { settings } spawn settings.hosts = result at added
    obtain ⟨cause | u, c⟩ := result
    · exact ⟨failed, added⟩
    · exact ⟨failed, added.publish⟩

/-! ## Steps -/

/-- After its turn a step closes the servers that it removed. -/
theorem Numbered.of_balanced {failed removed : List Nat} (h : Numbered c)
    (balanced : Balanced c c' failed removed) :
    Numbered { c' with closings := c'.closings ++ removed } := by
  have all := balanced.perm_range h
  rw [← List.append_assoc c.closings, ← balanced.closings_eq] at all
  exact all

/-- A step only adds to the servers that were created and to those that were closed. -/
theorem prefix_step (c : Cluster) (e : Event) :
    c.created <+: (c.step e).created ∧ c.closings <+: (c.step e).closings := by
  obtain ⟨failed, closings_eq, new, created_eq, -⟩ := c.balanced_turn e
  rw [step_eq_turn]
  refine ⟨⟨new, created_eq.symm⟩, failed ++ (c.turn e).2, ?_⟩
  rw [← List.append_assoc, ← closings_eq]

theorem numbered_step (h : Numbered c) (e : Event) : Numbered (c.step e) := by
  obtain ⟨failed, balanced⟩ := c.balanced_turn e
  rw [step_eq_turn]
  exact h.of_balanced balanced

theorem numbered_run (h : Numbered c) (events : List Event) : Numbered (c.run events) := by
  induction events generalizing c with
  | nil => exact h
  | cons e events ih => exact ih (numbered_step h e)

theorem numbered_drop (h : Numbered c) : Numbered c.drop := by
  show (c.closings ++ c.members.map (·.serial)).Perm _
  exact List.perm_append_comm.trans h

theorem numbered_start (settings : ClusterSettings) (spawn : Address → Spawn) :
    Numbered (start settings spawn).2 := by
  have empty : Numbered { settings } := .refl _
  obtain ⟨failed, balanced⟩ := balanced_assemble settings spawn
  have assembled := empty.of_balanced balanced
  rw [List.append_nil] at assembled
  rw [start_eq_assemble]
  generalize assemble settings spawn = result at assembled
  obtain ⟨cause | u, c⟩ := result
  · exact numbered_drop assembled
  · exact assembled

end

end Cluster

end ClusterClient

import ClusterClient.Proofs.Cluster.Discovery
import ClusterClient.Proofs.Cluster.Representation
import Mathlib.Data.Finset.Basic

/-!
# Convergence

Members of a replica set that agree about it list the same addresses, or none at all. Then the first
of them that lists any settles which servers are monitored, and no failure or recovery changes that
later: a server that lists nothing is ignored, and the others list what is monitored anyway.

From then on a description changes the description of one member and nothing else, so the order in
which the servers are described does not matter.

    Converged L c₀ events (c₀.run events)
      for each cluster c₀ that was started and all events that agree on L           (converged_run)
-/

namespace ClusterClient

namespace ServerDescription

/-- The members of the replica set that the server lists. -/
def listing (d : ServerDescription) : Finset Address :=
  d.hosts.toFinset ∪ d.passives.toFinset ∪ d.arbiters.toFinset

/-- A connected member of a replica set lists no members, or those of `L`. -/
def Agrees (L : Finset Address) (d : ServerDescription) : Prop :=
  d.isReplicaSetMember = true → d.listing = ∅ ∨ d.listing = L

theorem mem_listing {d : ServerDescription} {a : Address} : a ∈ d.listing ↔ a ∈ d.reported := by
  simp [listing, reported]

end ServerDescription

namespace Member

theorem described_comm {d d' : ServerDescription} (ne : d.address ≠ d'.address) (m : Member) :
    (m.described d).described d' = (m.described d').described d := by
  by_cases h : m.address = d.address
  · simp [described, h, ne]
  · by_cases h' : m.address = d'.address
    · simp [described, h', ne.symm]
    · simp [described, h, h']

end Member

namespace Cluster

section

variable {c : Cluster} {d : ServerDescription} {L : Finset Address}

/-! ## Agreement -/

def Agreed (L : Finset Address) (ms : List Member) : Prop :=
  ∀ m ∈ ms, m.description.Agrees L

theorem reports_of_agreed {ms : List Member} (agreed : Agreed L ms) :
    (∀ a, ¬Reports ms a) ∨ ∀ a, Reports ms a ↔ a ∈ L := by
  have listed : ∀ a, Reports ms a ↔
      ∃ m ∈ ms, m.description.isReplicaSetMember = true ∧ a ∈ m.description.listing := by
    intro a
    simp only [← mem_reported_iff, mem_reported, ServerDescription.mem_listing]
  by_cases some : ∃ m ∈ ms, m.description.isReplicaSetMember = true ∧ m.description.listing = L
  · obtain ⟨m, hm, counts, lists⟩ := some
    refine .inr fun a => (listed a).trans ⟨?_, fun ha => ⟨m, hm, counts, lists ▸ ha⟩⟩
    rintro ⟨m', hm', counts', ha⟩
    rcases agreed m' hm' counts' with none | all
    · simp [none] at ha
    · exact all ▸ ha
  · refine .inl fun a ha => ?_
    obtain ⟨m, hm, counts, ha⟩ := (listed a).1 ha
    rcases agreed m hm counts with none | all
    · simp [none] at ha
    · exact some ⟨m, hm, counts, all⟩

theorem agreed_stored (agreed : Agreed L c.members) (agrees : (c.judged d).Agrees L) :
    Agreed L (c.stored d) := by
  intro m hm
  obtain ⟨m', hm', rfl⟩ := List.mem_map.1 hm
  unfold Member.described
  split
  · exact agrees
  · exact agreed m' hm'

/-- A server that failed agrees with all others. -/
theorem agrees_judged_of_failed (failed : d.isConnected = false) : (c.judged d).Agrees L := by
  intro counts
  rw [ServerDescription.isReplicaSetMember, Bool.and_eq_true] at counts
  have connected := counts.1
  rw [(judged_eq_of_isConnected connected).1, failed] at connected
  cases connected

/-- What has to be true of an event if all that is stored is to agree on `L`. -/
def Suits (L : Finset Address) (c : Cluster) : Event → Prop
  | .change d spawn => c.closed = false → d.address ∈ c.addresses →
      (c.judged d).Agrees L ∧ ∀ a ∈ L, spawn a = .started
  | .close => True

/-- The event is a description of a member that lists the addresses of `L`. -/
def Lists (L : Finset Address) (c : Cluster) : Event → Prop
  | .change d _ => c.closed = false ∧ d.address ∈ c.addresses ∧
      (c.judged d).isReplicaSetMember = true ∧ (c.judged d).listing = L
  | .close => False

theorem agreed_fresh {m : Member} (h : m.description = .fresh m.address) :
    m.description.Agrees L := by
  intro counts
  rw [h] at counts
  cases counts

theorem agreed_onChange (isOpen : c.closed = false) (multiple : c.settings.mode = .multiple)
    (nodup : c.addresses.Nodup) (known : d.address ∈ c.addresses) (spawn : Address → Spawn)
    (agreed : Agreed L (c.stored d)) : Agreed L (c.onChange d spawn).members := by
  have discovered := discovered_of_mem isOpen multiple nodup known spawn
  by_cases some : ∃ a, Reports (c.stored d) a
  · obtain ⟨created, reconciled⟩ := discovered.something some
    rw [reconciled.members_eq]
    intro m hm
    rcases List.mem_append.1 hm with hm | hm
    · exact agreed m (List.mem_filter.1 hm).1
    · exact agreed_fresh (mem_newcomers hm).2.2
  · rw [(discovered.nothing (not_exists.1 some)).1]
    exact agreed

theorem agreed_step (consistent : Consistent c) (multiple : c.settings.mode = .multiple)
    (agreed : Agreed L c.members) {e : Event} (suits : Suits L c e) :
    Agreed L (c.step e).members := by
  rcases c.step_cases e with ⟨same, -⟩ | ⟨d, spawn, new, rfl, isOpen, known, -⟩ |
    ⟨-, -, members_eq, -⟩
  · rw [same]
    exact agreed
  · exact agreed_onChange isOpen multiple consistent.nodup known spawn
      (agreed_stored agreed (suits isOpen known).1)
  · rw [members_eq]
    intro m hm
    cases hm

/-! ## Settled clusters -/

/-- The servers that are monitored are those of `L`. -/
def Settled (L : Finset Address) (c : Cluster) : Prop := c.addresses.toFinset = L

theorem Settled.mem_addresses (h : Settled L c) {a : Address} : a ∈ c.addresses ↔ a ∈ L := by
  rw [← h, List.mem_toFinset]

/-- Once a member lists the addresses of `L` they are monitored, and no others. -/
theorem settled_of_lists (consistent : Consistent c) (multiple : c.settings.mode = .multiple)
    (nonempty : L.Nonempty) (agreed : Agreed L c.members) {e : Event} (suits : Suits L c e)
    (lists : Lists L c e) : Settled L (c.step e) := by
  cases e with
  | close => cases lists
  | change d spawn =>
    obtain ⟨isOpen, known, counts, listing⟩ := lists
    obtain ⟨agrees, started⟩ := suits isOpen known
    obtain ⟨m, hm, of_d⟩ := List.mem_map.1 known
    have told : ∀ a ∈ L, Reports (c.stored d) a := by
      intro a ha
      refine mem_reported_iff.1 (mem_reported.2 ⟨m.described (c.judged d), ?_, ?_⟩)
      · exact List.mem_map_of_mem hm
      · rw [Member.described, if_pos (of_d.trans (c.address_judged d).symm)]
        exact ⟨counts, ServerDescription.mem_listing.1 (listing ▸ ha)⟩
    obtain ⟨a₀, ha₀⟩ := nonempty
    rcases reports_of_agreed (agreed_stored agreed agrees) with none | all
    · exact absurd (told a₀ ha₀) (none a₀)
    · have reconciled := reconciled_onChange isOpen multiple consistent.nodup known spawn
        ⟨a₀, told a₀ ha₀⟩
      rw [Settled]
      ext a
      rw [List.mem_toFinset, step, reconciled.mem_addresses (c.map_address_stored d), all]
      exact ⟨fun h => h.1, fun ha => ⟨ha, .inr (started a ha)⟩⟩

/-- In a settled cluster a description is stored, and that is all. -/
theorem onChange_of_settled (isOpen : c.closed = false) (multiple : c.settings.mode = .multiple)
    (nodup : c.addresses.Nodup) (settled : Settled L c) (known : d.address ∈ c.addresses)
    (agreed : Agreed L (c.stored d)) (spawn : Address → Spawn) :
    c.onChange d spawn = publish { c with members := c.stored d } := by
  rw [onChange_eq isOpen multiple nodup known]
  rcases reports_of_agreed agreed with none | all
  · rw [discover_of_nothing none]
    simp [publish]
  · have reports : ∀ a ∈ c.addresses, Reports (c.stored d) a :=
      fun a ha => (all a).2 (settled.mem_addresses.1 ha)
    have nobody : c.creatable spawn (reported (c.stored d)) = [] := by
      refine List.filter_eq_nil_iff.2 fun a ha => ?_
      have monitored := settled.mem_addresses.2 ((all a).1 (mem_reported_iff.1 ha))
      simp [monitored]
    have stay : ∀ m ∈ c.stored d, Reports (c.stored d) m.address := fun m hm =>
      reports _ (c.map_address_stored d ▸ List.mem_map_of_mem hm)
    have kept := List.filter_eq_self.2 fun m hm => decide_eq_true (stay m hm)
    have dropped : (c.stored d).filter (fun m => ¬Reports (c.stored d) m.address) = [] :=
      List.filter_eq_nil_iff.2 fun m hm => by simpa using stay m hm
    rw [discover_of_something ⟨_, reports _ known⟩]
    simp only [creatable_stored, nobody]
    rw [kept, dropped]
    simp [newcomers, failures, publish]

theorem settled_step (consistent : Consistent c) (multiple : c.settings.mode = .multiple)
    (agreed : Agreed L c.members) (settled : Settled L c) {e : Event} (suits : Suits L c e)
    (stillOpen : (c.step e).closed = false) : Settled L (c.step e) := by
  rcases c.step_cases e with ⟨same, -⟩ | ⟨d, spawn, new, rfl, isOpen, known, -⟩ |
    ⟨-, -, -, closed, -⟩
  · rw [same]
    exact settled
  · have agreed := agreed_stored agreed (suits isOpen known).1
    have stored := onChange_of_settled isOpen multiple consistent.nodup settled known agreed spawn
    rw [Settled, step, stored]
    change ((c.stored d).map (·.address)).toFinset = L
    rw [map_address_stored]
    exact settled
  · rw [stillOpen] at closed
    cases closed

/-! ## Runs -/

/-- Each of the events suits the state that it finds. -/
def Suited (L : Finset Address) (c : Cluster) (events : List Event) : Prop :=
  ∀ earlier e later, events = earlier ++ e :: later → Suits L (c.run earlier) e

theorem Suited.nil : Suited L c [] := by
  intro earlier e later h
  simp at h

theorem Suited.cons {e : Event} {events : List Event} (h : Suits L c e)
    (h' : Suited L (c.step e) events) : Suited L c (e :: events) := by
  intro earlier e' later split
  cases earlier with
  | nil =>
    cases split
    exact h
  | cons e'' earlier =>
    obtain ⟨rfl, rest⟩ := List.cons.inj split
    exact h' earlier e' later rest

theorem Suited.head {e : Event} {events : List Event} (h : Suited L c (e :: events)) :
    Suits L c e :=
  h [] e events rfl

theorem Suited.tail {e : Event} {events : List Event} (h : Suited L c (e :: events)) :
    Suited L (c.step e) events := by
  rintro earlier e' later rfl
  exact h (e :: earlier) e' later rfl

theorem Suited.append {events more : List Event} (h : Suited L c (events ++ more)) :
    Suited L c events ∧ Suited L (c.run events) more := by
  constructor
  · rintro earlier e later rfl
    exact h earlier e (later ++ more) (by simp)
  · rintro earlier e later rfl
    rw [← run_append]
    exact h (events ++ earlier) e later (by simp)

theorem agreed_run (consistent : Consistent c) (multiple : c.settings.mode = .multiple)
    (agreed : Agreed L c.members) {events : List Event} (suited : Suited L c events) :
    Agreed L (c.run events).members := by
  induction events generalizing c with
  | nil => exact agreed
  | cons e events ih =>
    refine ih (consistent_step consistent e) ?_ ?_ suited.tail
    · rw [settings_step, multiple]
    · exact agreed_step consistent multiple agreed suited.head

theorem settled_run (consistent : Consistent c) (multiple : c.settings.mode = .multiple)
    (agreed : Agreed L c.members) (settled : Settled L c) {events : List Event}
    (suited : Suited L c events) (isOpen : (c.run events).closed = false) :
    Settled L (c.run events) := by
  induction events generalizing c with
  | nil => exact settled
  | cons e events ih =>
    change ((c.step e).run events).closed = false at isOpen
    have stillOpen : (c.step e).closed = false := by
      by_contra closed
      rw [Bool.not_eq_false] at closed
      rw [run_of_closed closed, closed] at isOpen
      cases isOpen
    refine ih (consistent_step consistent e) ?_ ?_ ?_ suited.tail isOpen
    · rw [settings_step, multiple]
    · exact agreed_step consistent multiple agreed suited.head
    · exact settled_step consistent multiple agreed settled suited.head stillOpen

/-! ## The order of descriptions -/

theorem Consistent.publish_eq (consistent : Consistent c) (isOpen : c.closed = false) :
    c.publish = c := by
  rw [publish, ← consistent.snapshot isOpen]

theorem stored_of_not_mem (unknown : d.address ∉ c.addresses) : c.stored d = c.members := by
  refine (List.map_congr_left fun m hm => ?_).trans (List.map_id _)
  have other : m.address ≠ (c.judged d).address := by
    rw [address_judged]
    exact fun same => unknown (same ▸ List.mem_map_of_mem hm)
  rw [Member.described, if_neg other, id]

/-- In a settled cluster descriptions are stored one after the other, and that is all. -/
theorem run_changes (consistent : Consistent c) (isOpen : c.closed = false)
    (multiple : c.settings.mode = .multiple) (agreed : Agreed L c.members) (settled : Settled L c)
    {ds : List ServerDescription}
    (agree : ∀ d ∈ ds, d.address ∈ L → (c.judged d).Agrees L)
    (spawn : ServerDescription → Address → Spawn) :
    c.run (ds.map fun d => .change d (spawn d)) = publish { c with
      members := c.members.map fun m => ds.foldl (fun m d => m.described (c.judged d)) m } := by
  induction ds generalizing c with
  | nil => simpa [run] using (consistent.publish_eq isOpen).symm
  | cons d ds ih =>
    have after : Agreed L (c.stored d) ∧
        c.onChange d (spawn d) = publish { c with members := c.stored d } := by
      by_cases known : d.address ∈ c.addresses
      · have agrees := agree d List.mem_cons_self (settled.mem_addresses.1 known)
        have agreed := agreed_stored agreed agrees
        exact ⟨agreed, onChange_of_settled isOpen multiple consistent.nodup settled known agreed _⟩
      · rw [stored_of_not_mem known, onChange_of_not_member (isNone_member?_iff.2 known)]
        exact ⟨agreed, (consistent.publish_eq isOpen).symm⟩
    obtain ⟨agreed, next⟩ := after
    have consistent := consistent_step consistent (.change d (spawn d))
    rw [step, next] at consistent
    have settled : Settled L (publish { c with members := c.stored d }) := by
      change ((c.stored d).map (·.address)).toFinset = L
      rwa [map_address_stored]
    have rest := ih consistent isOpen multiple agreed settled
      fun d' hd' => agree d' (List.mem_cons_of_mem d hd')
    change (c.onChange d (spawn d)).run _ = _
    rw [next, rest]
    simp only [publish, stored, List.map_map, List.foldl_cons]
    rfl

/-- Descriptions of different servers are stored in any order. -/
theorem foldl_described_perm {ds ds' : List ServerDescription} (perm : ds.Perm ds')
    (distinct : (ds.map (·.address)).Nodup) (c : Cluster) (m : Member) :
    ds.foldl (fun m d => m.described (c.judged d)) m =
      ds'.foldl (fun m d => m.described (c.judged d)) m := by
  apply perm.foldl_eq'
  intro d hd d' hd' m
  by_cases same : d = d'
  · rw [same]
  · refine Member.described_comm (fun h => same ?_) m
    rw [address_judged, address_judged] at h
    exact List.inj_on_of_nodup_map distinct hd hd' h

end

/-- What is true of an open cluster in which everybody agrees on `L`, once a member listed it. -/
structure Converged (L : Finset Address) (c : Cluster) : Prop where
  nodup : c.addresses.Nodup
  addresses_eq : c.addresses.toFinset = L
  /-- In whatever order the servers are described, the cluster ends in one state. -/
  run_eq : ∀ ds ds' : List ServerDescription, ds.Perm ds' → (ds.map (·.address)).Nodup →
    (∀ d ∈ ds, d.address ∈ L → (c.judged d).Agrees L) →
    ∀ spawn spawn' : ServerDescription → Address → Spawn,
      c.run (ds.map fun d => .change d (spawn d)) = c.run (ds'.map fun d => .change d (spawn' d))

theorem converged_of_settled {L : Finset Address} {c : Cluster} (consistent : Consistent c)
    (isOpen : c.closed = false) (multiple : c.settings.mode = .multiple)
    (agreed : Agreed L c.members) (settled : Settled L c) : Converged L c := by
  refine ⟨consistent.nodup, settled, fun ds ds' perm distinct agree spawn spawn' => ?_⟩
  have agree' : ∀ d ∈ ds', d.address ∈ L → (c.judged d).Agrees L :=
    fun d hd => agree d (perm.mem_iff.2 hd)
  rw [run_changes consistent isOpen multiple agreed settled agree,
    run_changes consistent isOpen multiple agreed settled agree']
  simp only [foldl_described_perm perm distinct]

theorem converged_run {settings : ClusterSettings} {spawn : Address → Spawn} {c₀ : Cluster}
    (h : start settings spawn = (.ok (), c₀)) (multiple : settings.mode = .multiple)
    {L : Finset Address} (nonempty : L.Nonempty) {earlier later : List Event} {e : Event}
    (suited : Suited L c₀ (earlier ++ e :: later)) (lists : Lists L (c₀.run earlier) e)
    (isOpen : (c₀.run (earlier ++ e :: later)).closed = false) :
    Converged L (c₀.run (earlier ++ e :: later)) := by
  have started := started_of_start h
  have multiple : c₀.settings.mode = .multiple := started.settings_eq ▸ multiple
  have fresh : Agreed L c₀.members := fun m hm => agreed_fresh (started.fresh m hm)
  obtain ⟨before, after⟩ := suited.append
  -- what is settled by the event that lists `L` stays so during the later ones
  obtain ⟨consistent, settings_eq⟩ := consistent_run started.consistent earlier
  have mode : (c₀.run earlier).settings.mode = .multiple := by rw [settings_eq, multiple]
  have agreed := agreed_run started.consistent multiple fresh before
  have settled := settled_of_lists consistent mode nonempty agreed after.head lists
  have mode' : ((c₀.run earlier).step e).settings.mode = .multiple := by rw [settings_step, mode]
  have isOpen' := isOpen
  rw [run_append] at isOpen'
  have settled := settled_run (consistent_step consistent e) mode'
    (agreed_step consistent mode agreed after.head) settled after.tail isOpen'
  obtain ⟨consistent, settings_eq⟩ := consistent_run started.consistent (earlier ++ e :: later)
  refine converged_of_settled consistent isOpen ?_ ?_ ?_
  · rw [settings_eq, multiple]
  · exact agreed_run started.consistent multiple fresh suited
  · rw [run_append]
    exact settled

/-- A member under another name lists the only member, which then fails. -/
theorem converged_run_failed :
    let a : Address := ⟨"a", 1⟩
    let b : Address := ⟨"b", 1⟩
    let settings : ClusterSettings := { hosts := [a], mode? := some .multiple }
    let spawn : Address → Spawn := fun _ => .started
    let c₀ := (start settings spawn).2
    let e : Event := .change
      { address := a, state := .connected, type := .replicaSetPrimary, hosts := [b] } spawn
    let later : List Event := [.change (.unknown b "gone") spawn]
    start settings spawn = (.ok (), c₀) ∧ settings.mode = .multiple ∧
      Suited {b} c₀ (e :: later) ∧ Lists {b} c₀ e ∧ (c₀.run (e :: later)).closed = false ∧
      Converged {b} (c₀.run (e :: later)) := by
  intro a b settings spawn c₀ e later
  have started : start settings spawn = (.ok (), c₀) := rfl
  have lists : Lists {b} c₀ e := ⟨rfl, List.mem_singleton.2 rfl, rfl, rfl⟩
  have suited : Suited {b} c₀ ([] ++ e :: later) := by
    refine .cons (fun _ _ => ⟨fun _ => .inr rfl, fun _ _ => rfl⟩) (.cons ?_ .nil)
    exact fun _ _ => ⟨agrees_judged_of_failed rfl, fun _ _ => rfl⟩
  have isOpen : (c₀.run ([] ++ e :: later)).closed = false := by
    show ((c₀.onChange _ _).onChange _ _).closed = false
    rw [closed_onChange, closed_onChange]
    rfl
  exact ⟨started, rfl, suited, lists, isOpen,
    converged_run started rfl (Finset.singleton_nonempty b) suited lists isOpen⟩

end Cluster

end ClusterClient

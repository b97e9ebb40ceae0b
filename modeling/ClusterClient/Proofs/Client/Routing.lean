import ClusterClient.Proofs.Client.Reach
import ClusterClient.Proofs.Selection.Agreement
import ClusterClient.Proofs.Wire.Request

/-!
# The routing of commands

A command is resolved by one snapshot, its server is selected by a later one, and its query is sent
later still; in between the cluster may have changed its type. The resolved preference is what holds
them together. If it is for the primary, the server that is selected is one that accepts every
command, whatever the cluster has become. If it is not, the query says that others may answer.

    Routed settings (c₀.run events)     for each client that was started       (routed_run)
-/

namespace ClusterClient

namespace Connection

/-- Only the encoded request is ever sent. -/
theorem encode_of_sent_converse {c : Connection} {buffers : Recycler} {n : Network} {id : Int32}
    {r : Request} {frame : Bytes} (h : (c.converse buffers n id r).1.sent = some frame) :
    r.encode id c.settings = .ok frame := by
  unfold converse at h
  split at h
  · cases h
  · next frame' encoded =>
    rw [encoded]
    simp only at h
    split at h
    · cases h
    · split at h <;> cases h <;> rfl

end Connection

theorem PoolSystem.encode_of_sent_exchange {s : PoolSystem} {n : Network} {borrower : Nat}
    {id : Int32} {r : Request} {frame : Bytes}
    (h : (s.exchange n borrower id r).1.sent = some frame) :
    ∃ settings, r.encode id settings = .ok frame := by
  unfold exchange at h
  split at h
  · next l _ => exact ⟨l.connection.settings, Connection.encode_of_sent_converse h⟩
  · cases h

namespace Client

section

variable {c : Client} {n : Network} {p : ReadPreference} {db : String} {body frame : Bytes}
  {a : Address}

/-! ## What is sent -/

theorem encode_of_sent_request {s : Server} {id : Int32} {r : Request}
    (h : (request s n id r).1.sent = some (a, frame)) :
    ∃ settings, r.encode id settings = .ok frame := by
  unfold request at h
  simp only at h
  split at h
  · cases h
  · next ticket pool _ =>
    obtain ⟨frame', sent, same⟩ := Option.map_eq_some_iff.1 h
    cases same
    exact PoolSystem.encode_of_sent_exchange sent

/-- The frame is a query with the options of this read preference and mode. -/
def Carries (frame : Bytes) (p : ReadPreference) (mode : ConnectionMode) : Prop :=
  (∃ header : Header, ∃ rest, frame = header.bytes ++ rest ∧ header.opCode = .query) ∧
    QueryFlags.ofFrame frame = flagsFor p mode

theorem carries_of_encode {id : Int32} {settings : MessageSettings}
    (h : (c.commandQuery p db body).encode id settings = .ok frame) :
    Carries frame p c.settings.cluster.mode := by
  refine ⟨?_, Request.ofFrame_of_encode h⟩
  obtain ⟨header, same, -, opCode⟩ := Request.exists_header_of_encode h
  exact ⟨header, _, same, opCode⟩

theorem carries_of_sent {source : Source}
    (h : (c.dispatch n p db body source).1.sent = some (a, frame)) :
    Carries frame p c.settings.cluster.mode := by
  unfold dispatch at h
  simp only at h
  split at h
  · cases h
  · obtain ⟨settings, encoded⟩ := encode_of_sent_request h
    exact carries_of_encode (c := c.issue) encoded

/-! ## What is found -/

open ClusterSystem in
/-- A server is found in the snapshot, at the first look or at the last. -/
theorem exists_outcome_of_findSource (named : c.cluster.Named) {criterion : Criterion}
    {timeout : Duration} {pick : Nat} {source : Source}
    (h : (c.findSource criterion timeout pick).1 = some (.ok source)) :
    ∃ held clock k given still, k.criterion = criterion ∧
      Outcome c.cluster.cluster held clock k given still ∧ .ok source ∈ given := by
  let k : Seeker := {
    name := c.cluster.searches, criterion, timeout
    deadline := ⟨c.cluster.clock.nanos + timeout.nanos⟩ }
  have looking : c.cluster.looking? (.seek criterion timeout pick) = some k := rfl
  have fresh : ∀ a ∈ c.cluster.answers, a.1 ≠ k.name := fun a ha =>
    Nat.ne_of_lt (named.answers a ha)
  unfold findSource at h
  simp only at h
  split at h
  · next waiting =>
    obtain ⟨j, found⟩ : ∃ j, (c.cluster.seek criterion timeout pick).seekers.find?
        (·.name == k.name) = some j := by
      refine Option.isSome_iff_exists.1 ?_
      rw [List.find?_isSome]
      exact List.any_eq_true.1 waiting
    have same : j.name = k.name := by simpa using List.find?_some found
    obtain ⟨given, still, l⟩ := exists_looked_step looking
    rcases l.mem_seekers (List.mem_of_find?_eq_some found) with ⟨-, other⟩ | ⟨rfl, answers_eq, -⟩
    · exact absurd same other
    · -- the caller is still there, nothing has changed, and it looks once more
      have cluster_eq : (c.cluster.seek criterion timeout pick).cluster = c.cluster.cluster :=
        l.cluster_eq
      change (c.cluster.seek criterion timeout pick).answers = _ at answers_eq
      rw [← answers_eq] at fresh
      obtain ⟨given, still, last, hs⟩ := exists_outcome_of_answer? (e := .recheck k.name pick)
        (s := (c.cluster.seek criterion timeout pick).tick timeout) found fresh h
      change Outcome (c.cluster.seek criterion timeout pick).cluster _ _ _ _ _ at last
      rw [cluster_eq] at last
      exact ⟨_, _, _, given, still, rfl, last, hs⟩
  · obtain ⟨given, still, first, hs⟩ := exists_outcome_of_answer? looking fresh h
    exact ⟨_, _, k, given, still, rfl, first, hs⟩

theorem exists_selected_of_findSource (named : c.cluster.Named) {criterion : Criterion}
    {timeout : Duration} {pick : Nat} {source : Source}
    (h : (c.findSource criterion timeout pick).1 = some (.ok source)) :
    ∃ held kept held', criterion.select c.description held = some (kept, held') ∧
      source.description ∈ kept := by
  obtain ⟨held, clock, k, given, still, rfl, outcome, hs⟩ := exists_outcome_of_findSource named h
  exact ⟨held, outcome.exists_selected hs⟩

theorem exists_member_of_findSource (named : c.cluster.Named) {criterion : Criterion}
    {timeout : Duration} {pick : Nat} {source : Source}
    (h : (c.findSource criterion timeout pick).1 = some (.ok source)) :
    ∃ m ∈ c.cluster.cluster.members, m.serial = source.serial := by
  obtain ⟨held, clock, k, given, still, -, outcome, hs⟩ := exists_outcome_of_findSource named h
  exact outcome.exists_member hs

/-- A frame is sent for a command only if a server was found for it. -/
theorem exists_source_of_sent {command : CommandRequest} {preference : Option ReadPreference}
    {pick : Nat} {outcome : CommandOutcome}
    (h : (c.runCommand n db command body preference pick).1 = some outcome)
    (sent : outcome.sent = some (a, frame)) :
    let p := c.commandPreference command (preference.getD c.settings.readPreference)
    (∃ source, (c.findSource (c.selectorFor p) c.settings.cluster.serverSelectionTimeout pick).1 =
      some (.ok source)) ∧ Carries frame p c.settings.cluster.mode := by
  intro p
  unfold runCommand at h
  simp only at h
  split at h
  · cases h
    cases sent
  · split at h
    · cases h
    · cases h
      cases sent
    · next source c' found =>
      obtain rfl := Option.some.inj h
      have settings_eq : c'.settings = c.settings := congrArg (·.2.settings) found.symm
      refine ⟨⟨source, congrArg Prod.fst found⟩, ?_⟩
      rw [← settings_eq]
      exact carries_of_sent sent

/-! ## What is selected -/

theorem principal_of_selected {cluster : ClusterDescription} (agreed : cluster.Agreed)
    (multiple : cluster.mode = .multiple) (primary : p.mode = .primary)
    {held held' : Option Address} {kept : List ServerDescription}
    (h : (c.selectorFor p).select cluster held = some (kept, held')) {d : ServerDescription}
    (hd : d ∈ kept) (known : d.type ≠ .unknown) : d.Principal := by
  obtain ⟨left, held₁, first, hd⟩ := Selector.exists_first_of_narrow h hd
  obtain ⟨kept₁, selected, same⟩ := Option.map_eq_some_iff.1 first
  cases same
  have narrowed := agreed.ofServers (List.Subset.refl cluster.servers)
  exact ClusterDescription.principal_of_mem_select narrowed multiple primary selected hd known

/-- What the server and the options of a query have to be, if the command was resolved by this
snapshot. -/
structure Suits (mode : ConnectionMode) (command : CommandRequest)
    (resolution : ClusterDescription) (d : ServerDescription) (flags : QueryFlags) : Prop where
  /-- A command for the primary runs on a server that accepts every command. -/
  principal : mode = .multiple → command.isPrimaryOnly = true → resolution.mode = .multiple →
    resolution.type ≠ .sharded → (d.Observed → d.Principal) ∧ flags.contains .slaveOk = false
  /-- A member of a replica set other than the primary is told that it may answer. -/
  subordinate : d.Subordinate → flags.contains .slaveOk = true

theorem suits_of_selected {command : CommandRequest} {requested : ReadPreference}
    {resolution : ClusterDescription} {mode : ConnectionMode} {servers : List ServerDescription}
    {held held' : Option Address} {kept : List ServerDescription}
    (h : (c.selectorFor (command.resolve requested resolution)).select (.infer mode servers) held =
      some (kept, held')) {d : ServerDescription} (hd : d ∈ kept) :
    Suits mode command resolution d (flagsFor (command.resolve requested resolution) mode) := by
  have agreed := ClusterDescription.agreed_infer mode servers
  constructor
  · rintro rfl primaryOnly multiple notSharded
    have primary : command.resolve requested resolution = .primary :=
      CommandRequest.resolve_of_isPrimaryOnly primaryOnly (by simp [multiple]) notSharded
    rw [primary] at h ⊢
    refine ⟨?_, by decide⟩
    intro observed
    have connected : d.isConnected = true := (Selector.mem_of_select _ h d hd).2 rfl
    exact principal_of_selected agreed rfl rfl h hd (observed.type_ne_unknown connected)
  · intro subordinate
    by_contra absent
    have neither : ¬((command.resolve requested resolution).isSlaveOk = true ∨ mode = .single) := by
      intro either
      rw [(flagsFor_eq _ _).2 either] at absent
      exact absent (by decide)
    rw [not_or] at neither
    have multiple : mode = .multiple := by
      cases mode with
      | single => exact absurd rfl neither.2
      | multiple => rfl
    have primary : (command.resolve requested resolution).mode = .primary := by
      by_contra other
      exact neither.1 (bne_iff_ne.2 other)
    exact subordinate.not_principal
      (principal_of_selected agreed multiple primary h hd subordinate.type_ne_unknown)

end

/-! ## All states -/

/-- What is true of the commands of a client with these settings, in all states. A command may be
resolved in one state, find its server in another and be sent in a third. -/
structure Routed (settings : ClientSettings) (c : Client) : Prop where
  settings_eq : c.settings = settings
  /-- The snapshot is inferred from servers as their monitors describe them. -/
  inferred : ∃ servers : List ServerDescription, (∀ d ∈ servers, d.Observed) ∧
    c.description = .infer settings.cluster.mode servers
  /-- Whatever the snapshots are, what is selected suits the command and its options. -/
  selected : ∀ (command : CommandRequest) (requested : ReadPreference)
    (resolution : ClusterDescription) (servers : List ServerDescription)
    (held held' : Option Address) (kept : List ServerDescription),
    (c.selectorFor (command.resolve requested resolution)).select
        (.infer settings.cluster.mode servers) held = some (kept, held') →
      ∀ d ∈ kept, Suits settings.cluster.mode command resolution d
        (flagsFor (command.resolve requested resolution) settings.cluster.mode)
  /-- The frame that is sent carries these options. -/
  sent : ∀ (n : Network) (p : ReadPreference) (db : String) (body : Bytes) (source : Source)
    (a : Address) (frame : Bytes), (c.dispatch n p db body source).1.sent = some (a, frame) →
      Carries frame p settings.cluster.mode
  /-- A command that is run without interruption goes to the server that was found for it. -/
  ran : ∀ (n : Network) (db : String) (command : CommandRequest) (body : Bytes)
    (preference : Option ReadPreference) (pick : Nat) (outcome : CommandOutcome) (a : Address)
    (frame : Bytes), (c.runCommand n db command body preference pick).1 = some outcome →
      outcome.sent = some (a, frame) →
      let p := c.commandPreference command (preference.getD settings.readPreference)
      ∃ source, (c.findSource (c.selectorFor p) settings.cluster.serverSelectionTimeout pick).1 =
          some (.ok source) ∧
        source.description ∈ c.description.servers ∧ source.description.Observed ∧
        Suits settings.cluster.mode command c.description source.description
          (QueryFlags.ofFrame frame)

theorem routed_of_reached {settings : ClientSettings} {c : Client} (h : Reached settings c) :
    Routed settings c := by
  obtain rfl := h.settings_eq
  obtain ⟨servers, observed, inferred⟩ := h.inferred.inferred
  rw [h.cluster_settings_eq] at inferred
  change c.description = _ at inferred
  refine ⟨rfl, ⟨servers, observed, inferred⟩, ?_, ?_, ?_⟩
  · intro command requested resolution servers held held' kept selected d hd
    exact suits_of_selected selected hd
  · intro n p db body source a frame sent
    exact carries_of_sent sent
  · intro n db command body preference pick outcome a frame ran sent p
    obtain ⟨⟨source, found⟩, -, carried⟩ := exists_source_of_sent ran sent
    obtain ⟨held, kept, held', selected, hd⟩ := exists_selected_of_findSource h.named found
    have mem := (Selector.mem_of_select _ selected _ hd).1
    refine ⟨source, found, mem, ?_, ?_⟩
    · rw [inferred] at mem
      exact observed _ (ClusterDescription.mem_ofServers.1 mem)
    · have selected : (c.selectorFor p).select (.infer c.settings.cluster.mode servers) held =
          some (kept, held') := by
        rw [← inferred]
        exact selected
      rw [carried]
      exact suits_of_selected selected hd

theorem routed_run {settings : ClientSettings} {dialer heartbeatDialer : Dialer}
    {spawn : Address → Spawn} {c₀ : Client}
    (h : start settings dialer heartbeatDialer spawn = (.ok (), c₀)) (events : List Event) :
    Routed settings (c₀.run events) :=
  routed_of_reached (reached_run h events)

/-- The only server replies to its monitor as the primary of a replica set. -/
theorem routed_run_primary :
    let a : Address := ⟨"a", 1⟩
    let settings : ClientSettings := { cluster := { hosts := [a], mode? := some .multiple } }
    let spawn : Address → Spawn := fun _ => .started
    let c₀ := (start settings {} {} spawn).2
    let reply : ProbeReply := { isMaster := true, setName := some "rs", hosts := [a] }
    let events : List Event := [.monitor 0 .begin spawn, .monitor 0 (.dialed (.ok {})) spawn,
      .monitor 0 (.probed (.ok reply) (.ofMillis 1)) spawn]
    start settings {} {} spawn = (.ok (), c₀) ∧
      (c₀.run events).description.type = .replicaSet ∧ Routed settings (c₀.run events) := by
  intro a settings spawn c₀ reply events
  have started : start settings {} {} spawn = (.ok (), c₀) := rfl
  have typed : (c₀.run events).description.type = .replicaSet := by decide +kernel
  exact ⟨started, typed, routed_run started events⟩

end Client

end ClusterClient

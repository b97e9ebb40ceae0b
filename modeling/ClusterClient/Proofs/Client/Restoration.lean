import ClusterClient.Proofs.Client.Pools
import ClusterClient.Proofs.Client.Routing
import ClusterClient.Proofs.Pool.Returns

/-!
# What a command leaves behind

However a command ends, as many connections are lent as before. A command that finds no server
leaves all pools alone. One that gets no connection leaves no place taken for it. A request that
cannot be encoded is no harm to its connection, which comes back as after a success; a failed
exchange closes it, and the pool drops it. The other connections of the server are invalidated, and
its monitor is told, exactly if the failure is one of the connection itself.

    Restores (c₀.run events) n db command body preference pick
      for each client that was started                                            (restores_run)
-/

namespace ClusterClient

open PoolSystem

/-- A connection for one request is asked of the pool of a server. -/
def Server.borrow (s : Server) (n : Network) : Except Error Ticket × PoolSystem :=
  s.pool.get s.pool.pool.settings.maxWaitTime n.opener

/-- The outcome says that the connections to the server cannot be trusted. -/
def CommandOutcome.Suspect (outcome : CommandOutcome) : Prop :=
  ∃ e, outcome.result = .error e ∧ Client.suspects e = true

namespace Client

/-! ## One request -/

/-- What comes of a request on the connection of the loan `l` from the pool `pool` of the server
`s`, and what it makes of the server. -/
structure Returned (s : Server) (n : Network) (id : Int32) (r : Request) (pool : PoolSystem)
    (l : Lent) (outcome : CommandOutcome) (s' : Server) : Prop where
  /-- If the request cannot be encoded, nothing is written; the connection is as it was lent. -/
  unencoded : ∀ e, r.encode id l.connection.settings = .error e →
    outcome = ⟨.error e, none⟩ ∧ suspects e = false ∧ Released pool l.connection s'.pool
  answered : ∀ response, outcome.result = .ok response → ∃ c,
    l.connection.Follows c ∧ c.closed = false ∧ Released pool c s'.pool
  failed : ∀ frame e, r.encode id l.connection.settings = .ok frame →
    outcome.result = .error e → ∃ c, l.connection.Follows c ∧ Removed c s'.pool
  suspected : outcome.Suspect →
    s'.pool.pool.generation = s.pool.pool.generation + 1 ∧ s'.pool.pool.idle = [] ∧
      (∀ i ∈ pool.pool.idle, i.connection.close ∈ s'.pool.shut) ∧
      s'.monitor = s.monitor.invalidate
  trusted : ¬outcome.Suspect → s'.pool.pool.generation = s.pool.pool.generation ∧
    pool.pool.idle <:+ s'.pool.pool.idle ∧ s'.monitor = s.monitor

/-- What a request makes of the server that it is for. -/
structure Restored (s : Server) (n : Network) (id : Int32) (r : Request)
    (outcome : CommandOutcome) (s' : Server) : Prop where
  lent_eq : s'.pool.lent = s.pool.lent
  openings_eq : s'.pool.openings = s.pool.openings
  /-- No place stays taken but by those who had one before. -/
  checkedOut_eq : s'.pool.pool.checkedOut = s.pool.pool.checkedOut
  refused : ∀ e, (s.borrow n).1 = .error e →
    outcome = ⟨.error e, none⟩ ∧ s'.pool.pool.generation = s.pool.pool.generation ∧
      s'.pool.pool.idle <:+ s.pool.pool.idle ∧ s'.monitor = s.monitor
  lent : ∀ ticket, (s.borrow n).1 = .ok ticket →
    ∃ l, (s.borrow n).2.lent = s.pool.lent ++ [l] ∧
      (s.borrow n).2.pool.idle <:+ s.pool.pool.idle ∧
      Returned s n id r (s.borrow n).2 l outcome s'

open Ledger (Balanced balanced_of_moves)

section

variable {s : Server} {n : Network} {id : Int32} {r : Request}

theorem checkedOut_eq_of_balanced {s t : PoolSystem} (hs : Balanced s.ledger)
    (ht : Balanced t.ledger) (lent_eq : t.lent = s.lent) (openings_eq : t.openings = s.openings) :
    t.pool.checkedOut = s.pool.checkedOut := by
  rw [(accounted_of_balanced hs).checkedOut_eq, (accounted_of_balanced ht).checkedOut_eq, lent_eq,
    openings_eq]

theorem balanced_borrow (balanced : Balanced s.pool.ledger) (n : Network) :
    Balanced (s.borrow n).2.ledger :=
  (balanced_of_moves balanced (moves_get _ n _)).1

theorem got_borrow (balanced : Balanced s.pool.ledger) (n : Network) :
    Got s.pool s.pool.calls (s.borrow n).1 (s.borrow n).2 :=
  got_get n _ fun _ ho => caller_ne_calls balanced ho

theorem request_of_refused {e : Error} {pool : PoolSystem} (h : s.borrow n = (.error e, pool)) :
    request s n id r = (⟨.error e, none⟩, { s with pool }) := by
  rw [Server.borrow] at h
  rw [request, h]

/-- What becomes of the server when an exchange on the connection of a loan has ended. -/
def concluded (s : Server) (pool : PoolSystem) (l : Lent) (result : Except Error Response)
    (c : Connection) (buffers : Recycler) : Server :=
  let s : Server := { s with pool := pool.update l.borrower c buffers }
  let s : Server := match result with
    | .error e => if suspects e then s.invalidate else s
    | .ok _ => s
  { s with pool := (s.pool.giveBack l.borrower).shutAll.notifyAll }

theorem request_of_lent {ticket : Ticket} {pool : PoolSystem} {l : Lent}
    (h : s.borrow n = (.ok ticket, pool)) (last : Last s.pool.lent l pool)
    (borrower : l.borrower = s.pool.calls) :
    let (x, c, buffers) := l.connection.converse pool.buffers n id r
    request s n id r = (⟨x.result, x.sent.map fun frame => (pool.pool.address, frame)⟩,
      concluded s pool l x.result c buffers) := by
  have exchanged := last.exchange_eq n id r
  rw [borrower] at exchanged
  rw [Server.borrow] at h
  simp only [request, h, exchanged, concluded, borrower]
  rfl

/-- The connection of the last loan after some use. -/
theorem balanced_update {pool : PoolSystem} {l : Lent} {others : List Lent}
    (balanced : Balanced pool.ledger) (last : Last others l pool) {c : Connection}
    (follows : l.connection.Follows c) (buffers : Recycler) :
    Balanced (pool.update l.borrower c buffers).ledger := by
  have held : l ∈ pool.ledger.lent := by
    show l ∈ pool.lent
    rw [last.lent_eq]
    exact List.mem_append_right _ List.mem_cons_self
  exact Ledger.balanced_of_move balanced (.use held follows)

/-! ## Connections that are trusted -/

variable {pool : PoolSystem} {l : Lent} {others : List Lent} {c : Connection} {buffers : Recycler}

theorem concluded_of_trusted {result : Except Error Response}
    (trusted : ∀ e, result = .error e → suspects e = false) :
    concluded s pool l result c buffers = { s with
      pool := ((pool.update l.borrower c buffers).giveBack l.borrower).shutAll.notifyAll } := by
  unfold concluded
  cases result with
  | ok response => rfl
  | error e => simp only [trusted e rfl, Bool.false_eq_true, if_false]

theorem released_update (last : Last others l pool) (isOpen : pool.pool.closed = false)
    (current : l.generation = pool.pool.generation) :
    Released pool c ((pool.update l.borrower c buffers).giveBack l.borrower).shutAll.notifyAll := by
  have released := released_giveBack (last.update c buffers) isOpen current
  exact ⟨released.kept, released.dropped⟩

/-! ## Connections that are not -/

theorem concluded_of_suspect {e : Error} (suspect : suspects e = true) :
    concluded s pool l (.error e) c buffers = {
      pool :=
        ((pool.update l.borrower c buffers).invalidate.giveBack l.borrower).shutAll.notifyAll
      monitor := s.monitor.invalidate } := by
  simp only [concluded, suspect, if_true]
  rfl

/-- The connection is dropped although it belongs to a generation that has just passed. -/
theorem removed_concluded (balanced : Balanced pool.ledger) (last : Last others l pool)
    (follows : l.connection.Follows c) (isClosed : c.closed = true) (e : Error) :
    Removed c (concluded s pool l (.error e) c buffers).pool := by
  have updated := balanced_update balanced last follows buffers
  by_cases suspect : suspects e = true
  · rw [concluded_of_suspect suspect]
    have invalidated := (balanced_of_moves updated (moves_step _ .invalidate)).1
    exact (removed_giveBack (last.update c buffers).invalidate invalidated isClosed).1
  · rw [concluded_of_trusted (by simpa using suspect)]
    exact (removed_giveBack (last.update c buffers) updated isClosed).1

theorem invalidated_concluded (balanced : Balanced pool.ledger) (last : Last others l pool)
    (follows : l.connection.Follows c) (isClosed : c.closed = true) {e : Error}
    (suspect : suspects e = true) {s' : Server} (h : concluded s pool l (.error e) c buffers = s') :
    s'.pool.pool.generation = pool.pool.generation + 1 ∧ s'.pool.pool.idle = [] ∧
      (∀ i ∈ pool.pool.idle, i.connection.close ∈ s'.pool.shut) ∧
      s'.monitor = s.monitor.invalidate := by
  rw [concluded_of_suspect suspect] at h
  subst h
  have last' := (last.update c buffers).invalidate
  have updated := balanced_update balanced last follows buffers
  have relieved := relieved_giveBack last'
  have balanced' := (balanced_of_moves updated (moves_step _ .invalidate)).1
  have dropped := removed_giveBack last' balanced' isClosed
  obtain ⟨requested, invalidate_eq⟩ := pool.pool.invalidate_eq
  refine ⟨?_, ?_, fun i hi => ?_, rfl⟩
  · exact relieved.generation_eq.trans pool.pool.generation_invalidate
  · refine dropped.2.trans ?_
    show pool.pool.invalidate.2.idle = []
    rw [invalidate_eq]
  · refine relieved.close_mem_shut _ (List.mem_append_right _ ?_)
    show i.connection ∈ pool.pool.invalidate.1.map (·.connection)
    rw [invalidate_eq]
    exact List.mem_map_of_mem hi

/-! ## All outcomes -/

theorem returned_concluded {x : Exchange} (spared : Spared s.pool pool)
    (balanced : Balanced pool.ledger) (last : Last others l pool)
    (isOpen : s.pool.pool.closed = false) (current : l.generation = s.pool.pool.generation)
    (conversed : l.connection.Conversed id r x c) :
    Returned s n id r pool l ⟨x.result, x.sent.map fun frame => (pool.pool.address, frame)⟩
      (concluded s pool l x.result c buffers) := by
  have generation_eq := spared.generation_eq
  have released : Released pool c
      ((pool.update l.borrower c buffers).giveBack l.borrower).shutAll.notifyAll :=
    released_update last (spared.closed_eq.trans isOpen) (current.trans generation_eq.symm)
  have relieved := relieved_giveBack (last.update c buffers)
  have kept : _ = s.pool.pool.generation := relieved.generation_eq.trans generation_eq
  cases conversed with
  | @unencoded e refused =>
    have trusted : suspects e = false := by
      rcases Request.protocol_or_framing_of_encode refused with ⟨text, rfl⟩ | ⟨cause, rfl⟩ <;> rfl
    rw [concluded_of_trusted (by simpa using trusted)]
    refine ⟨fun e' refused' => ?_, fun _ ok => (by cases ok), fun frame e' encoded => ?_, ?_,
      fun _ => ⟨kept, released.idle_suffix, rfl⟩⟩
    · rw [refused] at refused'
      cases refused'
      exact ⟨rfl, trusted, released⟩
    · rw [refused] at encoded
      cases encoded
    · rintro ⟨e', same, suspect⟩
      cases same
      rw [trusted] at suspect
      cases suspect
  | @failed frame _ e sent encoded follows isClosed =>
    refine ⟨fun e' refused => ?_, fun _ ok => (by cases ok), fun _ e' _ same => ?_, ?_, fun h => ?_⟩
    · rw [encoded] at refused
      cases refused
    · exact ⟨c, follows, removed_concluded balanced last follows isClosed e⟩
    · rintro ⟨e', same, suspect⟩
      cases same
      rw [← generation_eq]
      exact invalidated_concluded balanced last follows isClosed suspect rfl
    · have trusted : suspects e = false := Bool.eq_false_iff.2 fun suspect => h ⟨e, rfl, suspect⟩
      rw [concluded_of_trusted (by simpa using trusted)]
      have updated := balanced_update balanced last follows buffers
      have dropped := (removed_giveBack (last.update c buffers) updated isClosed).2
      exact ⟨kept, dropped ▸ List.suffix_refl _, rfl⟩
  | @answered frame _ response encoded follows isOpen' =>
    rw [concluded_of_trusted (by simp)]
    refine ⟨fun e' refused => ?_, fun _ _ => ⟨c, follows, isOpen', released⟩,
      fun _ _ _ failed => (by cases failed), ?_, fun _ => ⟨kept, released.idle_suffix, rfl⟩⟩
    · rw [encoded] at refused
      cases refused
    · rintro ⟨e', same, -⟩
      cases same

/-- The loans and the openings are as they were before the connection was lent. -/
theorem relieved_concluded (last : Last others l pool) (result : Except Error Response) :
    (concluded s pool l result c buffers).pool.lent = others ∧
      (concluded s pool l result c buffers).pool.openings = pool.openings := by
  by_cases trusted : ∀ e, result = .error e → suspects e = false
  · rw [concluded_of_trusted trusted]
    have relieved := relieved_giveBack (last.update c buffers)
    exact ⟨relieved.lent_eq, relieved.openings_eq⟩
  · simp only [not_forall, Bool.not_eq_false] at trusted
    obtain ⟨e, rfl, suspect⟩ := trusted
    rw [concluded_of_suspect suspect]
    have relieved := relieved_giveBack (last.update c buffers).invalidate
    exact ⟨relieved.lent_eq, relieved.openings_eq⟩

theorem balanced_concluded (balanced : Balanced pool.ledger) (last : Last others l pool)
    (follows : l.connection.Follows c) (result : Except Error Response) :
    Balanced (concluded s pool l result c buffers).pool.ledger := by
  have updated := balanced_update balanced last follows buffers
  have given {v : PoolSystem} (h : Balanced v.ledger) :
      Balanced (v.giveBack l.borrower).shutAll.notifyAll.ledger :=
    (balanced_of_moves h ((v.moves_step (.giveBack _)).trans (moves_shutAll_notifyAll _))).1
  by_cases trusted : ∀ e, result = .error e → suspects e = false
  · rw [concluded_of_trusted trusted]
    exact given updated
  · simp only [not_forall, Bool.not_eq_false] at trusted
    obtain ⟨e, rfl, suspect⟩ := trusted
    rw [concluded_of_suspect suspect]
    exact given (balanced_of_moves updated (moves_step _ .invalidate)).1

theorem restored_request (balanced : Balanced s.pool.ledger) (n : Network) (id : Int32)
    (r : Request) : Restored s n id r (request s n id r).1 (request s n id r).2 := by
  have got := got_borrow balanced n
  have balanced' := balanced_borrow balanced n
  generalize hb : s.borrow n = borrowed at got balanced'
  obtain ⟨result, pool⟩ := borrowed
  cases got with
  | refused e spared lent_eq =>
    rw [request_of_refused hb]
    refine ⟨lent_eq, spared.openings_eq,
      checkedOut_eq_of_balanced balanced balanced' lent_eq spared.openings_eq, fun e' same => ?_,
      fun ticket ok => ?_⟩
    · rw [hb] at same
      cases same
      exact ⟨rfl, spared.generation_eq, spared.idle_suffix, rfl⟩
    · rw [hb] at ok
      cases ok
  | served l spared lent_eq _ isOpen borrower current =>
    have last : Last s.pool.lent l pool :=
      ⟨lent_eq, fun m hm => borrower ▸ borrower_ne_calls balanced hm⟩
    have conversed := l.connection.conversed_converse pool.buffers n id r
    rw [request_of_lent hb last borrower]
    obtain ⟨lent_eq', openings_eq⟩ := relieved_concluded (s := s) last _
    have openings_eq := openings_eq.trans spared.openings_eq
    refine ⟨lent_eq', openings_eq, ?_, fun e same => ?_, fun ticket _ => ?_⟩
    · exact checkedOut_eq_of_balanced balanced
        (balanced_concluded balanced' last conversed.follows _) lent_eq' openings_eq
    · rw [hb] at same
      cases same
    · rw [hb]
      exact ⟨l, lent_eq, spared.idle_suffix,
        returned_concluded spared balanced' last isOpen current conversed⟩

end

/-! ## Commands -/

section

variable {c : Client} {n : Network} {db : String} {command : CommandRequest} {body : Bytes}
  {preference : Option ReadPreference} {pick : Nat}

/-- The search for the server of a command. -/
def search (c : Client) (command : CommandRequest) (preference : Option ReadPreference)
    (pick : Nat) : Option (Except Error Source) × Client :=
  c.findSource (c.selectorFor (c.commandPreference command
    (preference.getD c.settings.readPreference))) c.settings.cluster.serverSelectionTimeout pick

/-- A command that has found this source changes one server, from `s` to `s'`. -/
structure Ran (c : Client) (n : Network) (db : String) (command : CommandRequest) (body : Bytes)
    (preference : Option ReadPreference) (pick : Nat) (source : Source) (s s' : Server)
    (outcome : CommandOutcome) : Prop where
  known : c.servers[source.serial]? = some s
  outcome_eq : (c.runCommand n db command body preference pick).1 = some outcome
  servers_eq : (c.runCommand n db command body preference pick).2.servers =
    c.servers.set source.serial s'
  restored : Restored s n c.nextRequestId (c.commandQuery (c.commandPreference command
    (preference.getD c.settings.readPreference)) db body) outcome s'

/-- How a command leaves the servers of a client. -/
structure Restores (c : Client) (n : Network) (db : String) (command : CommandRequest)
    (body : Bytes) (preference : Option ReadPreference) (pick : Nat) : Prop where
  lent_eq : (c.runCommand n db command body preference pick).2.servers.map (·.pool.lent) =
    c.servers.map (·.pool.lent)
  /-- The preference is not valid, or no server is found. -/
  unfound : ((preference.getD c.settings.readPreference).validate ≠ .ok () ∨
      ∀ source, (c.search command preference pick).1 ≠ some (.ok source)) →
    (c.runCommand n db command body preference pick).2.servers = c.servers ∧
      ∀ outcome, (c.runCommand n db command body preference pick).1 = some outcome →
        ∃ e, outcome = ⟨.error e, none⟩
  /-- A server is found. -/
  found : (preference.getD c.settings.readPreference).validate = .ok () →
    ∀ source, (c.search command preference pick).1 = some (.ok source) →
      ∃ s s' outcome, Ran c n db command body preference pick source s s' outcome

theorem runCommand_of_unfound (h : (preference.getD c.settings.readPreference).validate ≠ .ok () ∨
    ∀ source, (c.search command preference pick).1 ≠ some (.ok source)) :
    (c.runCommand n db command body preference pick).2.servers = c.servers ∧
      ∀ outcome, (c.runCommand n db command body preference pick).1 = some outcome →
        ∃ e, outcome = ⟨.error e, none⟩ := by
  unfold runCommand
  simp only
  split
  · next e _ => exact ⟨rfl, fun outcome same => ⟨e, (Option.some.inj same).symm⟩⟩
  · next valid =>
    have unfound := h.resolve_left (not_not_intro valid)
    unfold search at unfound
    split
    · next c' found => exact ⟨congrArg (·.2.servers) found.symm, fun _ none => by cases none⟩
    · next e c' found =>
      exact ⟨congrArg (·.2.servers) found.symm, fun _ same => ⟨e, (Option.some.inj same).symm⟩⟩
    · next source c' found => exact absurd (congrArg Prod.fst found) (unfound source)

theorem runCommand_of_found
    (valid : (preference.getD c.settings.readPreference).validate = .ok ()) {source : Source}
    (found : (c.search command preference pick).1 = some (.ok source)) {s : Server}
    (known : c.servers[source.serial]? = some s) :
    let r := request s n c.nextRequestId (c.commandQuery
      (c.commandPreference command (preference.getD c.settings.readPreference)) db body)
    (c.runCommand n db command body preference pick).1 = some r.1 ∧
      (c.runCommand n db command body preference pick).2.servers =
        c.servers.set source.serial r.2 := by
  rcases hs : c.search command preference pick with ⟨result, c'⟩
  rw [hs] at found
  obtain rfl : result = some (.ok source) := found
  obtain ⟨cluster, rfl⟩ : ∃ cluster, c' = { c with cluster } :=
    ⟨_, (congrArg Prod.snd hs).symm⟩
  unfold search at hs
  unfold runCommand
  simp only [valid, hs, dispatch, issue, known]
  exact ⟨rfl, (List.set_eq_modify ..).symm⟩

theorem map_set_eq {α β : Type} (f : α → β) {l : List α} {i : Nat} {a b : α}
    (known : l[i]? = some a) (same : f b = f a) : (l.set i b).map f = l.map f := by
  obtain ⟨hi, rfl⟩ := List.getElem?_eq_some_iff.1 known
  have hi' : i < (l.map f).length := by rwa [List.length_map]
  have image : f l[i] = (l.map f)[i] := (List.getElem_map f).symm
  rw [List.map_set, same, image, List.set_getElem_self hi']

theorem restores_of_stocked {settings : ClientSettings} {dialer : Dialer}
    (reached : Reached settings c) (stocked : Stocked settings dialer c)
    (numbered : c.cluster.cluster.Numbered) (valid : settings.pool.validate = .ok ()) :
    Restores c n db command body preference pick := by
  have ran (validated : (preference.getD c.settings.readPreference).validate = .ok ())
      (source : Source) (found : (c.search command preference pick).1 = some (.ok source)) :
      ∃ s s' outcome, Ran c n db command body preference pick source s s' outcome := by
    obtain ⟨m, hm, serial⟩ := exists_member_of_findSource reached.named found
    obtain ⟨s, known⟩ := stocked.exists_server numbered hm
    rw [serial] at known
    have balanced := (stocked.runs s (List.mem_of_getElem? known)).sound valid |>.balanced
    obtain ⟨outcome_eq, servers_eq⟩ := runCommand_of_found validated found known
    exact ⟨s, _, _, known, outcome_eq, servers_eq, restored_request balanced n _ _⟩
  refine ⟨?_, runCommand_of_unfound, ran⟩
  by_cases unfound : (preference.getD c.settings.readPreference).validate ≠ .ok () ∨
      ∀ source, (c.search command preference pick).1 ≠ some (.ok source)
  · rw [(runCommand_of_unfound unfound).1]
  · simp only [not_or, not_not, not_forall] at unfound
    obtain ⟨validated, source, found⟩ := unfound
    obtain ⟨s, s', outcome, on⟩ := ran validated source found
    rw [on.servers_eq]
    exact map_set_eq _ on.known on.restored.lent_eq

end

theorem restores_run {settings : ClientSettings} {dialer heartbeatDialer : Dialer}
    {spawn : Address → Spawn} {c₀ : Client}
    (h : start settings dialer heartbeatDialer spawn = (.ok (), c₀)) (events : List Event)
    (n : Network) (db : String) (command : CommandRequest) (body : Bytes)
    (preference : Option ReadPreference) (pick : Nat) :
    Restores (c₀.run events) n db command body preference pick :=
  restores_of_stocked (reached_run h events) (stocked_run h events) (numbered_run h events)
    (validate_of_start h)

/-- The server closes the connection instead of replying. -/
theorem restores_run_hangup :
    let a : Address := ⟨"a", 1⟩
    let settings : ClientSettings := { cluster := { hosts := [a] } }
    let spawn : Address → Spawn := fun _ => .started
    let c₀ := (start settings {} {} spawn).2
    let events : List Event := [.monitor 0 .begin spawn, .monitor 0 (.dialed (.ok {})) spawn,
      .monitor 0 (.probed (.ok { isMaster := true }) (.ofMillis 1)) spawn]
    let n : Network := {
      connect := fun _ => .ok {}, accepts := fun _ _ => [], arrivals := fun _ _ _ => [] }
    let ran := (c₀.run events).runCommand n "db" { name := "ping" } [] none 0
    start settings {} {} spawn = (.ok (), c₀) ∧
      ran.1.map (·.result.isOk) = some false ∧
      ran.2.servers.map (·.pool.pool.generation) = [1] ∧
      Restores (c₀.run events) n "db" { name := "ping" } [] none 0 := by
  intro a settings spawn c₀ events n ran
  have started : start settings {} {} spawn = (.ok (), c₀) := rfl
  have failed : ran.1.map (·.result.isOk) = some false ∧
      ran.2.servers.map (·.pool.pool.generation) = [1] := by
    decide +kernel
  exact ⟨started, failed.1, failed.2, restores_run started events n "db" _ [] none 0⟩

end Client

end ClusterClient

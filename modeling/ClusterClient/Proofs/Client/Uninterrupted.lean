import ClusterClient.Proofs.Client.Correspondence
import ClusterClient.Proofs.Client.Restoration

/-!
# Uninterrupted commands

A command that nobody interrupts makes the steps of a command in progress, one after the other, and
what the pools do by themselves comes in between. So whatever is true of all states that commands in
progress may get into is true after `runCommand` as well.

    Enacts c₀ t outcome c    for (some outcome, c) = t.client.runCommand n …, if t is reachable and
                             n sends nothing but replies to requests            (enacts_runCommand)
-/

namespace ClusterClient

/-- Nothing has arrived yet on the streams that the network opens. -/
def Network.Fresh (n : Network) : Prop :=
  ∀ address link, n.connect address = .ok link → Link.payload link.arrivals = []

namespace PoolSystem

/-! ## What pools do by themselves -/

/-- Quiet steps lead from `s` to `t`. -/
def Drifts (s t : PoolSystem) : Prop :=
  ∃ events : List Event, (∀ e ∈ events, e.Quiet) ∧ t = s.run events

theorem Drifts.refl (s : PoolSystem) : Drifts s s := ⟨[], nofun, rfl⟩

theorem Drifts.trans {s t u : PoolSystem} (h : Drifts s t) (h' : Drifts t u) : Drifts s u := by
  obtain ⟨events, quiet, rfl⟩ := h
  obtain ⟨events', quiet', rfl⟩ := h'
  refine ⟨events ++ events', fun e he => ?_, (s.run_append events events').symm⟩
  rcases List.mem_append.1 he with he | he
  · exact quiet e he
  · exact quiet' e he

theorem Drifts.step (s : PoolSystem) {e : Event} (quiet : e.Quiet) : Drifts s (s.step e) :=
  ⟨[e], fun _ he => List.mem_singleton.1 he ▸ quiet, rfl⟩

theorem drifts_shutAll_notifyAll (s : PoolSystem) : Drifts s s.shutAll.notifyAll :=
  shutAll_notifyAll_induction (P := Drifts s)
    (fun t reached => reached.trans (.step t (e := .shutFirst) trivial))
    (fun t reached => reached.trans (.step t (e := .notify 0) trivial)) (.refl s)

variable {n : Network}

theorem drifts_establishFor (fresh : n.Fresh) (s : PoolSystem) (name : Nat) :
    Drifts s (s.establishFor n.opener name) := by
  unfold establishFor
  split
  · next index _ =>
    unfold establish
    split
    · have quiet : (Event.dialed index (n.connect s.pool.address)).Quiet := by
        cases stream : n.connect s.pool.address with
        | error e => trivial
        | ok link => exact fresh s.pool.address link stream
      exact (Drifts.step s quiet).trans (.step _ (e := .settle index) trivial)
    · exact .refl s
  · exact .refl s

theorem drifts_get (fresh : n.Fresh) (s : PoolSystem) (timeout : Duration) :
    Drifts (s.call timeout) (s.get timeout n.opener).2 := by
  have first := drifts_establishFor fresh (s.call timeout) s.calls
  generalize ht : (s.call timeout).establishFor n.opener s.calls = t at first
  have again : Drifts t (((t.tick timeout).recheck s.calls).establishFor n.opener s.calls) := by
    refine Drifts.trans ?_ (drifts_establishFor fresh _ s.calls)
    exact (Drifts.step t (e := .tick timeout) trivial).trans
      (.step _ (e := .recheck s.calls) trivial)
  refine first.trans ?_
  simp only [get, ht]
  refine Drifts.trans ?_ (drifts_shutAll_notifyAll _)
  split
  · exact again
  · exact .refl t

/-! ## Uses of one loan -/

variable {s : PoolSystem} {l : Lent} {borrower : Nat}

theorem update_update (s : PoolSystem) (borrower : Nat) (c d : Connection)
    (buffers buffers' : Recycler) :
    (s.update borrower c buffers).update borrower d buffers' = s.update borrower d buffers' := by
  have same : (Ledger.setConnection borrower d) ∘ Ledger.setConnection borrower c =
      Ledger.setConnection borrower d := by
    funext l
    simp only [Function.comp_apply, Ledger.setConnection]
    split <;> simp_all
  show { s with
    lent := (s.lent.map (Ledger.setConnection borrower c)).map (Ledger.setConnection borrower d)
    buffers := buffers' } = s.update borrower d buffers'
  rw [List.map_map, same]
  rfl

theorem loan?_update_self (loan : s.loan? borrower = some l) (d : Connection)
    (buffers : Recycler) :
    (s.update borrower d buffers).loan? borrower = some { l with connection := d } := by
  rw [loan?_update, loan, Option.map_some, Ledger.setConnection,
    if_pos (beq_iff_eq.2 (mem_of_loan? loan).2)]

theorem run_use_use (loan : s.loan? borrower = some l) {first : Usage} {link : Link}
    (set : l.connection.apply s.buffers first = (.ok none, { l.connection with link }, s.buffers))
    (second : Usage) :
    let c : Connection := { l.connection with link }
    s.run [.use borrower first, .use borrower second] =
      s.update borrower (c.apply s.buffers second).2.1 (c.apply s.buffers second).2.2 := by
  intro c
  have after : (s.use borrower first).2 = s.update borrower c s.buffers := by
    rw [use_eq loan, set]
  show ((s.use borrower first).2.use borrower second).2 = _
  rw [after, use_eq (loan?_update_self loan c s.buffers)]
  exact update_update ..

theorem Last.update_self {others : List Lent} (h : Last others l s) :
    s.update l.borrower l.connection s.buffers = s := by
  have same : s.lent.map (Ledger.setConnection l.borrower l.connection) = s.lent := by
    rw [h.lent_eq, List.map_append, Ledger.map_setConnection_of_ne h.apart]
    simp [Ledger.setConnection]
  show { s with lent := s.lent.map (Ledger.setConnection l.borrower l.connection) } = s
  rw [same]

end PoolSystem

namespace Connection

theorem converse_of_encoded {c : Connection} {n : Network} {requestId : Int32} {r : Request}
    {frame : Bytes} (encoded : r.encode requestId c.settings = .ok frame) (buffers : Recycler) :
    let asked : Connection := {
      c with link := { c.link with acceptances := n.accepts c.address c.link } }
    let d := (asked.send frame).2
    let answered : Connection := {
      d with link := { d.link with arrivals := n.arrivals d.address d.link frame } }
    let received := answered.receive buffers requestId
    c.converse buffers n requestId r = match (asked.send frame).1 with
      | .error e => (⟨.error e, none⟩, d, buffers)
      | .ok () => (⟨received.1, some frame⟩, received.2.1, received.2.2) := by
  intro asked d answered received
  have sent_eq : asked.send frame = ((asked.send frame).1, d) := rfl
  have received_eq : answered.receive buffers requestId =
      (received.1, received.2.1, received.2.2) := rfl
  simp only [converse, encoded, apply]
  rw [sent_eq]
  cases (asked.send frame).1 with
  | error e => rfl
  | ok u =>
    simp only [Except.map]
    rw [received_eq]
    cases received.1 <;> rfl

end Connection

namespace Client

/-! ## One server after the other -/

/-- The server with this number has become `s`. -/
def withServer (c : Client) (serial : Nat) (s : Server) : Client := c.modifyServer serial fun _ => s

section

variable {c : Client} {serial : Nat} {s : Server}

theorem withServer_self (known : c.servers[serial]? = some s) : c.withServer serial s = c := by
  have same : c.servers.modify serial (fun _ => s) = c.servers := by
    obtain ⟨lt, rfl⟩ := List.getElem?_eq_some_iff.1 known
    rw [← List.set_eq_modify, List.set_getElem_self]
  show { c with servers := c.servers.modify serial fun _ => s } = c
  rw [same]

theorem modifyServer_withServer (c : Client) (serial : Nat) (s : Server) (f : Server → Server) :
    (c.withServer serial s).modifyServer serial f = c.withServer serial (f s) := by
  have same := List.modify_modify_eq (fun _ => s) f serial c.servers
  show { c with servers := (c.servers.modify serial fun _ => s).modify serial f } = _
  rw [same]
  rfl

theorem pool?_withServer (inside : serial < c.servers.length) :
    (c.withServer serial s).pool? serial = some s.pool := by
  rw [withServer, pool?_modifyServer, if_pos rfl, List.getElem?_eq_getElem inside]
  rfl

theorem run_pool_withServer (c : Client) (serial : Nat) (s : Server)
    (events : List PoolSystem.Event) :
    (c.withServer serial s).run (events.map (.pool serial)) =
      c.withServer serial { s with pool := s.pool.run events } := by
  induction events generalizing s with
  | nil => rfl
  | cons e events ih =>
    have first : (c.withServer serial s).step (.pool serial e) =
        c.withServer serial { s with pool := s.pool.step e } :=
      c.modifyServer_withServer serial s _
    show ((c.withServer serial s).step (.pool serial e)).run (events.map (.pool serial)) = _
    rw [first]
    exact ih _

/-- A monitor that is told to check has nothing to publish yet. -/
theorem step_invalidate_withServer (inside : serial < c.servers.length) (spawn : Address → Spawn) :
    (c.withServer serial s).step (.monitor serial .invalidate spawn) =
      c.withServer serial { s with monitor := s.monitor.invalidate } := by
  have known : (c.withServer serial s).servers[serial]? = some s := by
    show (c.servers.modify serial fun _ => s)[serial]? = some s
    simp [List.getElem?_eq_getElem inside]
  have silent : (s.monitor.step .invalidate).published = s.monitor.published := by
    simp only [Monitor.step, Monitor.invalidate, Monitor.notify]
    split <;> rfl
  simp only [step, stepMonitor, known, silent, List.drop_length, List.foldl_nil]
  exact c.modifyServer_withServer serial s _

end

end Client

namespace Traffic

open Client (concluded)

/-! ## The command that was begun last -/

/-- One more command is at work on the client. -/
def join (t : Traffic) (client : Client) (errand : Errand) : Traffic :=
  { t with client, errands := t.errands ++ [errand] }

section

variable {c₀ c : Client} {t : Traffic} {a : Errand}

theorem follow_join (t : Traffic) (c : Client) (a a' : Errand) (events : List Client.Event) :
    (t.join c a).follow t.errands.length a' events = t.join (c.run events) a' := by
  have set_eq : (t.errands ++ [a]).set t.errands.length a' = t.errands ++ [a'] := by
    simp
  show { t with client := c.run events, errands := (t.errands ++ [a]).set t.errands.length a' } = _
  rw [set_eq]
  rfl

theorem Reachable.proceed (h : Reachable c₀ (t.join c a)) (pick : Nat)
    (acceptances : List Acceptance) :
    Reachable c₀ ((t.join c a).proceed t.errands.length a pick acceptances) := by
  have next := h.step (.proceed t.errands.length pick acceptances) trivial
  have known : (t.join c a).errands[t.errands.length]? = some a := List.getElem?_concat_length
  rwa [Traffic.step, known] at next

theorem Reachable.elsewhere {events : List Client.Event} (h : Reachable c₀ (t.join c a))
    (quiet : ∀ e ∈ events, e.Quiet) : Reachable c₀ (t.join (c.run events) a) := by
  induction events generalizing c with
  | nil => exact h
  | cons e events ih =>
    have first : Reachable c₀ (t.join (c.step e) a) :=
      h.step (.elsewhere e) (quiet e List.mem_cons_self)
    exact ih first fun e' he => quiet e' (List.mem_cons_of_mem e he)

/-! ## Steps on one server -/

variable {i : Nat} {s : Server}

theorem Reachable.drift (h : Reachable c₀ (t.join (c.withServer i s) a)) {pool : PoolSystem}
    (drifts : s.pool.Drifts pool) : Reachable c₀ (t.join (c.withServer i { s with pool }) a) := by
  obtain ⟨events, quiet, rfl⟩ := drifts
  rw [← Client.run_pool_withServer]
  refine h.elsewhere fun e he => ?_
  obtain ⟨e', he', rfl⟩ := List.mem_map.1 he
  exact quiet e' he'

/-- The command makes a step of the pool. -/
theorem Reachable.pool (h : Reachable c₀ (t.join (c.withServer i s) a)) (a' : Errand)
    (e : PoolSystem.Event) (goesOn : (t.join (c.withServer i s) a).proceed t.errands.length a 0 [] =
      (t.join (c.withServer i s) a).follow t.errands.length a' [.pool i e]) :
    Reachable c₀ (t.join (c.withServer i { s with pool := s.pool.step e }) a') := by
  have next := h.proceed 0 []
  rw [goesOn, follow_join] at next
  have stepped := c.run_pool_withServer i s [e]
  rw [List.map_singleton] at stepped
  rw [stepped] at next
  exact next

theorem Reachable.borrow {n : Network} {requestId : Int32} (h : Reachable c₀ (t.join c a))
    (stage : a.stage = .numbered i requestId) (known : c.servers[i]? = some s) (fresh : n.Fresh) :
    Reachable c₀ (t.join (c.withServer i { s with pool := (s.borrow n).2 })
      { a with stage := .borrowing ⟨i, requestId, s.pool.calls⟩ }) := by
  have inside := (List.getElem?_eq_some_iff.1 known).1
  rw [← Client.withServer_self known] at h
  have called := h.pool { a with stage := .borrowing ⟨i, requestId, s.pool.calls⟩ }
    (.call s.pool.pool.settings.maxWaitTime) (by
      simp only [Traffic.proceed, stage, ask,
        show (t.join (c.withServer i s) a).client.pool? i = some s.pool from
          Client.pool?_withServer inside])
  exact called.drift (PoolSystem.drifts_get fresh s.pool _)

/-- The end of a command on the connection that it has borrowed. -/
theorem Reachable.giveBack {x : Slip} {result : Except Error Response}
    (h : Reachable c₀ (t.join (c.withServer i s) a)) (server : x.server = i)
    (stage : a.stage = .returning x result) :
    Reachable c₀ (t.join
      (c.withServer i { s with pool := (s.pool.giveBack x.borrower).shutAll.notifyAll })
      { a with stage := .ended result }) := by
  subst server
  have given := h.pool { a with stage := .ended result } (.giveBack x.borrower)
    (by simp only [Traffic.proceed, stage])
  exact given.drift (PoolSystem.drifts_shutAll_notifyAll _)

theorem Reachable.conclude {x : Slip} {pool : PoolSystem} {l : Lent} {d : Connection}
    {buffers : Recycler} {result : Except Error Response}
    (h : Reachable c₀ (t.join
      (c.withServer i { s with pool := pool.update l.borrower d buffers }) a))
    (inside : i < c.servers.length) (server : x.server = i) (borrower : x.borrower = l.borrower)
    (stage : a.stage = x.afterReceiving result) :
    Reachable c₀ (t.join (c.withServer i (concluded s pool l result d buffers))
      { a with stage := .ended result }) := by
  cases result with
  | ok response =>
    have ended := h.giveBack server stage
    rw [borrower] at ended
    exact ended
  | error e =>
    by_cases suspect : Client.suspects e = true
    · have stage' : a.stage = .distrusting x e := stage.trans (if_pos suspect)
      subst server
      have first := h.pool { a with stage := .warning x e } .invalidate
        (by simp only [Traffic.proceed, stage'])
      have second := first.proceed 0 []
      simp only [Traffic.proceed, follow_join] at second
      have told := Client.step_invalidate_withServer
        (s := { s with pool := (pool.update l.borrower d buffers).invalidate }) inside
        fun _ => .started
      have third : Reachable c₀ (t.join (c.withServer x.server
          ⟨(pool.update l.borrower d buffers).invalidate, s.monitor.invalidate⟩)
          { a with stage := .returning x (.error e) }) := by
        rw [← told]
        exact second
      have ended := third.giveBack rfl rfl
      rw [borrower] at ended
      rw [Client.concluded_of_suspect suspect]
      exact ended
    · have stage' : a.stage = .returning x (.error e) := stage.trans (if_neg suspect)
      have ended := h.giveBack server stage'
      rw [borrower] at ended
      rw [Client.concluded_of_trusted (by simpa using suspect)]
      exact ended

/-! ## Exchanges -/

/-- What is to be expected of the network for a request with this number to a server: whatever it
delivers beyond the unread data are replies to requests that were sent on the same stream. -/
structure Honest (t : Traffic) (n : Network) (server : Nat) (requestId : Int32) : Prop where
  fresh : n.Fresh
  replies : ∀ address link frame, ∃ posts : List Post, ∃ more,
    n.arrivals address link frame = t.unread server link ++ more ∧
      Link.payload more = posts.flatMap (·.letter.frame) ∧
      ∀ p ∈ posts, p.letter.Whole ∧
        (t.Asked p.errand server link.serial p.letter.requestId ∨
          p.errand = t.errands.length ∧ p.letter.requestId = requestId)

/-- The command has come to this outcome. -/
structure Errand.Gets (errand : Errand) (outcome : CommandOutcome) : Prop where
  stage_eq : errand.stage = .ended outcome.result
  sent_eq : ∀ address frame, outcome.sent = some (address, frame) →
    errand.sent.map (·.frame) = some frame

theorem Errand.gets_of_ended {errand : Errand} {result : Except Error Response}
    (stage : errand.stage = .ended result) : errand.Gets ⟨result, none⟩ :=
  ⟨stage, fun _ _ same => by cases same⟩

/-- The command writes its request on the connection of the loan `l`. -/
theorem Reachable.write {x : Slip} {pool : PoolSystem} {l : Lent} {ticket : Ticket} {frame : Bytes}
    (h : Reachable c₀ (t.join (c.withServer x.server { s with pool }) a))
    (inside : x.server < c.servers.length) (stage : a.stage = .borrowing x)
    (loan : pool.loan? x.borrower = some l) (answer : pool.answer? x.borrower = some (.ok ticket))
    (encoded : (c.commandQuery a.preference a.db a.body).encode x.requestId
      l.connection.settings = .ok frame) (acceptances : List Acceptance) :
    let asked : Connection := {
      l.connection with link := { l.connection.link with acceptances } }
    let d := (asked.send frame).2
    Reachable c₀ (t.join
      (c.withServer x.server { s with pool := pool.update x.borrower d pool.buffers })
      { a with
        sent := sent? x.server asked d frame
        stage := x.afterSending (asked.send frame).1 }) := by
  intro asked d
  have known : (t.join (c.withServer x.server { s with pool }) a).client.pool? x.server =
      some pool := Client.pool?_withServer inside
  have query : (t.join (c.withServer x.server { s with pool }) a).client.commandQuery a.preference
      a.db a.body = c.commandQuery a.preference a.db a.body := rfl
  have next := h.proceed 0 acceptances
  simp only [Traffic.proceed, stage, known, send, answer, loan, query, encoded, Traffic.write,
    follow_join] at next
  have used : pool.run [.use x.borrower (.accept acceptances), .use x.borrower (.send frame)] =
      pool.update x.borrower d pool.buffers := PoolSystem.run_use_use loan rfl _
  have run_eq := c.run_pool_withServer x.server { s with pool }
    [.use x.borrower (.accept acceptances), .use x.borrower (.send frame)]
  simp only [used, List.map_cons, List.map_nil] at run_eq
  rw [run_eq] at next
  exact next

/-- The command reads what the network delivers on the connection `d`. -/
theorem Reachable.read {n : Network} {x : Slip} {pool : PoolSystem} {l : Lent} {d : Connection}
    {sent : Sent}
    (h : Reachable c₀ (t.join (c.withServer i { s with pool }) a)) (inside : i < c.servers.length)
    (stage : a.stage = .awaiting x) (server : x.server = i)
    (loan : pool.loan? x.borrower = some { l with connection := d })
    (numbered : a.requestId = some x.requestId) (written : a.sent = some sent)
    (lodged : sent.server = i ∧ sent.stream = d.link.serial)
    (honest : t.Honest n i x.requestId) (frame : Bytes) :
    let d : Connection := { d with
      link := { d.link with arrivals := n.arrivals d.address d.link frame } }
    let received := d.receive pool.buffers x.requestId
    ∃ t' : Traffic, t'.errands = t.errands ∧ Reachable c₀ (t'.join
      (c.withServer i { s with pool := pool.update x.borrower received.2.1 received.2.2 })
      { a with stage := x.afterReceiving received.1 }) := by
  subst server
  intro d' received
  obtain ⟨posts, more, arrivals_eq, payload_eq, replies⟩ :=
    honest.replies d.address d.link frame
  have allowed : (t.join (c.withServer x.server { s with pool }) a).Allows
      (.deliver x.server d.link.serial posts more) := by
    refine ⟨fun p hp => ?_, payload_eq⟩
    obtain ⟨whole, asked | ⟨own, same⟩⟩ := replies p hp
    · refine ⟨whole, asked.mono fun k errand found => ⟨errand, ?_, fun _ h => h, fun _ h => h⟩⟩
      exact (List.getElem?_append_left (List.getElem?_eq_some_iff.1 found).1).trans found
    · rw [own, same]
      exact ⟨whole, a, sent, List.getElem?_concat_length, numbered, written, lodged⟩
  let t₁ : Traffic := { t with
    posts := t.posts ++ posts
    transit := fun i n =>
      if i = x.server ∧ n = d.link.serial then t.transit i n ++ more else t.transit i n }
  have delivered : Reachable c₀ (t₁.join (c.withServer x.server { s with pool }) a) :=
    h.step _ allowed
  have known : (t₁.join (c.withServer x.server { s with pool }) a).client.pool? x.server =
      some pool := Client.pool?_withServer inside
  have reached : (t₁.join (c.withServer x.server { s with pool }) a).reached x.server d = d' := by
    have unread : t₁.unread x.server d.link = n.arrivals d.address d.link frame := by
      rw [arrivals_eq, Traffic.unread, Traffic.unread, List.append_assoc]
      exact congrArg _ (if_pos ⟨rfl, rfl⟩)
    exact congrArg (fun arrivals => { d with link := { d.link with arrivals } }) unread
  have next := delivered.proceed 0 []
  simp only [Traffic.proceed, stage, known, receive, loan, Traffic.read, reached] at next
  let t₂ : Traffic := { t₁ with
    transit := fun server stream =>
      if server = x.server ∧ stream = d.link.serial then [] else t₁.transit server stream }
  refine ⟨t₂, rfl, ?_⟩
  have after := follow_join t₂ (c.withServer x.server { s with pool }) a
    { a with stage := x.afterReceiving (d'.receive pool.buffers x.requestId).1 }
    [.pool x.server (.use x.borrower (.arrive d'.link.arrivals)),
      .pool x.server (.use x.borrower (.receive x.requestId))]
  have used : pool.run [.use x.borrower (.arrive d'.link.arrivals),
      .use x.borrower (.receive x.requestId)] = pool.update x.borrower received.2.1 received.2.2 :=
    PoolSystem.run_use_use loan rfl _
  have run_eq := c.run_pool_withServer x.server { s with pool }
    [.use x.borrower (.arrive d'.link.arrivals), .use x.borrower (.receive x.requestId)]
  simp only [used, List.map_cons, List.map_nil] at run_eq
  rw [run_eq] at after
  rw [← after]
  exact next

/-- What a command makes of an exchange on the connection of the loan `l`. -/
structure Conversed (c₀ : Client) (t : Traffic) (c : Client) (s : Server) (pool : PoolSystem)
    (l : Lent) (x : Slip) (conversed : Exchange × Connection × Recycler) (t' : Traffic)
    (a : Errand) : Prop where
  errands_eq : t'.errands = t.errands
  reachable : Reachable c₀ (t'.join (c.withServer x.server
    { s with pool := pool.update l.borrower conversed.2.1 conversed.2.2 }) a)
  stage_eq : a.stage = x.afterReceiving conversed.1.result
  sent_eq : ∀ frame, conversed.1.sent = some frame → a.sent.map (·.frame) = some frame

theorem Reachable.converse {n : Network} {x : Slip} {pool : PoolSystem} {others : List Lent}
    {l : Lent} {ticket : Ticket}
    (h : Reachable c₀ (t.join (c.withServer x.server { s with pool }) a))
    (inside : x.server < c.servers.length) (stage : a.stage = .borrowing x)
    (numbered : a.requestId = some x.requestId) (last : PoolSystem.Last others l pool)
    (borrower : l.borrower = x.borrower)
    (answer : pool.answer? x.borrower = some (.ok ticket))
    (honest : t.Honest n x.server x.requestId) :
    ∃ t' a', Conversed c₀ t c s pool l x (l.connection.converse pool.buffers n x.requestId
      (c.commandQuery a.preference a.db a.body)) t' a' := by
  have loan : pool.loan? x.borrower = some l := borrower ▸ last.loan?_eq
  cases encoded : (c.commandQuery a.preference a.db a.body).encode x.requestId
      l.connection.settings with
  | error e =>
    have known : (t.join (c.withServer x.server { s with pool }) a).client.pool? x.server =
        some pool := Client.pool?_withServer inside
    have query : (t.join (c.withServer x.server { s with pool }) a).client.commandQuery
        a.preference a.db a.body = c.commandQuery a.preference a.db a.body := rfl
    have next := h.proceed 0 []
    simp only [Traffic.proceed, stage, known, send, answer, loan, query, encoded,
      follow_join] at next
    rw [Connection.converse, encoded]
    refine ⟨t, { a with stage := x.failed e }, rfl, ?_, rfl, nofun⟩
    rw [last.update_self]
    exact next
  | ok frame =>
    let acceptances := n.accepts l.connection.address l.connection.link
    let asked : Connection := {
      l.connection with link := { l.connection.link with acceptances } }
    let d := (asked.send frame).2
    have next : Reachable c₀ (t.join _ { a with
        sent := sent? x.server asked d frame
        stage := x.afterSending (asked.send frame).1 }) :=
      h.write inside stage loan answer encoded acceptances
    rw [Connection.converse_of_encoded encoded]
    show ∃ t' a', Conversed c₀ t c s pool l x (match (asked.send frame).1 with
      | .error e => _
      | .ok () => _) t' a'
    cases outcome : (asked.send frame).1 with
    | error e =>
      rw [outcome, ← borrower] at next
      exact ⟨t, _, rfl, next, rfl, nofun⟩
    | ok u =>
      have written : sent? x.server asked d frame = some ⟨x.server, d.link.serial, frame⟩ :=
        if_pos (Connection.written_of_send (Prod.ext outcome rfl))
      rw [outcome] at next
      obtain ⟨t', errands_eq, reachable⟩ := next.read inside rfl rfl
        (PoolSystem.loan?_update_self loan d pool.buffers) numbered written ⟨rfl, rfl⟩ honest frame
      rw [PoolSystem.update_update, ← borrower] at reachable
      refine ⟨t', _, errands_eq, reachable, rfl, fun frame' same => ?_⟩
      cases same
      exact congrArg _ written

/-! ## Requests -/

/-- A command that was begun in the state `t` comes to this outcome, and leaves this client. -/
def Enacts (c₀ : Client) (t : Traffic) (outcome : CommandOutcome) (c : Client) : Prop :=
  ∃ (t' : Traffic) (a : Errand), t'.errands = t.errands ∧ Reachable c₀ (t'.join c a) ∧
    a.Gets outcome

theorem Reachable.request {n : Network} {requestId : Int32} (h : Reachable c₀ (t.join c a))
    (stage : a.stage = .numbered i requestId) (numbered : a.requestId = some requestId)
    (known : c.servers[i]? = some s) (balanced : s.pool.ledger.Balanced)
    (honest : t.Honest n i requestId) :
    let ran := Client.request s n requestId (c.commandQuery a.preference a.db a.body)
    Enacts c₀ t ran.1 (c.withServer i ran.2) := by
  have inside := (List.getElem?_eq_some_iff.1 known).1
  have borrowed := h.borrow stage known honest.fresh
  have got := Client.got_borrow balanced n
  generalize hb : s.borrow n = b at borrowed got
  obtain ⟨result, pool⟩ := b
  have known' : (t.join (c.withServer i { s with pool })
      { a with stage := .borrowing ⟨i, requestId, s.pool.calls⟩ }).client.pool? i = some pool :=
    Client.pool?_withServer inside
  cases got with
  | refused e _ _ _ answer =>
    have next := borrowed.proceed 0 []
    simp only [Traffic.proceed, known', send, answer, follow_join] at next
    rw [Client.request_of_refused hb]
    exact ⟨t, _, rfl, next, Errand.gets_of_ended rfl⟩
  | served l _ lent_eq _ _ borrower _ answer =>
    have last : PoolSystem.Last s.pool.lent l pool :=
      ⟨lent_eq, fun m hm => borrower ▸ PoolSystem.borrower_ne_calls balanced hm⟩
    obtain ⟨t', a', conversed⟩ := borrowed.converse (x := ⟨i, requestId, s.pool.calls⟩) inside rfl
      numbered last borrower answer honest
    have ended := conversed.reachable.conclude inside rfl borrower.symm conversed.stage_eq
    rw [Client.request_of_lent hb last borrower]
    refine ⟨t', _, conversed.errands_eq, ended, rfl, fun address frame same => ?_⟩
    obtain ⟨frame', sent_eq, same⟩ := Option.map_eq_some_iff.1 same
    cases same
    exact conversed.sent_eq frame sent_eq

theorem Reachable.dispatch {n : Network} {source : Source} (h : Reachable c₀ (t.join c a))
    {name : Nat} (stage : a.stage = .searching name)
    (answer : c.cluster.answer? name = some (.ok source))
    (balanced : ∀ s, c.servers[source.serial]? = some s → s.pool.ledger.Balanced)
    (honest : t.Honest n source.serial c.nextRequestId) :
    let ran := c.dispatch n a.preference a.db a.body source
    Enacts c₀ t ran.1 ran.2 := by
  have next := h.proceed 0 []
  simp only [Traffic.proceed, stage, number,
    show (t.join c a).client.cluster.answer? name = some (.ok source) from answer,
    follow_join] at next
  have next : Reachable c₀ (t.join c.issue { a with
      requestId := some c.nextRequestId, stage := .numbered source.serial c.nextRequestId }) :=
    next
  cases known : c.servers[source.serial]? with
  | none =>
    have ended := next.proceed 0 []
    have gone : (t.join c.issue { a with
        requestId := some c.nextRequestId
        stage := .numbered source.serial c.nextRequestId }).client.pool? source.serial = none := by
      show (c.servers[source.serial]?).map (·.pool) = none
      rw [known]
      rfl
    simp only [Traffic.proceed, ask, gone, follow_join] at ended
    simp only [Client.dispatch, Client.issue, known]
    exact ⟨t, _, rfl, ended, Errand.gets_of_ended rfl⟩
  | some s =>
    have requested := next.request rfl rfl known (balanced s known) honest
    simp only [Client.dispatch, Client.issue, known]
    exact requested

/-! ## Commands -/

/-- A command has looked for a server, and waited for one until the time was over. -/
structure Found (c₀ : Client) (t : Traffic) (c : Client) (a : Errand)
    (answer : Option (Except Error Source)) (c' : Client) : Prop where
  reachable : Reachable c₀ (t.join c' { a with stage := .searching c.cluster.searches })
  answer_eq : c'.cluster.answer? c.cluster.searches = answer
  nextRequestId_eq : c'.nextRequestId = c.nextRequestId

theorem Reachable.find (h : Reachable c₀ (t.join c a)) (stage : a.stage = .resolved) (pick : Nat) :
    let sought := c.findSource (c.selectorFor a.preference)
      c.settings.cluster.serverSelectionTimeout pick
    Found c₀ t c a sought.1 sought.2 := by
  refine ⟨?_, rfl, rfl⟩
  have sought := h.proceed pick []
  simp only [Traffic.proceed, stage, seek, follow_join] at sought
  simp only [Client.findSource]
  split
  · have waited : ∀ e ∈ [Client.Event.tick c.settings.cluster.serverSelectionTimeout,
        .recheck c.cluster.searches pick], e.Quiet := by
      simp [Client.Event.Quiet]
    exact sought.elsewhere waited
  · exact sought

variable {settings : ClientSettings} {dialer heartbeatDialer : Dialer} {spawn : Address → Spawn}

/-- A command that is run without interruption is one of the commands in progress. -/
theorem enacts_runCommand
    (h : Client.start settings dialer heartbeatDialer spawn = (.ok (), c₀))
    (plain : dialer.authenticator = none) (reachable : Reachable c₀ t) (n : Network) (db : String)
    (command : CommandRequest) (body : Bytes) (preference : Option ReadPreference) (pick : Nat)
    (honest : ∀ source, (t.client.search command preference pick).1 = some (.ok source) →
      t.Honest n source.serial t.client.nextRequestId) :
    let ran := t.client.runCommand n db command body preference pick
    ∀ outcome, ran.1 = some outcome → Enacts c₀ t outcome ran.2 := by
  intro ran outcome same
  have begun := reachable.step (.begin db command body preference) trivial
  simp only [Traffic.step, begin] at begun
  simp only [ran, Client.runCommand] at same ⊢
  cases valid : (preference.getD t.client.settings.readPreference).validate with
  | error e =>
    simp only [valid] at begun same ⊢
    cases same
    exact ⟨t, _, rfl, begun, Errand.gets_of_ended rfl⟩
  | ok u =>
    let p := t.client.commandPreference command
      (preference.getD t.client.settings.readPreference)
    simp only [valid] at begun same ⊢
    have begun : Reachable c₀ (t.join t.client { db, body, preference := p }) := begun
    have sought := begun.find rfl pick
    generalize found : t.client.findSource _ _ _ = f at sought same ⊢
    obtain ⟨answer, c⟩ := f
    have searching := sought.reachable
    cases answer with
    | none => cases same
    | some answer =>
      cases answer with
      | error e =>
        cases same
        have ended := searching.proceed 0 []
        simp only [Traffic.proceed, number,
          show (t.join c _).client.cluster.answer? _ = some (.error e) from sought.answer_eq,
          follow_join] at ended
        exact ⟨t, _, rfl, ended, Errand.gets_of_ended rfl⟩
      | ok source =>
        cases same
        refine searching.dispatch rfl sought.answer_eq (fun s known => ?_) ?_
        · refine (sound_of_reachable h plain searching).balanced (Client.validate_of_start h)
            (i := source.serial) ?_
          show (c.servers[source.serial]?).map (·.pool) = _
          rw [known]
          rfl
        · rw [sought.nextRequestId_eq]
          exact honest source (congrArg Prod.fst found)

end

end Traffic

end ClusterClient

import ClusterClient.Proofs.Client.Uninterrupted

/-!
# Replies are never crossed

However many commands run on a client at the same time, each of them gets the reply to its own
request or fails. As long as the numbers of the requests have not wrapped around, a number belongs
to one command. A reply to another command that is still unread on a connection when a command
reads from it is never taken for its own: the command fails, and the connection is closed.

    Uncrossed c₀ t   for each state t that fewer than 2 ^ 32 commands on a new client may get into
                                                                            (uncrossed_of_reachable)
-/

namespace ClusterClient

namespace Traffic

open Connection (content)

/-! ## Numbers -/

theorem toNat_ofNat {n : Nat} (h : n < Int32.size) : (Int32.ofNat n).toBitVec.toNat = n := by
  rw [Int32.toBitVec_ofNat', BitVec.toNat_ofNat]
  exact Nat.mod_eq_of_lt h

theorem ordinal_inj {m n : Nat} (hm : m < Int32.size) (hn : n < Int32.size)
    (h : ordinal m = ordinal n) : m = n := by
  have same : Int32.ofNat m = Int32.ofNat n := (Int32.add_right_inj 1).1 h
  rw [← toNat_ofNat hm, same, toNat_ofNat hn]

section

variable {settings : ClientSettings} {dialer : Dialer} {t : Traffic}

theorem Sound.nodup_requestIds (h : Sound settings dialer t) (few : t.errands.length < Int32.size) :
    t.requestIds.Nodup := by
  have le : t.requestIds.length ≤ t.errands.length := List.length_filterMap_le ..
  refine h.requestIds_perm.nodup_iff.2 (List.Nodup.map_on (fun m hm n hn same => ?_)
    List.nodup_range)
  have hm := List.mem_range.1 hm
  have hn := List.mem_range.1 hn
  exact ordinal_inj (by omega) (by omega) same

/-- A number belongs to one errand. -/
theorem Sound.eq_of_requestId (h : Sound settings dialer t) (few : t.errands.length < Int32.size)
    {j k : Nat} {a b : Errand} {requestId : Int32} (ha : t.errands[j]? = some a)
    (hb : t.errands[k]? = some b) (numbered : a.requestId = some requestId)
    (numbered' : b.requestId = some requestId) : j = k := by
  have apart := List.pairwise_iff_getElem.1
    (List.pairwise_filterMap.1 (h.nodup_requestIds few))
  obtain ⟨hj, rfl⟩ := List.getElem?_eq_some_iff.1 ha
  obtain ⟨hk, rfl⟩ := List.getElem?_eq_some_iff.1 hb
  rcases Nat.lt_trichotomy j k with lt | same | lt
  · exact absurd rfl (apart j k hj hk lt _ numbered _ numbered')
  · exact same
  · exact absurd rfl (apart k j hk hj lt _ numbered' _ numbered)

/-- Whoever has the number of a reply is the one that it was sent to. -/
theorem Sound.errand_eq_of_posted (h : Sound settings dialer t)
    (few : t.errands.length < Int32.size) {p : Post} (hp : p ∈ t.posts) {k : Nat} {errand : Errand}
    (found : t.errands[k]? = some errand)
    (numbered : errand.requestId = some p.letter.requestId) : p.errand = k := by
  obtain ⟨-, server, stream, other, sent, known, asked, -⟩ := h.posted p hp
  exact h.eq_of_requestId few known found asked numbered

/-! ## Answers -/

/-- The errand at position `k` has got the reply that was sent to it. -/
structure Answered (t : Traffic) (k : Nat) (errand : Errand) (response : Response)
    (requestId : Int32) (sent : Sent) (letter : Connection.Letter) : Prop where
  sent_eq : errand.sent = some sent
  /-- The frame that it has written begins with the header of the request. -/
  frame_eq : ∃ header : Header, ∃ rest,
    sent.frame = header.bytes ++ rest ∧ header.requestId = requestId
  responseTo_eq : response.header.responseTo = requestId
  unique : ∀ (j : Nat) other, t.errands[j]? = some other → other.requestId = some requestId → j = k
  posted : ⟨k, letter⟩ ∈ t.posts
  whole : letter.Whole
  content_eq : content response = (letter.header, letter.body)

theorem Sound.exists_answered (h : Sound settings dialer t) (few : t.errands.length < Int32.size)
    {k : Nat} {errand : Errand} {response : Response} (found : t.errands[k]? = some errand)
    (stage : errand.stage = .ended (.ok response)) :
    ∃ requestId sent letter, Answered t k errand response requestId sent letter := by
  have fit := h.fit errand (List.mem_of_getElem? found)
  obtain ⟨some, requestId, p, answer⟩ := fit.answered response (by rw [stage]; rfl)
  obtain ⟨sent, hs⟩ := Option.isSome_iff_exists.1 some
  obtain ⟨header, rest, frame_eq, numbered⟩ := fit.written sent hs
  have same : p.errand = k := h.errand_eq_of_posted few answer.posted found
    (answer.addressed.symm ▸ answer.requestId_eq)
  refine ⟨requestId, sent, p.letter, hs, ⟨header, rest, frame_eq, ?_⟩, answer.responseTo_eq,
    fun j other known numbered' => ?_, ?_, (h.posted p answer.posted).1, answer.content_eq⟩
  · exact Option.some.inj (numbered.symm.trans answer.requestId_eq)
  · exact h.eq_of_requestId few known found numbered' answer.requestId_eq
  · rw [← same]
    exact answer.posted

/-! ## Stale replies -/

/-- The next thing to be read on the stream is a reply to another command. -/
def Stale (t : Traffic) (k server : Nat) (link : Link) : Prop :=
  ∃ p ∈ t.posts, p.errand ≠ k ∧ p.letter.frame <+: Link.payload (t.unread server link)

/-- Only the errand that goes on changes. -/
theorem errands_proceed (t : Traffic) (k : Nat) (errand : Errand) (pick : Nat)
    (acceptances : List Acceptance) :
    (t.proceed k errand pick acceptances).errands = t.errands ∨
      ∃ errand', (t.proceed k errand pick acceptances).errands = t.errands.set k errand' := by
  unfold proceed
  split
  · exact .inr ⟨_, rfl⟩
  · unfold number
    split
    · exact .inl rfl
    · exact .inr ⟨_, rfl⟩
    · exact .inr ⟨_, rfl⟩
  · unfold ask
    split <;> exact .inr ⟨_, rfl⟩
  · split
    · unfold send
      split
      · exact .inl rfl
      · exact .inr ⟨_, rfl⟩
      · split
        · exact .inr ⟨_, rfl⟩
        · simp only
          split <;> exact .inr ⟨_, rfl⟩
    · exact .inl rfl
  · split
    · unfold receive
      split <;> exact .inr ⟨_, rfl⟩
    · exact .inl rfl
  · exact .inr ⟨_, rfl⟩
  · exact .inr ⟨_, rfl⟩
  · exact .inr ⟨_, rfl⟩
  · exact .inl rfl

/-- The errand has failed, or is about to. -/
def Errand.Doomed (errand : Errand) (x : Slip) (cause : Error) : Prop :=
  errand.stage.Fails x cause ∨ errand.stage = .ended (.error cause)

/-- What a command that has failed does next. -/
def Stage.next : Stage → Stage
  | .distrusting x cause => .warning x cause
  | .warning x cause => .returning x (.error cause)
  | .returning _ result => .ended result
  | stage => stage

theorem Errand.Doomed.next {errand : Errand} {x : Slip} {cause : Error}
    (h : errand.Doomed x cause) : { errand with stage := errand.stage.next }.Doomed x cause := by
  obtain ⟨_, _, _, _, _, stage⟩ := errand
  rcases h with fails | rfl
  · cases fails with
    | distrusting => exact .inl .warning
    | warning => exact .inl .returning
    | returning => exact .inr rfl
  · exact .inr rfl

theorem getElem?_proceed_of_doomed {k : Nat} {errand : Errand} (found : t.errands[k]? = some errand)
    {x : Slip} {cause : Error} (h : errand.Doomed x cause) (pick : Nat)
    (acceptances : List Acceptance) :
    (t.step (.proceed k pick acceptances)).errands[k]? =
      some { errand with stage := errand.stage.next } := by
  have inside := (List.getElem?_eq_some_iff.1 found).1
  obtain ⟨_, _, _, _, _, stage⟩ := errand
  simp only [step, found]
  rcases h with fails | rfl
  · cases fails <;> exact List.getElem?_set_self inside
  · exact found

theorem doomed_step {x : Slip} {cause : Error} {k : Nat}
    (h : ∃ errand, t.errands[k]? = some errand ∧ errand.Doomed x cause) (e : Event) :
    ∃ errand, (t.step e).errands[k]? = some errand ∧ errand.Doomed x cause := by
  obtain ⟨errand, found, doomed⟩ := h
  have inside := (List.getElem?_eq_some_iff.1 found).1
  cases e with
  | begin db command body preference =>
    exact ⟨errand, (List.getElem?_append_left inside).trans found, doomed⟩
  | elsewhere event => exact ⟨errand, found, doomed⟩
  | deliver server stream posts arrivals => exact ⟨errand, found, doomed⟩
  | proceed j pick acceptances =>
    by_cases same : j = k
    · subst same
      exact ⟨_, getElem?_proceed_of_doomed found doomed pick acceptances, doomed.next⟩
    · refine ⟨errand, ?_, doomed⟩
      simp only [step]
      split
      · next other _ =>
        rcases t.errands_proceed j other pick acceptances with unchanged | ⟨other', set⟩
        · rw [unchanged, found]
        · rw [set, List.getElem?_set_ne same, found]
      · exact found

theorem doomed_run {x : Slip} {cause : Error} {k : Nat}
    (h : ∃ errand, t.errands[k]? = some errand ∧ errand.Doomed x cause) (events : List Event) :
    ∃ errand, (t.run events).errands[k]? = some errand ∧ errand.Doomed x cause := by
  induction events generalizing t with
  | nil => exact h
  | cons e events ih => exact ih (doomed_step h e)

/-- The errand at position `k` has failed, and its connection is closed. -/
structure Refused (t : Traffic) (k : Nat) (x : Slip) (stream : Nat) (cause : Error) : Prop where
  /-- It never gets a response. -/
  doomed : ∀ events, ∃ errand, (t.run events).errands[k]? = some errand ∧ errand.Doomed x cause
  /-- It ends after three more steps of its own. -/
  ended : ∀ pick acceptances, ∃ errand,
    (t.run (List.replicate 3 (.proceed k pick acceptances))).errands[k]? = some errand ∧
      errand.stage = .ended (.error cause)
  closed : ∃ s l, t.client.pool? x.server = some s ∧ s.loan? x.borrower = some l ∧
    l.connection.link.serial = stream ∧ l.connection.closed = true

theorem ended_of_fails {x : Slip} {cause : Error} {k : Nat} {errand : Errand}
    (found : t.errands[k]? = some errand) (fails : errand.stage.Fails x cause) (pick : Nat)
    (acceptances : List Acceptance) : ∃ errand',
      (t.run (List.replicate 3 (.proceed k pick acceptances))).errands[k]? = some errand' ∧
        errand'.stage = .ended (.error cause) := by
  have first := getElem?_proceed_of_doomed found (.inl fails) pick acceptances
  have second := getElem?_proceed_of_doomed first (Errand.Doomed.next (.inl fails)) pick acceptances
  have third := getElem?_proceed_of_doomed second (Errand.Doomed.next (Errand.Doomed.next
    (.inl fails))) pick acceptances
  refine ⟨_, third, ?_⟩
  obtain ⟨_, _, _, _, _, stage⟩ := errand
  cases fails <;> rfl

theorem Sound.refused_of_stale (h : Sound settings dialer t)
    (valid : settings.pool.validate = .ok ()) (few : t.errands.length < Int32.size) {k : Nat}
    {errand : Errand} (found : t.errands[k]? = some errand) {x : Slip}
    (stage : errand.stage = .awaiting x) {s : PoolSystem}
    (pool : t.client.pool? x.server = some s) {l : Lent} (loan : s.loan? x.borrower = some l)
    (stale : t.Stale k x.server l.connection.link) (pick : Nat) (acceptances : List Acceptance) :
    ∃ cause, Refused (t.step (.proceed k pick acceptances)) k x l.connection.link.serial cause := by
  have inside := (List.getElem?_eq_some_iff.1 found).1
  have numbered : errand.requestId = some x.requestId :=
    (h.fit errand (List.mem_of_getElem? found)).numbered _ (by rw [stage]; rfl)
  obtain ⟨p, hp, foreign, rest, payload_eq⟩ := stale
  have requestId_ne : p.letter.requestId ≠ x.requestId := fun same =>
    foreign (h.errand_eq_of_posted few hp found (same ▸ numbered))
  let c := t.reached x.server l.connection
  obtain ⟨cause, failed, closed⟩ : ∃ e, (c.receive s.buffers x.requestId).1 = .error e ∧
      (c.receive s.buffers x.requestId).2.1.closed = true :=
    Connection.refused_of_foreign (h.posted p hp).1 payload_eq.symm requestId_ne
  let t' := t.read k errand x l.connection s.buffers
  have step_eq : t.step (.proceed k pick acceptances) = t' := by
    simp only [step, found, proceed, stage, pool, receive, loan]
    rfl
  have exchanged := exchanged_run h valid pool loan (.arrive c.link.arrivals) rfl
    (.receive x.requestId) (show t'.client = _ from rfl)
  obtain ⟨s', found', used⟩ := exchanged.used
  have after : t'.errands[k]? = some { errand with stage := x.failed cause } := by
    refine (List.getElem?_set_self inside).trans ?_
    show some { errand with stage := x.afterReceiving (c.receive s.buffers x.requestId).1 } = _
    rw [failed]
    rfl
  have loan' : s'.loan? x.borrower =
      some { l with connection := (c.receive s.buffers x.requestId).2.1 } := by
    rw [← (PoolSystem.mem_of_loan? loan).2]
    exact used.loan?_eq
  rw [step_eq]
  exact ⟨cause, doomed_run ⟨_, after, .inl (x.fails cause)⟩, ended_of_fails after (x.fails cause),
    s', _, found', loan', used.serial_eq, closed⟩

/-! ## All states -/

/-- A command waits for the reply on the stream on which it has sent its request. What it finds
there are replies that were sent, and the reply to another command makes it fail. -/
structure Listening (t : Traffic) (k : Nat) (errand : Errand) (x : Slip) (s : PoolSystem) (l : Lent)
    (sent : Sent) : Prop where
  pool?_eq : t.client.pool? x.server = some s
  loan?_eq : s.loan? x.borrower = some l
  sent_eq : errand.sent = some sent
  server_eq : sent.server = x.server
  stream_eq : sent.stream = l.connection.link.serial
  filed : l.connection.closed = false → t.Filed x.server l.connection.link
  refused : t.Stale k x.server l.connection.link → ∀ pick acceptances, ∃ cause,
    Refused (t.step (.proceed k pick acceptances)) k x l.connection.link.serial cause

/-- Replies are not crossed. -/
structure Uncrossed (c₀ : Client) (t : Traffic) : Prop where
  /-- A command that has a response has the reply to its own request. -/
  answered : ∀ (k : Nat) errand response, t.errands[k]? = some errand →
    errand.stage = .ended (.ok response) →
      ∃ requestId sent letter, Answered t k errand response requestId sent letter
  awaiting : ∀ (k : Nat) errand x, t.errands[k]? = some errand → errand.stage = .awaiting x →
    ∃ s l sent, Listening t k errand x s l sent
  /-- A command that nobody interrupts is one more of the commands. -/
  uninterrupted : ∀ n db command body preference pick,
    (∀ source, (t.client.search command preference pick).1 = some (.ok source) →
      t.Honest n source.serial t.client.nextRequestId) →
    ∀ outcome, (t.client.runCommand n db command body preference pick).1 = some outcome →
      Enacts c₀ t outcome (t.client.runCommand n db command body preference pick).2

theorem Sound.exists_listening (h : Sound settings dialer t)
    (valid : settings.pool.validate = .ok ()) (few : t.errands.length < Int32.size) {k : Nat}
    {errand : Errand} (found : t.errands[k]? = some errand) {x : Slip}
    (stage : errand.stage = .awaiting x) : ∃ s l sent, Listening t k errand x s l sent := by
  obtain ⟨s, l, sent, pool, loan, sent_eq, server_eq, stream_eq⟩ :=
    (h.fit errand (List.mem_of_getElem? found)).lent x stage
  exact ⟨s, l, sent, pool, loan, sent_eq, server_eq, stream_eq,
    h.filed x.server s pool l.connection (connection_mem_of_loan? loan),
    h.refused_of_stale valid few found stage pool loan⟩

theorem uncrossed_of_reachable {heartbeatDialer : Dialer} {spawn : Address → Spawn} {c₀ : Client}
    (h : Client.start settings dialer heartbeatDialer spawn = (.ok (), c₀))
    (plain : dialer.authenticator = none) (reachable : Reachable c₀ t)
    (few : t.errands.length < Int32.size) : Uncrossed c₀ t where
  answered _ _ _ found stage :=
    (sound_of_reachable h plain reachable).exists_answered few found stage
  awaiting _ _ _ found stage :=
    (sound_of_reachable h plain reachable).exists_listening (Client.validate_of_start h) few found
      stage
  uninterrupted := enacts_runCommand h plain reachable

end

/-- The server replies twice to a command. The next one gets the same connection, finds the second
reply and fails. -/
theorem uncrossed_of_reachable_duplicate :
    let settings : ClientSettings := { cluster := { hosts := [⟨"a", 1⟩] } }
    let spawn : Address → Spawn := fun _ => .started
    let c₀ := (Client.start settings {} {} spawn).2
    let begin : Event := .begin "db" { name := "ping" } [] none
    let proceed : Nat → Event := fun k => .proceed k 0 []
    let reply : Connection.Letter :=
      ⟨Header.bytes ⟨16, 9, 1, .reply⟩, 1, ⟨16, 9, 1, .reply⟩, []⟩
    let asking : List Event := [.elsewhere (.monitor 0 .begin spawn),
      .elsewhere (.monitor 0 (.dialed (.ok {})) spawn),
      .elsewhere (.monitor 0 (.probed (.ok { isMaster := true }) (.ofMillis 1)) spawn),
      begin, proceed 0, proceed 0, proceed 0, .elsewhere (.pool 0 (.dialed 0 (.ok {}))),
      .elsewhere (.pool 0 (.settle 0)), proceed 0]
    let answering : List Event := [
      .deliver 0 0 [⟨0, reply⟩, ⟨0, reply⟩] [.data (reply.frame ++ reply.frame)],
      proceed 0, proceed 0, begin, proceed 1, proceed 1, proceed 1, proceed 1]
    let t := (Traffic.run { client := c₀ } asking).run answering
    Client.start settings {} {} spawn = (.ok (), c₀) ∧ Reachable c₀ t ∧ t.errands.length = 2 ∧
      (t.run (List.replicate 4 (proceed 1))).errands.map (fun errand =>
        match errand.stage with
        | .ended result => some result.isOk
        | _ => none) = [some true, some false] ∧
      Uncrossed c₀ t := by
  intro settings spawn c₀ begin proceed reply asking answering t
  have started : Client.start settings {} {} spawn = (.ok (), c₀) := rfl
  have asked : Reachable c₀ (Traffic.run { client := c₀ } asking) :=
    Reachable.start.run ⟨trivial, trivial, trivial, trivial, trivial, trivial, trivial, rfl,
      trivial, trivial, trivial⟩
  have whole : reply.Whole := ⟨48000000, rfl, rfl⟩
  have sent : (Traffic.run { client := c₀ } asking).Asked 0 0 0 reply.requestId := by
    decide +kernel
  have answered : Reachable c₀ t := asked.run ⟨⟨by simp [whole, sent], rfl⟩, trivial, trivial,
    trivial, trivial, trivial, trivial, trivial, trivial⟩
  have ends : t.errands.length = 2 ∧ (t.run (List.replicate 4 (proceed 1))).errands.map
      (fun errand => match errand.stage with
        | .ended result => some result.isOk
        | _ => none) = [some true, some false] := by
    decide +kernel
  have few : t.errands.length < Int32.size := by
    rw [ends.1]
    decide
  exact ⟨started, answered, ends.1, ends.2, uncrossed_of_reachable started rfl answered few⟩

end Traffic

end ClusterClient

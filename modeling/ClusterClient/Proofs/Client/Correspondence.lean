import ClusterClient.Proofs.Client.Traffic
import ClusterClient.Proofs.Wire.Request

/-!
# The correspondence of requests and replies

What is true of commands in progress, in all states: what is unread on an open stream is a sequence
of replies that were sent on it, each of them to a request with the number that it names; requests
have different numbers as long as they do not wrap around; and no two commands share a loan.
-/

namespace ClusterClient

namespace Traffic

open Connection (content)

/-! ## Stages -/

namespace Stage

def isUnnumbered : Stage → Bool
  | resolved | searching _ => true
  | _ => false

def isUnsent : Stage → Bool
  | resolved | searching _ | numbered _ _ | borrowing _ => true
  | _ => false

def requestId? : Stage → Option Int32
  | numbered _ requestId => some requestId
  | borrowing x | awaiting x | distrusting x _ | warning x _ | returning x _ => some x.requestId
  | resolved | searching _ | ended _ => none

def slip? : Stage → Option Slip
  | borrowing x | awaiting x | distrusting x _ | warning x _ | returning x _ => some x
  | resolved | searching _ | numbered _ _ | ended _ => none

def response? : Stage → Option Response
  | returning _ (.ok response) | ended (.ok response) => some response
  | _ => none

end Stage

/-! ## Invariant -/

/-- The response is a reply that was sent to the request of this errand. -/
structure Answer (t : Traffic) (errand : Errand) (response : Response) (requestId : Int32)
    (p : Post) : Prop where
  requestId_eq : errand.requestId = some requestId
  posted : p ∈ t.posts
  addressed : p.letter.requestId = requestId
  responseTo_eq : response.header.responseTo = requestId
  content_eq : content response = (p.letter.header, p.letter.body)

/-- What is true of the exchange of an errand. -/
structure Attended (t : Traffic) (errand : Errand) : Prop where
  lent : ∀ x, errand.stage = .awaiting x → ∃ s l sent, t.client.pool? x.server = some s ∧
    s.loan? x.borrower = some l ∧ errand.sent = some sent ∧ sent.server = x.server ∧
    sent.stream = l.connection.link.serial
  sent : ∀ sent, errand.sent = some sent → ∃ s, t.client.pool? sent.server = some s ∧
    sent.stream < s.streams
  written : ∀ sent, errand.sent = some sent → ∃ header : Header, ∃ rest,
    sent.frame = header.bytes ++ rest ∧ errand.requestId = some header.requestId
  answered : ∀ response, errand.stage.response? = some response →
    errand.sent.isSome = true ∧ ∃ requestId p, t.Answer errand response requestId p

/-- What is true of an errand, however far it has got. -/
structure Fit (t : Traffic) (errand : Errand) : Prop extends Attended t errand where
  unnumbered : errand.stage.isUnnumbered = true → errand.requestId = none
  unsent : errand.stage.isUnsent = true → errand.sent = none
  numbered : ∀ requestId, errand.stage.requestId? = some requestId →
    errand.requestId = some requestId
  lodged : ∀ x, errand.stage.slip? = some x →
    ∃ s, t.client.pool? x.server = some s ∧ x.borrower < s.calls

/-- The number of the request that comes after `n` others. -/
def ordinal (n : Nat) : Int32 := 1 + Int32.ofNat n

/-- The numbers of the requests. -/
def requestIds (t : Traffic) : List Int32 := t.errands.filterMap (·.requestId)

/-- What is unread on a stream are replies that were sent. -/
def Filed (t : Traffic) (server : Nat) (link : Link) : Prop :=
  ∃ posts, posts ⊆ t.posts ∧
    Link.payload (t.unread server link) = posts.flatMap (·.letter.frame)

structure Sound (settings : ClientSettings) (dialer : Dialer) (t : Traffic) : Prop where
  stocked : Client.Stocked settings dialer t.client
  next_eq : t.client.nextRequestId = ordinal t.requestIds.length
  requestIds_perm : t.requestIds.Perm ((List.range t.requestIds.length).map ordinal)
  fit : ∀ errand ∈ t.errands, t.Fit errand
  apart : ∀ (j k : Nat) (a b : Errand) (x y : Slip), t.errands[j]? = some a →
    t.errands[k]? = some b → a.stage.slip? = some x → b.stage.slip? = some y →
    x.server = y.server → x.borrower = y.borrower → j = k
  posted : ∀ p ∈ t.posts, p.letter.Whole ∧
    ∃ server stream, t.Asked p.errand server stream p.letter.requestId
  filed : ∀ i s, t.client.pool? i = some s → ∀ c ∈ s.ledger.connections, c.closed = false →
    t.Filed i c.link
  transit : ∀ i n, Link.payload (t.transit i n) ≠ [] → ∃ k requestId, t.Asked k i n requestId

/-! ## Other commands -/

/-- What a step keeps for the commands that do not make it. -/
structure Onward (concerned : Nat → Nat → Prop) (t t' : Traffic) : Prop where
  pool : ∀ i s, t.client.pool? i = some s →
    ∃ s', t'.client.pool? i = some s' ∧ s.Tends (concerned i) s'
  posts : t.posts ⊆ t'.posts

section

variable {t t' : Traffic} {concerned : Nat → Nat → Prop}

/-- A stage that asks for nothing that was not there before. -/
structure Stage.Continues (a b : Stage) : Prop where
  unnumbered : b.isUnnumbered = true → a.isUnnumbered = true
  unsent : b.isUnsent = true → a.isUnsent = true
  requestId? : ∀ requestId, b.requestId? = some requestId → a.requestId? = some requestId
  slip? : ∀ x, b.slip? = some x → a.slip? = some x
  awaiting : ∀ x, b = .awaiting x → a = .awaiting x
  response? : ∀ response, b.response? = some response → a.response? = some response

theorem Fit.restage {errand : Errand} {stage : Stage} (h : t.Fit errand)
    (continues : errand.stage.Continues stage) (onward : Onward concerned t t')
    (apart : ∀ x, stage = .awaiting x → ¬concerned x.server x.borrower) :
    t'.Fit { errand with stage } where
  unnumbered early := h.unnumbered (continues.unnumbered early)
  unsent early := h.unsent (continues.unsent early)
  numbered requestId hr := h.numbered requestId (continues.requestId? requestId hr)
  lodged x hx := by
    obtain ⟨s, found, lt⟩ := h.lodged x (continues.slip? x hx)
    obtain ⟨s', found', tends⟩ := onward.pool _ s found
    exact ⟨s', found', Nat.lt_of_lt_of_le lt tends.calls_le⟩
  lent x hx := by
    obtain ⟨s, l, sent, found, loan, rest⟩ := h.lent x (continues.awaiting x hx)
    obtain ⟨s', found', tends⟩ := onward.pool _ s found
    exact ⟨s', l, sent, found', tends.loan?_eq _ _ (apart x hx) loan, rest⟩
  sent sent hs := by
    obtain ⟨s, found, lt⟩ := h.sent sent hs
    obtain ⟨s', found', tends⟩ := onward.pool _ s found
    exact ⟨s', found', Nat.lt_of_lt_of_le lt tends.streams_le⟩
  written := h.written
  answered response hr := by
    obtain ⟨some, requestId, p, answer⟩ := h.answered response (continues.response? response hr)
    exact ⟨some, requestId, p, answer.requestId_eq, onward.posts answer.posted, answer.addressed,
      answer.responseTo_eq, answer.content_eq⟩

theorem Fit.onward {errand : Errand} (h : t.Fit errand) (onward : Onward concerned t t')
    (apart : ∀ x, errand.stage.slip? = some x → ¬concerned x.server x.borrower) :
    t'.Fit errand := by
  have same : errand.stage.Continues errand.stage :=
    ⟨fun h => h, fun h => h, fun _ h => h, fun _ h => h, fun _ h => h, fun _ h => h⟩
  exact h.restage same onward fun x hx => apart x (by rw [hx]; rfl)

/-- What is borrowed for an errand. -/
def Errand.Borrows (errand : Errand) (server borrower : Nat) : Prop :=
  ∃ x, errand.stage.slip? = some x ∧ x.server = server ∧ x.borrower = borrower

/-- An errand keeps its number and what it has sent. -/
structure Errand.Precedes (a b : Errand) : Prop where
  requestId : ∀ requestId, a.requestId = some requestId → b.requestId = some requestId
  sent : ∀ sent, a.sent = some sent → b.sent = some sent

theorem Asked.mono {k server stream : Nat} {requestId : Int32}
    (h : t.Asked k server stream requestId)
    (precedes : ∀ (k : Nat) errand, t.errands[k]? = some errand →
      ∃ errand', t'.errands[k]? = some errand' ∧ errand.Precedes errand') :
    t'.Asked k server stream requestId := by
  obtain ⟨errand, sent, found, numbered, written, same⟩ := h
  obtain ⟨errand', found', precedes⟩ := precedes k errand found
  exact ⟨errand', sent, found', precedes.requestId _ numbered, precedes.sent _ written, same⟩

/-! ## One errand goes on -/

theorem precedes_set {k : Nat} {errand errand' : Errand} (found : t.errands[k]? = some errand)
    (errands_eq : t'.errands = t.errands.set k errand') (precedes : errand.Precedes errand')
    (j : Nat) (other : Errand) (known : t.errands[j]? = some other) :
    ∃ other', t'.errands[j]? = some other' ∧ other.Precedes other' := by
  rw [errands_eq]
  by_cases same : j = k
  · subst same
    rw [found] at known
    cases known
    exact ⟨errand', List.getElem?_set_self (List.getElem?_eq_some_iff.1 found).1, precedes⟩
  · refine ⟨other, ?_, fun _ h => h, fun _ h => h⟩
    rw [List.getElem?_set_ne (Ne.symm same), known]

variable {settings : ClientSettings} {dialer : Dialer}

/-- What has to be shown of a step of the errand at position `k`. -/
structure Follows (settings : ClientSettings) (dialer : Dialer) (t : Traffic) (k : Nat)
    (errand : Errand) (t' : Traffic) (errand' : Errand) : Prop where
  errands_eq : t'.errands = t.errands.set k errand'
  posts_eq : t'.posts = t.posts
  stocked : Client.Stocked settings dialer t'.client
  next_eq : t'.client.nextRequestId = ordinal t'.requestIds.length
  requestIds_perm : t'.requestIds.Perm ((List.range t'.requestIds.length).map ordinal)
  precedes : errand.Precedes errand'
  /-- It concerns no loan but its own. -/
  pool : ∀ i s, t.client.pool? i = some s →
    ∃ s', t'.client.pool? i = some s' ∧ s.Tends (errand.Borrows i) s'
  fit : t'.Fit errand'
  slip : ∀ x, errand'.stage.slip? = some x → errand.stage.slip? = some x ∨
    ∀ s, t.client.pool? x.server = some s → s.calls ≤ x.borrower
  filed : ∀ i s, t'.client.pool? i = some s → ∀ c ∈ s.ledger.connections, c.closed = false →
    t'.Filed i c.link
  transit : ∀ i n, Link.payload (t'.transit i n) ≠ [] → Link.payload (t.transit i n) ≠ []

theorem Sound.follow (h : Sound settings dialer t) {k : Nat} {errand errand' : Errand}
    (found : t.errands[k]? = some errand) (f : Follows settings dialer t k errand t' errand') :
    Sound settings dialer t' := by
  have precedes := precedes_set found f.errands_eq f.precedes
  have inside := (List.getElem?_eq_some_iff.1 found).1
  -- what an errand is after the step
  have split (j : Nat) (a : Errand) (ha : t'.errands[j]? = some a) :
      j = k ∧ a = errand' ∨ j ≠ k ∧ t.errands[j]? = some a := by
    rw [f.errands_eq] at ha
    by_cases same : j = k
    · subst same
      rw [List.getElem?_set_self inside] at ha
      cases ha
      exact .inl ⟨rfl, rfl⟩
    · rw [List.getElem?_set_ne (Ne.symm same)] at ha
      exact .inr ⟨same, ha⟩
  have onward : Onward errand.Borrows t t' := ⟨f.pool, f.posts_eq ▸ List.Subset.refl _⟩
  -- nobody else has the slip of the errand
  have alone (j : Nat) (a : Errand) (x y : Slip) (ha : t.errands[j]? = some a) (other : j ≠ k)
      (hx : errand'.stage.slip? = some x) (hy : a.stage.slip? = some y)
      (server : x.server = y.server) : x.borrower ≠ y.borrower := by
    intro same
    rcases f.slip x hx with old | fresh
    · exact other (h.apart j k a errand y x ha found hy old server.symm same.symm)
    · obtain ⟨s, pool, lt⟩ := (h.fit a (List.mem_of_getElem? ha)).lodged y hy
      rw [← server] at pool
      exact absurd (fresh s pool) (by omega)
  refine ⟨f.stocked, f.next_eq, f.requestIds_perm, fun a ha => ?_, ?_, fun p hp => ?_, f.filed,
    fun i n some => ?_⟩
  · obtain ⟨j, hj⟩ := List.mem_iff_getElem?.1 ha
    rcases split j a hj with ⟨-, rfl⟩ | ⟨other, known⟩
    · exact f.fit
    · refine (h.fit a (List.mem_of_getElem? known)).onward onward ?_
      rintro y hy ⟨x, hx, server, borrower⟩
      exact other (h.apart j k a errand y x known found hy hx server.symm borrower.symm)
  · intro i j a b x y ha hb hx hy server borrower
    rcases split i a ha with ⟨rfl, rfl⟩ | ⟨hi, ha⟩
    · rcases split j b hb with ⟨rfl, -⟩ | ⟨hj, hb⟩
      · rfl
      · exact absurd borrower (alone j b x y hb hj hx hy server)
    · rcases split j b hb with ⟨rfl, rfl⟩ | ⟨hj, hb⟩
      · exact absurd borrower.symm (alone i a y x ha hi hy hx server.symm)
      · exact h.apart i j a b x y ha hb hx hy server borrower
  · rw [f.posts_eq] at hp
    obtain ⟨whole, server, stream, asked⟩ := h.posted p hp
    exact ⟨whole, server, stream, asked.mono precedes⟩
  · obtain ⟨j, requestId, asked⟩ := h.transit i n (f.transit i n some)
    exact ⟨j, requestId, asked.mono precedes⟩

/-! ## Quiet steps -/

/-- Nothing is in transit on a stream that was not opened yet. -/
theorem Sound.payload_transit (h : Sound settings dialer t) {i n : Nat}
    (beyond : ∀ s, t.client.pool? i = some s → s.streams ≤ n) :
    Link.payload (t.transit i n) = [] := by
  by_contra some
  obtain ⟨k, requestId, errand, sent, found, -, written, rfl, rfl⟩ := h.transit i n some
  obtain ⟨s, pool, lt⟩ := (h.fit errand (List.mem_of_getElem? found)).sent sent written
  exact absurd (beyond s pool) (by omega)

theorem Sound.filed_of_keeps (h : Sound settings dialer t)
    (keeps : t.client.Keeps concerned t'.client) (posts : t.posts ⊆ t'.posts)
    (transit : t'.transit = t.transit) (i : Nat) (s' : PoolSystem)
    (found' : t'.client.pool? i = some s') (c : Connection) (hc : c ∈ s'.ledger.connections)
    (isOpen : c.closed = false) : t'.Filed i c.link := by
  have unread : t'.unread i c.link = t.unread i c.link := by rw [unread, unread, transit]
  have empty (nothing : Link.payload c.link.arrivals = [])
      (beyond : ∀ s, t.client.pool? i = some s → s.streams ≤ c.link.serial) :
      t'.Filed i c.link := by
    refine ⟨[], List.nil_subset _, ?_⟩
    rw [unread, Traffic.unread, Link.payload_append, nothing, h.payload_transit beyond]
    rfl
  cases found : t.client.pool? i with
  | none =>
    refine empty (keeps.made i s' found found' c hc isOpen) fun s some => ?_
    rw [found] at some
    cases some
  | some s =>
    obtain ⟨t', same, kept⟩ := keeps.kept i s found
    rw [found'] at same
    cases same
    rcases kept.connection c hc isOpen with old | ⟨new, nothing⟩
    · obtain ⟨filed, subset, payload_eq⟩ := h.filed i s found c old isOpen
      exact ⟨filed, List.Subset.trans subset posts, by rw [unread, payload_eq]⟩
    · refine empty nothing fun s' some => ?_
      rw [found] at some
      cases some
      exact new

theorem filterMap_set_of_eq {α β : Type} {f : α → Option β} {l : List α} {k : Nat} {a b : α}
    (found : l[k]? = some a) (same : f b = f a) : (l.set k b).filterMap f = l.filterMap f := by
  obtain ⟨before, after, split, -, set_eq⟩ := PoolSystem.exists_append_of_getElem? found
  rw [set_eq, split]
  simp only [List.filterMap_append, List.filterMap_cons, same]

/-- The numbers are the same if no errand takes one. -/
theorem Sound.numbers (h : Sound settings dialer t) {k : Nat} {errand errand' : Errand}
    (found : t.errands[k]? = some errand) (errands_eq : t'.errands = t.errands.set k errand')
    (requestId_eq : errand'.requestId = errand.requestId)
    (next_eq : t'.client.nextRequestId = t.client.nextRequestId) :
    t'.client.nextRequestId = ordinal t'.requestIds.length ∧
      t'.requestIds.Perm ((List.range t'.requestIds.length).map ordinal) := by
  have same : t'.requestIds = t.requestIds := by
    rw [requestIds, errands_eq]
    exact filterMap_set_of_eq found requestId_eq
  rw [same, next_eq]
  exact ⟨h.next_eq, h.requestIds_perm⟩

/-- A step that changes nothing but the stage of an errand and, for its own loan, the pools. -/
theorem Sound.follow_of_keeps (h : Sound settings dialer t) {k : Nat} {errand : Errand}
    (found : t.errands[k]? = some errand) {stage : Stage} {events : List Client.Event}
    (stocked : Client.Stocked settings dialer (t.client.run events))
    (next_eq : (t.client.run events).nextRequestId = t.client.nextRequestId)
    (keeps : t.client.Keeps errand.Borrows (t.client.run events))
    (fit : (t.follow k { errand with stage } events).Fit { errand with stage })
    (slip : ∀ x, stage.slip? = some x → errand.stage.slip? = some x ∨
      ∀ s, t.client.pool? x.server = some s → s.calls ≤ x.borrower) :
    Sound settings dialer (t.follow k { errand with stage } events) := by
  obtain ⟨next_eq, requestIds_perm⟩ := h.numbers found
    (show (t.follow k { errand with stage } events).errands = _ from rfl) rfl next_eq
  refine h.follow found ⟨rfl, rfl, stocked, next_eq, requestIds_perm,
    ⟨fun _ h => h, fun _ h => h⟩, fun i s pool => ?_, fit, slip, ?_, fun _ _ some => some⟩
  · obtain ⟨s', found', kept⟩ := keeps.kept i s pool
    exact ⟨s', found', kept.toTends⟩
  · exact h.filed_of_keeps keeps (List.Subset.refl _) rfl

/-- The same, if the stage goes on where the last one was. -/
theorem Sound.follow_of_continues (h : Sound settings dialer t) {k : Nat} {errand : Errand}
    (found : t.errands[k]? = some errand) {stage : Stage} {events : List Client.Event}
    (stocked : Client.Stocked settings dialer (t.client.run events))
    (next_eq : (t.client.run events).nextRequestId = t.client.nextRequestId)
    (keeps : t.client.Keeps errand.Borrows (t.client.run events))
    (continues : errand.stage.Continues stage) (notAwaiting : ∀ x, stage ≠ .awaiting x) :
    Sound settings dialer (t.follow k { errand with stage } events) := by
  have onward : Onward errand.Borrows t (t.follow k { errand with stage } events) := by
    refine ⟨fun i s pool => ?_, List.Subset.refl _⟩
    obtain ⟨s', found', kept⟩ := keeps.kept i s pool
    exact ⟨s', found', kept.toTends⟩
  refine h.follow_of_keeps found stocked next_eq keeps ?_ fun x hx => .inl (continues.slip? x hx)
  exact (h.fit errand (List.mem_of_getElem? found)).restage continues onward fun x hx =>
    absurd hx (notAwaiting x)

/-! ## Steps of a command -/

/-- The same, for events that concern no loan. -/
theorem Sound.follow_of_quiet (h : Sound settings dialer t) (plain : dialer.authenticator = none)
    {k : Nat} {errand : Errand} (found : t.errands[k]? = some errand) {stage : Stage}
    {e : Client.Event} (quiet : e.Quiet) (continues : errand.stage.Continues stage)
    (notAwaiting : ∀ x, stage ≠ .awaiting x) :
    Sound settings dialer (t.follow k { errand with stage } [e]) :=
  h.follow_of_continues found (h.stocked.run [e]) (Client.nextRequestId_step quiet)
    (Client.keeps_step h.stocked plain quiet) continues notAwaiting

/-- The same, if nothing happens to the client. -/
theorem Sound.follow_of_nil (h : Sound settings dialer t) {k : Nat} {errand : Errand}
    (found : t.errands[k]? = some errand) {stage : Stage}
    (continues : errand.stage.Continues stage) (notAwaiting : ∀ x, stage ≠ .awaiting x) :
    Sound settings dialer (t.follow k { errand with stage } []) :=
  h.follow_of_continues found h.stocked rfl (.of_pool?_eq fun _ => rfl) continues notAwaiting

theorem Stage.continues_ended {a : Stage} {result : Except Error Response}
    (response : ∀ r, result = .ok r → a.response? = some r) : a.Continues (.ended result) where
  unnumbered early := by cases early
  unsent early := by cases early
  requestId? _ hr := by cases hr
  slip? _ hx := by cases hx
  awaiting _ hx := by cases hx
  response? r hr := by
    cases result with
    | ok r' =>
      cases hr
      exact response r rfl
    | error e => cases hr

theorem Stage.requestId?_of_slip? {a : Stage} {x : Slip} (h : a.slip? = some x) :
    a.requestId? = some x.requestId := by
  cases a with
  | resolved | searching | numbered | ended => cases h
  | borrowing | awaiting | distrusting | warning | returning =>
    cases h
    rfl

/-- The exchange of a command has failed. -/
inductive Stage.Fails (x : Slip) (cause : Error) : Stage → Prop where
  | distrusting : Fails x cause (.distrusting x cause)
  | warning : Fails x cause (.warning x cause)
  | returning : Fails x cause (.returning x (.error cause))

theorem Slip.fails (x : Slip) (cause : Error) : Stage.Fails x cause (x.failed cause) := by
  unfold failed
  split
  · exact .distrusting
  · exact .returning

theorem Stage.Fails.continues {a b : Stage} {x : Slip} {cause : Error} (h : Fails x cause b)
    (slip : a.slip? = some x) : a.Continues b := by
  have requestId := requestId?_of_slip? slip
  cases h <;>
    exact ⟨nofun, nofun, fun _ hr => requestId.trans hr, fun _ hx => slip.trans hx, nofun, nofun⟩

theorem Stage.Fails.notAwaiting {b : Stage} {x : Slip} {cause : Error} (h : Fails x cause b)
    (y : Slip) : b ≠ .awaiting y := by
  cases h <;> nofun

theorem sound_seek (h : Sound settings dialer t) (plain : dialer.authenticator = none) {k : Nat}
    {errand : Errand} (found : t.errands[k]? = some errand) (stage : errand.stage = .resolved)
    (pick : Nat) : Sound settings dialer (t.seek k errand pick) := by
  refine h.follow_of_quiet plain found trivial ?_ nofun
  rw [stage]
  exact ⟨fun _ => rfl, fun _ => rfl, nofun, nofun, nofun, nofun⟩

theorem sound_distrust (h : Sound settings dialer t) (plain : dialer.authenticator = none)
    {k : Nat} {errand : Errand} (found : t.errands[k]? = some errand) {x : Slip} {cause : Error}
    (slip : errand.stage.slip? = some x) :
    Sound settings dialer
        (t.follow k { errand with stage := .warning x cause } [.pool x.server .invalidate]) ∧
      Sound settings dialer (t.follow k { errand with stage := .returning x (.error cause) }
        [.monitor x.server .invalidate fun _ => .started]) :=
  ⟨h.follow_of_quiet plain found trivial (Stage.Fails.warning.continues slip) nofun,
    h.follow_of_quiet plain found trivial (Stage.Fails.returning.continues slip) nofun⟩

theorem sound_giveBack (h : Sound settings dialer t) {k : Nat} {errand : Errand}
    (found : t.errands[k]? = some errand) {x : Slip} {result : Except Error Response}
    (stage : errand.stage = .returning x result) :
    Sound settings dialer (t.follow k { errand with stage := .ended result }
      [.pool x.server (.giveBack x.borrower)]) := by
  have borrows : errand.Borrows x.server x.borrower := ⟨x, by rw [stage]; rfl, rfl, rfl⟩
  have keeps : t.client.Keeps errand.Borrows
      (t.client.run [.pool x.server (.giveBack x.borrower)]) := by
    refine Client.keeps_modifyServer fun s _ => (s.pool.keeps_giveBack x.borrower).mono ?_
    rintro _ rfl
    exact borrows
  refine h.follow_of_continues found (h.stocked.run _) rfl keeps ?_ nofun
  refine Stage.continues_ended fun r ok => ?_
  rw [stage, ok]
  rfl

/-! ## Numbers -/

theorem ordinal_succ (n : Nat) : ordinal (n + 1) = ordinal n + 1 := by
  simp only [ordinal, Int32.ofNat_add]
  rw [Int32.add_assoc]
  rfl

theorem perm_filterMap_set {α β : Type} {f : α → Option β} {l : List α} {k : Nat} {a a' : α}
    {b : β} (found : l[k]? = some a) (none : f a = none) (some : f a' = some b) :
    ((l.set k a').filterMap f).Perm (b :: l.filterMap f) := by
  obtain ⟨before, after, split, -, set_eq⟩ := PoolSystem.exists_append_of_getElem? found
  rw [set_eq, split]
  simp only [List.filterMap_append, List.filterMap_cons, none, some]
  exact List.perm_middle

theorem sound_number (h : Sound settings dialer t) {k : Nat} {errand : Errand}
    (found : t.errands[k]? = some errand) {name : Nat} (stage : errand.stage = .searching name) :
    Sound settings dialer (t.number k errand name) := by
  have fit := h.fit errand (List.mem_of_getElem? found)
  unfold number
  split
  · exact h
  · refine h.follow_of_nil found (Stage.continues_ended nofun) nofun
  · next source _ =>
    have unsent : errand.sent = none := fit.unsent (by rw [stage]; rfl)
    have unnumbered : errand.requestId = none := fit.unnumbered (by rw [stage]; rfl)
    let errand' : Errand := { errand with
      requestId := some t.client.nextRequestId
      stage := .numbered source.serial t.client.nextRequestId }
    let t' := t.follow k errand' [.issue]
    have keeps : t.client.Keeps errand.Borrows t'.client := .of_pool?_eq fun _ => rfl
    have more : t'.requestIds.Perm (ordinal t.requestIds.length :: t.requestIds) := by
      rw [← h.next_eq]
      exact perm_filterMap_set found unnumbered rfl
    have length_eq : t'.requestIds.length = t.requestIds.length + 1 := more.length_eq
    refine h.follow found ⟨rfl, rfl, h.stocked.run [.issue], ?_, ?_, ?_, fun i s pool => ?_, ?_,
      nofun, h.filed_of_keeps keeps (List.Subset.refl _) rfl, fun _ _ some => some⟩
    · rw [length_eq, ordinal_succ, ← h.next_eq]
      rfl
    · rw [length_eq, List.range_succ, List.map_append]
      exact (more.trans (List.Perm.cons _ h.requestIds_perm)).trans
        (List.perm_append_singleton _ _).symm
    · exact ⟨fun _ numbered => (by rw [unnumbered] at numbered; cases numbered), fun _ h => h⟩
    · exact ⟨s, pool, (PoolSystem.Keeps.refl ..).toTends⟩
    · refine ⟨⟨nofun, fun sent hs => ?_, fun sent hs => ?_, nofun⟩, nofun, fun _ => unsent,
        fun _ hr => hr, nofun⟩
      · exact fit.sent sent hs
      · rw [unsent] at hs
        cases hs

theorem sound_ask (h : Sound settings dialer t) (plain : dialer.authenticator = none) {k : Nat}
    {errand : Errand} (found : t.errands[k]? = some errand) {server : Nat} {requestId : Int32}
    (stage : errand.stage = .numbered server requestId) :
    Sound settings dialer (t.ask k errand server requestId) := by
  have fit := h.fit errand (List.mem_of_getElem? found)
  unfold ask
  split
  · exact h.follow_of_nil found (Stage.continues_ended nofun) nofun
  · next s pool =>
    have unsent : errand.sent = none := fit.unsent (by rw [stage]; rfl)
    have numbered : errand.requestId = some requestId := fit.numbered requestId (by rw [stage]; rfl)
    refine h.follow_of_keeps found (h.stocked.run _) rfl
      (Client.keeps_step h.stocked plain (e := .pool server (.call _)) trivial) ?_ ?_
    · refine ⟨⟨nofun, fun sent hs => ?_, fun sent hs => ?_, nofun⟩, nofun, fun _ => unsent,
        fun _ hr => ?_, fun x hx => ?_⟩
      · rw [unsent] at hs
        cases hs
      · rw [unsent] at hs
        cases hs
      · cases hr
        exact numbered
      · cases hx
        refine ⟨s.call s.pool.settings.maxWaitTime, ?_, ?_⟩
        · refine (t.client.pool?_step_pool server _ server).trans ?_
          rw [if_pos rfl, pool]
          rfl
        · rw [PoolSystem.calls_call]
          exact Nat.lt_succ_self _
    · rintro x hx
      cases hx
      right
      intro s' pool'
      rw [pool] at pool'
      cases pool'
      exact Nat.le_refl _

/-! ## Exchanges -/

/-- The connection of a loan is used for an errand, and has become `d`. -/
structure Exchanged (settings : ClientSettings) (dialer : Dialer) (t : Traffic) (x : Slip)
    (s : PoolSystem) (l : Lent) (d : Connection) (t' : Traffic) : Prop where
  stocked : Client.Stocked settings dialer t'.client
  next_eq : t'.client.nextRequestId = t.client.nextRequestId
  others : ∀ i, i ≠ x.server → t'.client.pool? i = t.client.pool? i
  used : ∃ s', t'.client.pool? x.server = some s' ∧ PoolSystem.Used s l d s'

theorem exchanged_run (h : Sound settings dialer t) (valid : settings.pool.validate = .ok ())
    {x : Slip} {s : PoolSystem} (pool : t.client.pool? x.server = some s) {l : Lent}
    (loan : s.loan? x.borrower = some l) (first : Usage) {link : Link}
    (set : l.connection.apply s.buffers first = (.ok none, { l.connection with link }, s.buffers))
    (second : Usage)
    (client_eq : t'.client = t.client.run ([PoolSystem.Event.use x.borrower first,
      .use x.borrower second].map (.pool x.server))) :
    Exchanged settings dialer t x s l
      (({ l.connection with link : Connection }).apply s.buffers second).2.1 t' := by
  obtain ⟨server, known, rfl⟩ := Option.map_eq_some_iff.1 pool
  have balanced := (h.stocked.runs server (List.mem_of_getElem? known)).sound valid |>.balanced
  have pool?_eq := t.client.pool?_run_pool x.server
    [PoolSystem.Event.use x.borrower first, .use x.borrower second]
  refine ⟨client_eq ▸ h.stocked.run _, client_eq ▸ rfl, fun i other => ?_, _, ?_,
    PoolSystem.used_use_use balanced loan set second⟩
  · rw [client_eq, pool?_eq, if_neg (Ne.symm other)]
  · rw [client_eq, pool?_eq, if_pos rfl, pool]
    rfl

theorem Exchanged.tends {x : Slip} {s : PoolSystem} {l : Lent} {d : Connection}
    (h : Exchanged settings dialer t x s l d t') (pool : t.client.pool? x.server = some s)
    (borrower : l.borrower = x.borrower) {errand : Errand} (slip : errand.stage.slip? = some x)
    (i : Nat) (s₁ : PoolSystem) (found : t.client.pool? i = some s₁) :
    ∃ s', t'.client.pool? i = some s' ∧ s₁.Tends (errand.Borrows i) s' := by
  by_cases same : i = x.server
  · subst same
    obtain ⟨s', found', used⟩ := h.used
    rw [pool] at found
    cases found
    refine ⟨s', found', used.tends.mono ?_⟩
    rintro _ rfl
    exact ⟨x, slip, rfl, borrower.symm⟩
  · exact ⟨s₁, (h.others i same).trans found, (PoolSystem.Keeps.refl ..).toTends⟩

/-- Only what is unread on the stream of the loan has to be looked at again. -/
theorem Exchanged.filed {x : Slip} {s : PoolSystem} {l : Lent} {d : Connection}
    (h : Exchanged settings dialer t x s l d t') (sound : Sound settings dialer t)
    (pool : t.client.pool? x.server = some s) (posts_eq : t'.posts = t.posts)
    (transit : ∀ i n, ¬(i = x.server ∧ n = l.connection.link.serial) →
      t'.transit i n = t.transit i n)
    (own : d.closed = false → t'.Filed x.server d.link) (i : Nat) (s' : PoolSystem)
    (found' : t'.client.pool? i = some s') (c : Connection) (hc : c ∈ s'.ledger.connections)
    (isOpen : c.closed = false) : t'.Filed i c.link := by
  have old {s₁ : PoolSystem} (found : t.client.pool? i = some s₁)
      (hc : c ∈ s₁.ledger.connections)
      (other : ¬(i = x.server ∧ c.link.serial = l.connection.link.serial)) :
      t'.Filed i c.link := by
    obtain ⟨posts, subset, payload_eq⟩ := sound.filed i s₁ found c hc isOpen
    refine ⟨posts, posts_eq ▸ subset, ?_⟩
    rw [unread, transit i _ other]
    exact payload_eq
  by_cases same : i = x.server
  · subst same
    obtain ⟨s₂, found₂, used⟩ := h.used
    rw [found'] at found₂
    cases found₂
    rcases used.connection c hc with rfl | ⟨known, apart⟩
    · exact own isOpen
    · exact old pool known fun both => apart both.2
  · refine old ((h.others i same).symm.trans found') hc fun both => same both.1

theorem Sound.balanced (h : Sound settings dialer t) (valid : settings.pool.validate = .ok ())
    {i : Nat} {s : PoolSystem} (pool : t.client.pool? i = some s) : s.ledger.Balanced := by
  obtain ⟨server, known, rfl⟩ := Option.map_eq_some_iff.1 pool
  exact (h.stocked.runs server (List.mem_of_getElem? known)).sound valid |>.balanced

theorem connection_mem_of_loan? {s : PoolSystem} {borrower : Nat} {l : Lent}
    (loan : s.loan? borrower = some l) : l.connection ∈ s.ledger.connections :=
  Ledger.mem_connections.2 (.inr (.inl ⟨l, (PoolSystem.mem_of_loan? loan).1, rfl⟩))

theorem serial_lt_of_mem {s : PoolSystem} (balanced : s.ledger.Balanced) {c : Connection}
    (hc : c ∈ s.ledger.connections) : c.link.serial < s.streams :=
  List.mem_range.1 ((PoolSystem.serials_perm balanced).mem_iff.1 (List.mem_map_of_mem hc))

/-- The exchange of a command has begun and its connection is not given back yet. -/
structure Stage.Engaged (x : Slip) (b : Stage) : Prop where
  isUnnumbered_eq : b.isUnnumbered = false
  isUnsent_eq : b.isUnsent = false
  slip?_eq : b.slip? = some x

theorem Stage.Fails.engaged {b : Stage} {x : Slip} {cause : Error} (h : Fails x cause b) :
    b.Engaged x := by
  cases h <;> exact ⟨rfl, rfl, rfl⟩

theorem Stage.Fails.response?_eq {b : Stage} {x : Slip} {cause : Error} (h : Fails x cause b) :
    b.response? = none := by
  cases h <;> rfl

theorem Slip.engaged_afterSending (x : Slip) (outcome : Except Error Unit) :
    (x.afterSending outcome).Engaged x ∧ (x.afterSending outcome).response? = none := by
  cases outcome with
  | ok u => exact ⟨⟨rfl, rfl, rfl⟩, rfl⟩
  | error e => exact ⟨(x.fails e).engaged, (x.fails e).response?_eq⟩

theorem Slip.engaged_afterReceiving (x : Slip) (outcome : Except Error Response) :
    (x.afterReceiving outcome).Engaged x ∧ ∀ y, x.afterReceiving outcome ≠ .awaiting y := by
  cases outcome with
  | ok response => exact ⟨⟨rfl, rfl, rfl⟩, nofun⟩
  | error e => exact ⟨(x.fails e).engaged, (x.fails e).notAwaiting⟩

theorem Exchanged.fit {x : Slip} {s : PoolSystem} {l : Lent} {d : Connection}
    (h : Exchanged settings dialer t x s l d t') {errand errand' : Errand} (old : t.Fit errand)
    (slip : errand.stage.slip? = some x) (pool : t.client.pool? x.server = some s)
    (requestId_eq : errand'.requestId = errand.requestId) (engaged : errand'.stage.Engaged x)
    (attended : t'.Attended errand') : t'.Fit errand' where
  toAttended := attended
  unnumbered early := absurd (engaged.isUnnumbered_eq.symm.trans early) nofun
  unsent early := absurd (engaged.isUnsent_eq.symm.trans early) nofun
  numbered requestId hr := by
    rw [Stage.requestId?_of_slip? engaged.slip?_eq] at hr
    cases hr
    exact requestId_eq.trans (old.numbered _ (Stage.requestId?_of_slip? slip))
  lodged y hy := by
    obtain rfl : x = y := Option.some.inj (engaged.slip?_eq.symm.trans hy)
    obtain ⟨s', found', used⟩ := h.used
    obtain ⟨s₁, pool₁, lt⟩ := old.lodged x slip
    rw [pool] at pool₁
    cases pool₁
    exact ⟨s', found', used.calls_eq ▸ lt⟩

theorem Slip.eq_of_afterSending {x y : Slip} {outcome : Except Error Unit}
    (h : x.afterSending outcome = .awaiting y) : outcome = .ok () ∧ y = x := by
  cases outcome with
  | ok u =>
    cases h
    exact ⟨rfl, rfl⟩
  | error e => exact absurd h ((x.fails e).notAwaiting y)

theorem eq_of_sent? {server : Nat} {c d : Connection} {frame : Bytes} {sent : Sent}
    (h : sent? server c d frame = some sent) :
    sent.server = server ∧ sent.stream = d.link.serial ∧ sent.frame = frame := by
  unfold sent? at h
  split at h
  · cases h
    exact ⟨rfl, rfl, rfl⟩
  · cases h

/-- Sending leaves what is unread as it is. -/
theorem Sound.filed_send (h : Sound settings dialer t) {i : Nat} {s : PoolSystem}
    (pool : t.client.pool? i = some s) {c : Connection} (hc : c ∈ s.ledger.connections)
    {acceptances : List Acceptance} {frame : Bytes} :
    let d := ({ c with link := { c.link with acceptances } : Connection }.send frame).2
    d.closed = false → t.Filed i d.link := by
  intro d isOpen
  let ready : Connection := { c with link := { c.link with acceptances } }
  have follows : ready.Follows d := ready.follows_send frame
  have arrivals_eq : d.link.arrivals = c.link.arrivals := ready.arrivals_send frame
  have serial_eq : d.link.serial = c.link.serial := follows.link.serial_eq
  have isOpen' : c.closed = false :=
    Bool.eq_false_iff.2 fun closed => Bool.eq_false_iff.1 isOpen (follows.closed closed)
  obtain ⟨posts, subset, payload_eq⟩ := h.filed i s pool c hc isOpen'
  refine ⟨posts, subset, ?_⟩
  rw [unread, arrivals_eq, serial_eq]
  exact payload_eq

theorem sound_write (h : Sound settings dialer t) (valid : settings.pool.validate = .ok ())
    {k : Nat} {errand : Errand} (found : t.errands[k]? = some errand) {x : Slip}
    (stage : errand.stage = .borrowing x) {s : PoolSystem}
    (pool : t.client.pool? x.server = some s) {l : Lent} (loan : s.loan? x.borrower = some l)
    {r : Request} {frame : Bytes} (encoded : r.encode x.requestId l.connection.settings = .ok frame)
    (acceptances : List Acceptance) :
    Sound settings dialer (t.write k errand x l.connection frame acceptances) := by
  have fit := h.fit errand (List.mem_of_getElem? found)
  have slip : errand.stage.slip? = some x := by rw [stage]; rfl
  have unsent : errand.sent = none := fit.unsent (by rw [stage]; rfl)
  have numbered : errand.requestId = some x.requestId := fit.numbered _ (by rw [stage]; rfl)
  have borrower := (PoolSystem.mem_of_loan? loan).2
  let c : Connection := {
    l.connection with link := { l.connection.link with acceptances } }
  have hc := connection_mem_of_loan? loan
  have follows := c.follows_send frame
  have written : (c.send frame).1 = .ok () →
      (c.send frame).2.link.written = c.link.written ++ frame :=
    fun ok => Connection.written_of_send (Prod.ext ok rfl)
  have lt := serial_lt_of_mem (h.balanced valid pool) hc
  obtain ⟨engaged, silent⟩ := x.engaged_afterSending (c.send frame).1
  let t' := t.write k errand x l.connection frame acceptances
  have exchanged := exchanged_run h valid pool loan (.accept acceptances) rfl (.send frame)
    (show t'.client = _ from rfl)
  obtain ⟨s', found', used⟩ := exchanged.used
  obtain ⟨next_eq, requestIds_perm⟩ := h.numbers found (show t'.errands = _ from rfl) rfl
    exchanged.next_eq
  refine h.follow found ⟨rfl, rfl, exchanged.stocked, next_eq, requestIds_perm,
    ⟨fun _ h => h, fun _ hs => ?_⟩, exchanged.tends pool borrower slip, ?_, fun y hy => ?_,
    exchanged.filed h pool rfl (fun _ _ _ => rfl) (h.filed_send pool hc), fun _ _ some => some⟩
  · rw [unsent] at hs
    cases hs
  · refine exchanged.fit fit slip pool rfl engaged
      ⟨fun y hy => ?_, fun sent hs => ?_, fun sent hs => ?_, fun response hr => ?_⟩
    · obtain ⟨ok, rfl⟩ := Slip.eq_of_afterSending hy
      refine ⟨s', _, _, found', borrower ▸ used.loan?_eq, if_pos (written ok), rfl, rfl⟩
    · obtain ⟨server_eq, stream_eq, -⟩ := eq_of_sent? (c := c) (d := (c.send frame).2) hs
      refine ⟨s', server_eq ▸ found', ?_⟩
      rw [stream_eq, used.streams_eq, follows.link.serial_eq]
      exact lt
    · obtain ⟨-, -, same⟩ := eq_of_sent? (c := c) (d := (c.send frame).2) hs
      obtain ⟨header, frame_eq, requestId_eq, -⟩ := Request.exists_header_of_encode encoded
      exact ⟨header, r.body, same.trans frame_eq, requestId_eq ▸ numbered⟩
    · exact absurd (silent.symm.trans hr) nofun
  · exact .inl (slip.trans (engaged.slip?_eq.symm.trans hy))

theorem sound_send (h : Sound settings dialer t) (valid : settings.pool.validate = .ok ())
    {k : Nat} {errand : Errand} (found : t.errands[k]? = some errand) {x : Slip}
    (stage : errand.stage = .borrowing x) {s : PoolSystem}
    (pool : t.client.pool? x.server = some s) (acceptances : List Acceptance) :
    Sound settings dialer (t.send k errand x s acceptances) := by
  have slip : errand.stage.slip? = some x := by rw [stage]; rfl
  have failed (e : Error) :
      Sound settings dialer (t.follow k { errand with stage := x.failed e } []) :=
    h.follow_of_nil found ((x.fails e).continues slip) (x.fails e).notAwaiting
  unfold send
  split
  · exact h
  · exact h.follow_of_nil found (Stage.continues_ended nofun) nofun
  · split
    · exact failed _
    · next l loan =>
      simp only
      split
      · exact failed _
      · next frame encoded => exact sound_write h valid found stage pool loan encoded acceptances

/-! ## Replies -/

/-- A response is the first of the replies that were unread. -/
theorem Sound.exists_taken (h : Sound settings dialer t) {i : Nat} {s : PoolSystem}
    (pool : t.client.pool? i = some s) {c d : Connection} (hc : c ∈ s.ledger.connections)
    {buffers buffers' : Recycler} {requestId : Int32} {response : Response}
    (hr : (t.reached i c).receive buffers requestId = (.ok response, d, buffers')) :
    ∃ p posts, p ∈ t.posts ∧ posts ⊆ t.posts ∧
      Connection.Taken requestId response d p.letter (posts.map (·.letter)) := by
  have follows := (t.reached i c).follows_receive buffers requestId
  rw [hr] at follows
  have isOpen : c.closed = false := Bool.eq_false_iff.2 fun closed =>
    Bool.eq_false_iff.1 (Connection.isOpen_of_receive hr) (follows.closed closed)
  obtain ⟨posts, subset, payload_eq⟩ := h.filed i s pool c hc isOpen
  have whole : ∀ l ∈ posts.map (·.letter), l.Whole := by
    intro l hl
    obtain ⟨p, hp, rfl⟩ := List.mem_map.1 hl
    exact (h.posted p (subset hp)).1
  have payload_eq' : Link.payload (t.reached i c).link.arrivals =
      (posts.map (·.letter)).flatMap (·.frame) := by
    rw [List.flatMap_map]
    exact payload_eq
  obtain ⟨first, others, split, taken⟩ := Connection.exists_taken_of_receive hr whole payload_eq'
  obtain ⟨p, posts', rfl, rfl, rfl⟩ := List.map_eq_cons_iff.1 split
  obtain ⟨hp, hposts⟩ := List.cons_subset.1 subset
  exact ⟨p, posts', hp, hposts, taken⟩

/-- What is left on an open connection are the replies that were not read. -/
theorem Sound.exists_left (h : Sound settings dialer t) {i : Nat} {s : PoolSystem}
    (pool : t.client.pool? i = some s) {c : Connection} (hc : c ∈ s.ledger.connections)
    {buffers : Recycler} {requestId : Int32}
    (isOpen : ((t.reached i c).receive buffers requestId).2.1.closed = false) :
    ∃ posts, posts ⊆ t.posts ∧
      Link.payload ((t.reached i c).receive buffers requestId).2.1.link.arrivals =
        posts.flatMap (·.letter.frame) := by
  cases outcome : ((t.reached i c).receive buffers requestId).1 with
  | error e =>
    have closed := Connection.closed_of_receive (Prod.ext outcome rfl)
    exact absurd (isOpen.symm.trans closed) nofun
  | ok response =>
    obtain ⟨p, posts, -, subset, taken⟩ := h.exists_taken pool hc (Prod.ext outcome rfl)
    have left := taken.payload_eq
    rw [List.flatMap_map] at left
    exact ⟨posts, subset, left⟩

theorem Slip.eq_of_response? {x : Slip} {outcome : Except Error Response} {response : Response}
    (h : (x.afterReceiving outcome).response? = some response) : outcome = .ok response := by
  cases outcome with
  | ok r =>
    cases h
    rfl
  | error e => exact absurd ((x.fails e).response?_eq.symm.trans h) nofun

theorem sound_read (h : Sound settings dialer t) (valid : settings.pool.validate = .ok ())
    {k : Nat} {errand : Errand} (found : t.errands[k]? = some errand) {x : Slip}
    (stage : errand.stage = .awaiting x) {s : PoolSystem}
    (pool : t.client.pool? x.server = some s) {l : Lent} (loan : s.loan? x.borrower = some l) :
    Sound settings dialer (t.read k errand x l.connection s.buffers) := by
  have fit := h.fit errand (List.mem_of_getElem? found)
  have slip : errand.stage.slip? = some x := by rw [stage]; rfl
  have numbered : errand.requestId = some x.requestId := fit.numbered _ (by rw [stage]; rfl)
  have borrower := (PoolSystem.mem_of_loan? loan).2
  have hc := connection_mem_of_loan? loan
  let c := t.reached x.server l.connection
  let t' := t.read k errand x l.connection s.buffers
  have exchanged := exchanged_run h valid pool loan (.arrive c.link.arrivals) rfl
    (.receive x.requestId) (show t'.client = _ from rfl)
  obtain ⟨s', found', used⟩ := exchanged.used
  obtain ⟨next_eq, requestIds_perm⟩ := h.numbers found (show t'.errands = _ from rfl) rfl
    exchanged.next_eq
  have drained : t'.transit x.server l.connection.link.serial = [] := if_pos ⟨rfl, rfl⟩
  have kept (i n : Nat) (other : ¬(i = x.server ∧ n = l.connection.link.serial)) :
      t'.transit i n = t.transit i n := if_neg other
  obtain ⟨engaged, notAwaiting⟩ :=
    x.engaged_afterReceiving (c.receive s.buffers x.requestId).1
  refine h.follow found ⟨rfl, rfl, exchanged.stocked, next_eq, requestIds_perm,
    ⟨fun _ h => h, fun _ h => h⟩, exchanged.tends pool borrower slip, ?_, fun y hy => ?_,
    exchanged.filed h pool rfl kept fun isOpen => ?_, fun i n some => ?_⟩
  · refine exchanged.fit fit slip pool rfl engaged
      ⟨fun y hy => absurd hy (notAwaiting y), fun sent hs => ?_, fit.written, fun response hr => ?_⟩
    · obtain ⟨s₁, pool₁, lt₁⟩ := fit.sent sent hs
      obtain ⟨s₂, pool₂, tends⟩ := exchanged.tends pool borrower slip _ s₁ pool₁
      exact ⟨s₂, pool₂, Nat.lt_of_lt_of_le lt₁ tends.streams_le⟩
    · obtain ⟨-, -, sent, -, -, hs, -⟩ := fit.lent x stage
      have ok := Slip.eq_of_response? hr
      obtain ⟨p, posts, hp, -, taken⟩ := h.exists_taken pool hc (Prod.ext ok rfl)
      exact ⟨Option.isSome_iff_exists.2 ⟨sent, hs⟩, x.requestId, p, numbered, hp,
        taken.requestId_eq, taken.responseTo_eq, taken.content_eq⟩
  · exact .inl (slip.trans (engaged.slip?_eq.symm.trans hy))
  · obtain ⟨posts, subset, left⟩ := h.exists_left pool hc isOpen
    refine ⟨posts, subset, ?_⟩
    rw [unread, used.serial_eq, drained, List.append_nil]
    exact left
  · by_cases own : i = x.server ∧ n = l.connection.link.serial
    · obtain ⟨rfl, rfl⟩ := own
      rw [drained] at some
      exact absurd rfl some
    · rwa [kept i n own] at some

theorem sound_receive (h : Sound settings dialer t) (valid : settings.pool.validate = .ok ())
    {k : Nat} {errand : Errand} (found : t.errands[k]? = some errand) {x : Slip}
    (stage : errand.stage = .awaiting x) {s : PoolSystem}
    (pool : t.client.pool? x.server = some s) :
    Sound settings dialer (t.receive k errand x s) := by
  have slip : errand.stage.slip? = some x := by rw [stage]; rfl
  unfold receive
  split
  · exact h.follow_of_nil found ((x.fails _).continues slip) (x.fails _).notAwaiting
  · next l loan => exact sound_read h valid found stage pool loan

/-! ## All steps -/

theorem sound_proceed (h : Sound settings dialer t) (valid : settings.pool.validate = .ok ())
    (plain : dialer.authenticator = none) {k : Nat} {errand : Errand}
    (found : t.errands[k]? = some errand) (pick : Nat) (acceptances : List Acceptance) :
    Sound settings dialer (t.proceed k errand pick acceptances) := by
  unfold proceed
  split
  · next stage => exact sound_seek h plain found stage pick
  · next stage => exact sound_number h found stage
  · next stage => exact sound_ask h plain found stage
  · next stage =>
    split
    · next pool => exact sound_send h valid found stage pool acceptances
    · exact h
  · next stage =>
    split
    · next pool => exact sound_receive h valid found stage pool
    · exact h
  · next stage => exact (sound_distrust h plain found (by rw [stage]; rfl)).1
  · next stage => exact (sound_distrust h plain found (by rw [stage]; rfl)).2
  · next stage => exact sound_giveBack h found stage
  · exact h

/-- An errand that has not done anything yet. -/
theorem fit_of_new {errand : Errand} (requestId : errand.requestId = none)
    (unsent : errand.sent = none)
    (stage : errand.stage = .resolved ∨ ∃ e, errand.stage = .ended (.error e)) : t.Fit errand := by
  have idle : errand.stage.requestId? = none ∧ errand.stage.slip? = none ∧
      errand.stage.response? = none := by
    rcases stage with stage | ⟨e, stage⟩ <;> rw [stage] <;> exact ⟨rfl, rfl, rfl⟩
  refine ⟨⟨fun _ h => ?_, fun _ h => ?_, fun _ h => ?_, fun _ h => ?_⟩, fun _ => requestId,
    fun _ => unsent, fun _ h => ?_, fun _ h => ?_⟩
  · rw [h] at idle
    exact absurd idle.2.1 nofun
  · exact absurd (unsent.symm.trans h) nofun
  · exact absurd (unsent.symm.trans h) nofun
  · exact absurd (idle.2.2.symm.trans h) nofun
  · exact absurd (idle.1.symm.trans h) nofun
  · exact absurd (idle.2.1.symm.trans h) nofun

theorem Sound.append (h : Sound settings dialer t) {errand : Errand}
    (requestId : errand.requestId = none) (unsent : errand.sent = none)
    (stage : errand.stage = .resolved ∨ ∃ e, errand.stage = .ended (.error e)) :
    Sound settings dialer { t with errands := t.errands ++ [errand] } := by
  let t' : Traffic := { t with errands := t.errands ++ [errand] }
  have same : t'.requestIds = t.requestIds := by
    simp [requestIds, t', List.filterMap_append, requestId]
  have idle : errand.stage.slip? = none := by
    rcases stage with stage | ⟨e, stage⟩ <;> rw [stage] <;> rfl
  have precedes (k : Nat) (a : Errand) (ha : t.errands[k]? = some a) :
      ∃ a', t'.errands[k]? = some a' ∧ a.Precedes a' := by
    refine ⟨a, ?_, fun _ h => h, fun _ h => h⟩
    rw [← ha]
    exact List.getElem?_append_left (List.getElem?_eq_some_iff.1 ha).1
  have onward : Onward (fun _ _ => False) t t' :=
    ⟨fun i s pool => ⟨s, pool, (PoolSystem.Keeps.refl ..).toTends⟩, List.Subset.refl _⟩
  -- an errand with a slip is not the new one
  have old (k : Nat) (a : Errand) (x : Slip) (ha : t'.errands[k]? = some a)
      (hx : a.stage.slip? = some x) : t.errands[k]? = some a := by
    rcases Nat.lt_or_ge k t.errands.length with lt | ge
    · rwa [List.getElem?_append_left lt] at ha
    · rw [List.getElem?_append_right ge] at ha
      obtain rfl := List.mem_singleton.1 (List.mem_of_getElem? ha)
      exact absurd (idle.symm.trans hx) nofun
  refine ⟨h.stocked, ?_, ?_, fun a ha => ?_, fun j k a b x y ha hb hx hy => ?_, fun p hp => ?_,
    h.filed, fun i n some => ?_⟩
  · rw [same]
    exact h.next_eq
  · rw [same]
    exact h.requestIds_perm
  · rcases List.mem_append.1 ha with ha | ha
    · exact (h.fit a ha).onward onward fun _ _ no => no
    · obtain rfl := List.mem_singleton.1 ha
      exact fit_of_new requestId unsent stage
  · exact h.apart j k a b x y (old j a x ha hx) (old k b y hb hy) hx hy
  · obtain ⟨whole, server, stream, asked⟩ := h.posted p hp
    exact ⟨whole, server, stream, asked.mono precedes⟩
  · obtain ⟨k, requestId, asked⟩ := h.transit i n some
    exact ⟨k, requestId, asked.mono precedes⟩

theorem sound_begin (h : Sound settings dialer t) (db : String) (command : CommandRequest)
    (body : Bytes) (preference : Option ReadPreference) :
    Sound settings dialer (t.begin db command body preference) := by
  simp only [begin]
  split
  · exact h.append rfl rfl (.inr ⟨_, rfl⟩)
  · exact h.append rfl rfl (.inl rfl)

theorem sound_elsewhere (h : Sound settings dialer t) (plain : dialer.authenticator = none)
    {event : Client.Event} (quiet : event.Quiet) :
    Sound settings dialer { t with client := t.client.step event } := by
  have keeps : t.client.Keeps (fun _ _ => False) (t.client.step event) :=
    Client.keeps_step h.stocked plain quiet
  have onward : Onward (fun _ _ => False) t { t with client := t.client.step event } := by
    refine ⟨fun i s pool => ?_, List.Subset.refl _⟩
    obtain ⟨s', found', kept⟩ := keeps.kept i s pool
    exact ⟨s', found', kept.toTends⟩
  exact ⟨Client.stocked_step h.stocked event, (Client.nextRequestId_step quiet).trans h.next_eq,
    h.requestIds_perm, fun a ha => (h.fit a ha).onward onward fun _ _ no => no, h.apart, h.posted,
    h.filed_of_keeps keeps (List.Subset.refl _) rfl, h.transit⟩

theorem sound_deliver (h : Sound settings dialer t) {server stream : Nat} {posts : List Post}
    {arrivals : List Arrival} (allowed : t.Allows (.deliver server stream posts arrivals)) :
    Sound settings dialer (t.step (.deliver server stream posts arrivals)) := by
  obtain ⟨answers, payload_eq⟩ := allowed
  have onward : Onward (fun _ _ => False) t (t.step (.deliver server stream posts arrivals)) :=
    ⟨fun i s pool => ⟨s, pool, (PoolSystem.Keeps.refl ..).toTends⟩,
      List.subset_append_left _ _⟩
  refine ⟨h.stocked, h.next_eq, h.requestIds_perm,
    fun a ha => (h.fit a ha).onward onward fun _ _ no => no, h.apart, fun p hp => ?_,
    fun i s pool c hc isOpen => ?_, fun i n some => ?_⟩
  · rcases List.mem_append.1 hp with hp | hp
    · exact h.posted p hp
    · obtain ⟨whole, asked⟩ := answers p hp
      exact ⟨whole, server, stream, asked⟩
  · obtain ⟨old, subset, old_eq⟩ := h.filed i s pool c hc isOpen
    simp only [Filed, unread, step]
    split
    · refine ⟨old ++ posts, ?_, ?_⟩
      · exact List.append_subset.2 ⟨List.subset_append_of_subset_left _ subset,
          List.subset_append_right _ _⟩
      · rw [← List.append_assoc, Link.payload_append, payload_eq, List.flatMap_append, ← old_eq]
        rfl
    · exact ⟨old, List.subset_append_of_subset_left _ subset, old_eq⟩
  · simp only [step] at some
    split at some
    · next same =>
      obtain ⟨rfl, rfl⟩ := same
      rw [Link.payload_append, payload_eq] at some
      by_cases before : Link.payload (t.transit i n) = []
      · cases posts with
        | nil => exact absurd (by rw [before]; rfl) some
        | cons p posts => exact ⟨p.errand, _, (answers p List.mem_cons_self).2⟩
      · exact h.transit i n before
    · exact h.transit i n some

theorem sound_step (h : Sound settings dialer t) (valid : settings.pool.validate = .ok ())
    (plain : dialer.authenticator = none) {e : Event} (allowed : t.Allows e) :
    Sound settings dialer (t.step e) := by
  cases e with
  | begin db command body preference => exact sound_begin h db command body preference
  | proceed k pick acceptances =>
    simp only [step]
    split
    · next found => exact sound_proceed h valid plain found pick acceptances
    · exact h
  | elsewhere event => exact sound_elsewhere h plain allowed
  | deliver server stream posts arrivals => exact sound_deliver h allowed

/-! ## Reachable states -/

variable {heartbeatDialer : Dialer} {spawn : Address → Spawn} {c₀ : Client}

theorem sound_start (h : Client.start settings dialer heartbeatDialer spawn = (.ok (), c₀)) :
    Sound settings dialer { client := c₀ } := by
  obtain ⟨-, rfl⟩ := Client.eq_adopt_of_start h
  refine ⟨Client.stocked_run h [], Client.nextRequestId_adopt _, by simp [requestIds],
    fun _ hm => absurd hm List.not_mem_nil, fun _ _ _ _ _ _ ha => (by cases ha),
    fun _ hp => absurd hp List.not_mem_nil, fun i s pool c hc isOpen => ?_,
    fun _ _ some => absurd rfl some⟩
  have empty := (Client.keeps_adopt {
    settings, cluster := { cluster := (Cluster.start settings.cluster spawn).2 }, dialer
    heartbeatDialer } : Client.Keeps (fun _ _ => False) _ _).made i s rfl pool c hc isOpen
  refine ⟨[], List.nil_subset _, ?_⟩
  rw [unread, List.append_nil]
  exact empty

theorem sound_of_reachable
    (h : Client.start settings dialer heartbeatDialer spawn = (.ok (), c₀))
    (plain : dialer.authenticator = none) (reachable : Reachable c₀ t) :
    Sound settings dialer t := by
  induction reachable with
  | start => exact sound_start h
  | step _ e allowed ih => exact sound_step ih (Client.validate_of_start h) plain allowed

end

end Traffic

end ClusterClient

import ClusterClient.Proofs.Client.Tending

/-!
# Commands in progress

Many commands run on one client at a time. Each makes the steps that `runCommand` makes without a
pause; between any two of them anything may happen: steps of other commands, of monitors and of
pools, and news from the network. Nobody else uses the connections that are lent to the commands.

A server that has received a request may reply to it on the stream that the request came on: at any
later time, in any order, many times or never. What it has sent is in transit until somebody reads
the stream, cut into pieces in any way, with faults and ends in between.
-/

namespace ClusterClient

namespace Traffic

/-- What a command borrows a connection for, and from whom. -/
structure Slip where
  server : Nat
  requestId : Int32
  /-- The name of its call for a connection. -/
  borrower : Nat

/-- A request that was written as a whole. -/
structure Sent where
  server : Nat
  /-- The number of the stream among those of the pool of the server. -/
  stream : Nat
  frame : Bytes

/-- How far a command has got. -/
inductive Stage where
  /-- Its read preference is settled. -/
  | resolved
  | searching (name : Nat)
  /-- It has its server, and a number for its request. -/
  | numbered (server : Nat) (requestId : Int32)
  /-- It has asked for a connection. -/
  | borrowing (slip : Slip)
  /-- Its request was written, and it waits for the reply. -/
  | awaiting (slip : Slip)
  /-- Its exchange has failed in a way that makes all connections to the server suspect. -/
  | distrusting (slip : Slip) (cause : Error)
  /-- The pool has dropped them; the monitor is to be told. -/
  | warning (slip : Slip) (cause : Error)
  /-- It has its result and is to give its connection back. -/
  | returning (slip : Slip) (result : Except Error Response)
  | ended (result : Except Error Response)

/-- A command that somebody runs. -/
structure Errand where
  db : String
  body : Bytes
  preference : ReadPreference
  requestId : Option Int32 := none
  sent : Option Sent := none
  stage : Stage := .resolved

/-- A reply that a server has sent, and the command whose request it answers. -/
structure Post where
  errand : Nat
  letter : Connection.Letter

/-- What a failure of the exchange leads to. -/
def Slip.failed (x : Slip) (cause : Error) : Stage :=
  if Client.suspects cause then .distrusting x cause else .returning x (.error cause)

def Slip.afterSending (x : Slip) : Except Error Unit → Stage
  | .ok () => .awaiting x
  | .error e => x.failed e

def Slip.afterReceiving (x : Slip) : Except Error Response → Stage
  | .ok response => .returning x (.ok response)
  | .error e => x.failed e

/-- The server has a request once all of it was written to the stream of `c`, which is `d` now. -/
def sent? (server : Nat) (c d : Connection) (frame : Bytes) : Option Sent :=
  if d.link.written = c.link.written ++ frame then some ⟨server, d.link.serial, frame⟩ else none

end Traffic

/-- A client and the commands that were run on it, in the order in which they were begun. -/
structure Traffic where
  client : Client
  errands : List Traffic.Errand := []
  /-- Everything that the servers have sent. -/
  posts : List Traffic.Post := []
  /-- What has arrived on each stream of each server since it was read last. -/
  transit : Nat → Nat → List Arrival := fun _ _ => []

namespace Traffic

/-! ## Steps of a command -/

/-- The errand at position `k` goes on, and these events happen to the client. -/
def follow (t : Traffic) (k : Nat) (errand : Errand) (events : List Client.Event) : Traffic :=
  { t with client := t.client.run events, errands := t.errands.set k errand }

/-- Settles the read preference of a new command. -/
def begin (t : Traffic) (db : String) (command : CommandRequest) (body : Bytes)
    (preference : Option ReadPreference) : Traffic :=
  let requested := preference.getD t.client.settings.readPreference
  let errand : Errand := match requested.validate with
    | .error e => { db, body, preference := requested, stage := .ended (.error e) }
    | .ok () => { db, body, preference := t.client.commandPreference command requested }
  { t with errands := t.errands ++ [errand] }

/-- All that a stream has still to deliver. -/
def unread (t : Traffic) (server : Nat) (link : Link) : List Arrival :=
  link.arrivals ++ t.transit server link.serial

/-- A connection that everything in transit has reached. -/
def reached (t : Traffic) (server : Nat) (c : Connection) : Connection :=
  { c with link := { c.link with arrivals := t.unread server c.link } }

/-- Looks for a server for the first time. -/
def seek (t : Traffic) (k : Nat) (errand : Errand) (pick : Nat) : Traffic :=
  let criterion := t.client.selectorFor errand.preference
  let timeout := t.client.settings.cluster.serverSelectionTimeout
  t.follow k { errand with stage := .searching t.client.cluster.searches }
    [.seek criterion timeout pick]

/-- Takes a number for the request once there is a server for it. -/
def number (t : Traffic) (k : Nat) (errand : Errand) (name : Nat) : Traffic :=
  match t.client.cluster.answer? name with
  | none => t
  | some (.error e) => t.follow k { errand with stage := .ended (.error e) } []
  | some (.ok source) =>
    let requestId := t.client.nextRequestId
    t.follow k
      { errand with requestId := some requestId, stage := .numbered source.serial requestId }
      [.issue]

/-- Asks for a connection. -/
def ask (t : Traffic) (k : Nat) (errand : Errand) (server : Nat) (requestId : Int32) : Traffic :=
  match t.client.pool? server with
  | none => t.follow k { errand with stage := .ended (.error .clusterClosed) } []
  | some s =>
    t.follow k { errand with stage := .borrowing ⟨server, requestId, s.calls⟩ }
      [.pool server (.call s.pool.settings.maxWaitTime)]

/-- Writes the request on the connection `c` of a loan; the writes will end like this. -/
def write (t : Traffic) (k : Nat) (errand : Errand) (x : Slip) (c : Connection) (frame : Bytes)
    (acceptances : List Acceptance) : Traffic :=
  let c : Connection := { c with link := { c.link with acceptances } }
  let (outcome, d) := c.send frame
  t.follow k
    { errand with sent := sent? x.server c d frame, stage := x.afterSending outcome }
    [.pool x.server (.use x.borrower (.accept acceptances)),
      .pool x.server (.use x.borrower (.send frame))]

/-- Sends the request once there is a connection for it. -/
def send (t : Traffic) (k : Nat) (errand : Errand) (x : Slip) (s : PoolSystem)
    (acceptances : List Acceptance) : Traffic :=
  match s.answer? x.borrower with
  | none => t
  | some (.error e) => t.follow k { errand with stage := .ended (.error e) } []
  | some (.ok _) =>
    match s.loan? x.borrower with
    | none => t.follow k { errand with stage := x.failed (.connectionClosed s.pool.address) } []
    | some l =>
      let request := t.client.commandQuery errand.preference errand.db errand.body
      match request.encode x.requestId l.connection.settings with
      | .error e => t.follow k { errand with stage := x.failed e } []
      | .ok frame => t.write k errand x l.connection frame acceptances

/-- Reads the reply on the connection `c` of a loan, from all that has reached it. -/
def read (t : Traffic) (k : Nat) (errand : Errand) (x : Slip) (c : Connection)
    (buffers : Recycler) : Traffic :=
  let d := t.reached x.server c
  let (outcome, _) := d.receive buffers x.requestId
  let transit := fun server stream =>
    if server = x.server ∧ stream = c.link.serial then [] else t.transit server stream
  { t with transit }.follow k { errand with stage := x.afterReceiving outcome }
    [.pool x.server (.use x.borrower (.arrive d.link.arrivals)),
      .pool x.server (.use x.borrower (.receive x.requestId))]

/-- Receives the reply. -/
def receive (t : Traffic) (k : Nat) (errand : Errand) (x : Slip) (s : PoolSystem) : Traffic :=
  match s.loan? x.borrower with
  | none => t.follow k { errand with stage := x.failed (.connectionClosed s.pool.address) } []
  | some l => t.read k errand x l.connection s.buffers

/-- The next step of the errand at position `k`, if it is ready for it. -/
def proceed (t : Traffic) (k : Nat) (errand : Errand) (pick : Nat)
    (acceptances : List Acceptance) : Traffic :=
  match errand.stage with
  | .resolved => t.seek k errand pick
  | .searching name => t.number k errand name
  | .numbered server requestId => t.ask k errand server requestId
  | .borrowing x =>
    match t.client.pool? x.server with
    | some s => t.send k errand x s acceptances
    | none => t
  | .awaiting x =>
    match t.client.pool? x.server with
    | some s => t.receive k errand x s
    | none => t
  | .distrusting x cause =>
    t.follow k { errand with stage := .warning x cause } [.pool x.server .invalidate]
  | .warning x cause =>
    t.follow k { errand with stage := .returning x (.error cause) }
      [.monitor x.server .invalidate fun _ => .started]
  | .returning x result =>
    t.follow k { errand with stage := .ended result } [.pool x.server (.giveBack x.borrower)]
  | .ended _ => t

/-! ## Events -/

/-- Everything that can happen. -/
inductive Event where
  | begin (db : String) (command : CommandRequest) (body : Bytes)
    (preference : Option ReadPreference)
  /-- A command makes its next step. Where it makes a choice, it takes this one. -/
  | proceed (k pick : Nat) (acceptances : List Acceptance)
  /-- Something else happens to the client. -/
  | elsewhere (event : Client.Event)
  /-- A server has sent these replies on a stream, and this is what arrives. -/
  | deliver (server stream : Nat) (posts : List Post) (arrivals : List Arrival)

/-- What an event does. An event that makes no sense in the state at hand changes nothing. -/
def step (t : Traffic) : Event → Traffic
  | .begin db command body preference => t.begin db command body preference
  | .proceed k pick acceptances =>
    match t.errands[k]? with
    | some errand => t.proceed k errand pick acceptances
    | none => t
  | .elsewhere event => { t with client := t.client.step event }
  | .deliver server stream posts arrivals => { t with
    posts := t.posts ++ posts
    transit := fun i n =>
      if i = server ∧ n = stream then t.transit i n ++ arrivals else t.transit i n }

def run (t : Traffic) (events : List Event) : Traffic := events.foldl step t

/-! ## Servers -/

/-- The server has received the request of this errand, with this number, on this stream. -/
def Asked (t : Traffic) (k server stream : Nat) (requestId : Int32) : Prop :=
  ∃ errand sent, t.errands[k]? = some errand ∧ errand.requestId = some requestId ∧
    errand.sent = some sent ∧ sent.server = server ∧ sent.stream = stream

theorem asked_iff {t : Traffic} {k server stream : Nat} {requestId : Int32} :
    t.Asked k server stream requestId ↔
      (t.errands[k]?.map fun errand =>
        (errand.requestId, errand.sent.map fun sent => (sent.server, sent.stream))) =
          some (some requestId, some (server, stream)) := by
  simp only [Asked, Option.map_eq_some_iff, Prod.mk.injEq]
  constructor
  · rintro ⟨errand, sent, found, numbered, written, server_eq, stream_eq⟩
    exact ⟨errand, found, numbered, sent, written, server_eq, stream_eq⟩
  · rintro ⟨errand, found, numbered, sent, written, server_eq, stream_eq⟩
    exact ⟨errand, sent, found, numbered, written, server_eq, stream_eq⟩

instance (t : Traffic) (k server stream : Nat) (requestId : Int32) :
    Decidable (t.Asked k server stream requestId) :=
  decidable_of_iff _ asked_iff.symm

/-- What may happen: the connections that are lent are left to the commands, and servers send
nothing but whole replies to requests that they have received on the same stream. -/
def Allows (t : Traffic) : Event → Prop
  | .begin .. | .proceed .. => True
  | .elsewhere event => event.Quiet
  | .deliver server stream posts arrivals =>
    (∀ p ∈ posts, p.letter.Whole ∧ t.Asked p.errand server stream p.letter.requestId) ∧
      Link.payload arrivals = posts.flatMap (·.letter.frame)

/-- The states that a client may get into from this one. -/
inductive Reachable (c : Client) : Traffic → Prop where
  | start : Reachable c { client := c }
  | step {t : Traffic} (h : Reachable c t) (e : Event) (allowed : t.Allows e) :
      Reachable c (t.step e)

/-- These events may happen, one after the other. -/
def AllowsAll (t : Traffic) : List Event → Prop
  | [] => True
  | e :: events => t.Allows e ∧ (t.step e).AllowsAll events

theorem Reachable.run {c : Client} {t : Traffic} {events : List Event} (h : Reachable c t)
    (allowed : t.AllowsAll events) : Reachable c (t.run events) := by
  induction events generalizing t with
  | nil => exact h
  | cons e events ih => exact ih (h.step e allowed.1) allowed.2

end Traffic

end ClusterClient

import ClusterClient.Proofs.Connection.Identity
import Mathlib.Data.List.Induction

/-!
# The life of a connection

A connection is open until the first operation on it that fails, or until it is closed or dropped,
and closed from then on. That moment is the only one at which its stream is shut down. A closed
connection refuses to send or receive and leaves its stream alone.

An operation meets at most one fault of the stream, and then it fails: a timeout is told as
`socketTimeout`, a stream that broke as `connectionClosed`, any other fault as it is.

    (c.after ops).closed ↔ ops = earlier ++ op :: later for an op that fails, closes or drops
    (c.after ops).link.shutdowns = c.link.shutdowns + (1 if c.after ops is closed)
                                                                            (lived_after)
    l.faults = the fault that was met and m.faults, in some order           (Link.Met l met m)
    whatever the flushes are to report, there is a stream that does so      (exists_flushed)
-/

namespace ClusterClient

/-! ## The faults of a stream -/

/-- The fault by which the stream ends a read; after an interruption it is read again. -/
def Arrival.fault? : Arrival → Option IoError
  | .data _ => none
  | .fault e => if e.kind = .interrupted then none else some e

/-- The fault by which the stream ends a write. To accept nothing is one. -/
def Acceptance.fault? : Acceptance → Option IoError
  | .upTo 0 => some .writeZero
  | .upTo (_ + 1) => none
  | .fault e => if e.kind = .interrupted then none else some e

namespace Link

/-- Every fault that the stream has in store. -/
def faults (l : Link) : List IoError :=
  l.arrivals.filterMap Arrival.fault? ++ l.acceptances.filterMap Acceptance.fault? ++ l.flushFaults

/-- On the way from `l` to `m` the stream reported the fault `met`, or none, and nothing else of
what it has in store. -/
def Met (l : Link) (met : Option IoError) (m : Link) : Prop :=
  l.faults.Perm (met.toList ++ m.faults)

namespace Met

variable {l m n : Link} {met : Option IoError}

theorem refl (l : Link) : Met l none l := List.Perm.refl _

theorem trans (h : Met l none m) (h' : Met m met n) : Met l met n := List.Perm.trans h h'

end Met

theorem filterMap_fetch (n : Nat) (arrivals : List Arrival) :
    arrivals.filterMap Arrival.fault? =
      (fetch n arrivals).2.2.toList ++ (fetch n arrivals).2.1.filterMap Arrival.fault? := by
  induction arrivals generalizing n with
  | nil => cases n <;> simp [fetch]
  | cons a arrivals ih =>
    cases n with
    | zero => simp [fetch]
    | succ n =>
      cases a with
      | fault e =>
        unfold fetch
        split
        · next interrupted =>
          rw [← ih (n + 1)]
          simp [Arrival.fault?, interrupted]
        · next fault => simp [Arrival.fault?, fault]
      | data bs =>
        have harmless (bs : Bytes) : (Arrival.data bs).fault? = none := rfl
        rw [List.filterMap_cons_none (harmless bs)]
        unfold fetch
        split
        · rfl
        · split
          · rw [List.filterMap_cons_none (harmless _)]
            rfl
          · exact ih (n + 1 - bs.length)

theorem filterMap_offer (bs : Bytes) (acceptances : List Acceptance) :
    acceptances.filterMap Acceptance.fault? =
      (offer bs acceptances).2.2.toList ++
        (offer bs acceptances).2.1.filterMap Acceptance.fault? := by
  induction acceptances generalizing bs with
  | nil => cases bs <;> simp [offer]
  | cons a acceptances ih =>
    cases bs with
    | nil => simp [offer]
    | cons b bs =>
      match a with
      | .fault e =>
        unfold offer
        split
        · next interrupted =>
          rw [← ih (b :: bs)]
          simp [Acceptance.fault?, interrupted]
        · next fault => simp [Acceptance.fault?, fault]
      | .upTo 0 => rfl
      | .upTo (n + 1) =>
        have harmless : (Acceptance.upTo (n + 1)).fault? = none := rfl
        rw [List.filterMap_cons_none harmless]
        exact ih (bs.drop n)

/-- The fault that a read, a write or a flush reports. -/
def fault? {α : Type} : Except IoError α → Option IoError
  | .ok _ => none
  | .error e => some e

/-- How the next `n` flushes end. -/
def flushed (l : Link) : Nat → List (Option IoError)
  | 0 => []
  | n + 1 => fault? l.flush.1 :: l.flush.2.flushed n

/-- Flushes may end in any way: whatever they report, some faults with lulls before them say so. -/
theorem exists_flushed (outcomes : List (Option IoError)) :
    ∃ faults lulls, ∀ l : Link,
      { l with flushFaults := faults, flushLulls := lulls }.flushed outcomes.length = outcomes := by
  suffices ∃ faults lulls, faults.length = lulls.length ∧ ∀ l : Link,
      { l with flushFaults := faults, flushLulls := lulls }.flushed outcomes.length = outcomes by
    obtain ⟨faults, lulls, -, all⟩ := this
    exact ⟨faults, lulls, all⟩
  induction outcomes with
  | nil => exact ⟨[], [], rfl, fun _ => rfl⟩
  | cons outcome outcomes ih =>
    obtain ⟨faults, lulls, paired, later⟩ := ih
    cases outcome with
    | some e =>
      exact ⟨e :: faults, 0 :: lulls, congrArg (· + 1) paired, fun l =>
        congrArg (some e :: ·) (later l)⟩
    | none =>
      match faults, lulls, paired with
      | [], [], _ => exact ⟨[], [], rfl, fun l => congrArg (none :: ·) (later l)⟩
      | e :: faults, n :: lulls, paired =>
        exact ⟨e :: faults, (n + 1) :: lulls, paired, fun l => congrArg (none :: ·) (later l)⟩

theorem met_read (l : Link) (n : Nat) : Met l (fault? (l.read n).1) (l.read n).2 := by
  have reported : fault? (l.read n).1 = (fetch n l.arrivals).2.2 := by
    simp only [read]
    split <;> simp_all [fault?]
  rw [reported]
  simp only [Met, faults, read]
  rw [filterMap_fetch n l.arrivals]
  simp only [List.append_assoc, List.Perm.refl]

theorem met_flush (l : Link) : Met l (fault? l.flush.1) l.flush.2 := by
  unfold flush
  split
  · exact .refl l
  · exact .refl l
  · next e later _ _ h _ =>
    simp only [Met, faults, fault?, h, Option.toList_some]
    exact List.perm_middle

theorem met_write (l : Link) (frame : Bytes) :
    Met l (fault? (l.write frame).1) (l.write frame).2 := by
  have offered : Met l (offer frame l.acceptances).2.2 { l with
      acceptances := (offer frame l.acceptances).2.1,
      written := l.written ++ (offer frame l.acceptances).1 } := by
    simp only [Met, faults]
    rw [filterMap_offer frame l.acceptances]
    simp only [List.append_assoc]
    exact List.perm_append_comm_assoc ..
  simp only [write]
  split
  · next h => rwa [h] at offered
  · next h =>
    rw [h] at offered
    exact offered.trans (met_flush _)

end Link

namespace Connection

/-! ## Operations -/

/-- What is done with a connection until it is dropped. The buffers for its replies are shared with
other connections. -/
inductive Operation where
  | send (frame : Bytes)
  | receive (buffers : Recycler) (responseTo : Int32)
  | exchange (buffers : Recycler) (requestId : Int32) (frame : Bytes)
  | close
  | drop
deriving DecidableEq

/-- Whether the operation needs the stream. -/
def Operation.talks : Operation → Bool
  | .send _ | .receive .. | .exchange .. => true
  | .close | .drop => false

def perform (c : Connection) : Operation → Except Error (Option Response) × Connection
  | .send frame =>
    let (outcome, c) := c.send frame
    (outcome.map fun _ => none, c)
  | .receive buffers responseTo =>
    let (outcome, c, _) := c.receive buffers responseTo
    (outcome.map some, c)
  | .exchange buffers requestId frame =>
    let (outcome, c, _) := c.exchange buffers requestId frame
    (outcome.map some, c)
  | .close | .drop => (.ok none, c.close)

def after (c : Connection) (ops : List Operation) : Connection :=
  ops.foldl (fun c op => (c.perform op).2) c

/-- The operation closes the connection or drops it, or it fails. -/
def Ends (c : Connection) (op : Operation) : Prop :=
  op.talks = false ∨ ∃ e, (c.perform op).1 = .error e

/-! ## The outcome of one operation -/

/-- What an error says about the fault that the stream reported, or about a stream without fault. -/
inductive Tells (a : Address) : Option IoError → Error → Prop where
  | fault (e : IoError) : Tells a (some e) (errorOfFault a e)
  | ended : Tells a none (.connectionClosed a)
  | malformed (cause : FramingError) : Tells a none (.framing cause)

/-- What comes of an operation that needs the stream. -/
inductive Outcome {α : Type} (c : Connection) :
    Option IoError → Except Error α → Connection → Prop where
  | refused (wasClosed : c.closed = true) :
      Outcome c none (.error (.connectionClosed c.address)) c
  | succeeded {d : Connection} (x : α) (wasOpen : c.closed = false) (isOpen : d.closed = false)
      (met : c.link.Met none d.link) : Outcome c none (.ok x) d
  | failed {d : Connection} {fault : Option IoError} {e : Error} (wasOpen : c.closed = false)
      (isClosed : d.closed = true) (met : c.link.Met fault d.link)
      (tells : Tells c.address fault e) : Outcome c fault (.error e) d

theorem Outcome.map {α β : Type} {c d : Connection} {fault : Option IoError}
    {outcome : Except Error α} (h : Outcome c fault outcome d) (f : α → β) :
    Outcome c fault (outcome.map f) d := by
  cases h with
  | refused wasClosed => exact .refused wasClosed
  | succeeded x wasOpen isOpen met => exact .succeeded (f x) wasOpen isOpen met
  | failed wasOpen isClosed met tells => exact .failed wasOpen isClosed met tells

theorem Outcome.closed_of_error {α : Type} {c d : Connection} {fault : Option IoError} {e : Error}
    (h : Outcome c fault (.error e : Except Error α) d) : d.closed = true := by
  cases h with
  | refused wasClosed => exact wasClosed
  | failed _ isClosed => exact isClosed

theorem Outcome.isOpen_of_ok {α : Type} {c d : Connection} {fault : Option IoError} {x : α}
    (h : Outcome c fault (.ok x) d) : c.closed = false ∧ d.closed = false := by
  cases h with
  | succeeded _ wasOpen isOpen => exact ⟨wasOpen, isOpen⟩

variable {c d : Connection}

/-- To shut the stream down does not change what else it has in store. -/
theorem met_close {link : Link} {fault : Option IoError} (h : c.link.Met fault link) :
    c.link.Met fault { c with link }.close.link := by
  unfold close
  split <;> exact h

theorem outcome_send (c : Connection) (frame : Bytes) :
    ∃ fault, Outcome c fault (c.send frame).1 (c.send frame).2 := by
  by_cases closed : c.closed = true
  · simp only [send, closed, if_true]
    exact ⟨none, .refused closed⟩
  · have isOpen := Bool.eq_false_iff.2 closed
    have met := c.link.met_write frame
    rw [send, if_neg closed]
    rcases hw : c.link.write frame with ⟨e | u, link⟩
    · rw [hw] at met
      exact ⟨some e, .failed isOpen (closed_close _) (met_close met) (.fault e)⟩
    · rw [hw] at met
      exact ⟨none, .succeeded () isOpen isOpen met⟩

theorem met_readReply (c : Connection) (buffers : Recycler) (responseTo : Int32) :
    ∃ fault, c.link.Met fault (c.readReply buffers responseTo).2.1 ∧
      match (c.readReply buffers responseTo).1 with
      | .ok _ => fault = none
      | .error e => Tells c.address fault e := by
  have start := c.link.met_read Header.size
  unfold readReply
  split
  · next e link h =>
    rw [h] at start
    exact ⟨some e, start, .fault e⟩
  · next link h =>
    rw [h] at start
    exact ⟨none, start, .ended⟩
  · next bytes link _ h =>
    rw [h] at start
    split
    · next e _ => exact ⟨none, start, .malformed e⟩
    · next header _ =>
      have body := link.met_read header.bodyLength
      simp only
      split
      · next e link' h' =>
        rw [h'] at body
        exact ⟨some e, start.trans body, .fault e⟩
      · next bytes' link' h' =>
        rw [h'] at body
        split
        · exact ⟨none, start.trans body, .malformed _⟩
        · split
          · next e _ => exact ⟨none, start.trans body, .malformed e⟩
          · exact ⟨none, start.trans body, rfl⟩

theorem outcome_receive (c : Connection) (buffers : Recycler) (responseTo : Int32) :
    ∃ fault, Outcome c fault (c.receive buffers responseTo).1
      (c.receive buffers responseTo).2.1 := by
  by_cases closed : c.closed = true
  · simp only [receive, closed, if_true]
    exact ⟨none, .refused closed⟩
  · have isOpen := Bool.eq_false_iff.2 closed
    obtain ⟨fault, met, told⟩ := c.met_readReply buffers responseTo
    rw [receive, if_neg closed]
    rcases hr : c.readReply buffers responseTo with ⟨e | ⟨h, buffer⟩, link, buffers'⟩
    · rw [hr] at met told
      exact ⟨fault, .failed isOpen (closed_close _) (met_close met) told⟩
    · rw [hr] at met told
      obtain rfl : fault = none := told
      exact ⟨none, .succeeded _ isOpen isOpen met⟩

theorem closed_of_send {frame : Bytes} {e : Error} (h : c.send frame = (.error e, d)) :
    d.closed = true := by
  obtain ⟨fault, outcome⟩ := c.outcome_send frame
  rw [h] at outcome
  exact outcome.closed_of_error

theorem closed_of_receive {buffers buffers' : Recycler} {id : Int32} {e : Error}
    (h : c.receive buffers id = (.error e, d, buffers')) : d.closed = true := by
  obtain ⟨fault, outcome⟩ := c.outcome_receive buffers id
  rw [h] at outcome
  exact outcome.closed_of_error

theorem isOpen_of_receive {buffers buffers' : Recycler} {id : Int32} {response : Response}
    (h : c.receive buffers id = (.ok response, d, buffers')) : d.closed = false := by
  obtain ⟨fault, outcome⟩ := c.outcome_receive buffers id
  rw [h] at outcome
  exact outcome.isOpen_of_ok.2

theorem outcome_exchange (c : Connection) (buffers : Recycler) (requestId : Int32)
    (frame : Bytes) : ∃ fault, Outcome c fault (c.exchange buffers requestId frame).1
      (c.exchange buffers requestId frame).2.1 := by
  obtain ⟨fault, sent⟩ := c.outcome_send frame
  have address := (c.follows_send frame).address_eq
  rw [exchange]
  generalize c.send frame = result at sent address ⊢
  obtain ⟨e | u, d⟩ := result <;> dsimp only at sent address ⊢
  · cases sent with
    | refused wasClosed => exact ⟨none, .refused wasClosed⟩
    | failed wasOpen isClosed met tells => exact ⟨fault, .failed wasOpen isClosed met tells⟩
  · cases sent with
    | succeeded _ wasOpen isOpen met =>
      obtain ⟨fault, received⟩ := d.outcome_receive buffers requestId
      refine ⟨fault, ?_⟩
      generalize d.receive buffers requestId = result at received ⊢
      obtain ⟨outcome, e, rest⟩ := result
      dsimp only at received ⊢
      cases received with
      | refused wasClosed => exact absurd wasClosed (by simp [isOpen])
      | succeeded x _ isOpen met' => exact .succeeded x wasOpen isOpen (met.trans met')
      | failed _ isClosed met' tells =>
        exact .failed wasOpen isClosed (met.trans met') (address ▸ tells)

theorem outcome_perform (c : Connection) {op : Operation} (talks : op.talks = true) :
    ∃ fault, Outcome c fault (c.perform op).1 (c.perform op).2 := by
  cases op with
  | send frame =>
    obtain ⟨fault, h⟩ := c.outcome_send frame
    exact ⟨fault, h.map _⟩
  | receive buffers responseTo =>
    obtain ⟨fault, h⟩ := c.outcome_receive buffers responseTo
    exact ⟨fault, h.map _⟩
  | exchange buffers requestId frame =>
    obtain ⟨fault, h⟩ := c.outcome_exchange buffers requestId frame
    exact ⟨fault, h.map _⟩
  | close | drop => cases talks

theorem perform_of_not_talks (c : Connection) {op : Operation} (silent : op.talks = false) :
    c.perform op = (.ok none, c.close) := by
  cases op with
  | close | drop => rfl
  | send | receive | exchange => cases silent

theorem follows_perform (c : Connection) (op : Operation) : c.Follows (c.perform op).2 := by
  cases op with
  | send frame => exact c.follows_send frame
  | receive buffers responseTo => exact c.follows_receive buffers responseTo
  | exchange buffers requestId frame => exact c.follows_exchange buffers requestId frame
  | close | drop => exact c.follows_close

/-- The operation after which a connection is closed is the one that ends it. -/
theorem closed_perform_iff (c : Connection) (op : Operation) :
    (c.perform op).2.closed = true ↔ c.closed = true ∨ c.Ends op := by
  by_cases talks : op.talks = true
  · obtain ⟨fault, outcome⟩ := c.outcome_perform talks
    simp only [Ends, talks]
    generalize c.perform op = result at outcome ⊢
    obtain ⟨r, d⟩ := result
    dsimp only at outcome ⊢
    cases outcome with
    | refused wasClosed => simp [wasClosed]
    | succeeded x wasOpen isOpen => simp [wasOpen, isOpen]
    | failed wasOpen isClosed => simp [isClosed]
  · have silent := Bool.eq_false_iff.2 talks
    simp [perform_of_not_talks c silent, closed_close, Ends, silent]

/-! ## Whole lives -/

theorem after_append (c : Connection) (ops ops' : List Operation) :
    c.after (ops ++ ops') = (c.after ops).after ops' := by
  simp [after]

theorem follows_after (c : Connection) (ops : List Operation) : c.Follows (c.after ops) := by
  induction ops generalizing c with
  | nil => exact .refl c
  | cons op ops ih => exact (c.follows_perform op).trans (ih _)

theorem closed_after_iff (isOpen : c.closed = false) (ops : List Operation) :
    (c.after ops).closed = true ↔
      ∃ earlier op later, ops = earlier ++ op :: later ∧ (c.after earlier).Ends op := by
  constructor
  · intro closed
    induction ops using List.reverseRecOn with
    | nil => exact absurd closed (by simp [after, isOpen])
    | append_singleton ops op ih =>
      rw [after_append] at closed
      rcases (closed_perform_iff _ op).1 closed with before | now
      · obtain ⟨earlier, op', later, rfl, ends⟩ := ih before
        exact ⟨earlier, op', later ++ [op], by simp, ends⟩
      · exact ⟨ops, op, [], rfl, now⟩
  · rintro ⟨earlier, op, later, rfl, ends⟩
    rw [after_append]
    have ended := (closed_perform_iff (c.after earlier) op).2 (.inr ends)
    exact (follows_after _ later).closed ended

/-- How the faults of the stream and the outcome of an operation belong together. -/
structure Surfaces {α : Type} (a : Address) (fault : Option IoError) (outcome : Except Error α) :
    Prop where
  timeout : ∀ e ∈ fault, e.kind ∈ [.timedOut, .wouldBlock] → outcome = .error (.socketTimeout a)
  broken : ∀ e ∈ fault,
    e.kind ∈ [.unexpectedEof, .brokenPipe, .connectionReset, .connectionAborted] →
      outcome = .error (.connectionClosed a)
  fails : ∀ e ∈ fault, ∃ e', outcome = .error e'
  of_socketTimeout : ∀ b, outcome = .error (.socketTimeout b) →
    b = a ∧ ∃ e ∈ fault, e.kind ∈ [.timedOut, .wouldBlock]
  of_io : ∀ e, outcome = .error (.io e) → e ∈ fault ∧
    e.kind ∉ [.timedOut, .wouldBlock, .unexpectedEof, .brokenPipe, .connectionReset,
      .connectionAborted]

theorem Tells.surfaces {α : Type} {a : Address} {fault : Option IoError} {e : Error}
    (h : Tells a fault e) : Surfaces a fault (.error e : Except Error α) := by
  cases h with
  | fault e => constructor <;> grind [errorOfFault]
  | ended | malformed => constructor <;> simp

theorem Outcome.surfaces {α : Type} {fault : Option IoError} {outcome : Except Error α}
    (h : Outcome c fault outcome d) : Surfaces c.address fault outcome := by
  cases h with
  | refused => exact Tells.ended.surfaces
  | succeeded => constructor <;> simp
  | failed _ _ _ tells => exact tells.surfaces

theorem Outcome.met {α : Type} {fault : Option IoError} {outcome : Except Error α}
    (h : Outcome c fault outcome d) : c.link.Met fault d.link := by
  cases h with
  | refused => exact .refl _
  | succeeded _ _ _ met => exact met
  | failed _ _ met => exact met

/-- The connection `c`, which is open, after some operations, and what any further one does. -/
structure Lived (c : Connection) (ops : List Operation) : Prop where
  closed_iff : (c.after ops).closed = true ↔
    ∃ earlier op later, ops = earlier ++ op :: later ∧ (c.after earlier).Ends op
  shutdowns_eq : (c.after ops).link.shutdowns = c.link.shutdowns + (c.after ops).closed.toNat
  fails : ∀ op e, ((c.after ops).perform op).1 = .error e →
    (c.after (ops ++ [op])).closed = true
  succeeds : ∀ op x, op.talks = true → ((c.after ops).perform op).1 = .ok x →
    (c.after ops).closed = false ∧ (c.after (ops ++ [op])).closed = false
  refuses : (c.after ops).closed = true → ∀ op, op.talks = true →
    (c.after ops).perform op = (.error (.connectionClosed c.address), c.after ops)
  surfaces : ∀ op, op.talks = true → ∃ fault,
    (c.after ops).link.Met fault (c.after (ops ++ [op])).link ∧
      Surfaces c.address fault ((c.after ops).perform op).1

theorem lived_after (isOpen : c.closed = false) (ops : List Operation) : Lived c ops := by
  have next (op : Operation) : c.after (ops ++ [op]) = ((c.after ops).perform op).2 :=
    c.after_append ops [op]
  have follows := c.follows_after ops
  refine ⟨closed_after_iff isOpen ops, ?_, ?_, ?_, ?_, ?_⟩
  · simpa [isOpen] using follows.shutdowns_eq
  · intro op e failed
    rw [next]
    exact (closed_perform_iff _ op).2 (.inr (.inr ⟨e, failed⟩))
  · intro op x talks done
    obtain ⟨fault, outcome⟩ := (c.after ops).outcome_perform talks
    rw [next]
    rw [done] at outcome
    exact outcome.isOpen_of_ok
  · intro closed op talks
    obtain ⟨fault, outcome⟩ := (c.after ops).outcome_perform talks
    rw [← follows.address_eq]
    generalize (c.after ops).perform op = result at outcome ⊢
    obtain ⟨r, d⟩ := result
    dsimp only at outcome
    cases outcome with
    | refused => rfl
    | succeeded _ wasOpen | failed wasOpen => exact absurd closed (by simp [wasOpen])
  · intro op talks
    obtain ⟨fault, outcome⟩ := (c.after ops).outcome_perform talks
    rw [next, ← follows.address_eq]
    exact ⟨fault, outcome.met, outcome.surfaces⟩

/-- A reply arrives, the flush after the next frame times out although the first one has succeeded,
and what is tried after that is refused although more would have arrived. -/
theorem lived_after_timeout :
    let reply : Bytes := Header.bytes ⟨16, 9, 7, .reply⟩
    let late : IoError := ⟨.timedOut, "timed out"⟩
    let c : Connection := { id := 1, address := .localhost, link := {
      arrivals := [.data (reply.take 5), .data (reply.drop 5), .data reply]
      flushFaults := [late], flushLulls := [1] } }
    let ops : List Operation := [.exchange {} 7 [1, 2], .send [3], .receive {} 7, .drop]
    c.closed = false ∧
      (List.range 5).map (fun n => (c.after (ops.take n)).closed) =
        [false, false, true, true, true] ∧
      (List.range 5).map (fun n => (c.after (ops.take n)).link.shutdowns) = [0, 0, 1, 1, 1] ∧
      ((c.after (ops.take 1)).perform (.send [3])).1 = .error (.socketTimeout .localhost) ∧
      (c.after ops).link.arrivals = [.data reply] ∧ (c.after ops).link.written = [1, 2, 3] ∧
      Lived c ops := by
  intro reply late c ops
  exact ⟨rfl, by decide +kernel, by decide +kernel, by decide +kernel, by decide +kernel,
    by decide +kernel, lived_after rfl ops⟩

end Connection

end ClusterClient

import ClusterClient.Error
import ClusterClient.Wire.Bytes

/-!
# Links

The byte stream under a connection, as what will happen on it: what the reads will deliver, how
much the writes will accept, and which flushes will fail after how many that succeed, each in order.
Beyond the lists, reads find the end of the stream, writes accept everything and flushes succeed.

    fetch returns at most as many bytes as asked for     (length_fetch_le)
-/

namespace ClusterClient

/-- What one read finds. A read takes no more than it asked for, the rest of the data stays for
the next one. -/
inductive Arrival where
  /-- Data, or the end of the stream if there is none. -/
  | data (bytes : Bytes)
  | fault (cause : IoError)
deriving DecidableEq, Repr

/-- How one write ends. -/
inductive Acceptance where
  | upTo (bytes : Nat)
  | fault (cause : IoError)
deriving DecidableEq, Repr

structure Link where
  /-- The number of the stream among all that were opened. -/
  serial : Nat := 0
  /-- The number of the place in a pool that it was opened for, among all that were reserved. -/
  place : Nat := 0
  arrivals : List Arrival := []
  acceptances : List Acceptance := []
  /-- The faults that flushes will report. -/
  flushFaults : List IoError := []
  /-- How many flushes succeed before each of these faults; none where nothing is said. -/
  flushLulls : List Nat := []
  /-- How long the next reply takes. -/
  delay : Duration := .zero
  /-- Everything that was written. -/
  written : Bytes := []
  /-- How often the stream was shut down. -/
  shutdowns : Nat := 0
deriving DecidableEq, Repr

/-- Reports a write that accepted nothing. -/
def IoError.writeZero : IoError := ⟨.writeZero, "failed to write whole buffer"⟩

namespace Link

/-! ## Algorithm -/

/-- Reads until there are `n` bytes or the stream ends, trying again when it is interrupted: the
bytes, what is still to arrive, and the fault that stopped it. -/
def fetch : (n : Nat) → List Arrival → Bytes × List Arrival × Option IoError
  | 0, arrivals => ([], arrivals, none)
  | _ + 1, [] => ([], [], none)
  | n + 1, .fault e :: arrivals =>
    if e.kind = .interrupted then fetch (n + 1) arrivals else ([], arrivals, some e)
  | n + 1, .data bs :: arrivals =>
    if bs.isEmpty then ([], arrivals, none)
    else if n + 1 < bs.length then (bs.take (n + 1), .data (bs.drop (n + 1)) :: arrivals, none)
    else
      let (more, arrivals, fault) := fetch (n + 1 - bs.length) arrivals
      (bs ++ more, arrivals, fault)

/-- Writes until everything is accepted, trying again when it is interrupted: the bytes that were
accepted, the rest of the script, and the fault that stopped it. -/
def offer : Bytes → List Acceptance → Bytes × List Acceptance × Option IoError
  | [], acceptances => ([], acceptances, none)
  | b :: bs, [] => (b :: bs, [], none)
  | b :: bs, .fault e :: acceptances =>
    if e.kind = .interrupted then offer (b :: bs) acceptances else ([], acceptances, some e)
  | _ :: _, .upTo 0 :: acceptances => ([], acceptances, some .writeZero)
  | b :: bs, .upTo (n + 1) :: acceptances =>
    let (more, acceptances, fault) := offer (bs.drop n) acceptances
    (b :: bs.take n ++ more, acceptances, fault)

/-- Reads up to `n` bytes. -/
def read (link : Link) (n : Nat) : Except IoError Bytes × Link :=
  let (bytes, arrivals, fault) := fetch n link.arrivals
  (match fault with
    | some e => .error e
    | none => .ok bytes,
   { link with arrivals })

/-- Flushes the stream, which succeeds until the lull before the next fault is over. -/
def flush (link : Link) : Except IoError Unit × Link :=
  match link.flushFaults, link.flushLulls with
  | [], _ => (.ok (), link)
  | _, (n + 1) :: lulls => (.ok (), { link with flushLulls := n :: lulls })
  | e :: faults, lulls => (.error e, { link with flushFaults := faults, flushLulls := lulls.tail })

/-- Writes a whole frame and flushes it. -/
def write (link : Link) (frame : Bytes) : Except IoError Unit × Link :=
  let (accepted, acceptances, fault) := offer frame link.acceptances
  let link := { link with acceptances, written := link.written ++ accepted }
  match fault with
  | some e => (.error e, link)
  | none => link.flush

def shutdown (link : Link) : Link := { link with shutdowns := link.shutdowns + 1 }

/-! ## Lemmas -/

theorem length_fetch_le (n : Nat) (arrivals : List Arrival) : (fetch n arrivals).1.length ≤ n := by
  induction arrivals generalizing n with
  | nil => cases n <;> simp [fetch]
  | cons a arrivals ih =>
    cases n with
    | zero => simp [fetch]
    | succ n =>
      cases a with
      | fault e =>
        unfold fetch
        split
        · exact ih (n + 1)
        · simp
      | data bs =>
        unfold fetch
        split
        · simp
        · split
          · simp only [List.length_take]
            omega
          · have := ih (n + 1 - bs.length)
            simp only [List.length_append]
            omega

theorem flush_arrivals (link : Link) : link.flush.2.arrivals = link.arrivals := by
  unfold flush
  split <;> rfl

theorem flush_written (link : Link) : link.flush.2.written = link.written := by
  unfold flush
  split <;> rfl

end Link

end ClusterClient

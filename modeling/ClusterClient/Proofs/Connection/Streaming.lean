import ClusterClient.Connection.Basic
import ClusterClient.Proofs.Wire.Reply

/-!
# Replies from a stream

A connection reads a reply piece by piece, as its stream delivers it. However the bytes are cut into
reads, and however often a read is interrupted, what it makes of them is what `decodeReply` makes of
all of them at once; only a stream that ends before the first byte counts as closed by the server.

    Delivers arrivals bytes → fetch n arrivals = the first n of bytes           (fetch_of_delivers)
    the outcome of receive is that of decodeReply on all bytes             (receive_eq_decodeReply)
-/

namespace ClusterClient

namespace Link

/-! ## Streams -/

/-- These arrivals deliver the bytes and then the end of the stream, interrupted or not. -/
inductive Delivers : List Arrival → Bytes → Prop
  | nothing : Delivers [] []
  | ended (later : List Arrival) : Delivers (.data [] :: later) []
  | interrupted {cause : IoError} {arrivals : List Arrival} {bytes : Bytes}
      (kind : cause.kind = .interrupted) (next : Delivers arrivals bytes) :
      Delivers (.fault cause :: arrivals) bytes
  | chunk {read : Bytes} {arrivals : List Arrival} {bytes : Bytes}
      (some : read ≠ []) (next : Delivers arrivals bytes) :
      Delivers (.data read :: arrivals) (read ++ bytes)

/-- A fetch takes as many of the bytes as it asked for, and the rest stays unless the stream ended
too early. -/
theorem fetch_of_delivers {arrivals : List Arrival} {bytes : Bytes} (h : Delivers arrivals bytes)
    (n : Nat) :
    ∃ rest, fetch n arrivals = (bytes.take n, rest, none) ∧
      (n ≤ bytes.length → Delivers rest (bytes.drop n)) := by
  induction h generalizing n with
  | nothing =>
    cases n with
    | zero => exact ⟨[], rfl, fun _ => .nothing⟩
    | succ n => exact ⟨[], rfl, fun le => absurd le (Nat.not_succ_le_zero n)⟩
  | ended later =>
    cases n with
    | zero => exact ⟨_, rfl, fun _ => .ended later⟩
    | succ n => exact ⟨later, rfl, fun le => absurd le (Nat.not_succ_le_zero n)⟩
  | @interrupted cause arrivals bytes kind next ih =>
    cases n with
    | zero => exact ⟨_, rfl, fun _ => .interrupted kind next⟩
    | succ n =>
      rw [fetch, if_pos kind]
      exact ih (n + 1)
  | @chunk read arrivals bytes some next ih =>
    cases n with
    | zero => exact ⟨_, rfl, fun _ => .chunk some next⟩
    | succ n =>
      rw [fetch, if_neg (by simpa using some)]
      by_cases large : n + 1 < read.length
      · have left : read.drop (n + 1) ≠ [] := by
          intro none
          rw [List.drop_eq_nil_iff] at none
          omega
        rw [if_pos large, List.take_append_of_le_length (by omega),
          List.drop_append_of_le_length (by omega)]
        exact ⟨_, rfl, fun _ => .chunk left next⟩
      · obtain ⟨rest, fetched, delivers⟩ := ih (n + 1 - read.length)
        have all : read.take (n + 1) = read := List.take_of_length_le (by omega)
        have gone : read.drop (n + 1) = [] := List.drop_of_length_le (by omega)
        rw [if_neg large, fetched, List.take_append, List.drop_append, all, gone]
        refine ⟨rest, rfl, fun le => delivers ?_⟩
        rw [List.length_append] at le
        omega

/-- The link after a read that went well. -/
theorem read_of_delivers {link : Link} {bytes : Bytes} (h : Delivers link.arrivals bytes)
    (n : Nat) :
    ∃ link', link.read n = (.ok (bytes.take n), link') ∧
      (n ≤ bytes.length → Delivers link'.arrivals (bytes.drop n)) := by
  obtain ⟨rest, fetched, delivers⟩ := fetch_of_delivers h n
  refine ⟨{ link with arrivals := rest }, ?_, delivers⟩
  rw [read, fetched]

end Link

namespace Connection

open Link

/-! ## One reply -/

variable {c : Connection} {bytes : Bytes}

/-- What a stream comes to that delivers these bytes before it ends. -/
def verdict (c : Connection) (bytes : Bytes) (id : Int32) : Except Error (Header × Bytes) :=
  if bytes = [] then .error (.connectionClosed c.address)
  else (decodeReply bytes id c.settings.maxMessageSize).mapError .framing

/-- What a connection makes of the bytes that its stream delivers. -/
structure Answered (c : Connection) (bytes : Bytes) (id : Int32)
    (outcome : Except Error (Header × Bytes)) (link : Link) : Prop where
  outcome_eq : outcome = c.verdict bytes id
  /-- The bytes of one frame are gone, and no others. -/
  consumed : ∀ h body, outcome = .ok (h, body) → ∃ frame rest, bytes = frame ++ rest ∧
    frame.length = h.length.toInt.toNat ∧ Delivers link.arrivals rest

theorem verdict_of_ne_nil (some : bytes ≠ []) (id : Int32) :
    c.verdict bytes id = (decodeReply bytes id c.settings.maxMessageSize).mapError .framing :=
  if_neg some

theorem answered_readReply (delivers : Delivers c.link.arrivals bytes) (buffers : Recycler)
    (id : Int32) :
    Answered c bytes id
      ((c.readReply buffers id).1.map fun reply => (reply.1, reply.2.bytes))
      (c.readReply buffers id).2.1 := by
  obtain ⟨link, start, left⟩ := read_of_delivers delivers Header.size
  by_cases none : bytes = []
  · subst none
    rw [readReply, start]
    exact ⟨rfl, fun h body ok => by cases ok⟩
  · obtain ⟨b, start', taken⟩ : ∃ b start', bytes.take Header.size = b :: start' := by
      refine List.exists_cons_of_ne_nil fun h => none ?_
      exact (List.take_eq_nil_iff.1 h).resolve_left (by decide)
    have decode_eq : ∀ max, Header.decode (b :: start') max = Header.decode bytes max := by
      intro max
      rw [← taken, Header.decode_take]
    rw [readReply, start, taken]
    simp only [decode_eq]
    cases hd : Header.decode bytes c.settings.maxMessageSize with
    | error e =>
      refine ⟨?_, fun h body ok => by cases ok⟩
      rw [verdict_of_ne_nil none, decodeReply_of_error hd]
      rfl
    | ok h =>
      have whole := Header.size_le_of_decode hd
      obtain ⟨link', body, left'⟩ := read_of_delivers (left whole) h.bodyLength
      simp only [body]
      split
      · next short =>
        refine ⟨?_, fun h body ok => by cases ok⟩
        rw [verdict_of_ne_nil none, decodeReply_of_ok hd, if_pos short]
        rfl
      · next full =>
        have verdict_eq := verdict_of_ne_nil (c := c) none id
        rw [decodeReply_of_ok hd, if_neg full] at verdict_eq
        cases hc : h.checkResponseTo id with
        | error e =>
          rw [hc] at verdict_eq
          exact ⟨verdict_eq.symm, fun h body ok => by cases ok⟩
        | ok u =>
          rw [hc] at verdict_eq
          refine ⟨verdict_eq.symm, fun h' body' ok => ?_⟩
          cases ok
          have body_le : h.bodyLength ≤ (bytes.drop Header.size).length := by
            rw [List.length_take] at full
            omega
          obtain ⟨frame, split, length_eq⟩ := Header.exists_frame_of_decode hd body_le
          exact ⟨frame, _, split, length_eq, left' body_le⟩

/-- What a reply says. -/
def content (r : Response) : Header × Bytes := (r.header, r.body)

/-- What an open connection makes of the bytes that its stream delivers, when it has become `c'`. -/
structure Received (c : Connection) (bytes : Bytes) (id : Int32) (outcome : Except Error Response)
    (c' : Connection) : Prop where
  answered : Answered c bytes id (outcome.map content) c'.link
  settings_eq : c'.settings = c.settings
  isOpen : outcome.isOk = true → c'.closed = false

theorem received_receive (isOpen : c.closed = false) (delivers : Delivers c.link.arrivals bytes)
    (buffers : Recycler) (id : Int32) :
    Received c bytes id (c.receive buffers id).1 (c.receive buffers id).2.1 := by
  have answered := answered_readReply delivers buffers id
  rw [receive, if_neg (by simp [isOpen])]
  generalize c.readReply buffers id = result at answered
  obtain ⟨outcome, link, buffers'⟩ := result
  cases outcome with
  | error e =>
    have settings_eq : (close { c with link }).settings = c.settings := by
      rw [close, if_neg (by simp [isOpen])]
    exact ⟨⟨answered.outcome_eq, fun h body ok => by cases ok⟩, settings_eq, fun ok => by cases ok⟩
  | ok reply => exact ⟨answered, rfl, fun _ => isOpen⟩

/-! ## Replies one after the other -/

/-- Receives the replies to these requests, one after the other. -/
def receiveAll (c : Connection) (buffers : Recycler) :
    List Int32 → List (Except Error Response) × Connection × Recycler
  | [] => ([], c, buffers)
  | id :: ids =>
    let (outcome, c, buffers) := c.receive buffers id
    let (outcomes, c, buffers) := receiveAll c buffers ids
    (outcome :: outcomes, c, buffers)

/-- A frame, the request that it answers, and what it says. -/
structure Letter where
  frame : Bytes
  requestId : Int32
  header : Header
  body : Bytes

/-- The frame is a complete reply and holds nothing else. -/
structure Letter.Complete (max : Nat) (l : Letter) : Prop where
  decoded : decodeReply l.frame l.requestId max = .ok (l.header, l.body)
  length_eq : l.frame.length = l.header.length.toInt.toNat

theorem receive_letter {l : Letter} {rest : Bytes} (isOpen : c.closed = false)
    (complete : l.Complete c.settings.maxMessageSize)
    (delivers : Delivers c.link.arrivals (l.frame ++ rest)) (buffers : Recycler) {c' : Connection}
    (became : (c.receive buffers l.requestId).2.1 = c') :
    (c.receive buffers l.requestId).1.map content = .ok (l.header, l.body) ∧ c'.closed = false ∧
      c'.settings = c.settings ∧ Delivers c'.link.arrivals rest := by
  subst became
  have received := received_receive isOpen delivers buffers l.requestId
  have decoded := decodeReply_append complete.decoded rest
  have some : l.frame ++ rest ≠ [] := by
    intro none
    rw [none] at decoded
    cases decoded
  have outcome_eq := received.answered.outcome_eq
  rw [verdict_of_ne_nil some, decoded] at outcome_eq
  obtain ⟨frame, rest', split, length_eq, delivers'⟩ := received.answered.consumed _ _ outcome_eq
  obtain ⟨-, rfl⟩ := List.append_inj split (complete.length_eq.trans length_eq.symm)
  refine ⟨outcome_eq, received.isOpen ?_, received.settings_eq, delivers'⟩
  cases h : (c.receive buffers l.requestId).1 with
  | error e =>
    rw [h] at outcome_eq
    cases outcome_eq
  | ok r => rfl

/-- The outcomes are what the letters say, one after the other; the connection `c'` is still open
and its stream goes on behind them. -/
structure InOrder (letters : List Letter) (rest : Bytes) (outcomes : List (Except Error Response))
    (c' : Connection) : Prop where
  outcomes_eq : outcomes.map (·.map content) = letters.map fun l => .ok (l.header, l.body)
  isOpen : c'.closed = false
  left : Delivers c'.link.arrivals rest

theorem inOrder_receiveAll {letters : List Letter} {rest : Bytes} (isOpen : c.closed = false)
    (complete : ∀ l ∈ letters, l.Complete c.settings.maxMessageSize)
    (delivers : Delivers c.link.arrivals (letters.flatMap (·.frame) ++ rest))
    (buffers : Recycler) :
    InOrder letters rest (c.receiveAll buffers (letters.map (·.requestId))).1
      (c.receiveAll buffers (letters.map (·.requestId))).2.1 := by
  induction letters generalizing c buffers with
  | nil => exact ⟨rfl, isOpen, delivers⟩
  | cons l letters ih =>
    rw [List.flatMap_cons, List.append_assoc] at delivers
    have complete' := fun l' hl' => complete l' (List.mem_cons_of_mem l hl')
    obtain ⟨first, isOpen', settings_eq, delivers'⟩ :=
      receive_letter isOpen (complete l List.mem_cons_self) delivers buffers rfl
    rw [← settings_eq] at complete'
    have others := ih isOpen' complete' delivers' (c.receive buffers l.requestId).2.2
    exact ⟨congr (congrArg List.cons first) others.outcomes_eq, others.isOpen, others.left⟩

/-! ## Main result -/

/-- What is true of an open connection whose stream delivers these bytes. -/
structure AgreesWithDecoding (c : Connection) (bytes : Bytes) : Prop where
  received : ∀ buffers id,
    Received c bytes id (c.receive buffers id).1 (c.receive buffers id).2.1
  empty : bytes = [] →
    ∀ id, decodeReply bytes id c.settings.maxMessageSize = .error (.truncatedHeader 0)
  letters : ∀ buffers (letters : List Letter) rest,
    (∀ l ∈ letters, l.Complete c.settings.maxMessageSize) →
      bytes = letters.flatMap (·.frame) ++ rest →
        InOrder letters rest (c.receiveAll buffers (letters.map (·.requestId))).1
          (c.receiveAll buffers (letters.map (·.requestId))).2.1

theorem receive_eq_decodeReply (isOpen : c.closed = false)
    (delivers : Delivers c.link.arrivals bytes) : AgreesWithDecoding c bytes where
  received := received_receive isOpen delivers
  empty none id := by
    subst none
    rfl
  letters buffers letters rest complete split := by
    subst split
    exact inOrder_receiveAll isOpen complete delivers buffers

/-- Two replies are received in order although the stream is cut in the middle of both headers and
interrupted; the first has no body, and one byte is left. -/
theorem receive_eq_decodeReply_cut :
    let first : Letter := ⟨Header.bytes ⟨16, 9, 7, .reply⟩, 7, ⟨16, 9, 7, .reply⟩, []⟩
    let second : Letter := ⟨Header.bytes ⟨18, 10, 8, .msg⟩ ++ [1, 2], 8, ⟨18, 10, 8, .msg⟩, [1, 2]⟩
    let pause : Arrival := .fault ⟨.interrupted, "interrupted"⟩
    let bytes := first.frame ++ second.frame ++ [42]
    let arrivals := [.data (bytes.take 5), pause, pause, .data ((bytes.drop 5).take 15), pause,
      .data (bytes.drop 20)]
    let c : Connection := { id := 1, address := .localhost, link := { arrivals } }
    c.closed = false ∧ Delivers c.link.arrivals bytes ∧
      (c.receiveAll {} [7, 8]).1.map (·.map content) = [.ok (first.header, []),
        .ok (second.header, [1, 2])] ∧ AgreesWithDecoding c bytes := by
  intro first second pause bytes arrivals c
  have cut : bytes = bytes.take 5 ++ ((bytes.drop 5).take 15 ++ (bytes.drop 20 ++ [])) := by
    decide +kernel
  have delivers : Delivers c.link.arrivals bytes := by
    rw [cut]
    refine .chunk (by decide +kernel) (.interrupted rfl (.interrupted rfl ?_))
    refine .chunk (by decide +kernel) (.interrupted rfl (.chunk (by decide +kernel) .nothing))
  have agrees := receive_eq_decodeReply (c := c) rfl delivers
  have complete : ∀ l ∈ [first, second], l.Complete c.settings.maxMessageSize := by
    have one : first.Complete c.settings.maxMessageSize := ⟨rfl, rfl⟩
    have two : second.Complete c.settings.maxMessageSize := ⟨rfl, rfl⟩
    simp [one, two]
  exact ⟨rfl, delivers, (agrees.letters {} _ [42] complete (by decide +kernel)).outcomes_eq, agrees⟩

end Connection

end ClusterClient

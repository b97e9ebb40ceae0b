import ClusterClient.Connection.Usage
import Mathlib.Data.List.Induction

/-!
# Bodies

Connections of one pool share a recycler, and so do the responses that were received over them. The
buffer of a body is drawn when the header of a reply has been read. If the rest of the reply is
refused, the buffer goes back at once; otherwise the response has it until it is released. So at
any moment the recycler misses as many buffers as there are responses with a body.

    handedOut = handedBack + the responses that hold a body                        (recycled_run)
    a response hands its body back once: when it is first released or dropped      (recycled_run)
-/

namespace ClusterClient

/-! ## Buffers -/

namespace Recycler

/-- From `r` to `r'` this many buffers were handed out and handed back. -/
structure Traded (out back : Nat) (r r' : Recycler) : Prop where
  handedOut_eq : r'.handedOut = r.handedOut + out
  handedBack_eq : r'.handedBack = r.handedBack + back

theorem traded_draw (r : Recycler) (n : Nat) : Traded 1 0 r (r.draw n).2 := by
  unfold draw
  split <;> exact ⟨rfl, rfl⟩

theorem traded_giveBack (r : Recycler) (b : Buffer) : Traded 0 1 r (r.giveBack b) := by
  simp only [giveBack]
  split <;> exact ⟨rfl, rfl⟩

end Recycler

/-! ## Responses -/

namespace Response

theorem isReleased_eq_true_iff {r : Response} : r.isReleased = true ↔ r.buffer? = none :=
  Option.isNone_iff_eq_none

theorem isReleased_release (r : Response) (buffers : Recycler) :
    (r.release buffers).1.isReleased = true := by
  unfold release
  split
  · rfl
  · next h => exact isReleased_eq_true_iff.2 h

/-- A response that has a body hands it back; afterwards there is nothing to hand back. -/
theorem traded_release (r : Response) (buffers : Recycler) :
    Recycler.Traded 0 (!r.isReleased).toNat buffers (r.release buffers).2 := by
  unfold release isReleased
  split
  · next b h =>
    rw [h]
    exact buffers.traded_giveBack b
  · next h =>
    rw [h]
    exact ⟨rfl, rfl⟩

/-- What is left of a response that was released. -/
structure Empty (r : Response) : Prop where
  body_eq : r.body = []
  documents_eq : r.documents = []
  replyPrefix_eq : r.replyPrefix = .error (.truncatedBody ReplyPrefix.size 0)

theorem empty_of_isReleased {r : Response} (h : r.isReleased = true) : r.Empty := by
  have body_eq : r.body = [] := by rw [body, isReleased_eq_true_iff.1 h]; rfl
  have section_eq : r.documentSection = [] := by rw [documentSection, body_eq, List.drop_nil]
  refine ⟨body_eq, ?_, ?_⟩
  · rw [documents, section_eq, Document.all]
    rfl
  · rw [replyPrefix, body_eq]
    rfl

end Response

/-! ## Receiving -/

namespace Connection

variable {α : Type}

/-- How the buffers of a connection take part in reading a reply: `bodied` says of a result which
buffer it holds. -/
inductive Reception (buffers : Recycler) (bodied : α → Option Buffer) :
    Except Error α → Recycler → Prop where
  /-- The connection is closed, or there is no header of a reply. -/
  | unread (e : Error) : Reception buffers bodied (.error e) buffers
  /-- The memory that was drawn for the body goes back. -/
  | refused (e : Error) (n : Nat) (bytes : Bytes) :
      Reception buffers bodied (.error e)
        ((buffers.draw n).2.giveBack ⟨bytes, (buffers.draw n).1⟩)
  /-- The result has the memory that was drawn for the body. -/
  | received {a : α} {n : Nat} {bytes : Bytes}
      (body : bodied a = some ⟨bytes, (buffers.draw n).1⟩) :
      Reception buffers bodied (.ok a) (buffers.draw n).2

theorem reception_readReply (c : Connection) (buffers : Recycler) (id : Int32) :
    Reception buffers (fun reply : Header × Buffer => some reply.2) (c.readReply buffers id).1
      (c.readReply buffers id).2.2 := by
  unfold readReply
  split
  · exact .unread _
  · exact .unread _
  · split
    · exact .unread _
    · next h _ =>
      simp only
      split
      · exact .refused _ h.bodyLength []
      · split
        · exact .refused _ h.bodyLength _
        · split
          · exact .refused _ h.bodyLength _
          · exact .received rfl

theorem reception_receive (c : Connection) (buffers : Recycler) (id : Int32) :
    Reception buffers Response.buffer? (c.receive buffers id).1 (c.receive buffers id).2.2 := by
  unfold receive
  split
  · exact .unread _
  · have read := c.reception_readReply buffers id
    simp only
    generalize c.readReply buffers id = reply at read
    obtain ⟨outcome, link, buffers'⟩ := reply
    cases read with
    | unread e => exact .unread e
    | refused e n bytes => exact .refused e n bytes
    | received body => exact .received body

end Connection

/-! ## Connections that share a recycler -/

/-- The response that one use of a connection brought. -/
def Usage.received : Except Error (Option Response) → List Response
  | .ok (some response) => [response]
  | _ => []

/-- A response that was received, and what its owner did with it. -/
structure Receipt where
  response : Response
  dropped : Bool := false
  /-- How many buffers the recycler got from it. -/
  handedBack : Nat := 0

structure Readers where
  connections : List Connection
  buffers : Recycler
  receipts : List Receipt := []

namespace Readers

inductive Event where
  | join (connection : Connection)
  | use (index : Nat) (usage : Usage)
  | release (index : Nat)
  | drop (index : Nat)

def use (s : Readers) (index : Nat) (usage : Usage) : Readers :=
  match s.connections[index]? with
  | some c =>
    let (outcome, c, buffers) := c.apply s.buffers usage
    let received := (Usage.received outcome).map fun response => { response }
    { connections := s.connections.set index c, buffers, receipts := s.receipts ++ received }
  | none => s

/-- The owner of a response releases it, or drops it, which releases it as well. -/
def release (s : Readers) (index : Nat) (drops : Bool) : Readers :=
  match s.receipts[index]? with
  | some { response, dropped := false, handedBack } =>
    let (response, buffers) := response.release s.buffers
    let back := buffers.handedBack - s.buffers.handedBack
    let receipt : Receipt := { response, dropped := drops, handedBack := handedBack + back }
    { s with buffers, receipts := s.receipts.set index receipt }
  | _ => s

def step (s : Readers) : Event → Readers
  | .join c => { s with connections := s.connections ++ [c] }
  | .use index usage => s.use index usage
  | .release index => s.release index false
  | .drop index => s.release index true

def run (s : Readers) (events : List Event) : Readers := events.foldl step s

end Readers

/-! ## Conservation -/

/-- The response still has its buffer. -/
def Receipt.holds (r : Receipt) : Bool := !r.response.isReleased

structure Receipt.Settled (r : Receipt) : Prop where
  handedBack_eq : r.handedBack = r.response.isReleased.toNat
  dropped : r.dropped = true → r.response.isReleased = true

theorem Receipt.Settled.handedBack_iff {r : Receipt} (h : r.Settled) :
    r.handedBack = 1 ↔ r.response.isReleased = true := by
  rw [h.handedBack_eq]
  cases r.response.isReleased <;> simp

theorem Connection.traded_apply (c : Connection) (buffers : Recycler) (usage : Usage) :
    ∃ back, Recycler.Traded ((Usage.received (c.apply buffers usage).1).length + back) back buffers
        (c.apply buffers usage).2.2 ∧
      ∀ response ∈ Usage.received (c.apply buffers usage).1, response.isReleased = false := by
  have nothing (outcome : Except Error Unit) :
      Usage.received (outcome.map fun _ => none) = [] := by
    cases outcome <;> rfl
  cases usage with
  | send frame =>
    simp only [apply, nothing]
    exact ⟨0, ⟨rfl, rfl⟩, by simp⟩
  | close | arrive | accept | flush => exact ⟨0, ⟨rfl, rfl⟩, by simp [apply, Usage.received]⟩
  | receive id =>
    have taken := c.reception_receive buffers id
    simp only [apply]
    generalize c.receive buffers id = result at taken
    obtain ⟨outcome, d, buffers'⟩ := result
    cases taken with
    | unread e => exact ⟨0, ⟨rfl, rfl⟩, by simp [Except.map, Usage.received]⟩
    | refused e n bytes =>
      have drawn := buffers.traded_draw n
      have back := (buffers.draw n).2.traded_giveBack ⟨bytes, (buffers.draw n).1⟩
      refine ⟨1, ⟨?_, ?_⟩, by simp [Except.map, Usage.received]⟩
      · exact back.handedOut_eq.trans drawn.handedOut_eq
      · exact back.handedBack_eq.trans (congrArg (· + 1) drawn.handedBack_eq)
    | @received response n bytes body =>
      refine ⟨0, buffers.traded_draw n, fun r hr => ?_⟩
      rw [List.mem_singleton.1 hr, Response.isReleased, body]
      rfl

namespace Readers

variable {s : Readers}

structure Conserved (s : Readers) : Prop where
  balance : s.buffers.handedOut = s.buffers.handedBack + s.receipts.countP Receipt.holds
  settled : ∀ r ∈ s.receipts, r.Settled

theorem conserved_use (h : Conserved s) (index : Nat) (usage : Usage) :
    Conserved (s.use index usage) := by
  unfold use
  split
  · next c _ =>
    obtain ⟨back, traded, held⟩ := c.traded_apply s.buffers usage
    simp only
    generalize c.apply s.buffers usage = result at traded held
    obtain ⟨outcome, d, buffers⟩ := result
    have all_hold : ((Usage.received outcome).map fun response => ({ response } : Receipt)).countP
        Receipt.holds = (Usage.received outcome).length := by
      rw [List.countP_map, List.countP_eq_length]
      intro response hr
      simp [Receipt.holds, held response hr]
    refine ⟨?_, fun r hr => ?_⟩
    · have balance := h.balance
      have out := traded.handedOut_eq
      have back := traded.handedBack_eq
      simp only [List.countP_append, all_hold] at out back ⊢
      omega
    · rcases List.mem_append.1 hr with old | new
      · exact h.settled r old
      · obtain ⟨response, hresponse, rfl⟩ := List.mem_map.1 new
        exact ⟨by rw [held response hresponse]; rfl, by simp⟩
  · exact h

theorem conserved_release (h : Conserved s) (index : Nat) (drops : Bool) :
    Conserved (s.release index drops) := by
  unfold release
  split
  · next response handedBack hr =>
    have settled := h.settled _ (List.mem_of_getElem? hr)
    have traded := response.traded_release s.buffers
    have released := response.isReleased_release s.buffers
    obtain ⟨inside, at_index⟩ := List.getElem?_eq_some_iff.1 hr
    simp only
    generalize response.release s.buffers = result at traded released
    obtain ⟨response', buffers⟩ := result
    have out := traded.handedOut_eq
    have back := traded.handedBack_eq
    refine ⟨?_, fun r hr => ?_⟩
    · -- a body that leaves the receipts has come to the recycler
      have balance := h.balance
      have counted : (!response.isReleased).toNat ≤ s.receipts.countP Receipt.holds := by
        cases held : response.isReleased
        · refine List.countP_pos_iff.2 ⟨_, List.mem_of_getElem? hr, ?_⟩
          simp [Receipt.holds, held]
        · exact Nat.zero_le _
      have left (receipt : Receipt) (empty : receipt.response.isReleased = true) :
          (s.receipts.set index receipt).countP Receipt.holds =
            s.receipts.countP Receipt.holds - (!response.isReleased).toNat := by
        rw [List.countP_set inside, at_index, Receipt.holds, Receipt.holds, empty]
        cases response.isReleased <;> rfl
      have fewer :=
        left ⟨response', drops, handedBack + (buffers.handedBack - s.buffers.handedBack)⟩
        released
      simp only at out back ⊢
      omega
    · rcases List.mem_or_eq_of_mem_set hr with old | rfl
      · exact h.settled r old
      · refine ⟨?_, fun _ => released⟩
        have := settled.handedBack_eq
        simp only at released this back ⊢
        rw [released, back, this]
        cases response.isReleased <;> simp
  · exact h

theorem conserved_step (h : Conserved s) (e : Event) : Conserved (s.step e) := by
  cases e with
  | join c => exact ⟨h.balance, h.settled⟩
  | use index usage => exact conserved_use h index usage
  | release index => exact conserved_release h index false
  | drop index => exact conserved_release h index true

theorem conserved_run (h : Conserved s) (events : List Event) : Conserved (s.run events) := by
  induction events generalizing s with
  | nil => exact h
  | cons e events ih => exact ih (conserved_step h e)

/-- A response that was released has nothing more to hand back. -/
theorem buffers_release_of_released {index : Nat} {r : Receipt} (h : s.receipts[index]? = some r)
    (released : r.response.isReleased = true) (drops : Bool) :
    (s.release index drops).buffers = s.buffers := by
  obtain ⟨response, dropped, handedBack⟩ := r
  have empty : response.buffer? = none := Response.isReleased_eq_true_iff.1 released
  unfold release
  rw [h]
  cases dropped
  · simp only [Response.release, empty]
  · rfl

/-- The response at `index` was released and has handed its body back, once. -/
structure Returned (s : Readers) (index : Nat) (r : Receipt) : Prop where
  receipt : s.receipts[index]? = some r
  isReleased : r.response.isReleased = true
  handedBack_eq : r.handedBack = 1

theorem Conserved.returned (h : Conserved s) {index : Nat} {r : Receipt}
    (receipt : s.receipts[index]? = some r) (released : r.response.isReleased = true) :
    s.Returned index r :=
  ⟨receipt, released, (h.settled r (List.mem_of_getElem? receipt)).handedBack_iff.2 released⟩

theorem exists_returned (h : Conserved s) {index : Nat} (inside : index < s.receipts.length)
    (drops : Bool) : ∃ r, (s.release index drops).Returned index r ∧
      (drops = true → r.dropped = true) := by
  have after := conserved_release h index drops
  obtain ⟨⟨response, dropped, handedBack⟩, found⟩ : ∃ r, s.receipts[index]? = some r :=
    ⟨_, List.getElem?_eq_getElem inside⟩
  cases dropped with
  | true =>
    -- the owner is gone, and what was dropped was released
    have same : s.release index drops = s := by
      unfold release
      rw [found]
    rw [same]
    have settled := h.settled _ (List.mem_of_getElem? found)
    exact ⟨_, h.returned found (settled.dropped rfl), fun _ => rfl⟩
  | false =>
    have released := response.isReleased_release s.buffers
    unfold release at after ⊢
    rw [found] at after ⊢
    exact ⟨_, after.returned (List.getElem?_set_self inside) released, id⟩

/-- What is true of the buffers and the responses between any two operations. -/
structure Recycled (s : Readers) : Prop where
  /-- A buffer that was drawn is back, or it is the body of a response. -/
  handedOut_eq : s.buffers.handedOut = s.buffers.handedBack + s.receipts.countP Receipt.holds
  once : ∀ r ∈ s.receipts, r.handedBack ≤ 1
  handedBack_iff : ∀ r ∈ s.receipts, r.handedBack = 1 ↔ r.response.isReleased = true
  dropped : ∀ r ∈ s.receipts, r.dropped = true → r.handedBack = 1
  empty : ∀ r ∈ s.receipts, r.response.isReleased = true → r.response.Empty
  /-- A response that is released has handed its body back then, whatever came before, ... -/
  released : ∀ index < s.receipts.length, ∃ r, (s.step (.release index)).Returned index r
  /-- ... and so has one that is dropped. -/
  ended : ∀ index < s.receipts.length, ∃ r,
    (s.step (.drop index)).Returned index r ∧ r.dropped = true
  /-- Releasing or dropping a response that was released hands nothing back. -/
  idempotent : ∀ index r drops, s.receipts[index]? = some r → r.response.isReleased = true →
    (s.release index drops).buffers = s.buffers
  /-- A reply that is refused costs no buffer: the memory that was drawn for it is back. -/
  reception : ∀ c ∈ s.connections, ∀ id,
    Connection.Reception s.buffers Response.buffer? (c.receive s.buffers id).1
      (c.receive s.buffers id).2.2

theorem recycled_run (connections : List Connection) (maxRetained maxCapacity : Nat)
    (events : List Event) :
    Recycled (run ⟨connections, { maxRetained, maxCapacity }, []⟩ events) := by
  have start : Conserved ⟨connections, { maxRetained, maxCapacity }, []⟩ := ⟨rfl, by simp⟩
  have conserved := conserved_run start events
  refine ⟨conserved.balance, ?_, ?_, ?_, ?_, ?_, ?_, ?_, ?_⟩
  · intro r hr
    rw [(conserved.settled r hr).handedBack_eq]
    exact Bool.toNat_le _
  · exact fun r hr => (conserved.settled r hr).handedBack_iff
  · intro r hr dropped
    have settled := conserved.settled r hr
    exact settled.handedBack_iff.2 (settled.dropped dropped)
  · exact fun r _ => Response.empty_of_isReleased
  · intro index inside
    obtain ⟨r, returned, -⟩ := exists_returned conserved inside false
    exact ⟨r, returned⟩
  · intro index inside
    obtain ⟨r, returned, dropped⟩ := exists_returned conserved inside true
    exact ⟨r, returned, dropped rfl⟩
  · exact fun index r drops h released => buffers_release_of_released h released drops
  · exact fun c _ id => c.reception_receive _ id

/-- One reply is received, the next one ends too early; the first is released twice and dropped. -/
theorem recycled_run_truncated :
    let start := Header.bytes ⟨18, 10, 8, .msg⟩
    let link : Link := { arrivals := [.data (start ++ [1, 2] ++ start ++ [3])] }
    let c : Connection := { id := 1, address := .localhost, link }
    let earlier : List Event := [.use 0 (.receive 8), .use 0 (.receive 8)]
    let s := run ⟨[c], { maxRetained := 16, maxCapacity := 1024 }, []⟩ earlier
    let t := s.run [.release 0, .release 0, .drop 0]
    (s.buffers.handedOut, s.buffers.handedBack) = (2, 1) ∧
      s.receipts.map (·.response.body) = [[1, 2]] ∧
      (t.buffers.handedOut, t.buffers.handedBack) = (2, 2) ∧
      t.receipts.map (fun r => (r.dropped, r.handedBack)) = [(true, 1)] ∧
      Recycled s ∧ Recycled t := by
  intro start link c earlier s t
  refine ⟨by decide +kernel, by decide +kernel, by decide +kernel, by decide +kernel,
    recycled_run [c] 16 1024 earlier, ?_⟩
  have all : t = run ⟨[c], { maxRetained := 16, maxCapacity := 1024 }, []⟩
      (earlier ++ [.release 0, .release 0, .drop 0]) := (List.foldl_append ..).symm
  rw [all]
  exact recycled_run [c] 16 1024 _

end Readers

end ClusterClient

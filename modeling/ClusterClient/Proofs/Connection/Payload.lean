import ClusterClient.Proofs.Connection.Exchanges
import ClusterClient.Proofs.Connection.Streaming

/-!
# Payloads

The payload of a stream is all the data that is still to arrive on it, whatever faults and ends come
in between. A read takes its bytes from the front of the payload and drops none. So a connection
whose payload is a sequence of letters either receives the first of them, and the others are left,
or fails and closes.

    payload arrivals = bytes ++ payload rest    for (bytes, rest, _) = fetch n arrivals
                                                                                   (payload_fetch)
    c.receive … id = (ok response, d, …) → the first letter answers id and is the response, and the
      others are the payload of d                                     (exists_taken_of_receive)
-/

namespace ClusterClient

namespace Link

/-! ## Reading and writing -/

def payload : List Arrival → Bytes
  | [] => []
  | .data bytes :: arrivals => bytes ++ payload arrivals
  | .fault _ :: arrivals => payload arrivals

theorem payload_append (first second : List Arrival) :
    payload (first ++ second) = payload first ++ payload second := by
  induction first with
  | nil => rfl
  | cons a first ih =>
    cases a with
    | data bytes => rw [List.cons_append, payload, payload, ih, List.append_assoc]
    | fault e => exact ih

theorem payload_fetch (n : Nat) (arrivals : List Arrival) :
    payload arrivals = (fetch n arrivals).1 ++ payload (fetch n arrivals).2.1 := by
  induction arrivals generalizing n with
  | nil => cases n <;> rfl
  | cons a arrivals ih =>
    cases n with
    | zero => simp [fetch]
    | succ n =>
      cases a with
      | fault e =>
        unfold fetch
        split
        · exact ih (n + 1)
        · rfl
      | data bytes =>
        unfold fetch
        split
        · next nothing =>
          rw [List.isEmpty_iff.1 nothing]
          rfl
        · split
          · simp only [payload, ← List.append_assoc, List.take_append_drop]
          · simp only [payload, ih (n + 1 - bytes.length), List.append_assoc]

theorem payload_of_read {link link' : Link} {n : Nat} {bytes : Bytes}
    (h : link.read n = (.ok bytes, link')) :
    bytes.length ≤ n ∧ payload link.arrivals = bytes ++ payload link'.arrivals := by
  have split := payload_fetch n link.arrivals
  have le := length_fetch_le n link.arrivals
  unfold read at h
  generalize fetch n link.arrivals = fetched at h split le
  obtain ⟨bytes', rest, fault⟩ := fetched
  cases fault with
  | none =>
    cases h
    exact ⟨le, split⟩
  | some e => cases h

/-- A write that finds no fault accepts everything. -/
theorem offer_of_fault_eq_none {bytes : Bytes} {acceptances : List Acceptance}
    (h : (offer bytes acceptances).2.2 = none) : (offer bytes acceptances).1 = bytes := by
  induction acceptances generalizing bytes with
  | nil => cases bytes <;> rfl
  | cons a acceptances ih =>
    cases bytes with
    | nil => rfl
    | cons b bytes =>
      cases a with
      | fault e =>
        unfold offer at h ⊢
        split at h
        · next again =>
          rw [if_pos again]
          exact ih h
        · cases h
      | upTo n =>
        cases n with
        | zero => cases h
        | succ n =>
          have rest : (offer (bytes.drop n) acceptances).1 = bytes.drop n := ih h
          simp only [offer, rest, List.cons_append, List.take_append_drop]

/-- The stream after a write. -/
structure Wrote (link : Link) (frame : Bytes) (outcome : Except IoError Unit) (link' : Link) :
    Prop where
  arrivals_eq : link'.arrivals = link.arrivals
  written_eq : outcome = .ok () → link'.written = link.written ++ frame

theorem wrote_write (link : Link) (frame : Bytes) :
    Wrote link frame (link.write frame).1 (link.write frame).2 := by
  have whole : (offer frame link.acceptances).2.2 = none →
      (offer frame link.acceptances).1 = frame := offer_of_fault_eq_none
  unfold write
  generalize offer frame link.acceptances = offered at whole
  obtain ⟨accepted, acceptances, fault⟩ := offered
  cases fault with
  | some e => exact ⟨rfl, fun ok => by cases ok⟩
  | none =>
    have all : accepted = frame := whole rfl
    simp only [all]
    exact ⟨flush_arrivals _, fun _ => flush_written _⟩

end Link

namespace Header

theorem eq_of_decode {frame : Bytes} {max max' : Nat} {h h' : Header}
    (decoded : decode frame max = .ok h) (decoded' : decode frame max' = .ok h') : h = h' := by
  simp only [decode] at decoded decoded'
  grind

end Header

namespace Connection

open Link

/-! ## Letters -/

/-- A complete reply, however long. -/
def Letter.Whole (l : Letter) : Prop := ∃ max, l.Complete max

/-- A letter is a header that answers its request, and a body. -/
structure Letter.Parts (l : Letter) (max : Nat) : Prop where
  header_eq : Header.decode l.frame max = .ok l.header
  responseTo_eq : l.header.responseTo = l.requestId
  body_eq : l.body = (l.frame.drop Header.size).take l.header.bodyLength
  length_eq : l.frame.length = Header.size + l.header.bodyLength

theorem Letter.Complete.parts {l : Letter} {max : Nat} (h : l.Complete max) : l.Parts max := by
  have decoded := h.decoded
  cases hd : Header.decode l.frame max with
  | error e =>
    rw [decodeReply_of_error hd] at decoded
    cases decoded
  | ok header =>
    rw [decodeReply_of_ok hd, Header.checkResponseTo] at decoded
    split at decoded
    · cases decoded
    · split at decoded
      · next same =>
        obtain ⟨rfl, body_eq⟩ := Prod.mk.inj (Except.ok.inj decoded)
        exact ⟨hd, same, body_eq.symm, h.length_eq.trans (Header.length_eq_of_decode hd)⟩
      · cases decoded

/-! ## Receiving -/

variable {c d : Connection} {buffers buffers' : Recycler} {id : Int32}

/-- The bytes of a reply that was read are the front of the payload. -/
structure Extracted (c : Connection) (id : Int32) (header : Header) (body : Bytes) (link : Link)
    (start : Bytes) : Prop where
  payload_eq : payload c.link.arrivals = start ++ (body ++ payload link.arrivals)
  header_eq : Header.decode start c.settings.maxMessageSize = .ok header
  length_start : start.length = Header.size
  length_body : body.length = header.bodyLength
  responseTo_eq : header.responseTo = id

theorem exists_extracted_of_readReply {header : Header} {buffer : Buffer} {link : Link}
    (h : c.readReply buffers id = (.ok (header, buffer), link, buffers')) :
    ∃ start, Extracted c id header buffer.bytes link start := by
  unfold readReply at h
  split at h
  · cases h
  · cases h
  · next start link₁ _ hstart =>
    obtain ⟨start_le, payload_eq⟩ := payload_of_read hstart
    split at h
    · cases h
    · next header' decoded =>
      have le_start := Header.size_le_of_decode decoded
      simp only at h
      split at h
      · cases h
      · next body link₂ hbody =>
        obtain ⟨body_le, payload_eq'⟩ := payload_of_read hbody
        split at h
        · cases h
        · next full =>
          split at h
          · cases h
          · next same =>
            cases h
            have length_start := Nat.le_antisymm start_le le_start
            have length_body := Nat.le_antisymm body_le (Nat.not_lt.1 full)
            rw [payload_eq'] at payload_eq
            rw [Header.checkResponseTo] at same
            split at same
            · next responseTo_eq =>
              exact ⟨start, payload_eq, decoded, length_start, length_body, responseTo_eq⟩
            · cases same

/-- The first of these letters is the response, and the others are left on the stream of `d`. -/
structure Taken (id : Int32) (response : Response) (d : Connection) (first : Letter)
    (others : List Letter) : Prop where
  requestId_eq : first.requestId = id
  responseTo_eq : response.header.responseTo = id
  content_eq : content response = (first.header, first.body)
  payload_eq : payload d.link.arrivals = others.flatMap (·.frame)

/-- Where the payload starts with a letter, the reply that was read is that letter. -/
theorem Extracted.taken {header : Header} {body : Bytes} {link : Link} {start rest : Bytes}
    (h : Extracted c id header body link start) {l : Letter} (whole : l.Whole)
    (payload_eq : payload c.link.arrivals = l.frame ++ rest) :
    l.requestId = id ∧ header = l.header ∧ body = l.body ∧ payload link.arrivals = rest := by
  obtain ⟨max, complete⟩ := whole
  obtain ⟨decoded, requestId_eq, body_eq, length_eq⟩ := complete.parts
  have joined : (start ++ body) ++ payload link.arrivals = l.frame ++ rest := by
    rw [List.append_assoc, ← h.payload_eq, payload_eq]
  have same : header = l.header := by
    have here := (Header.decode_append (Nat.le_of_eq h.length_start.symm)
      (body ++ payload link.arrivals) _).trans h.header_eq
    have there := (Header.decode_append (Header.size_le_of_decode decoded) rest max).trans decoded
    rw [← List.append_assoc, joined] at here
    exact Header.eq_of_decode here there
  obtain ⟨frame_eq, rest_eq⟩ := List.append_inj joined (by
    rw [List.length_append, h.length_start, h.length_body, length_eq, same])
  refine ⟨?_, same, ?_, rest_eq⟩
  · rw [← requestId_eq, ← same, h.responseTo_eq]
  · rw [body_eq, ← frame_eq, ← same, List.drop_left' h.length_start, ← h.length_body,
      List.take_length]

theorem exists_extracted_of_receive {response : Response}
    (h : c.receive buffers id = (.ok response, d, buffers')) :
    ∃ start, Extracted c id response.header response.body d.link start := by
  unfold receive at h
  split at h
  · cases h
  · simp only at h
    split at h
    · next header buffer hr =>
      cases h
      exact exists_extracted_of_readReply (Prod.ext hr rfl)
    · cases h

theorem exists_taken_of_receive {response : Response} {letters : List Letter}
    (h : c.receive buffers id = (.ok response, d, buffers'))
    (whole : ∀ l ∈ letters, l.Whole)
    (payload_eq : payload c.link.arrivals = letters.flatMap (·.frame)) :
    ∃ first others, letters = first :: others ∧ Taken id response d first others := by
  obtain ⟨start, extracted⟩ := exists_extracted_of_receive h
  cases letters with
  | nil =>
    -- a header has been read, so there was something to read
    have some := extracted.length_start
    have none := extracted.payload_eq
    rw [payload_eq] at none
    rw [(List.append_eq_nil_iff.1 none.symm).1] at some
    cases some
  | cons first others =>
    obtain ⟨requestId_eq, header_eq, body_eq, left⟩ :=
      extracted.taken (whole first List.mem_cons_self) payload_eq
    exact ⟨first, others, rfl, requestId_eq, extracted.responseTo_eq,
      Prod.ext header_eq body_eq, left⟩

/-- A connection that finds a letter for another request fails and closes. -/
theorem refused_of_foreign {l : Letter} {rest : Bytes} (whole : l.Whole)
    (payload_eq : payload c.link.arrivals = l.frame ++ rest) (foreign : l.requestId ≠ id) :
    ∃ e, (c.receive buffers id).1 = .error e ∧ (c.receive buffers id).2.1.closed = true := by
  cases h : (c.receive buffers id).1 with
  | error e => exact ⟨e, rfl, closed_of_receive (Prod.ext h rfl)⟩
  | ok response =>
    obtain ⟨start, extracted⟩ := exists_extracted_of_receive (Prod.ext h rfl)
    exact absurd (extracted.taken whole payload_eq).1 foreign

/-! ## Sending -/

theorem arrivals_send (c : Connection) (frame : Bytes) :
    (c.send frame).2.link.arrivals = c.link.arrivals := by
  have same := (c.link.wrote_write frame).arrivals_eq
  simp only [send]
  split
  · rfl
  · split
    · exact same
    · simp only [close]
      split
      · exact same
      · exact same

theorem written_of_send {frame : Bytes} (h : c.send frame = (.ok (), d)) :
    d.link.written = c.link.written ++ frame := by
  have wrote := c.link.wrote_write frame
  simp only [send] at h
  split at h
  · cases h
  · split at h
    · next ok =>
      cases h
      exact wrote.written_eq ok
    · cases h

end Connection

end ClusterClient

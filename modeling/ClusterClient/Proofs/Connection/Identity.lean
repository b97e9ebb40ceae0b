import ClusterClient.Connection.Dial
import ClusterClient.Connection.Usage

/-!
# The identity of a connection

Whatever is done with a connection, it stays the same one: the stream under it, its number and the
time it was opened do not change, and it is not opened again once it is closed. The stream is shut
down when the connection closes and at no other time.

    Follows c (c.apply buffers usage).2.1                                   (follows_apply)
    an attempt to connect follows the stream that it was given, and fails only after it was shut
      down                                                                  (ended_dial)
-/

namespace ClusterClient

/-! ## Links -/

namespace Link

/-- Two states of one stream. -/
structure Same (l m : Link) : Prop where
  serial_eq : m.serial = l.serial
  place_eq : m.place = l.place

/-- The stream has been read from or written to, but not shut down. -/
structure Advanced (l m : Link) : Prop extends Same l m where
  shutdowns_eq : m.shutdowns = l.shutdowns

theorem Advanced.trans {l m n : Link} (h : Advanced l m) (h' : Advanced m n) : Advanced l n :=
  ⟨⟨h'.serial_eq.trans h.serial_eq, h'.place_eq.trans h.place_eq⟩,
    h'.shutdowns_eq.trans h.shutdowns_eq⟩

theorem advanced_read (link : Link) (n : Nat) : Advanced link (link.read n).2 := ⟨⟨rfl, rfl⟩, rfl⟩

theorem advanced_flush (link : Link) : Advanced link link.flush.2 := by
  unfold flush
  split <;> exact ⟨⟨rfl, rfl⟩, rfl⟩

theorem advanced_write (link : Link) (frame : Bytes) : Advanced link (link.write frame).2 := by
  simp only [write]
  split
  · exact ⟨⟨rfl, rfl⟩, rfl⟩
  · next acceptances _ =>
    refine Advanced.trans ?_ (advanced_flush _)
    exact ⟨⟨rfl, rfl⟩, rfl⟩

end Link

namespace Connection

/-- The connection `d` is what `c` has become after some use. -/
structure Follows (c d : Connection) : Prop where
  id_eq : d.id = c.id
  address_eq : d.address = c.address
  openedAt_eq : d.openedAt = c.openedAt
  link : Link.Same c.link d.link
  closed : c.closed = true → d.closed = true
  shutdowns_eq : d.link.shutdowns + c.closed.toNat = c.link.shutdowns + d.closed.toNat

namespace Follows

variable {c d e : Connection}

theorem refl (c : Connection) : Follows c c := ⟨rfl, rfl, rfl, ⟨rfl, rfl⟩, fun hc => hc, rfl⟩

theorem trans (h : Follows c d) (h' : Follows d e) : Follows c e where
  id_eq := h'.id_eq.trans h.id_eq
  address_eq := h'.address_eq.trans h.address_eq
  openedAt_eq := h'.openedAt_eq.trans h.openedAt_eq
  link := ⟨h'.link.serial_eq.trans h.link.serial_eq, h'.link.place_eq.trans h.link.place_eq⟩
  closed hc := h'.closed (h.closed hc)
  shutdowns_eq := by
    have := h.shutdowns_eq
    have := h'.shutdowns_eq
    omega

/-- Only the stream has moved on. -/
theorem of_link {link : Link} (h : Link.Advanced c.link link) : Follows c { c with link } :=
  ⟨rfl, rfl, rfl, h.toSame, fun hc => hc, by simp only [h.shutdowns_eq]⟩

end Follows

/-! ## Uses -/

theorem follows_close (c : Connection) : Follows c c.close := by
  unfold close
  split
  · exact .refl c
  · next isOpen => exact ⟨rfl, rfl, rfl, ⟨rfl, rfl⟩, fun _ => rfl, by simp [isOpen, Link.shutdown]⟩

theorem follows_send (c : Connection) (frame : Bytes) : Follows c (c.send frame).2 := by
  simp only [send]
  split
  · exact .refl c
  · have h : Follows c { c with link := (c.link.write frame).2 } :=
      .of_link (c.link.advanced_write frame)
    split
    · exact h
    · exact h.trans (follows_close _)

theorem advanced_readReply (c : Connection) (buffers : Recycler) (responseTo : Int32) :
    Link.Advanced c.link (c.readReply buffers responseTo).2.1 := by
  have start := c.link.advanced_read Header.size
  unfold readReply
  split
  · next h => rwa [h] at start
  · next h => rwa [h] at start
  · next link _ h =>
    rw [h] at start
    split
    · exact start
    · next header _ =>
      have body := start.trans (link.advanced_read header.bodyLength)
      simp only
      split
      · next h => rwa [h] at body
      · next h =>
        rw [h] at body
        split
        · exact body
        · split <;> exact body

theorem follows_receive (c : Connection) (buffers : Recycler) (responseTo : Int32) :
    Follows c (c.receive buffers responseTo).2.1 := by
  simp only [receive]
  split
  · exact .refl c
  · have h : Follows c { c with link := (c.readReply buffers responseTo).2.1 } :=
      .of_link (c.advanced_readReply buffers responseTo)
    split
    · exact h
    · exact h.trans (follows_close _)

theorem follows_exchange (c : Connection) (buffers : Recycler) (requestId : Int32)
    (frame : Bytes) : Follows c (c.exchange buffers requestId frame).2.1 := by
  have sent := c.follows_send frame
  unfold exchange
  split
  · next h => rwa [h] at sent
  · next h =>
    rw [h] at sent
    exact sent.trans (follows_receive ..)

theorem follows_apply (c : Connection) (buffers : Recycler) (usage : Usage) :
    Follows c (c.apply buffers usage).2.1 := by
  cases usage with
  | send frame => exact c.follows_send frame
  | receive requestId => exact c.follows_receive buffers requestId
  | close => exact c.follows_close
  | arrive arrivals => exact .of_link ⟨⟨rfl, rfl⟩, rfl⟩
  | accept acceptances => exact .of_link ⟨⟨rfl, rfl⟩, rfl⟩
  | flush faults lulls => exact .of_link ⟨⟨rfl, rfl⟩, rfl⟩

end Connection

/-! ## Opening -/

theorem Dialogue.follows_run (d : Dialogue) (c : Connection) (buffers : Recycler) :
    c.Follows (d.run c buffers).2.1 := by
  induction d generalizing c buffers with
  | done outcome => exact .refl c
  | exchange requestId frame next ih =>
    have sent := c.follows_exchange buffers requestId frame
    simp only [run]
    exact sent.trans (ih _ _ _)

theorem Authenticator.follows_authenticate (a : Authenticator) (c : Connection)
    (buffers : Recycler) : c.Follows (a.authenticate c buffers).2.1 := by
  unfold authenticate
  split
  · exact .refl c
  · split
    · exact .refl c
    · next h _ =>
      have talked := (h.talk a.credential c).follows_run c buffers
      exact ⟨talked.id_eq, talked.address_eq, talked.openedAt_eq, talked.link, talked.closed,
        talked.shutdowns_eq⟩

namespace Dialer

/-- A connection on a stream that was just opened. -/
def begun (d : Dialer) (address : Address) (id : UInt32) (now : Instant) (link : Link) :
    Connection :=
  { id, address, link, settings := d.settings, openedAt := now }

/-- What an attempt to open a connection has to do with the stream that it was given. -/
inductive Ended (d : Dialer) (address : Address) (id : UInt32) (now : Instant) :
    Except Error Link → Dialed → Prop where
  | established {link : Link} {c : Connection} (follows : (d.begun address id now link).Follows c) :
      Ended d address id now (.ok link) (.established c)
  | rejected {link : Link} {c : Connection} {cause : Error}
      (follows : (d.begun address id now link).Follows c) (isShut : c.closed = true) :
      Ended d address id now (.ok link) (.failed cause (some c))
  | unopened {cause : Error} : Ended d address id now (.error cause) (.failed cause none)

theorem ended_dial (d : Dialer) (address : Address) (id : UInt32) (now : Instant)
    (stream : Except Error Link) (buffers : Recycler) :
    Ended d address id now stream (d.dial address id now stream buffers).1 := by
  unfold dial
  split
  · exact .unopened
  · next link =>
    simp only
    split
    · exact .established (.refl _)
    · next a _ =>
      have proved := a.follows_authenticate (d.begun address id now link) buffers
      split
      · next h =>
        rw [begun, h] at proved
        exact .established proved
      · next h =>
        rw [begun, h] at proved
        exact .rejected (proved.trans (Connection.follows_close _)) (Connection.closed_close _)

end Dialer

end ClusterClient

import ClusterClient.Connection.Network
import ClusterClient.Proofs.Connection.Lifecycle

/-!
# Exchanges

One request on a connection ends in one of three ways. It cannot be encoded, and nothing has
happened to the connection. It fails, and the connection is closed. Or it is answered, and the
connection is as open as it was.

    Conversed c id r (c.converse buffers n id r)                        (conversed_converse)
-/

namespace ClusterClient

/-- A request that is refused says so before it gets near a stream. -/
theorem Request.protocol_or_framing_of_encode {r : Request} {id : Int32}
    {settings : MessageSettings} {e : Error} (h : r.encode id settings = .error e) :
    (∃ text, e = .protocol text) ∨ ∃ cause, e = .framing cause := by
  unfold encode at h
  cases target : r.checkTarget with
  | error e' =>
    rw [target] at h
    obtain rfl : e' = e := Except.error.inj h
    unfold checkTarget at target
    grind
  | ok u =>
    rw [target] at h
    cases documents : r.checkDocuments settings.maxDocumentSize with
    | error e' =>
      rw [documents] at h
      obtain rfl : e' = e := Except.error.inj h
      unfold checkDocuments at documents
      grind
    | ok u =>
      rw [documents] at h
      simp only [bind, Except.bind, throw, throwThe, MonadExceptOf.throw] at h
      split at h
      · exact .inr ⟨_, (Except.error.inj h).symm⟩
      · cases h

namespace Connection

/-- How a request on the connection `c` ends, and what becomes of the connection. -/
inductive Conversed (c : Connection) (id : Int32) (r : Request) : Exchange → Connection → Prop where
  | unencoded {e : Error} (refused : r.encode id c.settings = .error e) :
      Conversed c id r ⟨.error e, none⟩ c
  | failed {frame : Bytes} {d : Connection} {e : Error} {sent : Option Bytes}
      (encoded : r.encode id c.settings = .ok frame) (follows : c.Follows d)
      (isClosed : d.closed = true) : Conversed c id r ⟨.error e, sent⟩ d
  | answered {frame : Bytes} {d : Connection} {response : Response}
      (encoded : r.encode id c.settings = .ok frame) (follows : c.Follows d)
      (isOpen : d.closed = false) : Conversed c id r ⟨.ok response, some frame⟩ d

theorem Conversed.follows {c d : Connection} {id : Int32} {r : Request} {x : Exchange}
    (h : Conversed c id r x d) : c.Follows d := by
  cases h with
  | unencoded => exact .refl c
  | failed _ follows | answered _ follows => exact follows

theorem conversed_converse (c : Connection) (buffers : Recycler) (n : Network) (id : Int32)
    (r : Request) :
    Conversed c id r (c.converse buffers n id r).1 (c.converse buffers n id r).2.1 := by
  unfold converse
  split
  · next e refused => exact .unencoded refused
  · next frame encoded =>
    let c₁ : Connection := {
      c with link := { c.link with acceptances := n.accepts c.address c.link } }
    have accepted : c.Follows c₁ := c.follows_apply buffers (.accept (n.accepts c.address c.link))
    have sent := accepted.trans (c₁.follows_send frame)
    simp only [apply]
    rcases hs : c₁.send frame with ⟨e | u, c₂⟩
    · rw [hs] at sent
      exact .failed encoded sent (closed_of_send hs)
    · rw [hs] at sent
      let c₃ : Connection := {
        c₂ with link := { c₂.link with arrivals := n.arrivals c₂.address c₂.link frame } }
      have arrived : c₂.Follows c₃ :=
        c₂.follows_apply buffers (.arrive (n.arrivals c₂.address c₂.link frame))
      have received := (sent.trans arrived).trans (c₃.follows_receive buffers id)
      simp only [Except.map]
      rcases hr : c₃.receive buffers id with ⟨e | response, d, buffers'⟩
      · rw [hr] at received
        exact .failed encoded received (closed_of_receive hr)
      · rw [hr] at received
        exact .answered encoded received (isOpen_of_receive hr)

end Connection

end ClusterClient

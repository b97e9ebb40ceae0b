import ClusterClient.Connection.Basic

/-!
# Opening connections

A stream is opened and, where a credential is configured, the connection proves itself on it before
anyone else may use it. The handler of the mechanism that the credential names holds the dialogue;
of several handlers of one name the first is taken. A connection that fails to prove itself is
closed.

    dial … = (established c, …) → c is open                     (closed_of_dial, without credential)
-/

namespace ClusterClient

/-- What one side of an authentication says, depending on the answers. -/
inductive Dialogue where
  | done (outcome : Except String Unit)
  | exchange (requestId : Int32) (frame : Bytes) (next : Except Error Response → Dialogue)

/-- Holds a dialogue on a connection. Each response is released once the next step is known. -/
def Dialogue.run : Dialogue → Connection → Recycler → Except String Unit × Connection × Recycler
  | .done outcome, c, buffers => (outcome, c, buffers)
  | .exchange requestId frame next, c, buffers =>
    let (answer, c, buffers) := c.exchange buffers requestId frame
    let buffers := match answer with
      | .ok response => (response.release buffers).2
      | .error _ => buffers
    (next answer).run c buffers

/-- One way to prove who is speaking. -/
structure Handler where
  mechanism : Mechanism
  talk : Credential → Connection → Dialogue

structure Authenticator where
  credential : Credential
  handlers : List Handler

namespace Authenticator

/-- Runs the handler of the mechanism that the credential names. -/
def authenticate (a : Authenticator) (c : Connection) (buffers : Recycler) :
    Except String Unit × Connection × Recycler :=
  match a.credential.mechanism with
  | none => (.error "the credential does not name an authentication mechanism", c, buffers)
  | some m =>
    match a.handlers.find? (·.mechanism == m) with
    | none =>
      (.error ("authentication mechanism " ++ m.name ++ " is not supported"), c, buffers)
    | some h =>
      let (outcome, c, buffers) := (h.talk a.credential c).run c buffers
      let conversation : Conversation :=
        ⟨a.handlers.findIdx (·.mechanism == m), m, a.credential, outcome.isOk⟩
      (outcome, { c with conversations := c.conversations ++ [conversation] }, buffers)

end Authenticator

/-- How the connections of a client are set up. -/
structure Dialer where
  settings : MessageSettings := {}
  authenticator : Option Authenticator := none

/-- The end of an attempt to open a connection. -/
inductive Dialed where
  | established (connection : Connection)
  /-- A stream that was opened before the failure is shut down. -/
  | failed (cause : Error) (shut : Option Connection)

namespace Dialer

/-- Sets up a connection on the stream that was opened for it. -/
def dial (d : Dialer) (address : Address) (id : UInt32) (now : Instant)
    (stream : Except Error Link) (buffers : Recycler) : Dialed × Recycler :=
  match stream with
  | .error e => (.failed e none, buffers)
  | .ok link =>
    let c : Connection := { id, address, link, settings := d.settings, openedAt := now }
    match d.authenticator with
    | none => (.established c, buffers)
    | some a =>
      match a.authenticate c buffers with
      | (.ok (), c, buffers) => (.established c, buffers)
      | (.error cause, c, buffers) =>
        (.failed (.authentication a.credential.username cause) (some c.close), buffers)

theorem closed_of_dial {d : Dialer} {address : Address} {id : UInt32} {now : Instant}
    {stream : Except Error Link} {buffers : Recycler} {c : Connection} {buffers' : Recycler}
    (hd : d.authenticator = none)
    (h : d.dial address id now stream buffers = (.established c, buffers')) : c.closed = false := by
  unfold dial at h
  rw [hd] at h
  cases stream with
  | error e => simp at h
  | ok link =>
    simp only [Prod.mk.injEq, Dialed.established.injEq] at h
    rw [← h.1]

end Dialer

end ClusterClient

import ClusterClient.Connection.Network
import ClusterClient.Server.Reply

/-!
# Probing a server

The state of a server is asked for with the command `ismaster`. The document in the reply is read
by a decoder that knows its format.
-/

namespace ClusterClient

/-- The document `ismaster: 1` in serialised form. -/
def isMasterDocument : Bytes :=
  [0x13, 0, 0, 0, 0x10, 0x69, 0x73, 0x6D, 0x61, 0x73, 0x74, 0x65, 0x72, 0, 1, 0, 0, 0, 0]

def isMasterRequest : Request :=
  .query "admin.$cmd" .slaveOk 0 (-1) isMasterDocument none

/-- The document in the response to the command. -/
def Response.isMasterDocument (r : Response) : Except Error Bytes := do
  let p ← r.replyPrefix.mapError .framing
  if p.isQueryFailure then throw (.protocol "ismaster query failed")
  match r.documents with
  | d :: _ => return d
  | [] => throw (.protocol "ismaster reply contains no document")

/-- A reply that does not report success is a failure with the message that it gives. -/
def ProbeReply.checked (r : ProbeReply) : Except Error ProbeReply :=
  if r.isOk then .ok r else .error (.protocol (r.errmsg.getD "ismaster failed"))

/-- What came of a probe. -/
structure ProbeOutcome where
  result : Except Error ProbeReply
  /-- The frame, if it was sent. -/
  sent : Option Bytes := none
  /-- The document that was handed to the decoder, if it came to that. -/
  document : Option Bytes := none

namespace Connection

/-- Probes the server; the response is released in the end. -/
def probe (c : Connection) (buffers : Recycler) (n : Network) (requestId : Int32)
    (decode : Bytes → Except String ProbeReply) : ProbeOutcome × Connection × Recycler :=
  match c.converse buffers n requestId isMasterRequest with
  | (⟨.error e, sent⟩, c, buffers) => (⟨.error e, sent, none⟩, c, buffers)
  | (⟨.ok response, sent⟩, c, buffers) =>
    let (_, buffers) := response.release buffers
    match response.isMasterDocument with
    | .error e => (⟨.error e, sent, none⟩, c, buffers)
    | .ok d =>
      let result := match decode d with
        | .error cause => .error (.protocol ("invalid ismaster reply: " ++ cause))
        | .ok reply => reply.checked
      (⟨result, sent, some d⟩, c, buffers)

end Connection

end ClusterClient

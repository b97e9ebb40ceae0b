import ClusterClient.Address.Basic
import ClusterClient.Duration
import ClusterClient.Text.Quoted

/-!
# Errors

Every way in which an operation of this library fails, as its cause. `Error.message` words it.
-/

namespace ClusterClient

open Text

/-- What an input or output operation failed with, as far as it makes a difference here. -/
inductive IoErrorKind where
  | interrupted
  | timedOut
  | wouldBlock
  | unexpectedEof
  | brokenPipe
  | connectionReset
  | connectionAborted
  | connectionRefused
  | writeZero
  | other
deriving DecidableEq, Repr

namespace IoErrorKind

/-- The name of the kind in reports. -/
def label : IoErrorKind → String
  | interrupted => "Interrupted"
  | timedOut => "TimedOut"
  | wouldBlock => "WouldBlock"
  | unexpectedEof => "UnexpectedEof"
  | brokenPipe => "BrokenPipe"
  | connectionReset => "ConnectionReset"
  | connectionAborted => "ConnectionAborted"
  | connectionRefused => "ConnectionRefused"
  | writeZero => "WriteZero"
  | other => "Other"

def distinguished : List IoErrorKind :=
  [interrupted, timedOut, wouldBlock, unexpectedEof, brokenPipe, connectionReset,
    connectionAborted, connectionRefused, writeZero]

/-- The kind of a name. Kinds that make no difference have no name of their own. -/
def ofLabel (name : String) : IoErrorKind :=
  (distinguished.find? fun k => k.label == name).getD other

end IoErrorKind

structure IoError where
  kind : IoErrorKind
  text : String
deriving DecidableEq, Repr

/-- What is wrong with a message as a sequence of bytes. -/
inductive FramingError where
  | truncatedHeader (actual : Nat)
  | truncatedBody (expected actual : Nat)
  | invalidLength (length : Int32)
  | messageTooLarge (length max : Nat)
  | responseToMismatch (expected actual : Int32)
  | unknownOpCode (code : Int32)
deriving DecidableEq, Repr

inductive Error where
  | connectTimeout (address : Address)
  | socketTimeout (address : Address)
  | poolExhausted (address : Address) (maxWaitQueueSize : Nat)
  | poolWaitTimeout (address : Address) (timeout : Duration)
  | poolClosed (address : Address)
  | selectionTimeout (timeout : Duration) (selector cluster : String)
  | framing (cause : FramingError)
  | replicaSetMismatch (address : Address) (expected actual : String)
  | authentication (user : Option String) (cause : String)
  | protocol (text : String)
  | connectionClosed (address : Address)
  | clusterClosed
  | invalidSettings (text : String)
  | invalidAddress (text : String)
  | io (cause : IoError)
deriving DecidableEq, Repr

/-- The name of the cause in reports. -/
def FramingError.label : FramingError → String
  | truncatedHeader _ => "TruncatedHeader"
  | truncatedBody .. => "TruncatedBody"
  | invalidLength _ => "InvalidLength"
  | messageTooLarge .. => "MessageTooLarge"
  | responseToMismatch .. => "ResponseToMismatch"
  | unknownOpCode _ => "UnknownOpCode"

/-- The text of a signed number. -/
def signedText (n : Int32) : String := toString n.toInt

def FramingError.message : FramingError → String
  | truncatedHeader actual => "expected a header of 16 bytes, got " ++ toString actual ++ " bytes"
  | truncatedBody expected actual =>
    "expected a body of " ++ toString expected ++ " bytes, got " ++ toString actual ++ " bytes"
  | invalidLength length => "invalid message length " ++ signedText length
  | messageTooLarge length max =>
    "message of " ++ toString length ++ " bytes exceeds the maximum of " ++ toString max ++ " bytes"
  | responseToMismatch expected actual =>
    "expected a response to request " ++ signedText expected ++
      ", got a response to request " ++ signedText actual
  | unknownOpCode code => "unknown op code " ++ signedText code

namespace Error

def message : Error → String
  | connectTimeout a => "timed out connecting to " ++ a.text
  | socketTimeout a => "timed out reading from or writing to " ++ a.text
  | poolExhausted a max =>
    "too many threads are waiting for a connection to " ++ a.text ++
      " (max " ++ toString max ++ ")"
  | poolWaitTimeout a timeout =>
    "timed out after " ++ timeout.text ++ " waiting for a connection to " ++ a.text
  | poolClosed a => "the connection pool to " ++ a.text ++ " is closed"
  | selectionTimeout timeout selector cluster =>
    "timed out after " ++ timeout.text ++ " waiting for a server that matches " ++ selector ++
      ", cluster is " ++ cluster
  | framing cause => "invalid message frame: " ++ cause.message
  | replicaSetMismatch a expected actual =>
    a.text ++ " belongs to replica set `" ++ actual ++ "`, but `" ++ expected ++ "` is required"
  | authentication user cause =>
    "failed to authenticate user " ++ quoted? user ++ ": " ++ cause
  | protocol text => "protocol error: " ++ text
  | connectionClosed a => "the connection to " ++ a.text ++ " is closed"
  | clusterClosed => "the cluster is closed"
  | invalidSettings text => "invalid settings: " ++ text
  | invalidAddress text => "invalid server address `" ++ text ++ "`"
  | io cause => cause.text

/-- The name of the cause in reports. -/
def label : Error → String
  | connectTimeout _ => "ConnectTimeout"
  | socketTimeout _ => "SocketTimeout"
  | poolExhausted .. => "PoolExhausted"
  | poolWaitTimeout .. => "PoolWaitTimeout"
  | poolClosed _ => "PoolClosed"
  | selectionTimeout .. => "SelectionTimeout"
  | framing _ => "Framing"
  | replicaSetMismatch .. => "ReplicaSetMismatch"
  | authentication .. => "Authentication"
  | protocol _ => "Protocol"
  | connectionClosed _ => "ConnectionClosed"
  | clusterClosed => "ClusterClosed"
  | invalidSettings _ => "InvalidSettings"
  | invalidAddress _ => "InvalidAddress"
  | io _ => "Io"

/-- Timeouts are worth another try by the caller, unlike most other failures. -/
def isTimeout : Error → Bool
  | connectTimeout _ | socketTimeout _ | poolWaitTimeout .. | selectionTimeout .. => true
  | _ => false

end Error

end ClusterClient

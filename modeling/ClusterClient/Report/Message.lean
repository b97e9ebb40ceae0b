import ClusterClient.Report.Failure
import ClusterClient.Text.Hex
import ClusterClient.Wire.Response

/-!
# Reports of messages

Bytes are reported in hexadecimal, numbers of 64 bits as texts.
-/

namespace ClusterClient

def Bytes.report (bytes : Bytes) : Json := .string (Text.Hex.text bytes)

def Header.report (h : Header) : Json :=
  .object [("length", .integer h.length.toInt), ("requestId", .integer h.requestId.toInt),
    ("responseTo", .integer h.responseTo.toInt), ("opCode", .string h.opCode.label)]

def ReplyPrefix.report (p : ReplyPrefix) : Json :=
  .object [("flags", .integer p.flags.toNat), ("cursorId", .numeral p.cursorId.toInt),
    ("startingFrom", .integer p.startingFrom.toInt),
    ("numberReturned", .integer p.numberReturned.toInt),
    ("cursorNotFound", .bool p.isCursorNotFound), ("queryFailure", .bool p.isQueryFailure)]

def prefixReport : Except FramingError ReplyPrefix → Json
  | .ok p => p.report
  | .error e => e.report

namespace Response

def documentsReport (r : Response) : Json := .list Bytes.report r.documents

/-- The response with its whole body. -/
def report (r : Response) : Json :=
  .object [("header", r.header.report), ("body", Bytes.report r.body),
    ("documents", r.documentsReport)]

/-- The response with the fixed fields of its body. -/
def reportWithPrefix (r : Response) : Json :=
  .object [("header", r.header.report), ("prefix", prefixReport r.replyPrefix),
    ("documents", r.documentsReport)]

end Response

end ClusterClient

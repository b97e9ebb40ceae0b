import ClusterClient.Json.Basic

/-!
# Reports of failures

A failure is reported by the name of its cause and its message.
-/

namespace ClusterClient

/-- A failure by its name and message. -/
def failureReport (name message : String) : Json :=
  .object [("error", .string name), ("message", .string message)]

def FramingError.report (e : FramingError) : Json := failureReport e.label e.message

def Error.report (e : Error) : Json := failureReport e.label e.message

/-- A refusal tells more than the fact only if a text means nothing. -/
def Refusal.report : Refusal → Json
  | .shape => .object [("error", .string "Deserialize")]
  | .text e => failureReport "Deserialize" e.message

/-- The report of a check that tells nothing if it passes. -/
def checkReport : Except Error Unit → Json
  | .ok () => .null
  | .error e => e.report

end ClusterClient

import ClusterClient.Text.Blank
import ClusterClient.Text.Quoted

/-!
# Server addresses

A host name or IP literal and a port. Host names are kept in one spelling: without blanks or
brackets around them and in ASCII lower case, so that one server has one address.

Addresses are ordered by host, code point by code point, and then by port.
-/

namespace ClusterClient

open Text

structure Address where
  host : String
  port : UInt16
deriving DecidableEq, Repr, Hashable

namespace Address

/-! ## Algorithm -/

def defaultPort : UInt16 := 27017

/-- The one spelling of a host. The blanks outside the brackets are dropped first, those inside
them are kept. -/
def canonicalHost (cs : List Char) : List Char :=
  (dropEndWhile (· == ']') ((trim cs).dropWhile (· == '['))).map Char.toLower

def ofHost (host : String) (port : UInt16) : Address :=
  ⟨String.ofList (canonicalHost host.toList), port⟩

/-- The address of a server on this machine. -/
def localhost : Address := ofHost "127.0.0.1" defaultPort

instance : Ord Address := ⟨compareLex (compareOn host) (compareOn port)⟩

/-- Whether `a` comes before `b` or is the same address. -/
def le (a b : Address) : Bool := (compare a b).isLE

/-- `host:port`, with brackets around a host that holds a colon itself. -/
def text (a : Address) : String :=
  if a.host.toList.contains ':' then
    "[" ++ a.host ++ "]:" ++ toString a.port.toNat
  else
    a.host ++ ":" ++ toString a.port.toNat

def debugText (a : Address) : String :=
  "ServerAddress \x7b host: " ++ quoted a.host ++ ", port: " ++ toString a.port.toNat ++ " \x7d"

/-- A decimal port number, leading zeros and one plus sign allowed. -/
def readPort (cs : List Char) : Option UInt16 :=
  let digits := match cs with
    | '+' :: rest => rest
    | _ => cs
  if digits.isEmpty || !digits.all Char.isDigit then none
  else
    let n : Nat := digits.foldl (fun n c => 10 * n + (c.toNat - '0'.toNat)) 0
    if n < 65536 then some n.toUInt16 else none

/-- The address of a host that must not be empty as it is written. -/
def ofWrittenHost (host : List Char) (port : UInt16) : Option Address :=
  if host.isEmpty then none else some ⟨String.ofList (canonicalHost host), port⟩

/-- Reads a text without blanks around it: `[host]`, `[host]:port`, `host`, `host:port`, or a host
with two colons or more, which has no port. -/
def read? (cs : List Char) : Option Address :=
  match cs with
  | [] => none
  | '[' :: rest =>
    let host := rest.takeWhile (· != ']')
    match rest.dropWhile (· != ']') with
    | [_] => ofWrittenHost host defaultPort
    | _ :: ':' :: port => (readPort port).bind (ofWrittenHost host)
    | _ => none
  | _ =>
    match cs.dropWhile (· != ':') with
    | [] => ofWrittenHost cs defaultPort
    | _ :: port =>
      if port.contains ':' then ofWrittenHost cs defaultPort
      else (readPort port).bind (ofWrittenHost (cs.takeWhile (· != ':')))

/-! ## Lemmas -/

theorem ofWrittenHost_eq_some_iff {host : List Char} {port : UInt16} {a : Address} :
    ofWrittenHost host port = some a ↔
      host ≠ [] ∧ a = ⟨String.ofList (canonicalHost host), port⟩ := by
  cases host <;> simp [ofWrittenHost, eq_comm]

theorem read?_nil : read? [] = none := rfl

end Address

end ClusterClient

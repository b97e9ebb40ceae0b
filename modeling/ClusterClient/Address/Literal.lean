import ClusterClient.Address.Basic
import ClusterClient.Text.Hex

/-!
# IP literals

Addresses whose host is an IP address in its own right need no resolver. `socketText?` gives the
text of the socket address they stand for.

An IPv4 address is four decimal numbers up to 255, without leading zeros. An IPv6 address is eight
groups of up to four hexadecimal digits; one run of at least one zero group may be left out (`::`),
and an IPv4 address may stand for the last two groups. It is written back with the longest run of
two zero groups or more left out, the first of several, and an IPv4 address mapped into IPv6 keeps
its decimal numbers.
-/

namespace ClusterClient.Address

/-! ## Reading -/

/-- The pieces between the separators, as many as there are separators and one more. -/
def pieces (separator : Char) : List Char → List (List Char)
  | [] => [[]]
  | c :: cs =>
    if c = separator then [] :: pieces separator cs
    else match pieces separator cs with
      | [] => [[c]]
      | p :: ps => (c :: p) :: ps

def octet? (cs : List Char) : Option Nat :=
  let n : Nat := cs.foldl (fun n c => 10 * n + (c.toNat - '0'.toNat)) 0
  if cs.isEmpty || 3 < cs.length || !cs.all Char.isDigit || 255 < n then none
  else if 1 < cs.length && cs.head? == some '0' then none
  else some n

def octets? (cs : List Char) : Option (List Nat) :=
  let parts := pieces '.' cs
  if parts.length = 4 then parts.mapM octet? else none

def group? (cs : List Char) : Option Nat :=
  if cs.isEmpty || 4 < cs.length then none
  else Text.Hex.value? cs

/-- The groups of a text between colons, of which the last may be an IPv4 address. -/
def groups? (cs : List Char) : Option (List Nat) :=
  if cs.isEmpty then some []
  else
    let parts := pieces ':' cs
    let front := parts.dropLast.mapM group?
    match parts.getLast?, front with
    | some last, some gs =>
      match group? last, octets? last with
      | some g, _ => some (gs ++ [g])
      | none, some [a, b, c, d] => some (gs ++ [256 * a + b, 256 * c + d])
      | _, _ => none
    | _, _ => none

/-- Splits at the first `::`. -/
def splitAtGap : List Char → Option (List Char × List Char)
  | ':' :: ':' :: rest => some ([], rest)
  | c :: rest => (splitAtGap rest).map fun r => (c :: r.1, r.2)
  | [] => none

/-- The eight groups of an IPv6 address. -/
def ipv6? (cs : List Char) : Option (List Nat) :=
  match splitAtGap cs with
  | none => (groups? cs).bind fun gs => if gs.length = 8 then some gs else none
  | some (front, back) =>
    if front.contains '.' then none
    else match groups? front, groups? back with
      | some f, some b =>
        if f.length + b.length ≤ 7 then some (f ++ List.replicate (8 - f.length - b.length) 0 ++ b)
        else none
      | _, _ => none

/-! ## Writing -/

def joined (separator : String) (parts : List String) : String :=
  separator.intercalate parts

def octetsText (octets : List Nat) : String :=
  joined "." (octets.map toString)

def groupsText (groups : List Nat) : String :=
  joined ":" (groups.map fun g => String.ofList (Nat.toDigits 16 g))

/-- Start and length of the longest run of zeros, the first of several. The runs are counted from
the left, `current` being the one that ends at position `i`. -/
def longestZeroRun (i : Nat) (current best : Nat × Nat) : List Nat → Nat × Nat
  | [] => best
  | g :: gs =>
    if g = 0 then
      let current := if current.2 = 0 then (i, 1) else (current.1, current.2 + 1)
      longestZeroRun (i + 1) current (if best.2 < current.2 then current else best) gs
    else longestZeroRun (i + 1) (0, 0) best gs

def ipv6Text (groups : List Nat) : String :=
  match groups with
  | [0, 0, 0, 0, 0, 0xFFFF, hi, lo] =>
    "::ffff:" ++ octetsText [hi / 256, hi % 256, lo / 256, lo % 256]
  | _ =>
    let run := longestZeroRun 0 (0, 0) (0, 0) groups
    if 1 < run.2 then
      groupsText (groups.take run.1) ++ "::" ++ groupsText (groups.drop (run.1 + run.2))
    else groupsText groups

/-- The socket address that an address with an IP literal as its host stands for, and `none` for a
host name, which a resolver has to look up. -/
def socketText? (a : Address) : Option String :=
  match octets? a.host.toList, ipv6? a.host.toList with
  | some octets, _ => some (octetsText octets ++ ":" ++ toString a.port.toNat)
  | none, some groups => some ("[" ++ ipv6Text groups ++ "]:" ++ toString a.port.toNat)
  | none, none => none

end ClusterClient.Address

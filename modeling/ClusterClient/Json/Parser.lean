import ClusterClient.Json.Number
import ClusterClient.Text.Hex

/-!
# JSON text

Reading a value from text. A value is read from the front of the characters that are left, and what
follows it is handed on. An object keeps the last of several entries of one key.
-/

namespace ClusterClient.Json

open Text

def isBlank (c : Char) : Bool := c == ' ' || c == '\n' || c == '\t' || c == '\r'

def skipBlanks (cs : List Char) : List Char := cs.dropWhile isBlank

/-- Whether a character can be part of a number. -/
def isNumeric (c : Char) : Bool :=
  c.isDigit || c == '-' || c == '+' || c == '.' || c == 'e' || c == 'E'

/-! ## Texts -/

/-- The character that a letter after a backslash stands for. -/
def escaped? : Char → Option Char
  | '"' => some '"'
  | '\\' => some '\\'
  | '/' => some '/'
  | 'b' => some '\x08'
  | 'f' => some '\x0c'
  | 'n' => some '\n'
  | 'r' => some '\r'
  | 't' => some '\t'
  | _ => none

/-- The character that a pair of surrogate code units stands for. -/
def surrogatePair? (high low : Nat) : Option Char :=
  if 0xDC00 ≤ low ∧ low < 0xE000 then
    some (Char.ofNat (0x10000 + (high - 0xD800) * 0x400 + (low - 0xDC00)))
  else none

/-- A text up to the quote that ends it. The characters read so far are in `acc`, the last one
first, and `high` is the first half of a surrogate pair that was just read. -/
def readText (acc : List Char) (high : Option Nat) : List Char → Option (String × List Char)
  | '\\' :: 'u' :: a :: b :: c :: d :: rest =>
    match Hex.value? [a, b, c, d], high with
    | none, _ => none
    | some unit, some high =>
      (surrogatePair? high unit).bind fun c => readText (c :: acc) none rest
    | some unit, none =>
      if 0xD800 ≤ unit ∧ unit < 0xDC00 then readText acc (some unit) rest
      else if 0xDC00 ≤ unit ∧ unit < 0xE000 then none
      else readText (Char.ofNat unit :: acc) none rest
  | '\\' :: c :: rest =>
    if high.isSome then none
    else (escaped? c).bind fun c => readText (c :: acc) none rest
  | '"' :: rest => if high.isSome then none else some (String.ofList acc.reverse, rest)
  | c :: rest => if high.isSome || c < ' ' then none else readText (c :: acc) none rest
  | [] => none

/-! ## Values -/

mutual

/-- A value at the front. -/
def readValue : (fuel : Nat) → List Char → Option (Json × List Char)
  | 0, _ => none
  | fuel + 1, cs =>
    match skipBlanks cs with
    | '\x7b' :: rest => readEntries fuel [] (skipBlanks rest)
    | '[' :: rest => readItems fuel [] (skipBlanks rest)
    | '"' :: rest => (readText [] none rest).map fun (s, rest) => (.string s, rest)
    | 't' :: 'r' :: 'u' :: 'e' :: rest => some (.bool true, rest)
    | 'f' :: 'a' :: 'l' :: 's' :: 'e' :: rest => some (.bool false, rest)
    | 'n' :: 'u' :: 'l' :: 'l' :: rest => some (.null, rest)
    | cs =>
      if (cs.takeWhile isNumeric).isEmpty then none
      else some (readNumber (cs.takeWhile isNumeric), cs.dropWhile isNumeric)

/-- The items of an array up to its end. -/
def readItems : (fuel : Nat) → List Json → List Char → Option (Json × List Char)
  | 0, _, _ => none
  | _ + 1, acc, ']' :: rest => some (.array acc.reverse, rest)
  | fuel + 1, acc, ',' :: rest => readItems fuel acc (skipBlanks rest)
  | fuel + 1, acc, cs =>
    match readValue fuel cs with
    | some (item, rest) => readItems fuel (item :: acc) (skipBlanks rest)
    | none => none

/-- The entries of an object up to its end. -/
def readEntries : (fuel : Nat) → List (String × Json) → List Char → Option (Json × List Char)
  | 0, _, _ => none
  | _ + 1, acc, '\x7d' :: rest => some (.ofEntries acc.reverse, rest)
  | fuel + 1, acc, ',' :: rest => readEntries fuel acc (skipBlanks rest)
  | fuel + 1, acc, '"' :: rest =>
    match readText [] none rest with
    | some (key, rest) =>
      match skipBlanks rest with
      | ':' :: rest =>
        match readValue fuel rest with
        | some (value, rest) => readEntries fuel ((key, value) :: acc) (skipBlanks rest)
        | none => none
      | _ => none
    | none => none
  | _ + 1, _, _ => none

end

/-- The value of a whole text. -/
def parse? (text : String) : Option Json :=
  let cs := text.toList
  match readValue (2 * cs.length + 2) cs with
  | some (value, rest) => if (skipBlanks rest).isEmpty then some value else none
  | none => none

end ClusterClient.Json

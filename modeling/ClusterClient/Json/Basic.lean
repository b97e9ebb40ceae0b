import ClusterClient.Entries
import ClusterClient.Error

/-!
# JSON values

The form in which settings and probe replies arrive from outside. Readers are strict about types:
a whole number must be written as one, and nothing stands for something else but `null` for an
optional text that is missing.

An object is read field by field in ascending order of the keys (`foldFields`): keys that are
unknown are skipped, missing ones leave the value that the reader started from, and the first field
that is refused decides why the object is refused.
-/

namespace ClusterClient

inductive Json where
  | null
  | bool (value : Bool)
  /-- A number written without a fraction or exponent, in the range of 64 bit words. -/
  | integer (value : Int)
  | real (value : Float)
  | string (value : String)
  | array (items : List Json)
  /-- The entries in ascending order of the keys. -/
  | object (entries : List (String × Json))

/-- Why a JSON value was refused: it has the wrong shape, or a text in it means nothing. -/
inductive Refusal where
  | shape
  | text (cause : Error)
deriving DecidableEq, Repr

namespace Json

def ofEntries (entries : List (String × Json)) : Json :=
  .object (Entries.ofList entries)

/-! ## Values -/

def ofOption {α : Type} (f : α → Json) : Option α → Json
  | some a => f a
  | none => .null

def list {α : Type} (f : α → Json) (xs : List α) : Json := .array (xs.map f)

/-- A number as text, for numbers that other readers of JSON might round. -/
def numeral (n : Int) : Json := .string (toString n)

/-- A duration as the text of its nanoseconds. -/
def nanos (d : Duration) : Json := numeral d.nanos

/-! ## Readers -/

/-- Reads the fields of an object one after the other, each with the value read so far. -/
def foldFields {α : Type} (field : α → String → Json → Except Refusal α) (start : α) :
    Json → Except Refusal α
  | .object entries => entries.foldlM (fun acc e => field acc e.1 e.2) start
  | _ => .error .shape

def asBool : Json → Except Refusal Bool
  | .bool b => .ok b
  | _ => .error .shape

/-- A size or count: a 64 bit word. -/
def asSize : Json → Except Refusal Nat
  | .integer n => if 0 ≤ n ∧ n < 18446744073709551616 then .ok n.toNat else .error .shape
  | _ => .error .shape

def asInt32 : Json → Except Refusal Int32
  | .integer n =>
    if -2147483648 ≤ n ∧ n < 2147483648 then .ok (Int32.ofInt n) else .error .shape
  | _ => .error .shape

/-- Whether a number is one. -/
def asIsOne : Json → Except Refusal Bool
  | .integer n => .ok (n == 1)
  | .real x => .ok (x == 1.0)
  | _ => .error .shape

/-- A duration in milliseconds. -/
def asMillis (j : Json) : Except Refusal Duration :=
  j.asSize.map Duration.ofMillis

def asText : Json → Except Refusal String
  | .string s => .ok s
  | _ => .error .shape

/-- One of a few names: the name itself, or an object with nothing but a field of that name that
holds `null`. -/
def asName : Json → Except Refusal String
  | .string s => .ok s
  | .object [(name, .null)] => .ok name
  | _ => .error .shape

/-- A text that is understood by `parse`. -/
def asParsed {α : Type} (parse : String → Except Error α) (j : Json) : Except Refusal α :=
  j.asText.bind fun s => (parse s).mapError .text

def asOptional {α : Type} (read : Json → Except Refusal α) : Json → Except Refusal (Option α)
  | .null => .ok none
  | j => (read j).map some

def asList {α : Type} (read : Json → Except Refusal α) : Json → Except Refusal (List α)
  | .array items => items.mapM read
  | _ => .error .shape

end Json

end ClusterClient

import ClusterClient.Json.Basic

/-!
# Numbers in JSON text

A number that is written without a fraction and exponent is whole if it fits into a 64 bit word,
except for a negative zero. All others are doubles: of the digits as many as fit into 64 bits are
taken as a whole number and the rest is dropped, and that number is multiplied with or divided by
the power of ten that it lacks. Each of these two steps is rounded, so that of long decimals the
result can be a neighbour of the nearest double.
-/

namespace ClusterClient.Json

/-- Takes digits as long as the number fits into 64 bits: the number, and how many digits are left
over. -/
def takeDigits : Nat → List Char → Nat × Nat
  | n, [] => (n, 0)
  | n, c :: cs =>
    let m := 10 * n + (c.toNat - '0'.toNat)
    if wordBound ≤ m then (n, cs.length + 1) else takeDigits m cs
where
  /-- The first number that does not fit. -/
  wordBound : Nat := 18446744073709551616

/-- The double nearest to a power of ten. -/
def powerOfTen (n : Nat) : Float := Float.ofScientific 1 false n

/-- Scales a double by a power of ten. Powers below the least one that a double holds are reached
in two steps. -/
def scaled (x : Float) (exponent : Int) : Float :=
  if 0 ≤ exponent then x * powerOfTen exponent.toNat
  else if -308 ≤ exponent then x / powerOfTen exponent.natAbs
  else if -616 ≤ exponent then x / powerOfTen 308 / powerOfTen (exponent.natAbs - 308)
  else x * 0.0

/-- The number that some digits stand for, if it were not for the word size. -/
def digitsValue (cs : List Char) : Nat :=
  cs.foldl (fun n c => 10 * n + (c.toNat - '0'.toNat)) 0

/-- The exponent after its letter. -/
def readExponent : List Char → Int
  | '-' :: ds => -(digitsValue ds : Int)
  | '+' :: ds => digitsValue ds
  | ds => digitsValue ds

/-- The double of a decimal with the given digits before and after the point. -/
def decimal (negative : Bool) (whole fraction : List Char) (exponent : Int) : Float :=
  let (_, left) := takeDigits 0 whole
  let (n, leftAll) := takeDigits 0 (whole ++ fraction)
  let places : Int := if left = 0 then fraction.length - leftAll else 0
  let n : Nat := if left = 0 then n else (takeDigits 0 whole).1
  let x := scaled (UInt64.ofNat n).toFloat (exponent + left - places)
  if negative then -x else x

/-- Reads a number that is well formed. -/
def readNumber (cs : List Char) : Json :=
  let negative := cs.head? == some '-'
  let body := if negative then cs.drop 1 else cs
  let whole := body.takeWhile Char.isDigit
  let rest := body.dropWhile Char.isDigit
  let magnitude : Int := digitsValue whole
  let value : Int := if negative then -magnitude else magnitude
  let isZero : Bool := value == 0
  if rest.isEmpty && !(negative && isZero) && -9223372036854775808 ≤ value &&
      value < 18446744073709551616 then
    .integer value
  else match rest with
    | '.' :: rest =>
      let fraction := rest.takeWhile Char.isDigit
      .real (decimal negative whole fraction (readExponent ((rest.dropWhile Char.isDigit).drop 1)))
    | rest => .real (decimal negative whole [] (readExponent (rest.drop 1)))

end ClusterClient.Json

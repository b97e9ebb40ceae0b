/-!
# Durations

A duration is a whole number of nanoseconds, at most `Duration.longest`. Its text uses the largest
of the units s, ms, µs and ns in which the whole part is not zero, and as many decimals as are
needed.

    (d.add? e).isSome ↔ d.nanos + e.nanos ≤ longest.nanos     (add?_isSome_iff)
-/

namespace ClusterClient

structure Duration where
  nanos : Nat
deriving DecidableEq, Repr, Hashable

namespace Duration

/-! ## Algorithm -/

def zero : Duration := ⟨0⟩

def ofMillis (n : Nat) : Duration := ⟨n * 1000000⟩

def ofSeconds (n : Nat) : Duration := ⟨n * 1000000000⟩

/-- The longest duration: a 64 bit number of seconds and all nanoseconds below the next one. -/
def longest : Duration := ⟨18446744073709551615999999999⟩

instance : LE Duration := ⟨fun a b => a.nanos ≤ b.nanos⟩

instance : LT Duration := ⟨fun a b => a.nanos < b.nanos⟩

instance (a b : Duration) : Decidable (a ≤ b) := inferInstanceAs (Decidable (a.nanos ≤ b.nanos))

instance (a b : Duration) : Decidable (a < b) := inferInstanceAs (Decidable (a.nanos < b.nanos))

/-- The sum, unless it is longer than the longest duration. -/
def add? (a b : Duration) : Option Duration :=
  if a.nanos + b.nanos ≤ longest.nanos then some ⟨a.nanos + b.nanos⟩ else none

/-- The decimal digits of `n`, with zeros in front up to `width` digits. -/
def paddedDigits (width n : Nat) : List Char :=
  let digits := Nat.toDigits 10 n
  List.replicate (width - digits.length) '0' ++ digits

/-- `n` units of which each has `10 ^ places` parts, as a decimal number without trailing zeros. -/
def decimalText (n places : Nat) : String :=
  let unit := Nat.pow 10 places
  let decimals := ((paddedDigits places (n % unit)).reverse.dropWhile (· == '0')).reverse
  String.ofList (Nat.toDigits 10 (n / unit) ++ if decimals.isEmpty then [] else '.' :: decimals)

def text (d : Duration) : String :=
  if 1000000000 ≤ d.nanos then decimalText d.nanos 9 ++ "s"
  else if 1000000 ≤ d.nanos then decimalText d.nanos 6 ++ "ms"
  else if 1000 ≤ d.nanos then decimalText d.nanos 3 ++ "µs"
  else decimalText d.nanos 0 ++ "ns"

/-! ## Lemmas -/

theorem le_iff {a b : Duration} : a ≤ b ↔ a.nanos ≤ b.nanos := Iff.rfl

theorem lt_iff {a b : Duration} : a < b ↔ a.nanos < b.nanos := Iff.rfl

theorem add?_eq_some_iff {a b c : Duration} :
    a.add? b = some c ↔ a.nanos + b.nanos ≤ longest.nanos ∧ c = ⟨a.nanos + b.nanos⟩ := by
  by_cases h : a.nanos + b.nanos ≤ longest.nanos <;> simp [add?, h, eq_comm]

theorem add?_isSome_iff {a b : Duration} :
    (a.add? b).isSome ↔ a.nanos + b.nanos ≤ longest.nanos := by
  by_cases h : a.nanos + b.nanos ≤ longest.nanos <;> simp [add?, h]

end Duration

/-- A point in time, as the time since a fixed start. -/
abbrev Instant := Duration

end ClusterClient

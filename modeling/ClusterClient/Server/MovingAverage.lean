import ClusterClient.Duration

/-!
# Moving averages

An exponentially weighted average of durations, kept in seconds as a double. A double is read back
as a duration by its exact value, rounded to the nearest nanosecond, a half to the even one.

    d * roundDiv n d differs from n by at most d / 2     (le_roundDiv, roundDiv_le)
    halfway between two of them it is the even one       (roundDiv_mod_two)
-/

namespace ClusterClient

/-! ## Algorithm -/

/-- The quotient rounded to the nearest integer, a half to the even one. -/
def roundDiv (n d : Nat) : Nat :=
  let q := n / d
  let twice := 2 * (n % d)
  if twice < d then q
  else if d < twice then q + 1
  else if q % 2 = 0 then q
  else q + 1

namespace Duration

/-- The duration in seconds. -/
def seconds (d : Duration) : Float :=
  (UInt64.ofNat (d.nanos / 1000000000)).toFloat +
    (UInt64.ofNat (d.nanos % 1000000000)).toFloat / 1000000000.0

/-- The duration of a number of seconds, unless this is negative or beyond the longest one. -/
def ofSecondsFloat? (seconds : Float) : Option Duration :=
  if seconds < 0.0 || !(seconds < 18446744073709551616.0) then none
  else
    let bits := seconds.toBits.toNat % 9223372036854775808
    let exponent := bits / 4503599627370496
    let fraction := bits % 4503599627370496
    let mantissa := if exponent = 0 then fraction else fraction + 4503599627370496
    let power := max exponent 1
    some ⟨roundDiv (mantissa * 1000000000 * Nat.pow 2 (power - 1075)) (Nat.pow 2 (1075 - power))⟩

end Duration

structure MovingAverage where
  /-- The weight of a new sample, between zero and one. -/
  weight : Float := 0.2
  seconds? : Option Float := none

namespace MovingAverage

def average (a : MovingAverage) : Option (Option Duration) :=
  a.seconds?.map Duration.ofSecondsFloat?

/-- Adds a sample; the first one is taken as it is. The average is missing if it is longer than the
longest duration. -/
def add (a : MovingAverage) (sample : Duration) : Option Duration × MovingAverage :=
  let s := sample.seconds
  let next := match a.seconds? with
    | none => s
    | some average => a.weight * s + (1.0 - a.weight) * average
  (Duration.ofSecondsFloat? next, { a with seconds? := some next })

def reset (a : MovingAverage) : MovingAverage := { a with seconds? := none }

end MovingAverage

/-! ## Lemmas -/

theorem le_roundDiv {n d : Nat} (hd : 0 < d) : 2 * n ≤ 2 * (d * roundDiv n d) + d := by
  have h := Nat.div_add_mod n d
  have hlt := Nat.mod_lt n hd
  have hsucc : d * (n / d + 1) = d * (n / d) + d := Nat.mul_succ ..
  simp only [roundDiv]
  split
  · omega
  · split
    · omega
    · split <;> omega

theorem roundDiv_mod_two {n d : Nat} (h : 2 * (n % d) = d) : roundDiv n d % 2 = 0 := by
  simp only [roundDiv]
  split
  · omega
  · split
    · omega
    · split <;> omega

theorem roundDiv_le {n d : Nat} : 2 * (d * roundDiv n d) ≤ 2 * n + d := by
  have h := Nat.div_add_mod n d
  have hsucc : d * (n / d + 1) = d * (n / d) + d := Nat.mul_succ ..
  simp only [roundDiv]
  split
  · omega
  · split
    · omega
    · split <;> omega

end ClusterClient

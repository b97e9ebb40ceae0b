/-!
# Hexadecimal digits

    digitValue? (digit n) = some n   for n < 16              (digitValue?_digit)
    decode (encode bs) = some bs     for all bytes bs        (decode_encode)
-/

namespace ClusterClient.Text.Hex

/-! ## Algorithm -/

def digitValue? (c : Char) : Option Nat :=
  if c.isDigit then some (c.toNat - '0'.toNat)
  else if 'a' ≤ c ∧ c ≤ 'f' then some (c.toNat - 'a'.toNat + 10)
  else if 'A' ≤ c ∧ c ≤ 'F' then some (c.toNat - 'A'.toNat + 10)
  else none

/-- The lower case digit of a number below sixteen. -/
def digit (n : Nat) : Char := Char.ofNat (if n < 10 then '0'.toNat + n else 'a'.toNat + (n - 10))

/-- The number that some digits stand for. -/
def value? (cs : List Char) : Option Nat :=
  (cs.mapM digitValue?).map fun ds => ds.foldl (fun n d => 16 * n + d) 0

/-- Two digits for each byte, the upper half first. -/
def encode : List UInt8 → List Char
  | [] => []
  | b :: bs => digit (b.toNat / 16) :: digit (b.toNat % 16) :: encode bs

def decode : List Char → Option (List UInt8)
  | [] => some []
  | [_] => none
  | a :: b :: cs =>
    match digitValue? a, digitValue? b, decode cs with
    | some x, some y, some bs => some (UInt8.ofNat (16 * x + y) :: bs)
    | _, _, _ => none

/-- The text of some bytes. -/
def text (bytes : List UInt8) : String :=
  bytes.foldl (fun s b => (s.push (digit (b.toNat / 16))).push (digit (b.toNat % 16))) ""

/-! ## Lemmas -/

theorem digitValue?_digit : ∀ {n : Nat}, n < 16 → digitValue? (digit n) = some n := by
  decide

theorem decode_encode (bs : List UInt8) : decode (encode bs) = some bs := by
  induction bs with
  | nil => rfl
  | cons b bs ih =>
    have h := b.toNat_lt
    rw [encode, decode, digitValue?_digit (by omega), digitValue?_digit (by omega), ih]
    have hb : 16 * (b.toNat / 16) + b.toNat % 16 = b.toNat := by omega
    simp [hb]

theorem toList_text (bs : List UInt8) : (text bs).toList = encode bs := by
  have general : ∀ (bs : List UInt8) (s : String),
      (bs.foldl (fun s b => (s.push (digit (b.toNat / 16))).push (digit (b.toNat % 16))) s).toList =
        s.toList ++ encode bs := by
    intro bs
    induction bs with
    | nil => intro s; simp [encode]
    | cons b bs ih =>
      intro s
      rw [List.foldl_cons, ih]
      simp [encode]
  simpa [text] using general bs ""

end ClusterClient.Text.Hex

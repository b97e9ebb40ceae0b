/-!
# Bytes and little-endian numbers

Numbers travel with their least significant byte first, signed ones in two's complement.

    toNat (ofNat w n) = n % Nat.pow 256 w              (toNat_ofNat)
    ofNat bs.length (toNat bs) = bs                    (ofNat_toNat)
    readInt32 (ofInt32 n ++ rest) = n                  (readInt32_append)
    readInt64 (ofInt64 n ++ rest) = n                  (readInt64_append)
-/

namespace ClusterClient

abbrev Bytes := List UInt8

namespace Bytes

/-! ## Algorithm -/

/-- The lowest `width` bytes of `n`. -/
def ofNat : (width : Nat) → (n : Nat) → Bytes
  | 0, _ => []
  | width + 1, n => UInt8.ofNat n :: ofNat width (n / 256)

def toNat : Bytes → Nat
  | [] => 0
  | b :: bs => b.toNat + 256 * toNat bs

def ofUInt32 (n : UInt32) : Bytes := ofNat 4 n.toNat

def ofInt32 (n : Int32) : Bytes := ofUInt32 n.toUInt32

def ofInt64 (n : Int64) : Bytes := ofNat 8 n.toUInt64.toNat

/-- The number in the first four bytes. -/
def readUInt32 (bs : Bytes) : UInt32 := UInt32.ofNat (toNat (bs.take 4))

/-- The signed number in the first four bytes. -/
def readInt32 (bs : Bytes) : Int32 := (readUInt32 bs).toInt32

/-- The signed number in the first eight bytes. -/
def readInt64 (bs : Bytes) : Int64 := (UInt64.ofNat (toNat (bs.take 8))).toInt64

/-- The UTF-8 bytes of a text. -/
def ofText (text : String) : Bytes := text.toList.flatMap String.utf8EncodeChar

/-! ## Lemmas -/

@[simp] theorem length_ofNat (width n : Nat) : (ofNat width n).length = width := by
  induction width generalizing n with
  | zero => rfl
  | succ w ih => simp [ofNat, ih]

@[simp] theorem length_ofUInt32 (n : UInt32) : (ofUInt32 n).length = 4 := length_ofNat ..

@[simp] theorem length_ofInt32 (n : Int32) : (ofInt32 n).length = 4 := length_ofNat ..

@[simp] theorem length_ofInt64 (n : Int64) : (ofInt64 n).length = 8 := length_ofNat ..

theorem toNat_ofNat (width n : Nat) : toNat (ofNat width n) = n % Nat.pow 256 width := by
  induction width generalizing n with
  | zero => simp [ofNat, toNat, Nat.mod_one]
  | succ w ih =>
    have hpow : Nat.pow 256 (w + 1) = 256 * Nat.pow 256 w := Nat.mul_comm ..
    rw [ofNat, toNat, ih, hpow, Nat.mod_mul]
    simp

theorem ofNat_toNat (bs : Bytes) : ofNat bs.length (toNat bs) = bs := by
  induction bs with
  | nil => rfl
  | cons b bs ih =>
    have hb : b.toNat < 256 := b.toNat_lt
    have h1 : UInt8.ofNat (b.toNat + 256 * toNat bs) = b := by
      apply UInt8.toNat_inj.1
      simp only [UInt8.toNat_ofNat']
      omega
    have h2 : (b.toNat + 256 * toNat bs) / 256 = toNat bs := by omega
    simp only [List.length_cons, ofNat, toNat]
    rw [h1, h2, ih]

theorem toNat_lt (bs : Bytes) : toNat bs < Nat.pow 256 bs.length := by
  induction bs with
  | nil => simp [toNat]
  | cons b bs ih =>
    have hb : b.toNat < 256 := b.toNat_lt
    have hpow : Nat.pow 256 (bs.length + 1) = Nat.pow 256 bs.length * 256 := rfl
    rw [toNat, List.length_cons, hpow]
    omega

@[simp] theorem readUInt32_append (n : UInt32) (rest : Bytes) :
    readUInt32 (ofUInt32 n ++ rest) = n := by
  rw [readUInt32, List.take_left' (length_ofUInt32 n), ofUInt32, toNat_ofNat]
  have hpow : Nat.pow 256 4 = 4294967296 := rfl
  rw [hpow]
  apply UInt32.toNat_inj.1
  have := n.toNat_lt
  simp only [UInt32.toNat_ofNat']
  omega

@[simp] theorem readInt32_append (n : Int32) (rest : Bytes) :
    readInt32 (ofInt32 n ++ rest) = n := by
  simp [readInt32, ofInt32]

@[simp] theorem readInt64_append (n : Int64) (rest : Bytes) :
    readInt64 (ofInt64 n ++ rest) = n := by
  have h : UInt64.ofNat (n.toUInt64.toNat % Nat.pow 256 8) = n.toUInt64 := by
    have hpow : Nat.pow 256 8 = 18446744073709551616 := rfl
    rw [hpow]
    apply UInt64.toNat_inj.1
    have := n.toUInt64.toNat_lt
    simp only [UInt64.toNat_ofNat']
    omega
  rw [readInt64, List.take_left' (length_ofInt64 n), ofInt64, toNat_ofNat, h]
  simp

end Bytes

end ClusterClient

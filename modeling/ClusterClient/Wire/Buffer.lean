import ClusterClient.Wire.Bytes

/-!
# Recycled buffers

The memory of a reply that is no longer needed is used again for a later one. A recycler keeps a
bounded number of buffers of bounded capacity, the one that came back last on top.

    (r.obtain n).1.bytes = n zeros, whatever was in the buffer before     (bytes_obtain)
-/

namespace ClusterClient

/-- Bytes in a piece of memory that has room for `capacity` of them. -/
structure Buffer where
  bytes : Bytes
  capacity : Nat
deriving DecidableEq, Repr

namespace Buffer

def empty : Buffer := ⟨[], 0⟩

/-- A buffer that is just large enough. -/
def ofBytes (bytes : Bytes) : Buffer := ⟨bytes, bytes.length⟩

/-- The capacity after making room for `n` bytes: memory that is too small at least doubles, and
small pieces are rounded up to eight bytes. -/
def grownCapacity (capacity n : Nat) : Nat :=
  if n ≤ capacity then capacity else max 8 (max (2 * capacity) n)

/-- Forgets the bytes; the memory stays. -/
def clear (b : Buffer) : Buffer := { b with bytes := [] }

/-- Drops what is beyond the first `n` bytes, or adds zeros until there are `n`. -/
def resize (b : Buffer) (n : Nat) : Buffer :=
  ⟨b.bytes.take n ++ List.replicate (n - b.bytes.length) 0, grownCapacity b.capacity n⟩

end Buffer

structure Recycler where
  /-- The buffer that came back last is the first. -/
  free : List Buffer := []
  maxRetained : Nat := 16
  maxCapacity : Nat := 1048576
  /-- How many buffers were handed out so far. -/
  handedOut : Nat := 0
  /-- How many buffers were handed back so far, kept or not. -/
  handedBack : Nat := 0
deriving DecidableEq, Repr

namespace Recycler

/-! ## Algorithm -/

/-- Takes memory with room for `n` bytes: its capacity, and what is left. -/
def draw (r : Recycler) (n : Nat) : Nat × Recycler :=
  match r.free with
  | [] => (Buffer.grownCapacity 0 n, { r with handedOut := r.handedOut + 1 })
  | b :: rest =>
    (Buffer.grownCapacity b.capacity n, { r with free := rest, handedOut := r.handedOut + 1 })

/-- Takes a buffer of `n` zero bytes: the one on top of those that are kept, or else a new one. -/
def obtain (r : Recycler) (n : Nat) : Buffer × Recycler :=
  ((r.free.headD .empty).clear.resize n,
   { r with free := r.free.tail, handedOut := r.handedOut + 1 })

/-- Hands a buffer back, to be kept if it is not too large and not one too many. -/
def giveBack (r : Recycler) (b : Buffer) : Recycler :=
  let r := { r with handedBack := r.handedBack + 1 }
  if b.capacity ≤ r.maxCapacity ∧ r.free.length < r.maxRetained then { r with free := b :: r.free }
  else r

def retained (r : Recycler) : Nat := r.free.length

/-- The total capacity of the buffers that are kept. -/
def retainedCapacity (r : Recycler) : Nat := r.free.foldr (fun b n => b.capacity + n) 0

/-! ## Lemmas -/

theorem bytes_obtain (r : Recycler) (n : Nat) : (r.obtain n).1.bytes = List.replicate n 0 := by
  simp [obtain, Buffer.clear, Buffer.resize]

/-- The memory is the same as without its content. -/
theorem obtain_eq (r : Recycler) (n : Nat) :
    r.obtain n = (⟨List.replicate n 0, (r.draw n).1⟩, (r.draw n).2) := by
  unfold obtain draw
  cases r.free <;> simp [Buffer.empty, Buffer.clear, Buffer.resize]

theorem giveBack_free_eq_or (r : Recycler) (b : Buffer) :
    (r.giveBack b).free = b :: r.free ∧ b.capacity ≤ r.maxCapacity ∧
        r.free.length < r.maxRetained ∨
      (r.giveBack b).free = r.free := by
  simp only [giveBack]
  split
  · next h => exact Or.inl ⟨rfl, h⟩
  · exact Or.inr rfl

end Recycler

end ClusterClient

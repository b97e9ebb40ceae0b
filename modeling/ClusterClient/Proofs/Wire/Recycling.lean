import ClusterClient.Wire.Buffer

/-!
# Recycling

Buffers come back to a recycler with anything in them, and with any capacity: whoever had them may
have made them larger. What is kept is bounded in number and in size all the same, since both are
looked at when a buffer comes back. And nothing that was in a buffer can be seen by the next one who
has it. All that a recycler does is the same as if every buffer were emptied before it comes back.

    r.Bounded → (r.run ops).Bounded                                                   (bounded_run)
    (r.run ops).clear = r.clear.run (ops.map clear)                                     (clear_run)
    r.clear.obtained (ops.map clear) = r.obtained ops                              (obtained_clear)
-/

namespace ClusterClient

namespace Recycler

/-! ## Operations -/

/-- What can be done with a recycler. -/
inductive Operation where
  | obtain (n : Nat)
  | giveBack (b : Buffer)
deriving DecidableEq

namespace Operation

/-- The size of the buffer that is asked for, if one is. -/
def size? : Operation → Option Nat
  | obtain n => some n
  | giveBack _ => none

/-- The operation, with nothing in the buffer. -/
def clear : Operation → Operation
  | obtain n => obtain n
  | giveBack b => giveBack b.clear

end Operation

def step (r : Recycler) : Operation → Recycler
  | .obtain n => (r.obtain n).2
  | .giveBack b => r.giveBack b

def run (r : Recycler) (ops : List Operation) : Recycler := ops.foldl step r

/-- The buffers that are obtained in the course of the operations. -/
def obtained (r : Recycler) : List Operation → List Buffer
  | [] => []
  | .obtain n :: ops => (r.obtain n).1 :: obtained (r.obtain n).2 ops
  | .giveBack b :: ops => obtained (r.giveBack b) ops

variable {r : Recycler}

/-! ## Bounds -/

/-- What is kept is within the limits. -/
structure Bounded (r : Recycler) : Prop where
  retained_le : r.retained ≤ r.maxRetained
  capacity_le : ∀ b ∈ r.free, b.capacity ≤ r.maxCapacity

theorem limits_step (r : Recycler) (op : Operation) :
    (r.step op).maxRetained = r.maxRetained ∧ (r.step op).maxCapacity = r.maxCapacity := by
  cases op with
  | obtain n => exact ⟨rfl, rfl⟩
  | giveBack b =>
    simp only [step, giveBack]
    split <;> exact ⟨rfl, rfl⟩

theorem limits_run (r : Recycler) (ops : List Operation) :
    (r.run ops).maxRetained = r.maxRetained ∧ (r.run ops).maxCapacity = r.maxCapacity := by
  induction ops generalizing r with
  | nil => exact ⟨rfl, rfl⟩
  | cons op ops ih =>
    obtain ⟨retained, capacity⟩ := r.limits_step op
    obtain ⟨retained', capacity'⟩ := ih (r.step op)
    exact ⟨retained'.trans retained, capacity'.trans capacity⟩

theorem bounded_step (h : r.Bounded) (op : Operation) : (r.step op).Bounded := by
  obtain ⟨maxRetained_eq, maxCapacity_eq⟩ := r.limits_step op
  cases op with
  | obtain n =>
    refine ⟨?_, fun b hb => h.capacity_le b (List.mem_of_mem_tail hb)⟩
    have fewer : r.free.tail.length ≤ r.free.length := by simp
    exact Nat.le_trans fewer h.retained_le
  | giveBack b =>
    obtain ⟨kept, small, room⟩ | same := r.giveBack_free_eq_or b
    · refine ⟨?_, fun b' hb' => ?_⟩
      · rw [retained, maxRetained_eq, step, kept]
        exact room
      · rw [step, kept] at hb'
        rw [maxCapacity_eq]
        rcases List.mem_cons.1 hb' with rfl | old
        · exact small
        · exact h.capacity_le b' old
    · refine ⟨?_, fun b' hb' => ?_⟩
      · rw [retained, maxRetained_eq, step, same]
        exact h.retained_le
      · rw [step, same] at hb'
        rw [maxCapacity_eq]
        exact h.capacity_le b' hb'

theorem bounded_run (h : r.Bounded) (ops : List Operation) : (r.run ops).Bounded := by
  induction ops generalizing r with
  | nil => exact h
  | cons op ops ih => exact ih (bounded_step h op)

theorem foldr_capacity_le {free : List Buffer} {n : Nat} (h : ∀ b ∈ free, b.capacity ≤ n) :
    free.foldr (fun b sum => b.capacity + sum) 0 ≤ free.length * n := by
  induction free with
  | nil => exact Nat.zero_le _
  | cons b free ih =>
    rw [List.forall_mem_cons] at h
    have := ih h.2
    rw [List.foldr_cons, List.length_cons, Nat.succ_mul]
    omega

theorem Bounded.retainedCapacity_le (h : r.Bounded) :
    r.retainedCapacity ≤ r.maxRetained * r.maxCapacity :=
  Nat.le_trans (foldr_capacity_le h.capacity_le) (Nat.mul_le_mul_right _ h.retained_le)

/-! ## Contents -/

theorem bytes_obtained (r : Recycler) (ops : List Operation) :
    (r.obtained ops).map (·.bytes) =
      (ops.filterMap Operation.size?).map fun n => List.replicate n 0 := by
  induction ops generalizing r with
  | nil => rfl
  | cons op ops ih =>
    cases op with
    | obtain n =>
      rw [obtained, List.map_cons, bytes_obtain, ih]
      rfl
    | giveBack b => exact ih (r.giveBack b)

/-- The recycler, with nothing in the buffers that it keeps. -/
def clear (r : Recycler) : Recycler := { r with free := r.free.map Buffer.clear }

theorem obtain_clear (r : Recycler) (n : Nat) :
    r.clear.obtain n = ((r.obtain n).1, (r.obtain n).2.clear) := by
  unfold obtain clear
  cases r.free <;> rfl

theorem giveBack_clear (r : Recycler) (b : Buffer) :
    r.clear.giveBack b.clear = (r.giveBack b).clear := by
  simp only [giveBack, clear, List.length_map]
  split
  · next fits => rw [if_pos (by exact fits)]; rfl
  · next unfit => rw [if_neg (by exact unfit)]

theorem clear_step (r : Recycler) (op : Operation) :
    (r.step op).clear = r.clear.step op.clear := by
  cases op with
  | obtain n => exact (congrArg Prod.snd (r.obtain_clear n)).symm
  | giveBack b => exact (r.giveBack_clear b).symm

theorem clear_run (r : Recycler) (ops : List Operation) :
    (r.run ops).clear = r.clear.run (ops.map Operation.clear) := by
  induction ops generalizing r with
  | nil => rfl
  | cons op ops ih =>
    have rest := ih (r.step op)
    rw [clear_step] at rest
    exact rest

theorem obtained_clear (r : Recycler) (ops : List Operation) :
    r.clear.obtained (ops.map Operation.clear) = r.obtained ops := by
  induction ops generalizing r with
  | nil => rfl
  | cons op ops ih =>
    cases op with
    | obtain n =>
      rw [List.map_cons, Operation.clear, obtained, obtained, obtain_clear, ih]
    | giveBack b =>
      rw [List.map_cons, Operation.clear, obtained, obtained, giveBack_clear, ih]

theorem retained_clear (r : Recycler) : r.clear.retained = r.retained :=
  List.length_map _

theorem retainedCapacity_clear (r : Recycler) : r.clear.retainedCapacity = r.retainedCapacity :=
  List.foldr_map

/-- A buffer that is kept is the next one that is used, and nothing else changes. -/
theorem obtain_giveBack {b : Buffer} (small : b.capacity ≤ r.maxCapacity)
    (room : r.retained < r.maxRetained) (n : Nat) :
    ((r.giveBack b).obtain n).1 = b.clear.resize n ∧
      ((r.giveBack b).obtain n).2.free = r.free := by
  have kept : (r.giveBack b).free = b :: r.free := by
    rw [giveBack, if_pos ⟨small, room⟩]
  rw [obtain, kept]
  exact ⟨rfl, rfl⟩

/-! ## Main result -/

/-- What can be said of a recycler after some operations, and of the buffers that were obtained
from it in the meantime. -/
structure Contained (r : Recycler) (ops : List Operation) : Prop where
  retained_le : (r.run ops).retained ≤ r.maxRetained
  capacity_le : ∀ b ∈ (r.run ops).free, b.capacity ≤ r.maxCapacity
  retainedCapacity_le : (r.run ops).retainedCapacity ≤ r.maxRetained * r.maxCapacity
  /-- Each is as long as it was asked for, and all zero. -/
  zeroed : (r.obtained ops).map (·.bytes) =
    (ops.filterMap Operation.size?).map fun n => List.replicate n 0
  /-- If the buffers that came back had had something else in them, nothing could tell. -/
  oblivious : ∀ ops', ops'.map Operation.clear = ops.map Operation.clear →
    r.obtained ops' = r.obtained ops ∧ (r.run ops').retained = (r.run ops).retained ∧
      (r.run ops').retainedCapacity = (r.run ops).retainedCapacity
  /-- A buffer within the limits is used again. -/
  recycles : ∀ b, b.capacity ≤ r.maxCapacity → (r.run ops).retained < r.maxRetained → ∀ n,
    (((r.run ops).giveBack b).obtain n).1 = b.clear.resize n ∧
      (((r.run ops).giveBack b).obtain n).2.free = (r.run ops).free

theorem contained_of_bounded (h : r.Bounded) (ops : List Operation) : r.Contained ops := by
  have bounded := bounded_run h ops
  obtain ⟨maxRetained_eq, maxCapacity_eq⟩ := r.limits_run ops
  have capacity_le := bounded.capacity_le
  have retained_le := bounded.retained_le
  have retainedCapacity_le := bounded.retainedCapacity_le
  rw [maxCapacity_eq] at capacity_le retainedCapacity_le
  rw [maxRetained_eq] at retained_le retainedCapacity_le
  refine ⟨retained_le, capacity_le, retainedCapacity_le, r.bytes_obtained ops,
    fun ops' same => ?_, fun b small room n => ?_⟩
  · have clear_eq : (r.run ops').clear = (r.run ops).clear := by
      rw [clear_run, clear_run, same]
    refine ⟨?_, ?_, ?_⟩
    · rw [← obtained_clear, same, obtained_clear]
    · rw [← retained_clear, clear_eq, retained_clear]
    · rw [← retainedCapacity_clear, clear_eq, retainedCapacity_clear]
  · rw [← maxCapacity_eq] at small
    rw [← maxRetained_eq] at room
    exact obtain_giveBack small room n

/-- In the beginning nothing is kept. -/
theorem contained_run (maxRetained maxCapacity : Nat) (ops : List Operation) :
    Contained { maxRetained, maxCapacity } ops :=
  contained_of_bounded ⟨Nat.zero_le _, by simp⟩ ops

/-- What is one byte too large is not kept. -/
example : (run { maxRetained := 4, maxCapacity := 64 }
    [.giveBack ⟨[1, 2], 65⟩, .giveBack ⟨[1, 2], 64⟩]).free = [⟨[1, 2], 64⟩] := by
  decide

end Recycler

end ClusterClient

import ClusterClient.Proofs.Wire.Layout

/-!
# Iteration over documents

Whoever iterates over the documents in some bytes cuts one off after the other, and is told that
there are no more as soon as what is left does not start with one. The bytes may come from anyone,
so the number at their start may be anything. Whatever it is, the documents and what is left are the
bytes; and there is one way only to divide them into documents and a rest that starts with none.

    call bs n = (all bs)[n]?                                                              (call_eq)
    all bs = documents ↔ bs = documents.flatten ++ suffix for some malformed suffix    (all_eq_iff)
-/

namespace ClusterClient

namespace Document

variable {bs d suffix : Bytes} {documents : List Bytes}

/-! ## What is no document -/

/-- Too few bytes for a document, or the length at their start is too small for one, or larger than
their number. -/
def Malformed (bs : Bytes) : Prop :=
  bs.length < minSize ∨ statedLength bs < minSize ∨ bs.length < statedLength bs

theorem next?_eq_none_iff : next? bs = none ↔ Malformed bs := by
  simp only [next?, Malformed]
  split
  · next malformed => exact iff_of_true rfl malformed
  · next sound => exact iff_of_false (by simp) sound

theorem selfDelimiting_of_next? (h : next? bs = some (d, suffix)) : SelfDelimiting d := by
  obtain ⟨big, split⟩ := length_of_next? h
  refine ⟨big, ?_⟩
  rw [← statedLength_append big suffix, ← split]
  simp only [next?] at h
  split at h
  · cases h
  · simp only [List.splitAt_eq, Option.some.injEq, Prod.mk.injEq] at h
    rw [← h.1, List.length_take]
    omega

/-! ## Documents and what is left -/

theorem rest_of_none (h : next? bs = none) : rest bs = bs := by
  rw [rest, all_of_none h]
  rfl

theorem rest_of_some (h : next? bs = some (d, suffix)) : rest bs = rest suffix := by
  rw [rest, all_of_some h, (length_of_next? h).2, List.flatten_cons, List.length_append,
    ← List.drop_drop, List.drop_left]
  rfl

/-- All documents are cut off in so many steps, each of which leaves fewer bytes. -/
theorem induction_on_next? {P : Bytes → Prop} (none : ∀ bs, next? bs = none → P bs)
    (some : ∀ bs d suffix, next? bs = some (d, suffix) → P suffix → P bs) (bs : Bytes) : P bs := by
  cases h : next? bs with
  | none => exact none bs h
  | some next =>
    obtain ⟨d, suffix⟩ := next
    exact some bs d suffix h (induction_on_next? none some suffix)
termination_by bs.length
decreasing_by
  obtain ⟨big, split⟩ := length_of_next? h
  rw [split, List.length_append]
  unfold minSize at big
  omega

theorem flatten_append_rest (bs : Bytes) : (all bs).flatten ++ rest bs = bs := by
  induction bs using induction_on_next? with
  | none bs h => rw [all_of_none h, rest_of_none h, List.flatten_nil, List.nil_append]
  | some bs d suffix h ih =>
    rw [all_of_some h, rest_of_some h, List.flatten_cons, List.append_assoc, ih]
    exact (length_of_next? h).2.symm

theorem malformed_rest (bs : Bytes) : Malformed (rest bs) := by
  induction bs using induction_on_next? with
  | none bs h =>
    rw [rest_of_none h]
    exact next?_eq_none_iff.1 h
  | some bs d suffix h ih => rwa [rest_of_some h]

theorem selfDelimiting_of_mem_all (h : d ∈ all bs) : SelfDelimiting d := by
  induction bs using induction_on_next? with
  | none bs none =>
    rw [all_of_none none] at h
    cases h
  | some bs e suffix next ih =>
    rw [all_of_some next] at h
    rcases List.mem_cons.1 h with rfl | later
    · exact selfDelimiting_of_next? next
    · exact ih later

/-- There is one way to divide bytes into documents and a rest without one at its start. -/
theorem all_eq_iff : all bs = documents ↔
    ∃ suffix, bs = documents.flatten ++ suffix ∧ (∀ d ∈ documents, SelfDelimiting d) ∧
      Malformed suffix := by
  constructor
  · rintro rfl
    exact ⟨rest bs, (flatten_append_rest bs).symm, fun _ => selfDelimiting_of_mem_all,
      malformed_rest bs⟩
  · rintro ⟨suffix, rfl, delimited, malformed⟩
    exact all_flatten_append delimited (next?_eq_none_iff.2 malformed)

theorem rest_flatten_append (delimited : ∀ d ∈ documents, SelfDelimiting d)
    (malformed : Malformed suffix) : rest (documents.flatten ++ suffix) = suffix := by
  rw [rest, all_flatten_append delimited (next?_eq_none_iff.2 malformed), List.drop_left]

theorem minSize_mul_length_all_le (bs : Bytes) : minSize * (all bs).length ≤ bs.length := by
  induction bs using induction_on_next? with
  | none bs h =>
    rw [all_of_none h]
    exact Nat.zero_le _
  | some bs d suffix h ih =>
    obtain ⟨big, split⟩ := length_of_next? h
    rw [all_of_some h, List.length_cons, split, List.length_append, Nat.mul_succ]
    omega

/-! ## Calls -/

/-- What is given to whoever iterates over the bytes and has been given `n` answers already. -/
def call : (bs : Bytes) → (n : Nat) → Option Bytes
  | bs, 0 => (next? bs).map (·.1)
  | bs, n + 1 => call (remainder bs) n

theorem remainder_of_some (h : next? bs = some (d, suffix)) : remainder bs = suffix := by
  rw [remainder, h]

/-- Once there is no document, there never is one again. -/
theorem next?_remainder_of_none (h : next? bs = none) : next? (remainder bs) = none := by
  rw [remainder, h]
  simp only
  split
  · exact h
  · rfl

theorem call_of_none (h : next? bs = none) (n : Nat) : call bs n = none := by
  induction n generalizing bs with
  | zero => rw [call, h, Option.map_none]
  | succ n ih => exact ih (next?_remainder_of_none h)

theorem call_eq (bs : Bytes) (n : Nat) : call bs n = (all bs)[n]? := by
  induction n generalizing bs with
  | zero =>
    cases h : next? bs with
    | none => rw [call_of_none h, all_of_none h, List.getElem?_nil]
    | some next => rw [all_of_some h, List.getElem?_cons_zero, call, h, Option.map_some]
  | succ n ih =>
    cases h : next? bs with
    | none => rw [call_of_none h, all_of_none h, List.getElem?_nil]
    | some next =>
      rw [all_of_some h, List.getElem?_cons_succ, call, remainder_of_some h]
      exact ih next.2

/-! ## Main result -/

/-- What an iteration over the documents in some bytes gives. -/
structure Iterated (bs : Bytes) : Prop where
  /-- The documents come in order, and after the last of them nothing ever again. -/
  call_eq : ∀ n, call bs n = (all bs)[n]?
  few : minSize * (all bs).length ≤ bs.length
  delimited : ∀ d ∈ all bs, SelfDelimiting d
  bytes_eq : bs = (all bs).flatten ++ rest bs
  malformed : Malformed (rest bs)
  unique : ∀ documents suffix, (∀ d ∈ documents, SelfDelimiting d) → Malformed suffix →
    bs = documents.flatten ++ suffix → all bs = documents ∧ rest bs = suffix

theorem iterated_all (bs : Bytes) : Iterated bs where
  call_eq := Document.call_eq bs
  few := minSize_mul_length_all_le bs
  delimited _ := selfDelimiting_of_mem_all
  bytes_eq := (flatten_append_rest bs).symm
  malformed := malformed_rest bs
  unique documents suffix delimited malformed split := by
    refine ⟨all_eq_iff.2 ⟨suffix, split, delimited, malformed⟩, ?_⟩
    rw [split, rest_flatten_append delimited malformed]

/-- One document, and one whose length is below zero. -/
example : all [6, 0, 0, 0, 8, 0, 255, 255, 255, 255, 0] = [[6, 0, 0, 0, 8, 0]] := by
  cbv

end Document

end ClusterClient

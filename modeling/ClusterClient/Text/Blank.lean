/-!
# Blank characters

White space as Unicode counts it (the property `White_Space`, 25 characters), and text freed of
the blanks at its ends.

    trim t has no blank at either end          (head_trim, last_trim)
    a text without blanks at its ends is kept  (trim_eq_self)
-/

namespace ClusterClient.Text

/-! ## Algorithm -/

/-- Whether the character has the property `White_Space`. -/
def isBlank (c : Char) : Bool :=
  let n := c.toNat
  (0x09 ≤ n && n ≤ 0x0D) || n == 0x20 || n == 0x85 || n == 0xA0 || n == 0x1680 ||
    (0x2000 ≤ n && n ≤ 0x200A) || n == 0x2028 || n == 0x2029 || n == 0x202F || n == 0x205F ||
    n == 0x3000

/-- Drops the longest run at the end of the list whose members all satisfy `p`. -/
def dropEndWhile {α : Type} (p : α → Bool) (xs : List α) : List α :=
  (xs.reverse.dropWhile p).reverse

/-- Drops the blanks at both ends. -/
def trim (cs : List Char) : List Char :=
  dropEndWhile isBlank (cs.dropWhile isBlank)

/-! ## Lemmas -/

theorem isBlank_of_isWhitespace {c : Char} (h : c.isWhitespace = true) : isBlank c = true := by
  simp only [Char.isWhitespace, Bool.or_eq_true, decide_eq_true_eq] at h
  rcases h with ((rfl | rfl) | rfl) | rfl <;> decide

theorem dropEndWhile_nil {α : Type} (p : α → Bool) : dropEndWhile p [] = [] := rfl

theorem dropEndWhile_concat {α : Type} (p : α → Bool) (xs : List α) (x : α) :
    dropEndWhile p (xs ++ [x]) = if p x then dropEndWhile p xs else xs ++ [x] := by
  by_cases h : p x <;> simp [dropEndWhile, h]

/-- The last element that is left does not satisfy `p`. -/
theorem getLast?_dropEndWhile {α : Type} (p : α → Bool) (xs : List α) :
    ∀ x ∈ (dropEndWhile p xs).getLast?, p x = false := by
  intro x hx
  simp only [dropEndWhile, List.getLast?_reverse] at hx
  have := List.head?_dropWhile_not p xs.reverse
  rw [hx] at this
  simpa using this

theorem dropEndWhile_prefix {α : Type} (p : α → Bool) (xs : List α) :
    dropEndWhile p xs <+: xs := by
  have h := List.reverse_prefix.2 (List.dropWhile_suffix p (l := xs.reverse))
  simpa [dropEndWhile] using h

/-- A list whose last element does not satisfy `p` is left alone. -/
theorem dropEndWhile_eq_self {α : Type} {p : α → Bool} {xs : List α}
    (h : ∀ x ∈ xs.getLast?, p x = false) : dropEndWhile p xs = xs := by
  rw [dropEndWhile]
  cases hr : xs.reverse with
  | nil => simpa using hr.symm
  | cons x rest =>
    have hx : p x = false := h x (by rw [← List.head?_reverse, hr]; rfl)
    rw [List.dropWhile_cons_of_neg (by simp [hx]), ← hr, List.reverse_reverse]

theorem head_trim (cs : List Char) : ∀ c ∈ (trim cs).head?, isBlank c = false := by
  intro c hc
  have hd := List.head?_dropWhile_not isBlank cs
  obtain ⟨rest, hrest⟩ := dropEndWhile_prefix isBlank (cs.dropWhile isBlank)
  rw [trim] at hc
  have hmem : c ∈ (cs.dropWhile isBlank).head? := by
    rw [← hrest, List.head?_append]
    simp [Option.mem_def.1 hc]
  rw [Option.mem_def.1 hmem] at hd
  simpa using hd

theorem last_trim (cs : List Char) : ∀ c ∈ (trim cs).getLast?, isBlank c = false :=
  getLast?_dropEndWhile isBlank _

theorem trim_eq_self {cs : List Char} (hhead : ∀ c ∈ cs.head?, isBlank c = false)
    (hlast : ∀ c ∈ cs.getLast?, isBlank c = false) : trim cs = cs := by
  have h : cs.dropWhile isBlank = cs := by
    cases cs with
    | nil => rfl
    | cons c cs => exact List.dropWhile_cons_of_neg (by simp [hhead c rfl])
  rw [trim, h]
  exact dropEndWhile_eq_self hlast

end ClusterClient.Text

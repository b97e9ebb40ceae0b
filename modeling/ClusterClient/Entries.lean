/-!
# Entries in ascending order

A finite map as a list of entries, one for each key, in ascending order of the keys.

    insert keeps the order                                 (insert_ascending)
    lookup k (insert k v es) = some v                      (lookup_insert_self)
    j ≠ k → lookup j (insert k v es) = lookup j es         (lookup_insert_of_ne)
-/

namespace ClusterClient.Entries

variable {α : Type}

/-! ## Algorithm -/

def Ascending (es : List (String × α)) : Prop := es.Pairwise fun a b => a.1 < b.1

/-- Adds an entry; an entry of the same key is replaced. -/
def insert (key : String) (value : α) : List (String × α) → List (String × α)
  | [] => [(key, value)]
  | e :: es =>
    if key < e.1 then (key, value) :: e :: es
    else if e.1 < key then e :: insert key value es
    else (key, value) :: es

/-- The entries of a list in which a later entry of the same key wins. -/
def ofList (es : List (String × α)) : List (String × α) :=
  es.foldl (fun acc e => insert e.1 e.2 acc) []

/-! ## Lemmas -/

theorem eq_of_not_lt {a b : String} (h : ¬a < b) (h' : ¬b < a) : a = b :=
  String.le_antisymm (String.not_lt.1 h') (String.not_lt.1 h)

theorem mem_insert {key : String} {value : α} {es : List (String × α)} {e : String × α}
    (h : e ∈ insert key value es) : e = (key, value) ∨ e ∈ es := by
  induction es with
  | nil => simpa [insert] using h
  | cons d ds ih =>
    simp only [insert] at h
    split at h
    · simpa using h
    · split at h
      · rcases List.mem_cons.1 h with h | h
        · simp [h]
        · rcases ih h with h | h <;> simp [h]
      · rcases List.mem_cons.1 h with h | h <;> simp [h]

theorem insert_ascending {key : String} {value : α} {es : List (String × α)} (h : Ascending es) :
    Ascending (insert key value es) := by
  induction es with
  | nil => simp [insert, Ascending]
  | cons e es ih =>
    obtain ⟨hhead, htail⟩ := List.pairwise_cons.1 h
    simp only [insert]
    split
    · next hlt =>
      refine List.pairwise_cons.2 ⟨fun d hd => ?_, h⟩
      rcases List.mem_cons.1 hd with rfl | hd
      · exact hlt
      · exact String.lt_trans hlt (hhead d hd)
    · next hle =>
      split
      · next hlt =>
        refine List.pairwise_cons.2 ⟨fun d hd => ?_, ih htail⟩
        rcases mem_insert hd with rfl | hd
        · exact hlt
        · exact hhead d hd
      · next hge =>
        obtain rfl := eq_of_not_lt hle hge
        exact List.pairwise_cons.2 ⟨hhead, htail⟩

theorem lookup_insert_self (key : String) (value : α) (es : List (String × α)) :
    (insert key value es).lookup key = some value := by
  induction es with
  | nil => simp [insert]
  | cons e es ih =>
    obtain ⟨k, v⟩ := e
    simp only [insert]
    split
    · simp
    · split
      · next hlt =>
        have : (key == k) = false := by
          simpa using fun h : key = k => String.lt_irrefl _ (h ▸ hlt)
        simp [List.lookup_cons, this, ih]
      · simp

theorem lookup_insert_of_ne {key other : String} (value : α) (es : List (String × α))
    (h : other ≠ key) : (insert key value es).lookup other = es.lookup other := by
  have hne : (other == key) = false := by simpa using h
  induction es with
  | nil => simp [insert, List.lookup_cons, hne]
  | cons e es ih =>
    obtain ⟨k, v⟩ := e
    simp only [insert]
    split
    · simp [List.lookup_cons, hne]
    · split
      · simp [List.lookup_cons, ih]
      · next hle hge =>
        obtain rfl := eq_of_not_lt hle hge
        simp [List.lookup_cons, hne]

end ClusterClient.Entries

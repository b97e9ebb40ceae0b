import ClusterClient.Entries

/-!
# Tag sets

Labels of a replica set member, also one alternative of a read preference: a finite map from names
to values, kept in ascending order of the names so that equal maps are equal values.

    matches wanted tags ↔ every tag of wanted is in tags with the same value   (matches_iff)
    matches empty tags                                                         (empty_matches)
-/

namespace ClusterClient

structure TagSet where
  entries : List (String × String)
  ascending : Entries.Ascending entries
deriving DecidableEq

namespace TagSet

/-! ## Algorithm -/

def empty : TagSet := ⟨[], .nil⟩

/-- The set with one more tag; a tag of the same name is replaced. -/
def insert (tags : TagSet) (name value : String) : TagSet :=
  ⟨Entries.insert name value tags.entries, Entries.insert_ascending tags.ascending⟩

def ofList (tags : List (String × String)) : TagSet :=
  tags.foldl (fun acc tag => acc.insert tag.1 tag.2) empty

def isEmpty (tags : TagSet) : Bool := tags.entries.isEmpty

def get? (tags : TagSet) (name : String) : Option String :=
  tags.entries.lookup name

/-- Whether every tag of `wanted` is in `tags` with the same value. -/
def «matches» (wanted tags : TagSet) : Bool :=
  wanted.entries.all fun e => tags.get? e.1 == some e.2

/-! ## Lemmas -/

theorem matches_iff {wanted tags : TagSet} :
    wanted.matches tags = true ↔ ∀ e ∈ wanted.entries, tags.get? e.1 = some e.2 := by
  simp [TagSet.matches]

theorem empty_matches (tags : TagSet) : empty.matches tags = true := by
  simp [TagSet.matches, empty]

end TagSet

end ClusterClient

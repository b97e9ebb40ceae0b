import ClusterClient.Proofs.Pool.Accounting

/-!
# Tags

Every connection goes about with the place that was reserved for it and the generation of that
moment, and so does every promise of a connection. Both numbers only ever grow, and no move changes
a tag: it is kept, or made of the numbers of the moment.

    t ∈ b'.tags → t ∈ b.tags ∨ t = (b.generation, b.reservations)       (mem_tags_of_move)
-/

namespace ClusterClient

/-- The generation and the place that a connection was reserved with. -/
structure Tag where
  generation : Nat
  place : Nat
deriving DecidableEq

def Idle.tag (i : Idle) : Tag := ⟨i.generation, i.connection.link.place⟩

def Lent.tag (l : Lent) : Tag := ⟨l.generation, l.connection.link.place⟩

def Opening.tag (o : Opening) : Tag := ⟨o.generation, o.place⟩

namespace Ledger

def tags (b : Ledger) : List Tag :=
  b.idle.map Idle.tag ++ b.lent.map Lent.tag ++ b.openings.map Opening.tag

structure Tagged (b : Ledger) : Prop where
  generation_le : ∀ t ∈ b.tags, t.generation ≤ b.generation
  place_lt : ∀ t ∈ b.tags, t.place < b.reservations
  placed : ∀ o ∈ b.openings, ∀ c, o.connection = some c → c.link.place = o.place
  idle_eq : b.closed = true → b.idle = []

section

variable {b b' : Ledger}

theorem generation_le_of_move (m : Move b b') : b.generation ≤ b'.generation := by
  cases m with
  | invalidate => exact Nat.le_succ _
  | _ => exact Nat.le_refl _

theorem reservations_le_of_move (m : Move b b') : b.reservations ≤ b'.reservations := by
  cases m with
  | reserve | refill => exact Nat.le_succ _
  | _ => exact Nat.le_refl _

theorem closed_of_move (m : Move b b') (h : b.closed = true) : b'.closed = true := by
  cases m with
  | close => rfl
  | _ => exact h

/-- The use of a connection keeps whose it is, its tag and its stream. -/
theorem Balanced.exists_mem_of_use (h : Balanced b) {l m : Lent} {c : Connection}
    (held : l ∈ b.lent) (follows : l.connection.Follows c)
    (hm : m ∈ b.lent.map (setConnection l.borrower c)) :
    ∃ m' ∈ b.lent, m'.borrower = m.borrower ∧ m'.tag = m.tag ∧
      m'.connection.link.serial = m.connection.link.serial := by
  obtain ⟨before, after, found, -, replaced⟩ := h.exists_lent_eq held
  rw [replaced] at hm
  rw [found]
  rcases List.mem_append.1 hm with hm | hm
  · exact ⟨m, by simp [hm], rfl, rfl, rfl⟩
  · rcases List.mem_cons.1 hm with rfl | hm
    · have tag_eq : l.tag = { l with connection := c }.tag := by
        simp only [Lent.tag, follows.link.place_eq]
      exact ⟨l, by simp, rfl, tag_eq, follows.link.serial_eq.symm⟩
    · exact ⟨m, by simp [hm], rfl, rfl, rfl⟩

theorem map_tag_filter_subset (ls : List Lent) (p : Lent → Bool) :
    (ls.filter p).map Lent.tag ⊆ ls.map Lent.tag :=
  List.map_subset Lent.tag (List.filter_subset_self ls)

theorem mem_tags_of_move (balanced : Balanced b) (h : Tagged b) (m : Move b b') :
    ∀ t ∈ b'.tags, t ∈ b.tags ∨
      t = ⟨b.generation, b.reservations⟩ ∧ b'.reservations = b.reservations + 1 := by
  intro t ht
  simp only [tags, List.mem_append] at ht ⊢
  cases m with
  | tick | enter | leave | wait | invalidate | close | shutFirst => exact Or.inl ht
  | @reuse name i rest known top =>
    have same : (⟨name, i.connection, i.generation⟩ : Lent).tag = i.tag := rfl
    simp only [top, List.map_append, List.map_cons, List.map_nil, same, List.mem_append,
      List.mem_cons] at ht ⊢
    grind
  | reserve | refill =>
    simp only [List.map_append, List.map_cons, List.map_nil, List.mem_append,
      List.mem_singleton] at ht
    rcases ht with (ht | ht) | ht | rfl
    · exact Or.inl (Or.inl (Or.inl ht))
    · exact Or.inl (Or.inl (Or.inr ht))
    · exact Or.inl (Or.inr ht)
    · exact Or.inr ⟨rfl, rfl⟩
  | remove split =>
    have := (split.map Idle.tag).mem_iff (a := t)
    rw [List.map_append, List.mem_append] at this
    grind
  | @establish before after o c found =>
    have same : { o with connection := some c }.tag = o.tag := rfl
    simp only [found, List.map_append, List.map_cons, same] at ht ⊢
    exact Or.inl ht
  | fail found | reject found | abandon found =>
    simp only [found, List.map_append, List.map_cons, List.mem_append, List.mem_cons] at ht ⊢
    grind
  | lend found done | file found done =>
    have := h.placed _ (found ▸ List.mem_append_right _ List.mem_cons_self) _ done
    simp only [found, List.map_append, List.map_cons, List.map_nil, List.mem_append,
      List.mem_cons, Lent.tag, Idle.tag, Opening.tag, this] at ht ⊢
    grind
  | use held follows =>
    rcases ht with (ht | ht) | ht
    · exact Or.inl (Or.inl (Or.inl ht))
    · obtain ⟨n, hn, rfl⟩ := List.mem_map.1 ht
      obtain ⟨n', hn', -, same, -⟩ := balanced.exists_mem_of_use held follows hn
      exact Or.inl (Or.inl (Or.inr (same ▸ List.mem_map_of_mem hn')))
    · exact Or.inl (Or.inr ht)
  | @takeBack l held =>
    have same : (⟨l.connection, l.generation, b.clock⟩ : Idle).tag = l.tag := rfl
    have back := List.mem_map_of_mem (f := Lent.tag) held
    have others := map_tag_filter_subset b.lent (·.borrower != l.borrower)
    simp only [List.map_cons, same, List.mem_cons] at ht ⊢
    grind
  | @discard l held =>
    have others := map_tag_filter_subset b.lent (·.borrower != l.borrower)
    grind

theorem placed_of_move (h : Tagged b) (m : Move b b') :
    ∀ o ∈ b'.openings, ∀ c, o.connection = some c → c.link.place = o.place := by
  intro o ho c hc
  have placed := h.placed
  cases m with
  | reserve | refill =>
    rcases List.mem_append.1 ho with ho | ho
    · exact placed o ho c hc
    · rw [List.mem_singleton.1 ho] at hc
      cases hc
  | establish found under serial place =>
    rcases List.mem_append.1 ho with ho' | ho'
    · exact placed o (found ▸ List.mem_append_left _ ho') c hc
    · rcases List.mem_cons.1 ho' with rfl | ho'
      · cases hc
        exact place
      · exact placed o (found ▸ List.mem_append_right _ (List.mem_cons_of_mem _ ho')) c hc
  | fail found | reject found | lend found | file found | abandon found =>
    refine placed o ?_ c hc
    rw [found]
    simp only at ho
    grind
  | _ => exact placed o ho c hc

theorem idle_eq_of_move (h : Tagged b) (m : Move b b') (closed : b'.closed = true) :
    b'.idle = [] := by
  have idle_eq := h.idle_eq
  cases m with
  | close empty => exact empty
  | reuse known top isOpen => simp [isOpen] at closed
  | file found done caller isOpen => simp [isOpen] at closed
  | takeBack held isOpen => simp [isOpen] at closed
  | remove split =>
    rw [idle_eq closed, List.nil_perm, List.append_eq_nil_iff] at split
    exact split.2
  | _ => exact idle_eq closed

theorem tagged_of_move (balanced : Balanced b) (h : Tagged b) (m : Move b b') : Tagged b' where
  generation_le t ht := by
    have := generation_le_of_move m
    rcases mem_tags_of_move balanced h m t ht with old | ⟨rfl, -⟩
    · exact Nat.le_trans (h.generation_le t old) this
    · exact this
  place_lt t ht := by
    have := reservations_le_of_move m
    rcases mem_tags_of_move balanced h m t ht with old | ⟨rfl, next⟩
    · exact Nat.lt_of_lt_of_le (h.place_lt t old) this
    · rw [next]
      exact Nat.lt_succ_self _
  placed := placed_of_move h m
  idle_eq := idle_eq_of_move h m

/-! ## Moves one after another -/

structure Sound (b : Ledger) : Prop where
  balanced : Balanced b
  tagged : Tagged b

theorem sound_of_moves (h : Sound b) (ms : Moves b b') : Sound b' := by
  induction ms with
  | refl => exact h
  | tail _ m ih =>
    exact ⟨balanced_of_move ih.balanced m, tagged_of_move ih.balanced ih.tagged m⟩

theorem generation_le_of_moves (ms : Moves b b') : b.generation ≤ b'.generation := by
  induction ms with
  | refl => exact Nat.le_refl _
  | tail _ m ih => exact Nat.le_trans ih (generation_le_of_move m)

theorem closed_of_moves (ms : Moves b b') (h : b.closed = true) : b'.closed = true := by
  induction ms with
  | refl => exact h
  | tail _ m ih => exact closed_of_move m ih

end

end Ledger

end ClusterClient

import ClusterClient.Proofs.Selection.Connected

/-!
# Near servers

The latency window keeps the servers that are at most `window` slower than any other. This says the
same as the bound by the least latency, but nothing in it depends on the order of the servers.

    withinWindow servers window = some kept → (d ∈ kept ↔ d is Near)   (mem_withinWindow_iff_near)
    fastest? servers = some s → s is no slower than any of them            (latency_le_of_fastest?)
      and faster than those before it                                     (exists_split_of_fastest?)
-/

namespace ClusterClient

/-- At most `window` slower than any of the servers, and one of them. -/
def Near (window : Duration) (servers : List ServerDescription) (d : ServerDescription) : Prop :=
  d ∈ servers ∧ ∀ e ∈ servers, d.latency.nanos ≤ e.latency.nanos + window.nanos

section

variable {servers servers' kept : List ServerDescription} {window least : Duration}
  {d : ServerDescription}

theorem near_congr (same : ∀ e, e ∈ servers ↔ e ∈ servers') :
    Near window servers d ↔ Near window servers' d := by
  simp only [Near, same]

/-! ## The window -/

theorem leastLatency?_eq_some_iff : leastLatency? servers = some least ↔
    (∃ d ∈ servers, d.latency = least) ∧ ∀ d ∈ servers, least.nanos ≤ d.latency.nanos := by
  simp only [leastLatency?, Option.map_eq_some_iff, List.min?_eq_some_iff, List.mem_map]
  constructor
  · rintro ⟨nanos, ⟨⟨d, hd, rfl⟩, le⟩, rfl⟩
    exact ⟨⟨d, hd, rfl⟩, fun e he => le _ ⟨e, he, rfl⟩⟩
  · rintro ⟨⟨d, hd, rfl⟩, le⟩
    refine ⟨_, ⟨⟨d, hd, rfl⟩, ?_⟩, rfl⟩
    rintro _ ⟨e, he, rfl⟩
    exact le e he

theorem leastLatency?_eq_none_iff : leastLatency? servers = none ↔ servers = [] := by
  simp [leastLatency?]

theorem mem_withinWindow_iff_near (h : withinWindow servers window = some kept) :
    d ∈ kept ↔ Near window servers d := by
  cases hl : leastLatency? servers with
  | none =>
    obtain rfl := leastLatency?_eq_none_iff.1 hl
    obtain rfl : [] = kept := Option.some.inj h
    simp [Near]
  | some least =>
    obtain ⟨⟨fastest, hf, rfl⟩, le⟩ := leastLatency?_eq_some_iff.1 hl
    rw [mem_withinWindow h hl]
    constructor
    · rintro ⟨hd, bound⟩
      refine ⟨hd, fun e he => ?_⟩
      have := le e he
      omega
    · rintro ⟨hd, near⟩
      exact ⟨hd, near fastest hf⟩

/-- A second window takes nothing away. -/
theorem near_iff_mem_of_withinWindow (h : withinWindow servers window = some kept) :
    Near window kept d ↔ d ∈ kept := by
  refine ⟨And.left, fun hd => ⟨hd, fun e he => ?_⟩⟩
  exact ((mem_withinWindow_iff_near h).1 hd).2 e (mem_of_mem_withinWindow h he)

theorem isSome_withinWindow (fits : ∀ d ∈ servers, (d.latency.add? window).isSome) :
    (withinWindow servers window).isSome := by
  unfold withinWindow
  split
  · rfl
  · next least hl =>
    obtain ⟨⟨fastest, hf, rfl⟩, -⟩ := leastLatency?_eq_some_iff.1 hl
    rw [Option.isSome_map]
    exact fits fastest hf

/-- The fastest servers are always kept. -/
theorem withinWindow_eq_nil_iff (h : withinWindow servers window = some kept) :
    kept = [] ↔ servers = [] := by
  constructor
  · rintro rfl
    cases hl : leastLatency? servers with
    | none => exact leastLatency?_eq_none_iff.1 hl
    | some least =>
      obtain ⟨⟨fastest, hf, rfl⟩, le⟩ := leastLatency?_eq_some_iff.1 hl
      have near : Near window servers fastest := by
        refine ⟨hf, fun e he => ?_⟩
        have := le e he
        omega
      exact absurd ((mem_withinWindow_iff_near h).2 near) List.not_mem_nil
  · rintro rfl
    exact (Option.some.inj h).symm

theorem withinWindow_singleton (h : withinWindow [d] window = some kept) : kept = [d] := by
  have least : leastLatency? [d] = some d.latency := rfl
  rw [withinWindow, least, Option.map_eq_some_iff] at h
  obtain ⟨bound, sum, rfl⟩ := h
  obtain ⟨-, rfl⟩ := Duration.add?_eq_some_iff.1 sum
  simp [Duration.le_iff]

/-! ## The fastest -/

theorem fastest?_eq_none_iff : fastest? servers = none ↔ servers = [] := by
  cases servers with
  | nil => simp [fastest?]
  | cons s rest =>
    simp only [fastest?, reduceCtorEq, iff_false]
    split
    · split <;> simp
    · simp

/-- The fastest is slower than none, and faster than those before it. -/
theorem exists_split_of_fastest? (h : fastest? servers = some d) :
    ∃ before after, servers = before ++ d :: after ∧
      (∀ e ∈ before, d.latency.nanos < e.latency.nanos) ∧
      ∀ e ∈ after, d.latency.nanos ≤ e.latency.nanos := by
  induction servers generalizing d with
  | nil => cases h
  | cons s rest ih =>
    unfold fastest? at h
    split at h
    · next t ht =>
      obtain ⟨before, after, rfl, faster, le⟩ := ih ht
      split at h
      · next first =>
        obtain rfl := Option.some.inj h
        rw [Duration.lt_iff] at first
        exact ⟨s :: before, after, rfl, List.forall_mem_cons.2 ⟨first, faster⟩, le⟩
      · next slower =>
        obtain rfl := Option.some.inj h
        rw [Duration.lt_iff, Nat.not_lt] at slower
        refine ⟨[], before ++ t :: after, rfl, by simp, fun e he => ?_⟩
        rcases List.mem_append.1 he with he | he
        · exact Nat.le_of_lt (Nat.lt_of_le_of_lt slower (faster e he))
        · rcases List.mem_cons.1 he with rfl | he
          · exact slower
          · exact Nat.le_trans slower (le e he)
    · next ht =>
      obtain rfl := Option.some.inj h
      obtain rfl := fastest?_eq_none_iff.1 ht
      exact ⟨[], [], rfl, by simp, by simp⟩

theorem latency_le_of_fastest? (h : fastest? servers = some d) :
    ∀ e ∈ servers, d.latency.nanos ≤ e.latency.nanos := by
  obtain ⟨before, after, rfl, faster, le⟩ := exists_split_of_fastest? h
  intro e he
  rcases List.mem_append.1 he with he | he
  · exact Nat.le_of_lt (faster e he)
  · rcases List.mem_cons.1 he with rfl | he
    · exact Nat.le_refl _
    · exact le e he

end

end ClusterClient

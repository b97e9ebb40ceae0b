import ClusterClient.Proofs.Selection.Nearness
import Mathlib.Data.List.Basic

/-!
# Windows above the fastest servers

The bound of a latency window is taken from the servers that it is applied to. The fastest servers
are always kept, so the bound of what is left is the same: a second window that is no narrower takes
nothing away, and a wider window keeps all that a narrower one keeps.

    there is no answer ↔ the window does not fit above a fastest server   (withinWindow_eq_none_iff)
    the servers kept = those up to the bound, in order, if it fits          (withinWindow_eq_some)
    d is fastest of those kept ↔ d is fastest of all                  (fastest_iff_of_withinWindow)
-/

namespace ClusterClient

/-- One of the servers, and slower than none of them. -/
structure Fastest (servers : List ServerDescription) (d : ServerDescription) : Prop where
  mem : d ∈ servers
  le : ∀ e ∈ servers, d.latency ≤ e.latency

/-- The sum of the least latency and the window is no longer than the longest duration. -/
def Duration.Fits (window : Duration) (servers : List ServerDescription) : Prop :=
  ∀ d, Fastest servers d → d.latency.nanos + window.nanos ≤ Duration.longest.nanos

section

variable {servers kept more : List ServerDescription} {window wider : Duration}
  {d fastest : ServerDescription}

/-! ## The fastest servers -/

theorem exists_fastest (nonempty : servers ≠ []) : ∃ d, Fastest servers d := by
  cases least : leastLatency? servers with
  | none => exact absurd (leastLatency?_eq_none_iff.1 least) nonempty
  | some latency =>
    obtain ⟨⟨d, hd, rfl⟩, le⟩ := leastLatency?_eq_some_iff.1 least
    exact ⟨d, hd, le⟩

theorem Fastest.leastLatency? (h : Fastest servers fastest) :
    leastLatency? servers = some fastest.latency :=
  leastLatency?_eq_some_iff.2 ⟨⟨fastest, h.mem, rfl⟩, h.le⟩

/-- All fastest servers have the least latency. -/
theorem Fastest.nanos_eq (h : Fastest servers fastest) (h' : Fastest servers d) :
    fastest.latency.nanos = d.latency.nanos :=
  Nat.le_antisymm (h.le d h'.mem) (h'.le fastest h.mem)

theorem Fastest.fits_iff (h : Fastest servers fastest) :
    window.Fits servers ↔ fastest.latency.nanos + window.nanos ≤ Duration.longest.nanos := by
  constructor
  · intro fits
    exact fits fastest h
  · intro fits d hd
    rw [← h.nanos_eq hd]
    exact fits

/-! ## What is kept -/

theorem withinWindow_eq_some (h : Fastest servers fastest) (fits : window.Fits servers) :
    withinWindow servers window =
      some (servers.filter fun d => d.latency.nanos ≤ fastest.latency.nanos + window.nanos) := by
  have bound : fastest.latency.add? window = some ⟨fastest.latency.nanos + window.nanos⟩ :=
    Duration.add?_eq_some_iff.2 ⟨fits fastest h, rfl⟩
  rw [withinWindow, h.leastLatency?]
  simp only [bound, Option.map_some, Duration.le_iff]

theorem withinWindow_sublist (h : withinWindow servers window = some kept) :
    kept.Sublist servers := by
  unfold withinWindow at h
  split at h
  · cases h
    exact List.Sublist.refl _
  · obtain ⟨bound, -, rfl⟩ := Option.map_eq_some_iff.1 h
    exact List.filter_sublist

/-- There is no answer if the window reaches too far above the fastest server. -/
theorem withinWindow_eq_none_iff :
    withinWindow servers window = none ↔
      ∃ fastest ∈ servers, (∀ e ∈ servers, fastest.latency ≤ e.latency) ∧
        Duration.longest.nanos < fastest.latency.nanos + window.nanos := by
  have overflows (least : Duration) :
      least.add? window = none ↔ Duration.longest.nanos < least.nanos + window.nanos := by
    rw [← Option.not_isSome_iff_eq_none, Duration.add?_isSome_iff, Nat.not_le]
  unfold withinWindow
  split
  · next none =>
    obtain rfl := leastLatency?_eq_none_iff.1 none
    simp
  · next least found =>
    obtain ⟨⟨fastest, mem, rfl⟩, le⟩ := leastLatency?_eq_some_iff.1 found
    rw [Option.map_eq_none_iff, overflows]
    constructor
    · intro far
      exact ⟨fastest, mem, le, far⟩
    · rintro ⟨other, hother, least, far⟩
      have := le other hother
      have : other.latency.nanos ≤ fastest.latency.nanos := least fastest mem
      omega

theorem exists_withinWindow_iff :
    (∃ kept, withinWindow servers window = some kept) ↔ window.Fits servers := by
  rw [← Option.ne_none_iff_exists', ne_eq, withinWindow_eq_none_iff]
  constructor
  · intro near d fastest
    by_contra far
    exact near ⟨d, fastest.mem, fastest.le, Nat.not_le.1 far⟩
  · rintro fits ⟨d, mem, le, far⟩
    have := fits d ⟨mem, le⟩
    omega

/-- The fastest servers are kept, and what is kept has no faster ones. -/
theorem fastest_iff_of_withinWindow (h : withinWindow servers window = some kept) :
    Fastest kept d ↔ Fastest servers d := by
  have sublist := withinWindow_sublist h
  have mem (d : ServerDescription) (fastest : Fastest servers d) : d ∈ kept := by
    rw [mem_withinWindow_iff_near h]
    exact ⟨fastest.mem, fun e he => Nat.le_add_right_of_le (fastest.le e he)⟩
  constructor
  · intro fastest
    obtain ⟨e, he⟩ := exists_fastest (List.ne_nil_of_mem (sublist.subset fastest.mem))
    refine ⟨sublist.subset fastest.mem, fun other hother => ?_⟩
    have first : d.latency.nanos ≤ e.latency.nanos := fastest.le e (mem e he)
    exact Nat.le_trans first (he.le other hother)
  · intro fastest
    exact ⟨mem d fastest, fun e he => fastest.le e (sublist.subset he)⟩

theorem fits_iff_of_withinWindow (h : withinWindow servers window = some kept) :
    wider.Fits kept ↔ wider.Fits servers :=
  forall_congr' fun _ => imp_congr_left (fastest_iff_of_withinWindow h)

theorem eq_filter_of_withinWindow (h : withinWindow servers window = some kept)
    (first : Fastest servers fastest) :
    kept = servers.filter fun d => d.latency.nanos ≤ fastest.latency.nanos + window.nanos := by
  have fits := exists_withinWindow_iff.1 ⟨kept, h⟩
  rw [withinWindow_eq_some first fits] at h
  exact (Option.some.inj h).symm

/-- What a window has kept, no other that is as wide takes away. -/
theorem withinWindow_of_withinWindow (h : withinWindow servers window = some kept)
    (le : window ≤ wider) (fits : wider.Fits kept) : withinWindow kept wider = some kept := by
  rcases eq_or_ne kept [] with rfl | nonempty
  · rfl
  · obtain ⟨fastest, first⟩ := exists_fastest nonempty
    rw [withinWindow_eq_some first fits]
    refine congrArg some (List.filter_eq_self.2 fun d hd => decide_eq_true ?_)
    have near := (mem_withinWindow_iff_near h).1 hd
    have bound := near.2 fastest ((withinWindow_sublist h).subset first.mem)
    rw [Duration.le_iff] at le
    omega

theorem withinWindow_sublist_of_le (h : withinWindow servers window = some kept)
    (h' : withinWindow servers wider = some more) (le : window ≤ wider) : kept.Sublist more := by
  rcases eq_or_ne servers [] with rfl | nonempty
  · cases h
    exact List.nil_sublist more
  · obtain ⟨fastest, first⟩ := exists_fastest nonempty
    rw [eq_filter_of_withinWindow h first, eq_filter_of_withinWindow h' first]
    refine List.monotone_filter_right servers fun d hd => ?_
    rw [decide_eq_true_eq] at hd ⊢
    rw [Duration.le_iff] at le
    omega

end

/-! ## Main result -/

/-- What a window keeps of some servers. -/
structure Windowed (window : Duration) (servers kept : List ServerDescription) : Prop where
  /-- In order and with multiplicity, the servers up to the bound. -/
  kept_eq : ∀ fastest, Fastest servers fastest →
    kept = servers.filter fun d => d.latency.nanos ≤ fastest.latency.nanos + window.nanos
  /-- Something is left whenever there was something. -/
  eq_nil_iff : kept = [] ↔ servers = []
  /-- A fastest server is kept as often as it is there, ... -/
  count_eq : ∀ d, Fastest servers d → kept.count d = servers.count d
  /-- ... and those kept have no other fastest servers. -/
  fastest_iff : ∀ d, Fastest kept d ↔ Fastest servers d
  /-- The same window changes nothing any more, and neither does a wider one. -/
  again : ∀ wider, window ≤ wider → wider.Fits servers → withinWindow kept wider = some kept
  /-- A wider window keeps all that is kept, as often and in the same order. -/
  wider : ∀ wider, window ≤ wider → wider.Fits servers →
    ∃ more, withinWindow servers wider = some more ∧ kept.Sublist more

theorem windowed_of_fits {window : Duration} {servers : List ServerDescription}
    (fits : window.Fits servers) :
    ∃ kept, withinWindow servers window = some kept ∧ Windowed window servers kept := by
  obtain ⟨kept, h⟩ := exists_withinWindow_iff.2 fits
  refine ⟨kept, h, ?_, withinWindow_eq_nil_iff h, ?_, ?_, ?_, ?_⟩
  · exact fun fastest first => eq_filter_of_withinWindow h first
  · intro d first
    rw [eq_filter_of_withinWindow h first, List.count_filter]
    exact decide_eq_true (Nat.le_add_right _ _)
  · exact fun d => fastest_iff_of_withinWindow h
  · intro wider le fits
    exact withinWindow_of_withinWindow h le ((fits_iff_of_withinWindow h).2 fits)
  · intro wider le fits
    obtain ⟨more, h'⟩ := exists_withinWindow_iff.2 fits
    exact ⟨more, h', withinWindow_sublist_of_le h h' le⟩

/-- One of the fastest servers is listed twice, and one server is exactly on the bound. -/
theorem windowed_of_fits_bound :
    let server (host : String) (millis : Nat) : ServerDescription :=
      { address := ⟨host, 1⟩, latency := .ofMillis millis }
    let servers := [server "a" 21, server "b" 5, server "c" 20, server "b" 5, server "d" 5]
    let kept := [server "b" 5, server "c" 20, server "b" 5, server "d" 5]
    (Duration.ofMillis 15).Fits servers ∧ withinWindow servers (.ofMillis 15) = some kept ∧
      withinWindow kept (.ofMillis 16) = some kept ∧
      Windowed (.ofMillis 15) servers kept := by
  intro server servers kept
  have fastest : Fastest servers (server "b" 5) := ⟨by decide, by decide⟩
  have fits : (Duration.ofMillis 15).Fits servers := fastest.fits_iff.2 (by decide)
  obtain ⟨kept', h, windowed⟩ := windowed_of_fits fits
  obtain rfl : kept' = kept := by
    rw [windowed.kept_eq _ fastest]
    decide
  exact ⟨fits, h, windowed.again _ (by decide) (fastest.fits_iff.2 (by decide)), windowed⟩

end ClusterClient

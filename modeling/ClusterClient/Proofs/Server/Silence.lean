import ClusterClient.Server.Monitor

/-!
# The silence of closed monitors

A monitor that was told to stop finishes the check it is at, or the one that is about to begin, and
looks at its signals after that. On the way it publishes at most that it connects and what came of
the check.

    m.closed → (m.run events).published.length ≤ m.published.length + 2       (length_published_le)
-/

namespace ClusterClient

/-- How many descriptions may be published before the signals are looked at. -/
def MonitorPhase.remaining : MonitorPhase → Nat
  | ready => 2
  | connecting | probing => 1
  | checked _ | blocked .. | stopped => 0

namespace Monitor

/-- The closed monitor `m` has become `m'` and published no more than it had left. -/
structure Fades (m m' : Monitor) : Prop where
  closed : m'.closed = true
  le : m'.published.length + m'.phase.remaining ≤ m.published.length + m.phase.remaining

section

variable {m m' : Monitor}

theorem Fades.refl (closed : m.closed = true) : Fades m m := ⟨closed, Nat.le_refl _⟩

theorem Fades.trans {m'' : Monitor} (h : Fades m m') (h' : Fades m' m'') : Fades m m'' :=
  ⟨h'.closed, Nat.le_trans h'.le h.le⟩

/-- Nothing was published, and no check has begun. -/
theorem Fades.of_eq (closed : m'.closed = true) (published : m'.published = m.published)
    (le : m'.phase.remaining ≤ m.phase.remaining) : Fades m m' :=
  ⟨closed, by rw [published]; exact Nat.add_le_add_left le _⟩

/-- One description is published in the check that is going on. -/
theorem Fades.of_publish (closed : m.closed = true) {n : Monitor} (d : ServerDescription)
    (same : n.closed = m.closed ∧ n.published = m.published)
    (published : m'.closed = (n.publish d).closed ∧ m'.published = (n.publish d).published)
    (less : m'.phase.remaining < m.phase.remaining) : Fades m m' := by
  have told : (n.publish d).closed = n.closed := by
    unfold publish
    split <;> rfl
  have more : (n.publish d).published.length ≤ n.published.length + 1 := by
    unfold publish
    split
    · exact Nat.le_succ _
    · exact Nat.le_of_eq List.length_append
  refine ⟨published.1.trans (told.trans (same.1.trans closed)), ?_⟩
  rw [published.2]
  rw [same.2] at more
  omega

/-! ## Steps -/

theorem fades_begin (closed : m.closed = true) : Fades m m.begin := by
  unfold begin
  split
  · next ready =>
    have two : m.phase.remaining = 2 := congrArg MonitorPhase.remaining ready
    simp only
    split
    · exact .of_eq closed rfl (by rw [two]; exact Nat.le_succ 1)
    · split
      · let counted := { m with checks := m.checks + 1 }
        refine .of_publish closed (n := counted) _ ⟨rfl, rfl⟩ ⟨rfl, rfl⟩ ?_
        rw [two]
        exact Nat.lt_succ_self 1
      · exact .of_eq closed rfl (by rw [two]; exact Nat.le_succ 1)
  · exact .refl closed

theorem fades_fail (closed : m.closed = true) {n : Monitor}
    (same : n.closed = m.closed ∧ n.published = m.published) (busy : 0 < m.phase.remaining)
    (cause : Error) : Fades m (n.fail cause) :=
  .of_publish closed (n := { n with average := n.average.reset }.disconnect) _ same ⟨rfl, rfl⟩ busy

theorem fades_dialed (closed : m.closed = true) (stream : Except Error Link) :
    Fades m (m.dialed stream) := by
  unfold dialed
  split
  · next connecting =>
    have one : m.phase.remaining = 1 := congrArg MonitorPhase.remaining connecting
    simp only
    split
    · exact .of_eq closed rfl (by rw [one]; exact Nat.le_refl 1)
    · refine fades_fail closed ?_ (by rw [one]; exact Nat.one_pos) _
      exact ⟨rfl, rfl⟩
  · exact .refl closed

theorem fades_probed (closed : m.closed = true) (outcome : Except Error ProbeReply)
    (elapsed : Duration) : Fades m (m.probed outcome elapsed) := by
  unfold probed
  split
  · next probing =>
    have one : m.phase.remaining = 1 := congrArg MonitorPhase.remaining probing
    have busy : 0 < m.phase.remaining := by
      rw [one]
      exact Nat.one_pos
    split
    · exact fades_fail closed ⟨rfl, rfl⟩ busy _
    · next reply =>
      let sampled := { m with average := (m.average.add elapsed).2 }
      let found : ServerDescription :=
        .ofReply m.address reply ((m.average.add elapsed).1.getD .longest)
      exact .of_publish closed (n := sampled) found ⟨rfl, rfl⟩ ⟨rfl, rfl⟩ busy
  · exact .refl closed

theorem fades_look (closed : m.closed = true) (due : Instant) : Fades m (m.look due) := by
  rw [look, if_pos closed]
  exact .of_eq closed rfl (Nat.zero_le _)

theorem fades_notify {n : Monitor} (told : n.closed = true)
    (same : n.published = m.published ∧ n.phase = m.phase) : Fades m n.notify := by
  unfold notify
  split
  · exact .of_eq told same.1 (Nat.zero_le _)
  · exact .of_eq told same.1 (Nat.le_of_eq (congrArg _ same.2))

theorem fades_step (closed : m.closed = true) (e : Event) : Fades m (m.step e) := by
  cases e with
  | begin => exact fades_begin closed
  | dialed stream => exact fades_dialed closed stream
  | use usage =>
    simp only [step, use]
    split
    · exact .of_eq closed rfl (Nat.le_refl _)
    · exact .refl closed
  | probed outcome elapsed => exact fades_probed closed outcome elapsed
  | pause =>
    simp only [step, pause]
    split
    · exact fades_look closed _
    · exact .refl closed
  | resume =>
    simp only [step, resume]
    split
    · split
      · exact .of_eq closed rfl (Nat.zero_le _)
      · exact fades_look closed _
    · exact .refl closed
  | invalidate => exact fades_notify (n := { m with wake := true }) closed ⟨rfl, rfl⟩
  | close => exact fades_notify (n := { m with closed := true }) rfl ⟨rfl, rfl⟩
  | tick elapsed => exact .of_eq closed rfl (Nat.le_refl _)

theorem fades_run (closed : m.closed = true) (events : List Event) : Fades m (m.run events) := by
  induction events generalizing m with
  | nil => exact .refl closed
  | cons e events ih =>
    have first := fades_step closed e
    exact first.trans (ih first.closed)

theorem length_published_le (closed : m.closed = true) (events : List Event) :
    (m.run events).published.length ≤ m.published.length + 2 := by
  have fades := (fades_run closed events).le
  have two : m.phase.remaining ≤ 2 := by
    cases m.phase <;> simp [MonitorPhase.remaining]
  omega

end

end Monitor

end ClusterClient

import ClusterClient.Server.Monitor

/-!
# What a monitor finds out

A step of a monitor finds out at most one thing: that the server has replied, that an attempt to
connect or a probe has failed, or that it is time to connect again to a server that could not be
reached. Nothing else changes the description, and a failure leaves the monitor at rest, without a
connection and with no check going on.

    Took m e (m.step e)                                                      (took_step)
    Finding m e d → (m.step e).description = d                               (of_finding)
-/

namespace ClusterClient

namespace Monitor

open ServerDescription

/-! ## Findings -/

/-- What comes of an attempt to connect. -/
def attempt (m : Monitor) (stream : Except Error Link) : Dialed :=
  (m.dialer.dial m.address m.lastId m.clock
    (stream.map fun link => { link with serial := m.streams }) m.buffers).1

/-- A check ends with a failure. -/
inductive Failure (m : Monitor) : Event → Error → Prop where
  | unreachable {stream : Except Error Link} {cause : Error} {shut : Option Connection}
      (connecting : m.phase = .connecting) (failed : m.attempt stream = .failed cause shut) :
      Failure m (.dialed stream) cause
  | unanswered {cause : Error} {elapsed : Duration} (probing : m.phase = .probing) :
      Failure m (.probed (.error cause) elapsed) cause

/-- The smoothed round trip time after one more probe. -/
def latency (m : Monitor) (elapsed : Duration) : Duration :=
  (m.average.add elapsed).1.getD .longest

/-- What a monitor finds out in a step. -/
inductive Finding (m : Monitor) : Event → ServerDescription → Prop where
  | restart (ready : m.phase = .ready) (apart : m.hasOpenConnection = false)
      (failed : m.description.state = .unknown) :
      Finding m .begin { fresh m.address with error := m.description.error }
  | failure {e : Event} {cause : Error} (h : Failure m e cause) :
      Finding m e (unknown m.address cause.message)
  | reply {reply : ProbeReply} {elapsed : Duration} (probing : m.phase = .probing) :
      Finding m (.probed (.ok reply) elapsed) (.ofReply m.address reply (m.latency elapsed))

/-- Two monitors that have published the same. -/
structure Alike (m m' : Monitor) : Prop where
  address_eq : m'.address = m.address
  description_eq : m'.description = m.description
  published_eq : m'.published = m.published

theorem Alike.refl (m : Monitor) : Alike m m := ⟨rfl, rfl, rfl⟩

theorem Alike.trans {m₁ m₂ m₃ : Monitor} (h : Alike m₁ m₂) (h' : Alike m₂ m₃) : Alike m₁ m₃ :=
  ⟨h'.address_eq.trans h.address_eq, h'.description_eq.trans h.description_eq,
    h'.published_eq.trans h.published_eq⟩

variable {m m' m₀ : Monitor} {d : ServerDescription} {e : Event}

theorem Alike.publish (h : Alike m m') (d : ServerDescription) :
    Alike (m.publish d) (m'.publish d) := by
  unfold Monitor.publish
  rw [h.description_eq]
  split
  · exact h
  · exact ⟨h.address_eq, rfl, by rw [h.published_eq]⟩

theorem description_publish (m : Monitor) (d : ServerDescription) :
    (m.publish d).description = d := by
  unfold publish
  split
  · next same => exact same.symm
  · rfl

/-- What becomes known when a description is replaced. -/
def change (old new : ServerDescription) : List ServerDescription := if new = old then [] else [new]

theorem publish_eq (m : Monitor) (d : ServerDescription) : m.publish d =
    { m with description := d, published := m.published ++ change m.description d } := by
  unfold publish change
  split
  · next same => rw [same, List.append_nil]
  · rfl

/-- All that a failed check leaves. -/
theorem fail_eq (m : Monitor) (cause : Error) : m.fail cause =
    { m.disconnect with
      average := m.average.reset
      description := .unknown m.address cause.message
      published := m.published ++ change m.description (.unknown m.address cause.message)
      phase := .checked m.settings.heartbeatConnectRetryFrequency } := by
  rw [fail, publish_eq]
  rfl

/-- There is no connection, and no check is going on. -/
structure Rested (m : Monitor) : Prop where
  apart : m.connection = none
  notConnecting : m.phase ≠ .connecting
  notProbing : m.phase ≠ .probing

/-! ## Steps -/

/-- What a step can come to: nothing that concerns the description, or something was found. A
monitor that knows nothing of its server is at rest, and so it is after a failure. -/
inductive Took (m : Monitor) (e : Event) (m' : Monitor) : Prop where
  | quietly (alike : Alike m m') (nothing : ∀ d, ¬Finding m e d)
      (rested : m.description.state = .unknown → Rested m → Rested m')
  | finding {d : ServerDescription} (found : Finding m e d) (alike : Alike (m.publish d) m')
      (rested : d.state = .unknown → Rested m')

theorem took_nothing (nothing : ∀ d, ¬Finding m e d) : Took m e m :=
  .quietly (.refl m) nothing fun _ h => h

theorem took_begin (m : Monitor) : Took m .begin m.begin := by
  have restarting {d : ServerDescription} (found : Finding m .begin d) :
      m.phase = .ready ∧ m.hasOpenConnection = false ∧ m.description.state = .unknown := by
    cases found with
    | restart ready apart failed => exact ⟨ready, apart, failed⟩
    | failure h => cases h
  unfold begin
  split
  · next ready =>
    simp only
    split
    · next connected =>
      have connected : m.hasOpenConnection = true := connected
      refine .quietly ⟨rfl, rfl, rfl⟩ (fun d found => ?_) fun _ h => ?_
      · rw [(restarting found).2.1] at connected
        cases connected
      · simp [hasOpenConnection, h.apart] at connected
    · next apart =>
      have apart : m.hasOpenConnection = false := Bool.eq_false_iff.2 apart
      split
      · next failed =>
        have counted : Alike m { m with checks := m.checks + 1 } := ⟨rfl, rfl, rfl⟩
        refine .finding (.restart ready apart failed) ((counted.publish _).trans ⟨rfl, rfl, rfl⟩) ?_
        intro h
        cases h
      · next known =>
        refine .quietly ⟨rfl, rfl, rfl⟩ (fun d found => known (restarting found).2.2) fun h => ?_
        exact absurd h known
  · next busy => exact took_nothing fun d found => busy (restarting found).1

theorem alike_fail (h : Alike m m') (cause : Error) :
    Alike (m.publish (unknown m.address cause.message)) (m'.fail cause) := by
  have cleared : Alike m' { m' with average := m'.average.reset }.disconnect := ⟨rfl, rfl, rfl⟩
  rw [← h.address_eq]
  exact ((h.trans cleared).publish _).trans ⟨rfl, rfl, rfl⟩

theorem rested_fail (m : Monitor) (cause : Error) : Rested (m.fail cause) := by
  refine ⟨?_, by simp [fail], by simp [fail]⟩
  show (publish { m with average := m.average.reset }.disconnect _).connection = none
  unfold publish
  split <;> rfl

theorem took_dialed (m : Monitor) (stream : Except Error Link) :
    Took m (.dialed stream) (m.dialed stream) := by
  unfold dialed
  split
  · next connecting =>
    simp only
    split
    · next c established =>
      refine .quietly ⟨rfl, rfl, rfl⟩ (fun d found => ?_) fun _ h => ?_
      · cases found with
        | failure f =>
          cases f with
          | unreachable _ failed =>
            rw [attempt, established] at failed
            cases failed
      · exact absurd connecting h.notConnecting
    · next cause shut failed =>
      refine .finding (.failure (.unreachable connecting failed)) ?_ fun _ => rested_fail _ _
      refine alike_fail (m := m) ?_ cause
      exact ⟨rfl, rfl, rfl⟩
  · next busy =>
    refine took_nothing fun d found => ?_
    cases found with
    | failure f =>
      cases f with
      | unreachable connecting => exact busy connecting

theorem took_probed (m : Monitor) (outcome : Except Error ProbeReply) (elapsed : Duration) :
    Took m (.probed outcome elapsed) (m.probed outcome elapsed) := by
  unfold probed
  split
  · next probing =>
    cases outcome with
    | error cause =>
      have alike := alike_fail (.refl m) cause
      exact .finding (.failure (.unanswered probing)) alike fun _ => m.rested_fail cause
    | ok reply =>
      have averaged : Alike m { m with average := (m.average.add elapsed).2 } := ⟨rfl, rfl, rfl⟩
      refine .finding (.reply probing) ((averaged.publish _).trans ⟨rfl, rfl, rfl⟩) ?_
      intro h
      cases h
  · next busy =>
    refine took_nothing fun d found => ?_
    cases found with
    | failure f =>
      cases f with
      | unanswered probing => exact busy probing
    | reply probing => exact busy probing

theorem Finding.isCheck {d : ServerDescription} (found : Finding m e d) :
    e = .begin ∨ (∃ stream, e = .dialed stream) ∨
      ∃ outcome elapsed, e = .probed outcome elapsed := by
  cases found with
  | restart => exact Or.inl rfl
  | failure f =>
    cases f with
    | unreachable => exact Or.inr (Or.inl ⟨_, rfl⟩)
    | unanswered => exact Or.inr (Or.inr ⟨_, _, rfl⟩)
  | reply => exact Or.inr (Or.inr ⟨_, _, rfl⟩)

theorem Finding.address_eq (found : Finding m e d) : d.address = m.address := by
  cases found <;> rfl

/-- A step that is no part of a check leaves the monitor at rest, if it was. -/
structure Aside (m m' : Monitor) : Prop extends Alike m m' where
  connection : m.connection = none → m'.connection = none
  connecting : m'.phase = .connecting → m.phase = .connecting
  probing : m'.phase = .probing → m.phase = .probing

theorem Aside.took (h : Aside m m') (nothing : ∀ d, ¬Finding m e d) : Took m e m' :=
  .quietly h.toAlike nothing fun _ r =>
    ⟨h.connection r.apart, fun hc => r.notConnecting (h.connecting hc),
      fun hp => r.notProbing (h.probing hp)⟩

theorem Aside.refl (m : Monitor) : Aside m m := ⟨.refl m, fun h => h, fun h => h, fun h => h⟩

theorem aside_use (m : Monitor) (usage : Usage) : Aside m (m.use usage).2 := by
  unfold use
  split
  · next c _ connected => exact ⟨⟨rfl, rfl, rfl⟩, by simp [connected], fun h => h, fun h => h⟩
  · exact .refl m

theorem aside_stop (m : Monitor) : Aside m { m with wake := false }.stop :=
  ⟨⟨rfl, rfl, rfl⟩, fun _ => rfl, by simp [stop], by simp [stop]⟩

theorem aside_ready (m : Monitor) : Aside m { m with wake := false, phase := .ready } :=
  ⟨⟨rfl, rfl, rfl⟩, fun h => h, by simp, by simp⟩

theorem aside_look (m : Monitor) (due : Instant) : Aside m (m.look due) := by
  unfold look
  split
  · exact m.aside_stop
  · split
    · exact m.aside_ready
    · exact ⟨⟨rfl, rfl, rfl⟩, fun h => h, by simp, by simp⟩

theorem aside_pause (m : Monitor) : Aside m m.pause := by
  unfold pause
  split
  · exact m.aside_look _
  · exact .refl m

theorem aside_resume (m : Monitor) : Aside m m.resume := by
  unfold resume
  split
  · split
    · split
      · exact m.aside_stop
      · exact m.aside_ready
    · exact m.aside_look _
  · exact .refl m

theorem aside_notify {m m' : Monitor} (h : Aside m m') : Aside m m'.notify := by
  unfold notify
  split
  · exact ⟨⟨h.address_eq, h.description_eq, h.published_eq⟩, h.connection, by simp, by simp⟩
  · exact h

theorem took_step (m : Monitor) (e : Event) : Took m e (m.step e) := by
  cases e with
  | begin => exact m.took_begin
  | dialed stream => exact m.took_dialed stream
  | probed outcome elapsed => exact m.took_probed outcome elapsed
  | use usage => exact (m.aside_use usage).took fun d found => by simpa using found.isCheck
  | pause => exact m.aside_pause.took fun d found => by simpa using found.isCheck
  | resume => exact m.aside_resume.took fun d found => by simpa using found.isCheck
  | invalidate =>
    have woken : Aside m { m with wake := true } := ⟨⟨rfl, rfl, rfl⟩, id, id, id⟩
    exact (aside_notify woken).took fun d found => by simpa using found.isCheck
  | close =>
    have told : Aside m { m with closed := true } := ⟨⟨rfl, rfl, rfl⟩, id, id, id⟩
    exact (aside_notify told).took fun d found => by simpa using found.isCheck
  | tick elapsed =>
    have later : Aside m (m.tick elapsed) := ⟨⟨rfl, rfl, rfl⟩, id, id, id⟩
    exact later.took fun d found => by simpa using found.isCheck

theorem Took.address_eq (h : Took m e m') : m'.address = m.address := by
  cases h with
  | quietly alike => exact alike.address_eq
  | @finding d _ alike =>
    have same : (m.publish d).address = m.address := by
      unfold publish
      split <;> rfl
    exact alike.address_eq.trans same

theorem Took.description_eq (h : Took m e m') :
    (m'.description = m.description ∧ m'.published = m.published) ∨
      Finding m e m'.description ∧ m.description ≠ m'.description ∧
        m'.published = m.published ++ [m'.description] := by
  cases h with
  | quietly alike => exact Or.inl ⟨alike.description_eq, alike.published_eq⟩
  | @finding d found alike =>
    have description_eq : m'.description = d := alike.description_eq.trans (m.description_publish d)
    have published_eq := alike.published_eq
    unfold publish at published_eq
    split at published_eq
    · next same => exact Or.inl ⟨description_eq.trans same, published_eq⟩
    · next new =>
      rw [description_eq]
      exact Or.inr ⟨found, Ne.symm new, published_eq⟩

theorem address_run (m : Monitor) (events : List Event) : (m.run events).address = m.address := by
  induction events generalizing m with
  | nil => rfl
  | cons e events ih => exact (ih (m.step e)).trans (m.took_step e).address_eq

theorem Failure.unique {cause cause' : Error} (h : Failure m e cause) (h' : Failure m e cause') :
    cause = cause' := by
  cases h with
  | unreachable _ failed =>
    cases h' with
    | unreachable _ failed' =>
      rw [failed] at failed'
      cases failed'
      rfl
  | unanswered =>
    cases h'
    rfl

theorem Finding.unique {d' : ServerDescription} (h : Finding m e d) (h' : Finding m e d') :
    d = d' := by
  cases h with
  | restart =>
    cases h' with
    | restart => rfl
    | failure f => cases f
  | failure f =>
    cases h' with
    | restart => cases f
    | failure f' => rw [f.unique f']
    | reply => cases f
  | reply =>
    cases h' with
    | failure f => cases f
    | reply => rfl

/-- What was found is how the server is described then. -/
theorem Took.of_finding (h : Took m e m') (found : Finding m e d) : m'.description = d := by
  cases h with
  | quietly _ nothing => exact absurd found (nothing d)
  | finding found' alike =>
    rw [found.unique found']
    exact alike.description_eq.trans (m.description_publish _)

end Monitor

end ClusterClient

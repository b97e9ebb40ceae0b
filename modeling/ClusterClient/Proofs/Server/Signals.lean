import ClusterClient.Proofs.Server.Silence
import ClusterClient.Proofs.Server.Streams

/-!
# The signals of a monitor

A monitor may be told at any time to check at once or to stop. It looks at its signals only between
two checks, each time before it blocks, and whoever tells it something while it is blocked notifies
it. So it is never blocked with a signal that it will not look at. A request to check is answered by
the next check, and a monitor that was told to stop begins at most the check that it was about to
begin.

    m.phase = blocked due false → m.wake = false ∧ m.closed = false
    Turns m e (m.step e)                                                      (turns_step)
    m.closed → m.moves events + (moves left) ≤ (moves left before)            (toStop_run)
    Heeds links m            for all states m of a monitor                    (heeds_run)
-/

namespace ClusterClient

namespace MonitorPhase

/-- The phase of a monitor that was just notified. -/
def told : MonitorPhase → MonitorPhase
  | blocked due _ => blocked due true
  | p => p

/-- Whether this is the event by which the monitor itself moves on. -/
def awaits : MonitorPhase → Monitor.Event → Bool
  | ready, .begin | connecting, .dialed _ | probing, .probed .. | checked _, .pause
  | blocked .., .resume => true
  | _, _ => false

/-- Whether the next move is to look at the signals. -/
def waiting : MonitorPhase → Bool
  | checked _ | blocked .. => true
  | _ => false

/-- How many moves a monitor makes at most once it was told to stop. -/
def toStop : MonitorPhase → Nat
  | ready => 4
  | connecting => 3
  | probing => 2
  | checked _ | blocked .. => 1
  | stopped => 0

/-- How many moves a monitor makes at most until a check has begun that was asked for. -/
def toCheck : MonitorPhase → Nat
  | connecting => 4
  | probing => 3
  | checked _ | blocked .. => 2
  | ready => 1
  | stopped => 0

/-- How many checks may still begin once the monitor was told to stop. -/
def due (p : MonitorPhase) : Nat := if p = .ready then 1 else 0

variable {p : MonitorPhase}

theorem told_ne_blocked (p : MonitorPhase) (due : Instant) : p.told ≠ .blocked due false := by
  cases p <;> simp [told]

theorem told_eq_ready : p.told = .ready ↔ p = .ready := by cases p <;> simp [told]

theorem told_eq_stopped : p.told = .stopped ↔ p = .stopped := by cases p <;> simp [told]

theorem toStop_told (p : MonitorPhase) : p.told.toStop = p.toStop := by cases p <;> rfl

theorem toCheck_told (p : MonitorPhase) : p.told.toCheck = p.toCheck := by cases p <;> rfl

theorem due_told (p : MonitorPhase) : p.told.due = p.due := by simp only [due, told_eq_ready]

theorem toStop_waiting (h : p.waiting = true) : p.toStop = 1 := by
  cases p <;> first | rfl | cases h

theorem toCheck_waiting (h : p.waiting = true) : p.toCheck = 2 := by
  cases p <;> first | rfl | cases h

theorem stopped_of_toStop (h : p.toStop = 0) : p = .stopped := by
  cases p <;> first | rfl | cases h

theorem stopped_of_toCheck (h : p.toCheck = 0) : p = .stopped := by
  cases p <;> first | rfl | cases h

theorem toStop_le (p : MonitorPhase) : p.toStop ≤ 4 := by cases p <;> simp [toStop]

theorem toCheck_le (p : MonitorPhase) : p.toCheck ≤ 4 := by cases p <;> simp [toCheck]

end MonitorPhase

namespace Monitor

/-- How many of the events are moves of the monitor itself. -/
def moves (m : Monitor) : List Event → Nat
  | [] => 0
  | e :: events => (m.phase.awaits e).toNat + (m.step e).moves events

/-- By this move the monitor blocks, again if it was blocked before. -/
def Blocks (m : Monitor) (e : Event) : Prop :=
  m.phase.awaits e = true ∧ ∃ due notified, (m.step e).phase = .blocked due notified

/-! ## Steps -/

/-- What a step does with the signals. -/
inductive Turns (m : Monitor) (e : Event) (m' : Monitor) : Prop where
  | rests (other : m.phase.awaits e = false) (phase : m'.phase = m.phase)
      (wake : m'.wake = m.wake) (closed : m'.closed = m.closed) (checks : m'.checks = m.checks)
      (connection : m.phase = .stopped → m'.connection = m.connection)
  | isTold (other : m.phase.awaits e = false) (phase : m'.phase = m.phase.told)
      (wake : m.wake = true → m'.wake = true) (closed : m.closed = true → m'.closed = true)
      (checks : m'.checks = m.checks) (connection : m'.connection = m.connection)
  | begins (own : m.phase.awaits e = true) (ready : m.phase = .ready)
      (phase : m'.phase = .connecting ∨ m'.phase = .probing) (wake : m'.wake = m.wake)
      (closed : m'.closed = m.closed) (checks : m'.checks = m.checks + 1)
  | connects (own : m.phase.awaits e = true) (connecting : m.phase = .connecting)
      (phase : m'.phase = .probing) (wake : m'.wake = m.wake) (closed : m'.closed = m.closed)
      (checks : m'.checks = m.checks)
  | ends {delay : Duration} (own : m.phase.awaits e = true)
      (checking : m.phase = .connecting ∨ m.phase = .probing) (phase : m'.phase = .checked delay)
      (wake : m'.wake = m.wake) (closed : m'.closed = m.closed) (checks : m'.checks = m.checks)
  | stops (own : m.phase.awaits e = true) (waiting : m.phase.waiting = true)
      (told : m.closed = true) (phase : m'.phase = .stopped) (closed : m'.closed = true)
      (checks : m'.checks = m.checks) (connection : m'.connection = none)
  | wakes (own : m.phase.awaits e = true) (waiting : m.phase.waiting = true)
      (untold : m.closed = false) (phase : m'.phase = .ready) (closed : m'.closed = false)
      (checks : m'.checks = m.checks)
  | blocks {due : Instant} (own : m.phase.awaits e = true) (waiting : m.phase.waiting = true)
      (untold : m.closed = false) (unasked : m.wake = false) (phase : m'.phase = .blocked due false)
      (wake : m'.wake = false) (closed : m'.closed = false) (checks : m'.checks = m.checks)

section

variable {m m' : Monitor} {e : Event}

theorem turns_nothing (other : m.phase.awaits e = false) : Turns m e m :=
  .rests other rfl rfl rfl rfl fun _ => rfl

theorem turns_begin (m : Monitor) : Turns m .begin m.begin := by
  unfold begin
  split
  · next ready =>
    have own : m.phase.awaits .begin = true := by rw [ready]; rfl
    simp only
    split
    · exact .begins own ready (.inr rfl) rfl rfl rfl
    · rw [publish_eq]
      split <;> exact .begins own ready (.inl rfl) rfl rfl rfl
  · next busy =>
    refine turns_nothing ?_
    cases phase : m.phase with
    | ready => exact absurd phase busy
    | _ => rfl

theorem turns_dialed (m : Monitor) (stream : Except Error Link) :
    Turns m (.dialed stream) (m.dialed stream) := by
  unfold dialed
  split
  · next connecting =>
    have own : m.phase.awaits (.dialed stream) = true := by rw [connecting]; rfl
    simp only
    split
    · exact .connects own connecting rfl rfl rfl rfl
    · rw [fail_eq]
      exact .ends own (.inl connecting) rfl rfl rfl rfl
  · next busy =>
    refine turns_nothing ?_
    cases phase : m.phase with
    | connecting => exact absurd phase busy
    | _ => rfl

theorem turns_probed (m : Monitor) (outcome : Except Error ProbeReply) (elapsed : Duration) :
    Turns m (.probed outcome elapsed) (m.probed outcome elapsed) := by
  unfold probed
  split
  · next probing =>
    have own : m.phase.awaits (.probed outcome elapsed) = true := by rw [probing]; rfl
    split
    · rw [fail_eq]
      exact .ends own (.inr probing) rfl rfl rfl rfl
    · simp only [publish_eq]
      exact .ends own (.inr probing) rfl rfl rfl rfl
  · next busy =>
    refine turns_nothing ?_
    cases phase : m.phase with
    | probing => exact absurd phase busy
    | _ => rfl

theorem turns_look (own : m.phase.awaits e = true) (waiting : m.phase.waiting = true)
    (due : Instant) : Turns m e (m.look due) := by
  unfold look
  split
  · next told => exact .stops own waiting told rfl told rfl rfl
  · next untold =>
    have untold : m.closed = false := Bool.eq_false_iff.2 untold
    split
    · exact .wakes own waiting untold rfl untold rfl
    · next unasked =>
      have unasked : m.wake = false := Bool.eq_false_iff.2 unasked
      exact .blocks own waiting untold unasked rfl unasked untold rfl

theorem turns_pause (m : Monitor) : Turns m .pause m.pause := by
  unfold pause
  split
  · next phase => exact turns_look (by rw [phase]; rfl) (by rw [phase]; rfl) _
  · next busy =>
    refine turns_nothing ?_
    cases phase : m.phase with
    | checked delay => exact absurd phase (busy delay)
    | _ => rfl

theorem turns_resume (m : Monitor) : Turns m .resume m.resume := by
  unfold resume
  split
  · next phase =>
    have own : m.phase.awaits .resume = true := by rw [phase]; rfl
    have waiting : m.phase.waiting = true := by rw [phase]; rfl
    split
    · split
      · next told => exact .stops own waiting told rfl told rfl rfl
      · next untold =>
        have untold : m.closed = false := Bool.eq_false_iff.2 untold
        exact .wakes own waiting untold rfl untold rfl
    · exact turns_look own waiting _
  · next busy =>
    refine turns_nothing ?_
    cases phase : m.phase with
    | blocked due notified => exact absurd phase (busy due notified)
    | _ => rfl

theorem notify_eq (m : Monitor) : m.notify = { m with phase := m.phase.told } := by
  rcases m with ⟨address, settings, dialer, buffers, clock, phase⟩
  cases phase <;> rfl

theorem turns_step (m : Monitor) (e : Event) : Turns m e (m.step e) := by
  cases e with
  | begin => exact m.turns_begin
  | dialed stream => exact m.turns_dialed stream
  | use usage =>
    have other : m.phase.awaits (.use usage) = false := by cases m.phase <;> rfl
    simp only [step, use]
    split
    · next c probing _ =>
      refine .rests other rfl rfl rfl rfl fun stopped => ?_
      rw [probing] at stopped
      cases stopped
    · exact turns_nothing other
  | probed outcome elapsed => exact m.turns_probed outcome elapsed
  | pause => exact m.turns_pause
  | resume => exact m.turns_resume
  | invalidate =>
    rw [step, invalidate, notify_eq]
    exact .isTold (by cases m.phase <;> rfl) rfl (fun _ => rfl) (fun told => told) rfl rfl
  | close =>
    rw [step, close, notify_eq]
    exact .isTold (by cases m.phase <;> rfl) rfl (fun asked => asked) (fun _ => rfl) rfl rfl
  | tick elapsed =>
    exact .rests (by cases m.phase <;> rfl) rfl rfl rfl rfl fun _ => rfl

/-! ## Watchfulness -/

/-- A monitor that is blocked and was not notified has no signal to look at, and one that has
stopped was told to. -/
structure Watchful (m : Monitor) : Prop where
  alert : ∀ due, m.phase = .blocked due false → m.wake = false ∧ m.closed = false
  stopped : m.phase = .stopped → m.closed = true ∧ m.connection = none

theorem watchful_step (h : Watchful m) (e : Event) : Watchful (m.step e) := by
  have turns := m.turns_step e
  generalize m.step e = m' at turns
  cases turns with
  | rests other phase wake closed checks connection =>
    refine ⟨fun due blocked => ?_, fun stopped => ?_⟩
    · rw [phase] at blocked
      rw [wake, closed]
      exact h.alert due blocked
    · rw [phase] at stopped
      rw [closed, connection stopped]
      exact h.stopped stopped
  | isTold other phase wake closed checks connection =>
    refine ⟨fun due blocked => ?_, fun stopped => ?_⟩
    · rw [phase] at blocked
      exact absurd blocked (m.phase.told_ne_blocked due)
    · rw [phase] at stopped
      obtain ⟨told, apart⟩ := h.stopped (MonitorPhase.told_eq_stopped.1 stopped)
      exact ⟨closed told, connection.trans apart⟩
  | begins own ready phase =>
    rcases phase with phase | phase <;> exact ⟨by simp [phase], by simp [phase]⟩
  | connects own connecting phase | wakes own waiting untold phase | ends own checking phase =>
    exact ⟨by simp [phase], by simp [phase]⟩
  | stops own waiting told phase closed checks connection =>
    exact ⟨by simp [phase], fun _ => ⟨closed, connection⟩⟩
  | blocks own waiting untold unasked phase wake closed =>
    exact ⟨fun _ _ => ⟨wake, closed⟩, by simp [phase]⟩

theorem watchful_run (h : Watchful m) (events : List Event) : Watchful (m.run events) := by
  induction events generalizing m with
  | nil => exact h
  | cons e events ih => exact ih (watchful_step h e)

/-! ## Requests to check -/

theorem checks_le_step (m : Monitor) (e : Event) : m.checks ≤ (m.step e).checks := by
  cases m.turns_step e <;> omega

/-- A check was asked for when `k` checks had begun: one more has begun since, or the monitor does
not block before. -/
structure Asked (k : Nat) (m : Monitor) : Prop where
  le : k ≤ m.checks
  answer : k < m.checks ∨ m.wake = true ∨ m.phase = .ready ∨ m.phase = .stopped

variable {k : Nat}

theorem asked_invalidate (m : Monitor) : Asked m.checks m.invalidate := by
  rw [invalidate, notify_eq]
  exact ⟨Nat.le_refl _, .inr (.inl rfl)⟩

theorem Asked.wake (h : Asked k m) (same : m.checks = k) (waiting : m.phase.waiting = true) :
    m.wake = true := by
  rcases h.answer with more | wake | ready | stopped
  · omega
  · exact wake
  · rw [ready] at waiting
    cases waiting
  · rw [stopped] at waiting
    cases waiting

/-- As long as no further check has begun the monitor does not block. -/
theorem Asked.not_blocks (h : Asked k m) (same : m.checks = k) (e : Event) : ¬Blocks m e := by
  rintro ⟨own, due, notified, blocked⟩
  have turns := m.turns_step e
  generalize m.step e = m' at blocked turns
  cases turns with
  | rests other | isTold other =>
    rw [own] at other
    cases other
  | begins _ _ phase => rcases phase with phase | phase <;> simp [phase] at blocked
  | connects _ _ phase | ends _ _ phase | stops _ _ _ phase | wakes _ _ _ phase =>
    simp [phase] at blocked
  | blocks _ waiting _ unasked =>
    rw [h.wake same waiting] at unasked
    cases unasked

theorem asked_step (h : Asked k m) (e : Event) : Asked k (m.step e) := by
  have more := m.checks_le_step e
  have turns := m.turns_step e
  refine ⟨Nat.le_trans h.le more, ?_⟩
  by_cases same : (m.step e).checks = k
  · have unchanged : m.checks = k := by
      have := h.le
      omega
    generalize m.step e = m' at more turns same
    cases turns with
    | rests other phase wake =>
      rw [wake, phase, same, ← unchanged]
      exact unchanged ▸ h.answer
    | isTold other phase wake closed checks =>
      rw [phase, MonitorPhase.told_eq_ready, MonitorPhase.told_eq_stopped, checks]
      exact h.answer.imp_right fun answer => answer.imp_left wake
    | begins own ready phase wake closed checks => omega
    | connects own connecting phase wake =>
      rcases h.answer with more | asked | ready | stopped
      · omega
      · exact .inr (.inl (wake.trans asked))
      · simp [connecting] at ready
      · simp [connecting] at stopped
    | ends own checking phase wake =>
      rcases h.answer with more | asked | ready | stopped
      · omega
      · exact .inr (.inl (wake.trans asked))
      · simp [ready] at checking
      · simp [stopped] at checking
    | stops own waiting told phase => exact .inr (.inr (.inr phase))
    | wakes own waiting untold phase => exact .inr (.inr (.inl phase))
    | blocks own waiting untold unasked =>
      rw [h.wake unchanged waiting] at unasked
      cases unasked
  · have := h.le
    left
    omega

theorem asked_run (h : Asked k m) (events : List Event) : Asked k (m.run events) := by
  induction events generalizing m with
  | nil => exact h
  | cons e events ih => exact ih (asked_step h e)

/-- Each move brings the check nearer that was asked for. -/
theorem toCheck_step (h : Asked k m) (untold : (m.step e).closed = false)
    (same : (m.step e).checks = k) :
    (m.step e).phase.toCheck + (m.phase.awaits e).toNat ≤ m.phase.toCheck := by
  have unchanged : m.checks = k := by
    have := h.le
    have := m.checks_le_step e
    omega
  have turns := m.turns_step e
  generalize m.step e = m' at untold same turns
  cases turns with
  | rests other phase => rw [other, phase]; exact Nat.le_refl _
  | isTold other phase => rw [other, phase, MonitorPhase.toCheck_told]; exact Nat.le_refl _
  | begins own ready phase wake closed checks => omega
  | connects own connecting phase => rw [own, connecting, phase]; exact Nat.le_refl _
  | ends own checking phase =>
    rcases checking with connecting | probing
    · rw [own, connecting, phase]
      exact Nat.le_succ 3
    · rw [own, probing, phase]
      exact Nat.le_refl _
  | stops own waiting told phase closed =>
    rw [closed] at untold
    cases untold
  | wakes own waiting _ phase =>
    rw [own, phase, MonitorPhase.toCheck_waiting waiting]
    exact Nat.le_refl _
  | blocks own waiting _ unasked =>
    rw [h.wake unchanged waiting] at unasked
    cases unasked

theorem checks_le_run (m : Monitor) (events : List Event) : m.checks ≤ (m.run events).checks := by
  induction events generalizing m with
  | nil => exact Nat.le_refl _
  | cons e events ih => exact Nat.le_trans (m.checks_le_step e) (ih (m.step e))

theorem toCheck_run (h : Asked k m) (events : List Event) (untold : (m.run events).closed = false)
    (same : (m.run events).checks = k) :
    (m.run events).phase.toCheck + m.moves events ≤ m.phase.toCheck := by
  induction events generalizing m with
  | nil => exact Nat.le_refl _
  | cons e events ih =>
    change ((m.step e).run events).closed = false at untold
    change ((m.step e).run events).checks = k at same
    have asked := asked_step h e
    have later := ih asked untold same
    have open_step : (m.step e).closed = false := by
      refine Bool.eq_false_iff.2 fun told => ?_
      rw [(fades_run told events).closed] at untold
      cases untold
    have same_step : (m.step e).checks = k := by
      have := asked.le
      have := (m.step e).checks_le_run events
      omega
    have first := toCheck_step h open_step same_step
    change ((m.step e).run events).phase.toCheck + ((m.phase.awaits e).toNat + _) ≤ _
    omega

/-! ## Requests to stop -/

/-- Each move brings the end nearer of a monitor that was told to stop, ... -/
theorem toStop_step (told : m.closed = true) (e : Event) :
    (m.step e).phase.toStop + (m.phase.awaits e).toNat ≤ m.phase.toStop := by
  have turns := m.turns_step e
  generalize m.step e = m' at turns
  cases turns with
  | rests other phase => rw [other, phase]; exact Nat.le_refl _
  | isTold other phase => rw [other, phase, MonitorPhase.toStop_told]; exact Nat.le_refl _
  | begins own ready phase =>
    rcases phase with phase | phase <;> rw [own, ready, phase] <;> decide
  | connects own connecting phase => rw [own, connecting, phase]; exact Nat.le_refl _
  | ends own checking phase =>
    rcases checking with checking | checking
    · rw [own, checking, phase]
      exact Nat.le_succ 2
    · rw [own, checking, phase]
      exact Nat.le_refl _
  | stops own waiting _ phase =>
    rw [own, phase, MonitorPhase.toStop_waiting waiting]
    exact Nat.le_refl _
  | wakes _ _ untold | blocks _ _ untold =>
    rw [told] at untold
    cases untold

theorem toStop_run (told : m.closed = true) (events : List Event) :
    (m.run events).phase.toStop + m.moves events ≤ m.phase.toStop := by
  induction events generalizing m with
  | nil => exact Nat.le_refl _
  | cons e events ih =>
    have first := toStop_step told e
    have later := ih (fades_step told e).closed
    change ((m.step e).run events).phase.toStop + ((m.phase.awaits e).toNat + _) ≤ _
    omega

/-- ... and no check begins but the one that was about to begin. -/
theorem checks_add_due_step (told : m.closed = true) (e : Event) :
    (m.step e).checks + (m.step e).phase.due ≤ m.checks + m.phase.due := by
  have turns := m.turns_step e
  generalize m.step e = m' at turns
  cases turns with
  | rests _ phase _ _ checks => exact Nat.le_of_eq (by rw [phase, checks])
  | isTold _ phase _ _ checks => exact Nat.le_of_eq (by rw [phase, MonitorPhase.due_told, checks])
  | begins _ ready phase _ _ checks =>
    rcases phase with phase | phase <;> rw [ready, phase, checks] <;> exact Nat.le_refl _
  | connects _ connecting phase _ _ checks =>
    rw [connecting, phase, checks]
    exact Nat.le_refl _
  | ends _ _ phase _ _ checks | stops _ _ _ phase _ checks =>
    rw [phase, checks]
    exact Nat.add_le_add_left (Nat.zero_le _) _
  | wakes _ _ untold | blocks _ _ untold =>
    rw [told] at untold
    cases untold

theorem checks_add_due_run (told : m.closed = true) (events : List Event) :
    (m.run events).checks + (m.run events).phase.due ≤ m.checks + m.phase.due := by
  induction events generalizing m with
  | nil => exact Nat.le_refl _
  | cons e events ih =>
    exact Nat.le_trans (ih (fades_step told e).closed) (checks_add_due_step told e)

/-- A monitor that has stopped does nothing any more. -/
theorem stopped_run (h : Watchful m) (stopped : m.phase = .stopped) (events : List Event) :
    (m.run events).phase = .stopped ∧ (m.run events).checks = m.checks := by
  have told := (h.stopped stopped).1
  have left := toStop_run told events
  have checks := checks_add_due_run told events
  have more := m.checks_le_run events
  rw [stopped] at left checks
  have none_left : (m.run events).phase.toStop = 0 := by
    have : MonitorPhase.stopped.toStop = 0 := rfl
    omega
  have none_due : MonitorPhase.stopped.due = 0 := rfl
  exact ⟨MonitorPhase.stopped_of_toStop none_left, by omega⟩

/-! ## All states -/

/-- How a monitor that has opened these streams heeds its signals. -/
structure Heeds (links : List Link) (m : Monitor) : Prop where
  /-- It is never blocked with a signal and no notification. -/
  alert : ∀ due, m.phase = .blocked due false → m.wake = false ∧ m.closed = false
  /-- Once a check was asked for, it does not block before one has begun, ... -/
  answers : ∀ later e, (m.invalidate.run later).checks = m.checks →
    ¬Blocks (m.invalidate.run later) e
  /-- ... which takes four moves at most unless it is told to stop. -/
  prompt : ∀ later, (m.invalidate.run later).closed = false → 4 ≤ m.invalidate.moves later →
    m.checks < (m.invalidate.run later).checks
  /-- Once it was told to stop, at most the check begins that was about to begin, ... -/
  last : ∀ later, (m.close.run later).checks ≤ m.checks + m.phase.due
  /-- ... and four moves later at most it has stopped. -/
  ends : ∀ later, 4 ≤ m.close.moves later → (m.close.run later).phase = .stopped
  /-- Then it does nothing any more, and each of its streams is shut down. -/
  stopped : m.phase = .stopped → m.closed = true ∧ m.connection = none ∧
    (∀ c ∈ m.connections, c.closed = true) ∧
    ∀ later, (m.run later).phase = .stopped ∧ (m.run later).checks = m.checks
  keeps : m.Keeps links

theorem heeds_of_watchful {links : List Link} (h : Watchful m) (keeps : m.Keeps links) :
    Heeds links m := by
  have asked (later : List Event) : Asked m.checks (m.invalidate.run later) :=
    asked_run m.asked_invalidate later
  have told : m.close.closed = true := by rw [close, notify_eq]
  refine ⟨h.alert, fun later e same => (asked later).not_blocks same e,
    fun later untold enough => ?_, fun later => ?_, fun later enough => ?_, fun stopped => ?_,
    keeps⟩
  · -- otherwise the monitor would have stopped, but it was not told to
    by_contra few
    have same : (m.invalidate.run later).checks = m.checks := by
      have := (asked later).le
      omega
    have left := toCheck_run m.asked_invalidate later untold same
    have most := m.invalidate.phase.toCheck_le
    have stopped := MonitorPhase.stopped_of_toCheck (p := (m.invalidate.run later).phase) (by omega)
    have watchful : (m.invalidate.run later).Watchful :=
      watchful_run (watchful_step h .invalidate) later
    have closed := (watchful.stopped stopped).1
    rw [untold] at closed
    cases closed
  · have bound := checks_add_due_run told later
    have phase : m.close.phase.due = m.phase.due := by rw [close, notify_eq, MonitorPhase.due_told]
    have checks : m.close.checks = m.checks := by rw [close, notify_eq]
    omega
  · have left := toStop_run told later
    have most := m.close.phase.toStop_le
    exact MonitorPhase.stopped_of_toStop (by omega)
  · obtain ⟨closed, apart⟩ := h.stopped stopped
    exact ⟨closed, apart, keeps.isShut apart, stopped_run h stopped⟩

end

theorem heeds_run (address : Address) (settings : ServerSettings) (dialer : Dialer)
    (buffers : Recycler) (clock : Instant) (events : List Event) :
    let m₀ : Monitor := { address, settings, dialer, buffers, clock }
    Heeds (m₀.opened events) (m₀.run events) := by
  intro m₀
  have start : Watchful m₀ := by
    refine ⟨fun due blocked => ?_, fun stopped => ?_⟩
    · cases blocked
    · cases stopped
  have nothing : m₀.Keeps [] := keeps_nil rfl rfl rfl
  exact heeds_of_watchful (watchful_run start events) (keeps_run nothing events)

end Monitor

end ClusterClient

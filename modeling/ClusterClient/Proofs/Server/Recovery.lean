import ClusterClient.Proofs.Server.Streams
import Mathlib.Data.List.Induction

/-!
# Starting over after a failure

All that a monitor takes from one check to the next is the description of the server and the round
trip times since the last failure. A failed check leaves nothing of that but its message: there is
no sample and no connection any more. So whatever came before, the monitor goes on from there like
any other one whose check has failed with this message.

How the round trip times are averaged plays no part in this. What is published is computed here
from how the checks ended, for any way to average the samples since the last failure.

    m.published = what the ends of the checks say, and m.average = the average since the
      last failure                                                        (recalls_run)
    Resets m₁ m₂     for two monitors of one address with the same settings    (resets)
-/

namespace ClusterClient

namespace MovingAverage

/-- The average of samples that were added in this order. -/
def ofSamples (samples : List Duration) : MovingAverage :=
  samples.foldl (fun a sample => (a.add sample).2) {}

theorem ofSamples_concat (samples : List Duration) (sample : Duration) :
    ofSamples (samples ++ [sample]) = ((ofSamples samples).add sample).2 :=
  List.foldl_concat ..

/-- Without its samples an average is as it was in the beginning. -/
theorem reset_ofSamples (samples : List Duration) : (ofSamples samples).reset = ofSamples [] := by
  have reset_add (a : MovingAverage) (sample : Duration) : (a.add sample).2.reset = a.reset := rfl
  induction samples using List.reverseRecOn with
  | nil => rfl
  | append_singleton samples sample ih => rw [ofSamples_concat, reset_add, ih]

end MovingAverage

namespace Monitor

open ServerDescription

/-! ## Checks -/

/-- How a check ends. -/
inductive Outcome where
  | failed (message : String)
  | answered (reply : ProbeReply) (elapsed : Duration)
deriving DecidableEq

def Outcome.succeeded : Outcome → Bool
  | failed _ => false
  | answered .. => true

/-- How long the monitor waits then. -/
def Outcome.delay (settings : ServerSettings) : Outcome → Duration
  | failed _ => settings.heartbeatConnectRetryFrequency
  | answered .. => settings.heartbeatFrequency

/-- Whether a check is going on. -/
def checking (m : Monitor) : Bool := m.phase == .connecting || m.phase == .probing

/-- How a check ends with this event, if one does. -/
def ending (m : Monitor) : Event → Option Outcome
  | .dialed stream =>
    if m.phase = .connecting then
      match m.attempt stream with
      | .failed cause _ => some (.failed cause.message)
      | .established _ => none
    else none
  | .probed (.error cause) _ => if m.phase = .probing then some (.failed cause.message) else none
  | .probed (.ok reply) elapsed =>
    if m.phase = .probing then some (.answered reply elapsed) else none
  | _ => none

/-- How the checks end, in order. -/
def outcomes (m : Monitor) : List Event → List Outcome
  | [] => []
  | e :: events => (m.ending e).toList ++ (m.step e).outcomes events

/-- The delays that the checks end with, in order. -/
def delays (m : Monitor) : List Event → List Duration
  | [] => []
  | e :: events =>
    (match m.ending e, (m.step e).phase with
      | some _, .checked delay => [delay]
      | _, _ => []) ++ (m.step e).delays events

/-! ## What is remembered -/

/-- What a monitor knows between two checks. -/
structure Memory where
  description : ServerDescription
  /-- How long the probes took since the last failure. -/
  samples : List Duration := []

namespace Memory

/-- How the server is described while it is checked. -/
def pending (a : Memory) (address : Address) : ServerDescription :=
  if a.description.state = .unknown then { fresh address with error := a.description.error }
  else a.description

/-- What a check publishes before it ends, if one is going on. -/
def announced (a : Memory) (address : Address) (busy : Bool) : List ServerDescription :=
  if busy then change a.description (a.pending address) else []

theorem announced_false (a : Memory) (address : Address) : a.announced address false = [] := rfl

section

-- the average of a sample and those that came before it since the last failure
variable (smooth : List Duration → Duration → Duration) (address : Address)

/-- What is known after one more check. -/
def after (a : Memory) : Outcome → Memory
  | .failed message => ⟨.unknown address message, []⟩
  | .answered reply elapsed =>
    ⟨.ofReply address reply (smooth a.samples elapsed), a.samples ++ [elapsed]⟩

/-- What one more check publishes. -/
def report (a : Memory) (o : Outcome) : List ServerDescription :=
  change a.description (a.pending address) ++
    change (a.pending address) (a.after smooth address o).description

/-- What is known after some checks, ... -/
def afterAll (a : Memory) (os : List Outcome) : Memory := os.foldl (after smooth address) a

/-- ... and what they publish. -/
def reports (a : Memory) : List Outcome → List ServerDescription
  | [] => []
  | o :: os => a.report smooth address o ++ (a.after smooth address o).reports os

theorem afterAll_nil (a : Memory) : a.afterAll smooth address [] = a := rfl

theorem reports_nil (a : Memory) : a.reports smooth address [] = [] := rfl

theorem afterAll_singleton (a : Memory) (o : Outcome) :
    a.afterAll smooth address [o] = a.after smooth address o := rfl

theorem reports_singleton (a : Memory) (o : Outcome) :
    a.reports smooth address [o] = a.report smooth address o :=
  List.append_nil _

theorem afterAll_append (a : Memory) (os os' : List Outcome) :
    a.afterAll smooth address (os ++ os') =
      (a.afterAll smooth address os).afterAll smooth address os' :=
  List.foldl_append

theorem reports_append (a : Memory) (os os' : List Outcome) :
    a.reports smooth address (os ++ os') =
      a.reports smooth address os ++ (a.afterAll smooth address os).reports smooth address os' := by
  induction os generalizing a with
  | nil => rfl
  | cons o os ih =>
    rw [List.cons_append, reports, ih, reports, List.append_assoc]
    rfl

/-- A failed check leaves nothing but its message. -/
theorem afterAll_failed (a : Memory) (os : List Outcome) (message : String) :
    a.afterAll smooth address (os ++ [.failed message]) = ⟨.unknown address message, []⟩ := by
  rw [afterAll_append]
  rfl

end

end Memory

/-- The latency that a monitor computes from its samples. -/
def smoothed (earlier : List Duration) (sample : Duration) : Duration :=
  ((MovingAverage.ofSamples earlier).add sample).1.getD .longest

/-- The monitor knows what `a` says. Up to the end of the last check `news` was published; in a
check that is going on the monitor has said so. -/
structure Recalls (a : Memory) (news : List ServerDescription) (m : Monitor) : Prop where
  average_eq : m.average = .ofSamples a.samples
  description_eq : m.description = if m.checking then a.pending m.address else a.description
  published_eq : m.published = news ++ a.announced m.address m.checking
  rested : a.description.state = .unknown → m.checking = false → m.connection = none

section

variable {m m' : Monitor} {e : Event} {o : Outcome} {a : Memory} {news : List ServerDescription}

/-! ## Steps -/

theorem published_publish (m : Monitor) (d : ServerDescription) :
    (m.publish d).published = m.published ++ change m.description d := by
  rw [publish_eq]

/-- What a step does to a check: nothing, or one begins or ends. -/
inductive Advances (m : Monitor) (e : Event) (m' : Monitor) : Prop where
  | aside (goesOn : m.ending e = none) (alike : Alike m m') (settings : m'.settings = m.settings)
      (average : m'.average = m.average) (checking : m'.checking = m.checking)
      (connection : m.checking = false → m.connection = none → m'.connection = none)
  | begins (goesOn : m.ending e = none) (idle : m.checking = false)
      (checking : m'.checking = true) (settings : m'.settings = m.settings)
      (average : m'.average = m.average)
      (again : m.hasOpenConnection = false → m.description.state = .unknown →
        Alike (m.publish { fresh m.address with error := m.description.error }) m')
      (known : m.description.state ≠ .unknown → Alike m m')
  | fails {message : String} (ends : m.ending e = some (.failed message))
      (checking : m.checking = true) (alike : Alike (m.publish (.unknown m.address message)) m')
      (settings : m'.settings = m.settings) (average : m'.average = m.average.reset)
      (phase : m'.phase = .checked m.settings.heartbeatConnectRetryFrequency)
      (connection : m'.connection = none)
  | succeeds {reply : ProbeReply} {elapsed : Duration}
      (ends : m.ending e = some (.answered reply elapsed)) (checking : m.checking = true)
      (alike : Alike (m.publish (.ofReply m.address reply (m.latency elapsed))) m')
      (settings : m'.settings = m.settings) (average : m'.average = (m.average.add elapsed).2)
      (phase : m'.phase = .checked m.settings.heartbeatFrequency)

theorem advances_nothing (goesOn : m.ending e = none) : Advances m e m :=
  .aside goesOn (.refl m) rfl rfl rfl fun _ h => h

theorem advances_begin (m : Monitor) : Advances m .begin m.begin := by
  unfold begin
  split
  · next ready =>
    have idle : m.checking = false := by simp [checking, ready]
    simp only
    split
    · next connected =>
      refine .begins rfl idle rfl rfl rfl (fun apart => ?_) fun _ => ⟨rfl, rfl, rfl⟩
      have connected : m.hasOpenConnection = true := connected
      rw [apart] at connected
      cases connected
    · split
      · next failed =>
        rw [publish_eq]
        refine .begins rfl idle rfl rfl rfl (fun _ _ => ?_) fun known => absurd failed known
        rw [publish_eq]
        exact ⟨rfl, rfl, rfl⟩
      · next known =>
        exact .begins rfl idle rfl rfl rfl (fun _ failed => absurd failed known)
          fun _ => ⟨rfl, rfl, rfl⟩
  · exact advances_nothing rfl

theorem advances_fail (alike : Alike m m') (same : m'.settings = m.settings)
    (average : m'.average = m.average) (checking : m.checking = true) {cause : Error}
    (ends : m.ending e = some (.failed cause.message)) : Advances m e (m'.fail cause) := by
  have left := alike_fail alike cause
  rw [fail_eq] at left ⊢
  refine .fails ends checking left same ?_ ?_ rfl
  · rw [← average]
  · rw [← same]

theorem advances_dialed (m : Monitor) (stream : Except Error Link) :
    Advances m (.dialed stream) (m.dialed stream) := by
  unfold dialed
  split
  · next connecting =>
    have checking : m.checking = true := by simp [checking, connecting]
    simp only
    split
    · next c established =>
      have goesOn : m.ending (.dialed stream) = none := by
        rw [ending, if_pos connecting, attempt, established]
      refine .aside goesOn ⟨rfl, rfl, rfl⟩ rfl rfl checking.symm fun idle => ?_
      rw [idle] at checking
      cases checking
    · next cause shut failed =>
      have ends : m.ending (.dialed stream) = some (.failed cause.message) := by
        rw [ending, if_pos connecting, attempt, failed]
      refine advances_fail ?_ ?_ ?_ checking ends
      · exact ⟨rfl, rfl, rfl⟩
      · rfl
      · rfl
  · next busy => exact advances_nothing (if_neg busy)

theorem advances_probed (m : Monitor) (outcome : Except Error ProbeReply) (elapsed : Duration) :
    Advances m (.probed outcome elapsed) (m.probed outcome elapsed) := by
  unfold probed
  split
  · next probing =>
    have checking : m.checking = true := by simp [checking, probing]
    cases outcome with
    | error cause =>
      have ends : m.ending (.probed (.error cause) elapsed) = some (.failed cause.message) :=
        if_pos probing
      exact advances_fail (.refl m) rfl rfl checking ends
    | ok reply =>
      have ends : m.ending (.probed (.ok reply) elapsed) = some (.answered reply elapsed) :=
        if_pos probing
      simp only [publish_eq]
      refine .succeeds ends checking ?_ rfl rfl rfl
      rw [publish_eq]
      exact ⟨rfl, rfl, rfl⟩
  · next busy =>
    refine advances_nothing ?_
    cases outcome <;> exact if_neg busy

/-- Between two checks nothing begins or ends one but the events of a check. -/
theorem Aside.advances (h : Aside m m') (goesOn : m.ending e = none) (idle : m.checking = false)
    (settings : m'.settings = m.settings) (average : m'.average = m.average) : Advances m e m' := by
  have still : m'.checking = false := by
    simp only [checking, Bool.or_eq_false_iff, beq_eq_false_iff_ne] at idle ⊢
    exact ⟨fun connecting => idle.1 (h.connecting connecting),
      fun probing => idle.2 (h.probing probing)⟩
  exact .aside goesOn h.toAlike settings average (still.trans idle.symm) fun _ => h.connection

theorem kept_look (m : Monitor) (due : Instant) :
    (m.look due).settings = m.settings ∧ (m.look due).average = m.average := by
  unfold look
  split
  · exact ⟨rfl, rfl⟩
  · split <;> exact ⟨rfl, rfl⟩

theorem advances_pause (m : Monitor) : Advances m .pause m.pause := by
  unfold pause
  split
  · next delay phase =>
    have idle : m.checking = false := by simp [checking, phase]
    exact (m.aside_look _).advances rfl idle (m.kept_look _).1 (m.kept_look _).2
  · exact advances_nothing rfl

theorem advances_resume (m : Monitor) : Advances m .resume m.resume := by
  unfold resume
  split
  · next due _ phase =>
    have idle : m.checking = false := by simp [checking, phase]
    split
    · split
      · exact m.aside_stop.advances rfl idle rfl rfl
      · exact m.aside_ready.advances rfl idle rfl rfl
    · exact (m.aside_look due).advances rfl idle (m.kept_look due).1 (m.kept_look due).2
  · exact advances_nothing rfl

/-- Signals leave a check alone. -/
theorem advances_notify (goesOn : m.ending e = none) (alike : Alike m m')
    (settings : m'.settings = m.settings) (average : m'.average = m.average)
    (phase : m'.phase = m.phase) (connection : m'.connection = m.connection) :
    Advances m e m'.notify := by
  have same : m'.checking = m.checking := by rw [checking, phase, checking]
  unfold notify
  split
  · next blocked =>
    refine .aside goesOn ⟨alike.address_eq, alike.description_eq, alike.published_eq⟩ settings
      average ?_ fun _ apart => connection.trans apart
    rw [← same, checking, checking, blocked]
    rfl
  · exact .aside goesOn alike settings average same fun _ apart => connection.trans apart

theorem advances_step (m : Monitor) (e : Event) : Advances m e (m.step e) := by
  cases e with
  | begin => exact m.advances_begin
  | dialed stream => exact m.advances_dialed stream
  | use usage =>
    simp only [step, use]
    split
    · next c probing connected =>
      refine .aside rfl ⟨rfl, rfl, rfl⟩ rfl rfl rfl fun _ apart => ?_
      rw [connected] at apart
      cases apart
    · exact advances_nothing rfl
  | probed outcome elapsed => exact m.advances_probed outcome elapsed
  | pause => exact m.advances_pause
  | resume => exact m.advances_resume
  | invalidate =>
    have woken : Alike m { m with wake := true } := ⟨rfl, rfl, rfl⟩
    exact advances_notify rfl woken rfl rfl rfl rfl
  | close =>
    have told : Alike m { m with closed := true } := ⟨rfl, rfl, rfl⟩
    exact advances_notify rfl told rfl rfl rfl rfl
  | tick elapsed => exact .aside rfl ⟨rfl, rfl, rfl⟩ rfl rfl rfl fun _ apart => apart

theorem Advances.settings_eq (h : Advances m e m') : m'.settings = m.settings := by
  cases h <;> assumption

/-! ## Runs -/

theorem recalls_step (h : Recalls a news m) (e : Event) :
    Recalls (a.afterAll smoothed m.address (m.ending e).toList)
      (news ++ a.reports smoothed m.address (m.ending e).toList) (m.step e) := by
  have address_eq := (m.took_step e).address_eq
  have advances := m.advances_step e
  generalize m.step e = m' at address_eq advances
  cases advances with
  | aside goesOn alike settings average checking connection =>
    rw [goesOn, Option.toList_none, Memory.afterAll_nil, Memory.reports_nil, List.append_nil]
    refine ⟨average.trans h.average_eq, ?_, ?_, fun failed idle => ?_⟩
    · rw [alike.description_eq, address_eq, checking]
      exact h.description_eq
    · rw [alike.published_eq, address_eq, checking]
      exact h.published_eq
    · rw [checking] at idle
      exact connection idle (h.rested failed idle)
  | begins goesOn idle checking settings average again known =>
    rw [goesOn, Option.toList_none, Memory.afterAll_nil, Memory.reports_nil, List.append_nil]
    have description_eq := h.description_eq
    rw [idle, if_neg Bool.false_ne_true] at description_eq
    -- an unknown server has no connection, so the check has to connect and says so
    have alike : Alike (m.publish (a.pending m.address)) m' := by
      unfold Memory.pending
      rw [← description_eq]
      split
      · next failed =>
        have apart := h.rested (description_eq ▸ failed) idle
        exact again (by rw [hasOpenConnection, apart]; rfl) failed
      · next failed =>
        rw [publish_self]
        exact known failed
    refine ⟨average.trans h.average_eq, ?_, ?_, fun _ idle => ?_⟩
    · rw [alike.description_eq, description_publish, checking, if_pos rfl, address_eq]
    · rw [alike.published_eq, published_publish, h.published_eq, idle, description_eq, checking,
        address_eq, Memory.announced_false, List.append_nil]
      rfl
    · rw [checking] at idle
      cases idle
  | @fails message ends checking alike settings average phase connection =>
    rw [ends, Option.toList_some, Memory.afterAll_singleton, Memory.reports_singleton]
    have still : m'.checking = false := by rw [Monitor.checking, phase]; rfl
    have description_eq := h.description_eq
    rw [checking, if_pos rfl] at description_eq
    refine ⟨?_, ?_, ?_, fun _ _ => connection⟩
    · rw [average, h.average_eq, MovingAverage.reset_ofSamples]
      rfl
    · rw [alike.description_eq, description_publish, still, if_neg Bool.false_ne_true]
      rfl
    · rw [alike.published_eq, published_publish, h.published_eq, description_eq, checking, still,
        Memory.announced_false, List.append_nil, List.append_assoc]
      rfl
  | @succeeds reply elapsed ends checking alike settings average phase =>
    rw [ends, Option.toList_some, Memory.afterAll_singleton, Memory.reports_singleton]
    have still : m'.checking = false := by rw [Monitor.checking, phase]; rfl
    have description_eq := h.description_eq
    rw [checking, if_pos rfl] at description_eq
    have latency_eq : m.latency elapsed = smoothed a.samples elapsed := by
      rw [latency, h.average_eq, smoothed]
    rw [latency_eq] at alike
    refine ⟨?_, ?_, ?_, fun failed _ => ?_⟩
    · rw [average, h.average_eq, ← MovingAverage.ofSamples_concat]
      rfl
    · rw [alike.description_eq, description_publish, still, if_neg Bool.false_ne_true]
      rfl
    · rw [alike.published_eq, published_publish, h.published_eq, description_eq, checking, still,
        Memory.announced_false, List.append_nil, List.append_assoc]
      rfl
    · cases failed

theorem recalls_run (h : Recalls a news m) (events : List Event) :
    Recalls (a.afterAll smoothed m.address (m.outcomes events))
      (news ++ a.reports smoothed m.address (m.outcomes events)) (m.run events) := by
  induction events generalizing m a news with
  | nil =>
    rw [outcomes, Memory.afterAll_nil, Memory.reports_nil, List.append_nil]
    exact h
  | cons e events ih =>
    have later := ih (recalls_step h e)
    rw [(m.took_step e).address_eq] at later
    rw [outcomes, Memory.afterAll_append, Memory.reports_append, ← List.append_assoc]
    exact later

theorem settings_run (m : Monitor) (events : List Event) :
    (m.run events).settings = m.settings := by
  induction events generalizing m with
  | nil => rfl
  | cons e events ih => exact (ih (m.step e)).trans (m.advances_step e).settings_eq

theorem delays_eq (m : Monitor) (events : List Event) :
    m.delays events = (m.outcomes events).map (·.delay m.settings) := by
  induction events generalizing m with
  | nil => rfl
  | cons e events ih =>
    have advances := m.advances_step e
    rw [delays, outcomes, List.map_append, ih, advances.settings_eq]
    congr 1
    cases advances with
    | aside goesOn | begins goesOn => rw [goesOn]; rfl
    | fails ends _ _ _ _ phase | succeeds ends _ _ _ _ phase => rw [ends, phase]; rfl

/-! ## All monitors -/

/-- A monitor with these settings whose check has ended with `o`, and which has opened these streams
up to now. -/
structure Ended (settings : ServerSettings) (o : Outcome) (links : List Link) (m : Monitor) :
    Prop where
  phase_eq : m.phase = .checked (o.delay settings)
  connected : m.description.state = .connected ↔ o.succeeded = true
  unknown : m.description.state = .unknown ↔ o.succeeded = false
  averaged : m.average.seconds?.isSome = true ↔ o.succeeded = true
  /-- Unless the two intervals are the same, the delay shows how the check has ended. -/
  regular : settings.heartbeatFrequency ≠ settings.heartbeatConnectRetryFrequency →
    (m.phase = .checked settings.heartbeatFrequency ↔ o.succeeded = true)
  apart : o.succeeded = false → m.connection = none
  keeps : m.Keeps links
  open_le : m.connections.countP (fun c => !c.closed) ≤ 1
  isShut : o.succeeded = false → ∀ c ∈ m.connections, c.closed = true

theorem ended_step {links : List Link} (ends : m.ending e = some o)
    (keeps : Keeps (m.step e) links) : Ended m.settings o links (m.step e) := by
  have advances := m.advances_step e
  generalize m.step e = m' at keeps advances
  cases advances with
  | aside goesOn | begins goesOn =>
    rw [goesOn] at ends
    cases ends
  | fails ends' _ alike _ average phase connection =>
    rw [ends'] at ends
    cases ends
    have description_eq := alike.description_eq.trans (m.description_publish _)
    refine ⟨phase, ?_, ?_, ?_, fun differ => ?_, fun _ => connection, keeps, keeps.open_le,
      fun _ => keeps.isShut connection⟩
    · simp [description_eq, ServerDescription.unknown, Outcome.succeeded]
    · simp [description_eq, ServerDescription.unknown, Outcome.succeeded]
    · simp [average, MovingAverage.reset, Outcome.succeeded]
    · simp [phase, differ.symm, Outcome.succeeded]
  | succeeds ends' _ alike _ average phase =>
    rw [ends'] at ends
    cases ends
    have description_eq := alike.description_eq.trans (m.description_publish _)
    refine ⟨phase, ?_, ?_, ?_, fun _ => ?_, fun failed => ?_, keeps, keeps.open_le,
      fun failed => ?_⟩
    · simp [description_eq, ofReply, Outcome.succeeded]
    · simp [description_eq, ofReply, Outcome.succeeded]
    · simp [average, MovingAverage.add, Outcome.succeeded]
    · simp [phase, Outcome.succeeded]
    · cases failed
    · cases failed

/-- What a monitor knows before its first check. -/
def Memory.start (address : Address) : Memory := ⟨fresh address, []⟩

/-- After a failed check two monitors cannot be told apart by what they do: where the checks that
follow end alike, the delays are the same, and so is all that is published by the end of a check,
or within one. -/
structure Agree (m m' : Monitor) : Prop where
  description_eq : m.description = m'.description
  delays_eq : ∀ later later', m.outcomes later = m'.outcomes later' →
    m.delays later = m'.delays later'
  news_eq : ∀ later later', m.outcomes later = m'.outcomes later' →
    (m.run later).checking = (m'.run later').checking →
    (m.run later).description = (m'.run later').description ∧
      ∃ news, (m.run later).published = m.published ++ news ∧
        (m'.run later').published = m'.published ++ news

theorem news_run (h : Recalls a news m) (idle : m.checking = false) (later : List Event) :
    (m.run later).published = m.published ++ (a.reports smoothed m.address (m.outcomes later) ++
      (a.afterAll smoothed m.address (m.outcomes later)).announced m.address
        (m.run later).checking) := by
  have published_eq := h.published_eq
  rw [idle, Memory.announced_false, List.append_nil] at published_eq
  rw [(recalls_run h later).published_eq, address_run, published_eq, List.append_assoc]

theorem agree_of_recalls {news' : List ServerDescription} (h : Recalls a news m)
    (h' : Recalls a news' m') (idle : m.checking = false) (idle' : m'.checking = false)
    (address : m.address = m'.address) (settings : m.settings = m'.settings) : Agree m m' := by
  refine ⟨?_, fun later later' same => ?_, fun later later' same status => ⟨?_, _,
    news_run h idle later, ?_⟩⟩
  · rw [h.description_eq, h'.description_eq, idle, idle', address]
  · rw [m.delays_eq, m'.delays_eq, same, settings]
  · rw [(recalls_run h later).description_eq, (recalls_run h' later').description_eq, status, same,
      address_run, address_run, address]
  · rw [same, status, address]
    exact news_run h' idle' later'

/-- What is true of two monitors before their first checks. -/
structure Resets (m₁ m₂ : Monitor) : Prop where
  /-- Every check comes to one of two ends. -/
  ended : ∀ events e o, (m₁.run events).ending e = some o →
    Ended m₁.settings o (m₁.opened (events ++ [e])) ((m₁.run events).step e)
  /-- What is known and published depends only on how the checks have ended. -/
  recalls : ∀ events, Recalls
    ((Memory.start m₁.address).afterAll smoothed m₁.address (m₁.outcomes events))
    ((Memory.start m₁.address).reports smoothed m₁.address (m₁.outcomes events)) (m₁.run events)
  delays_eq : ∀ events, m₁.delays events = (m₁.outcomes events).map (·.delay m₁.settings)
  /-- However the samples are averaged, what came before a failure has no effect, ... -/
  forgets : ∀ (smooth : List Duration → Duration → Duration) (a a' : Memory) (os os' later message),
    (a.afterAll smooth m₁.address (os ++ [.failed message])).reports smooth m₁.address later =
      (a'.afterAll smooth m₁.address (os' ++ [.failed message])).reports smooth m₁.address later
  /-- ... so the two monitors go on alike after they have failed alike. -/
  agree : ∀ before₁ e₁ before₂ e₂ message,
    (m₁.run before₁).ending e₁ = some (.failed message) →
    (m₂.run before₂).ending e₂ = some (.failed message) →
    Agree ((m₁.run before₁).step e₁) ((m₂.run before₂).step e₂)

theorem recalls_start (average : m.average = {}) (description : m.description = fresh m.address)
    (published : m.published = []) (connection : m.connection = none)
    (idle : m.checking = false) : Recalls (Memory.start m.address) [] m := by
  refine ⟨average, ?_, ?_, fun _ _ => connection⟩
  · rw [idle]
    exact description
  · rw [idle]
    exact published

/-- After a failed check all that is known is that it has failed. -/
theorem recalls_failed {message : String} (h : Recalls a news m)
    (ends : m.ending e = some (.failed message)) :
    ∃ news', Recalls ⟨.unknown m.address message, []⟩ news' (m.step e) := by
  have step := recalls_step h e
  rw [ends] at step
  exact ⟨_, step⟩

end

theorem resets (address : Address) (settings : ServerSettings) (dialer₁ dialer₂ : Dialer)
    (buffers₁ buffers₂ : Recycler) (clock₁ clock₂ : Instant) :
    let m₁ : Monitor :=
      { address, settings, dialer := dialer₁, buffers := buffers₁, clock := clock₁ }
    let m₂ : Monitor :=
      { address, settings, dialer := dialer₂, buffers := buffers₂, clock := clock₂ }
    Resets m₁ m₂ := by
  intro m₁ m₂
  have start₁ : Recalls (Memory.start m₁.address) [] m₁ := recalls_start rfl rfl rfl rfl rfl
  have start₂ : Recalls (Memory.start m₂.address) [] m₂ := recalls_start rfl rfl rfl rfl rfl
  have ended {m₀ : Monitor} (keeps : m₀.Keeps []) (events : List Event) (e : Event) (o : Outcome)
      (ends : (m₀.run events).ending e = some o) :
      Ended m₀.settings o (m₀.opened (events ++ [e])) ((m₀.run events).step e) := by
    have kept := keeps_run keeps (events ++ [e])
    rw [run_append] at kept
    rw [← m₀.settings_run events]
    exact ended_step ends kept
  have nothing₁ : m₁.Keeps [] := keeps_nil rfl rfl rfl
  have nothing₂ : m₂.Keeps [] := keeps_nil rfl rfl rfl
  refine ⟨ended nothing₁, recalls_run start₁, m₁.delays_eq, ?_, ?_⟩
  · intro smooth a a' os os' later message
    rw [Memory.afterAll_failed, Memory.afterAll_failed]
  · intro before₁ e₁ before₂ e₂ message ends₁ ends₂
    obtain ⟨news₁, recalls₁⟩ := recalls_failed (recalls_run start₁ before₁) ends₁
    obtain ⟨news₂, recalls₂⟩ := recalls_failed (recalls_run start₂ before₂) ends₂
    have address_eq (m₀ : Monitor) (events : List Event) (e : Event) :
        ((m₀.run events).step e).address = m₀.address :=
      ((m₀.run events).took_step e).address_eq.trans (m₀.address_run events)
    have settings_eq (m₀ : Monitor) (events : List Event) (e : Event) :
        ((m₀.run events).step e).settings = m₀.settings :=
      ((m₀.run events).advances_step e).settings_eq.trans (m₀.settings_run events)
    rw [address_run] at recalls₁ recalls₂
    refine agree_of_recalls recalls₁ recalls₂ ?_ ?_ ?_ ?_
    · rw [checking, (ended nothing₁ before₁ e₁ _ ends₁).phase_eq]
      rfl
    · rw [checking, (ended nothing₂ before₂ e₂ _ ends₂).phase_eq]
      rfl
    · rw [address_eq, address_eq]
    · rw [settings_eq, settings_eq]

/-- One monitor loses a server that it has probed before, another one never reaches it. From then on
both publish the same, although the first has had a sample. -/
theorem resets_outage :
    let settings : ServerSettings := {}
    let m : Monitor := { address := .localhost, settings }
    let lost : Error := .protocol "lost"
    let probed : Event := .probed (.error lost) (.ofMillis 9)
    let dialed : Event := .dialed (.error lost)
    let before₁ : List Event := [.begin, .dialed (.ok {}), .probed (.ok {}) (.ofMillis 5),
      .invalidate, .pause, .begin]
    let before₂ : List Event := [.begin]
    let later : List Event := [.invalidate, .pause, .begin, .dialed (.ok {}),
      .probed (.ok {}) (.ofMillis 7)]
    let m₁ := (m.run before₁).step probed
    let m₂ := (m.run before₂).step dialed
    let found : List ServerDescription := [
      { fresh .localhost with error := some lost.message },
      .ofReply .localhost {} (.ofMillis 7)]
    (m.run before₁).ending probed = some (.failed lost.message) ∧
      (m.run before₂).ending dialed = some (.failed lost.message) ∧
      (m.run before₁).average.seconds?.isSome = true ∧
      (m.run before₂).average.seconds?.isSome = false ∧
      m₁.outcomes later = [.answered {} (.ofMillis 7)] ∧ m₁.outcomes later = m₂.outcomes later ∧
      (m₁.run later).published = m₁.published ++ found ∧
      (m₂.run later).published = m₂.published ++ found ∧
      m₁.delays later = [settings.heartbeatFrequency] ∧ Resets m m ∧ Agree m₁ m₂ := by
  intro settings m lost probed dialed before₁ before₂ later m₁ m₂ found
  have resets : Resets m m := resets .localhost settings {} {} {} {} .zero .zero
  have ends₁ : (m.run before₁).ending probed = some (.failed lost.message) := by
    decide +kernel
  have ends₂ : (m.run before₂).ending dialed = some (.failed lost.message) := by
    decide +kernel
  exact ⟨ends₁, ends₂, by decide +kernel, by decide +kernel, by decide +kernel, by decide +kernel,
    by decide +kernel, by decide +kernel, by decide +kernel, resets,
    resets.agree before₁ probed before₂ dialed lost.message ends₁ ends₂⟩

/-- Where the two intervals are the same, the delay after a failed check is the one that follows a
successful check as well. -/
theorem exists_failed_delay_eq_heartbeatFrequency :
    let settings : ServerSettings := {
      heartbeatFrequency := .ofMillis 1, heartbeatConnectRetryFrequency := .ofMillis 1 }
    let m : Monitor := { address := .localhost, settings }
    let lost : Error := .protocol "x"
    let failed := (m.run [.begin]).step (.dialed (.error lost))
    settings.validate = .ok () ∧
      (m.run [.begin]).ending (.dialed (.error lost)) = some (.failed lost.message) ∧
      failed.phase = .checked settings.heartbeatFrequency ∧
      failed.description.state = .unknown ∧
      ¬(failed.description.state = .connected ↔
        failed.phase = .checked settings.heartbeatFrequency) := by
  intro settings m lost failed
  have phase : failed.phase = .checked settings.heartbeatFrequency := by decide +kernel
  have state : failed.description.state = .unknown := by decide +kernel
  refine ⟨by decide +kernel, by decide +kernel, phase, state, fun same => ?_⟩
  rw [state] at same
  cases same.2 phase

end Monitor

end ClusterClient

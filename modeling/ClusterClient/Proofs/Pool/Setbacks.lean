import ClusterClient.Proofs.Pool.Solo

/-!
# Calls that fail

A call that fails leaves the pool as it was, whatever it has been through: only stale connections
are gone, with their places. Where any of them are gone there was a place for another connection, so
that the failure was not one of the pool. It follows that failures do not add up. After any number
of them, calls get connections until all places are taken, as soon as there are connections to be
had.

    Setback s timeout own gone cause t      for t = s.run (.call timeout :: own)    (resilient_run)
    gets.length + s.lent.length + s.openings.length ≤ maxSize → all of them get connections
                                                                              (getEach_of_room)
-/

namespace ClusterClient

namespace PoolSystem

section

variable {s t u : PoolSystem} {timeout : Duration} {own more : List Event} {gone : List Idle}
  {cause : Error} {name : Nat} {stream : Except Error Link}

/-! ## Sessions step by step -/

/-- The call `name` gets from `s` to `t` in these events, by itself, and this is what comes of the
stream that it opens. -/
structure Strides (name : Nat) (stream : Except Error Link) (s : PoolSystem) (own : List Event)
    (t : PoolSystem) : Prop where
  alone : s.Alone name own
  run_eq : s.run own = t
  dialed : ∀ index other, .dialed index other ∈ own → other = stream

theorem Strides.refl (name : Nat) (stream : Except Error Link) (s : PoolSystem) :
    Strides name stream s [] s :=
  ⟨alone_nil s name, rfl, by simp⟩

theorem Strides.concat (h : Strides name stream s own t) {e : Event} (mine : t.Own name e)
    (dialed : ∀ index other, e = .dialed index other → other = stream) :
    Strides name stream s (own ++ [e]) (t.step e) where
  alone := h.alone.concat (h.run_eq ▸ mine)
  run_eq := by rw [run_append, h.run_eq]; rfl
  dialed index other mem := by
    rcases List.mem_append.1 mem with old | new
    · exact h.dialed index other old
    · exact dialed index other (List.mem_singleton.1 new).symm

theorem Strides.shutAll_notifyAll (h : Strides name stream s own t) :
    ∃ more, Strides name stream s (own ++ more) t.shutAll.notifyAll := by
  have loose {e : Event} (aside : ∀ u : PoolSystem, u.Own name e)
      (undialed : ∀ index other, e ≠ .dialed index other) (u : PoolSystem)
      (reached : ∃ more, Strides name stream s (own ++ more) u) :
      ∃ more, Strides name stream s (own ++ more) (u.step e) := by
    obtain ⟨more, reached⟩ := reached
    have next := reached.concat (aside u) fun index other same => absurd same (undialed index other)
    exact ⟨more ++ [e], by rwa [← List.append_assoc]⟩
  exact shutAll_notifyAll_induction (loose (fun _ => trivial) (by simp))
    (loose (fun _ => trivial) (by simp)) ⟨[], by rwa [List.append_nil]⟩

/-- Where the opening of the call was is its own one or none after the attempt to connect. -/
theorem Opens.own_settle {o : Opening} (h : Opens s gone o t) :
    (t.step (.dialed s.openings.length stream)).Own s.calls (.settle s.openings.length) := by
  intro o' known
  rw [step] at known
  rcases t.dialed_eq_or s.openings.length stream with same | ⟨_, known', under, -⟩
  · rw [same, h.getElem?_eq] at known
    cases known
    exact h.caller
  · cases h.getElem?_eq.symm.trans known'
    rcases dialed_cases known' under stream with
      ⟨c, buffers, streams, -, dialed⟩ | ⟨cause, rejected, buffers, streams, -, dialed⟩
    · have opens := h.establish c buffers streams
      rw [dialed, opens.getElem?_eq] at known
      cases known
      exact h.caller
    · rw [dialed, h.caller] at known
      change (t.openings.eraseIdx _)[_]? = _ at known
      rw [h.eraseIdx_eq, List.getElem?_eq_none (Nat.le_refl _)] at known
      cases known

theorem Opens.establishFor_eq {o : Opening} (h : Opens s gone o t) (balanced : s.ledger.Balanced)
    (n : Network) : t.establishFor n.opener s.calls =
      (t.step (.dialed s.openings.length (n.connect s.pool.address))).step
        (.settle s.openings.length) := by
  have index : t.openings.findIdx? (·.caller == some s.calls) = some s.openings.length := by
    have none : s.openings.findIdx? (·.caller == some s.calls) = none :=
      List.findIdx?_eq_none_iff.2 fun o ho => beq_eq_false_iff_ne.2 (caller_ne_calls balanced ho)
    simp [h.openings_eq, List.findIdx?_append, none, h.caller]
  rw [establishFor, index]
  show t.establish n.opener s.openings.length = _
  rw [PoolSystem.establish, h.getElem?_eq, ← h.address_eq]
  rfl

theorem establishFor_of_not_mem (out : name ∉ s.openers) (opener : Opener) :
    s.establishFor opener name = s :=
  establishFor_of_none (fun o ho mine => out (List.mem_filterMap.2 ⟨o, ho, mine⟩)) opener

theorem strides_establishFor (counted : Counted s) (n : Network)
    (h : Strides s.calls (n.connect s.pool.address) (s.step (.call timeout)) own t) :
    ∃ more, Strides s.calls (n.connect s.pool.address) (s.step (.call timeout)) (own ++ more)
      (t.establishFor n.opener s.calls) := by
  have phase := phase_run counted h.alone
  have located := (counted_run counted (.call timeout :: own)).located
  change Phase s timeout own (run (s.step (.call timeout)) own) at phase
  change Located (run (s.step (.call timeout)) own) at located
  rw [h.run_eq] at phase located
  rcases phase.opens_or located with ⟨gone, o, opens⟩ | out
  · rw [opens.establishFor_eq counted.balanced]
    have mine : t.Own s.calls (.dialed s.openings.length (n.connect s.pool.address)) := by
      intro o' known
      cases opens.getElem?_eq.symm.trans known
      exact opens.caller
    have dialed := h.concat mine fun _ _ same => by cases same; rfl
    have settled := dialed.concat opens.own_settle (by simp)
    exact ⟨_, by rw [← List.append_assoc]; exact settled⟩
  · rw [establishFor_of_not_mem out]
    exact ⟨[], (List.append_nil own).symm ▸ h⟩

/-- A call is alone until it has opened what it could at first, and from there to its end. -/
theorem strides_get (counted : Counted s) (n : Network) (timeout : Duration) :
    ∃ first rest,
      Strides s.calls (n.connect s.pool.address) (s.step (.call timeout)) first
        ((s.call timeout).establishFor n.opener s.calls) ∧
      Strides s.calls (n.connect s.pool.address) (s.step (.call timeout)) (first ++ rest)
        (s.get timeout n.opener).2 := by
  obtain ⟨first, begun⟩ := strides_establishFor counted n (.refl _ _ (s.step (.call timeout)))
  change Strides _ _ _ first ((s.call timeout).establishFor n.opener s.calls) at begun
  have get_eq : (s.get timeout n.opener).2 =
      (if ((s.call timeout).establishFor n.opener s.calls).isBlocked s.calls then
        ((((s.call timeout).establishFor n.opener s.calls).tick timeout).recheck
          s.calls).establishFor n.opener s.calls
      else (s.call timeout).establishFor n.opener s.calls).shutAll.notifyAll := rfl
  rw [get_eq]
  refine ⟨first, ?_⟩
  split
  · have waited := begun.concat (e := .tick timeout) trivial (by simp)
    have rechecked := waited.concat (e := .recheck s.calls) rfl (by simp)
    obtain ⟨more, last⟩ := strides_establishFor counted n rechecked
    obtain ⟨rest, done⟩ := last.shutAll_notifyAll
    simp only [List.append_assoc] at done
    exact ⟨_, begun, done⟩
  · obtain ⟨rest, done⟩ := begun.shutAll_notifyAll
    exact ⟨rest, begun, done⟩

/-- What the call was told at first is its answer. -/
theorem mem_answers_get (counted : Counted s) (n : Network) {answer : Nat × Except Error Ticket}
    (mem : answer ∈ ((s.call timeout).establishFor n.opener s.calls).answers) :
    answer ∈ (s.get timeout n.opener).2.answers := by
  obtain ⟨first, rest, begun, done⟩ := strides_get counted n timeout
  rw [← done.run_eq, run_append, begun.run_eq]
  exact mem_answers_iff.2 (.inl mem)

theorem Strides.counted (h : Strides name stream (s.step (.call timeout)) own t)
    (counted : Counted s) : Counted t :=
  h.run_eq ▸ counted_run counted (.call timeout :: own)

theorem Strides.dialer_eq (h : Strides name stream (s.step (.call timeout)) own t) :
    t.dialer = s.dialer :=
  h.run_eq ▸ s.dialer_run (.call timeout :: own)

theorem mem_answers_of_answer? {answer : Except Error Ticket}
    (h : s.answer? name = some answer) : (name, answer) ∈ s.answers := by
  obtain ⟨before, after, split, -⟩ := List.lookup_eq_some_iff.1 h
  exact split ▸ List.mem_append_right _ List.mem_cons_self

theorem Strides.undone (h : Strides s.calls stream (s.step (.call timeout)) own t)
    (counted : Counted s) (answer : (s.calls, .error cause) ∈ t.answers) :
    ∃ gone, Undone s timeout own gone cause t := by
  rw [← h.run_eq] at answer ⊢
  exact undone_of_error counted h.alone answer

/-! ## What a failure leaves -/

/-- The call has failed and has left the pool as it was, but for the stale connections that are
`gone`. -/
structure Setback (s : PoolSystem) (timeout : Duration) (own : List Event) (gone : List Idle)
    (cause : Error) (t : PoolSystem) : Prop extends Undone s timeout own gone cause t where
  lendable_eq : ∀ now, s.clock ≤ now → t.pool.lendable now = s.pool.lendable now
  /-- If any are gone, the pool is not to blame: the error came from the stream or from
  authentication. -/
  unconnected : gone ≠ [] → ∃ index, .dialed index (.error cause) ∈ own ∨
    ∃ link user text, .dialed index (.ok link) ∈ own ∧ cause = .authentication user text

theorem Undone.setback (h : Undone s timeout own gone cause t) :
    Setback s timeout own gone cause t where
  toUndone := h
  lendable_eq _ := h.toSheds.lendable_eq
  unconnected some := by
    cases h.blame with
    | closed | exhausted | timedOut => exact absurd rfl some
    | @unconnected _ _ index _ dialed fails =>
      rcases fails.source with rfl | ⟨link, user, text, rfl, rfl⟩
      · exact ⟨index, .inl dialed⟩
      · exact ⟨index, .inr ⟨link, user, text, dialed, rfl⟩⟩

theorem setback_get (counted : Counted s) {n : Network}
    (failed : s.get timeout n.opener = (.error cause, t)) :
    t.leaving = [] ∧ ∃ own gone,
      Strides s.calls (n.connect s.pool.address) (s.step (.call timeout)) own t ∧
        Setback s timeout own gone cause t := by
  have got := got_get n timeout fun o ho => caller_ne_calls counted.balanced ho
  obtain ⟨first, rest, -, strides⟩ := strides_get counted n timeout
  rw [failed] at got strides
  cases got with
  | refused _ _ _ leaving_eq answer =>
    obtain ⟨gone, undone⟩ := strides.undone counted (mem_answers_of_answer? answer)
    exact ⟨leaving_eq, _, gone, strides, undone.setback⟩

/-! ## One call after another -/

/-- What calls leave for the next one. They have got these loans. -/
structure Continues (s : PoolSystem) (loans : List Lent) (t : PoolSystem) : Prop where
  counted : Counted t
  address_eq : t.pool.address = s.pool.address
  settings_eq : t.pool.settings = s.pool.settings
  dialer_eq : t.dialer = s.dialer
  closed_eq : t.pool.closed = s.pool.closed
  lent_eq : t.lent = s.lent ++ loans
  openings_eq : t.openings = s.openings

theorem Continues.trans {loans loans' : List Lent} (h : Continues s loans t)
    (h' : Continues t loans' u) : Continues s (loans ++ loans') u where
  counted := h'.counted
  address_eq := h'.address_eq.trans h.address_eq
  settings_eq := h'.settings_eq.trans h.settings_eq
  dialer_eq := h'.dialer_eq.trans h.dialer_eq
  closed_eq := h'.closed_eq.trans h.closed_eq
  lent_eq := by rw [h'.lent_eq, h.lent_eq, List.append_assoc]
  openings_eq := h'.openings_eq.trans h.openings_eq

theorem not_full_of_room (balanced : s.ledger.Balanced)
    (room : s.lent.length + s.openings.length < s.pool.settings.maxSize) : ¬s.pool.Full := by
  intro full
  have total_eq : s.pool.total = s.pool.idle.length + s.lent.length + s.openings.length :=
    balanced.total_eq
  rw [full.total_eq, full.idle_eq, List.length_nil] at total_eq
  omega

/-- What the call opens, if it opens anything at first, is established. -/
def Welcomes (s : PoolSystem) (timeout : Duration) (n : Network) : Prop :=
  (s.call timeout).Connects (.dialed s.openings.length (n.connect s.pool.address))

theorem Opens.served_establishFor {o : Opening} (h : Opens s gone o t)
    (balanced : s.ledger.Balanced) {n : Network}
    (connects : t.Connects (.dialed s.openings.length (n.connect s.pool.address))) :
    ∃ ticket, (s.calls, .ok ticket) ∈ (t.establishFor n.opener s.calls).answers := by
  rw [h.establishFor_eq balanced n, step]
  cases under : o.connection with
  | some c =>
    rw [dialed_of_done h.getElem?_eq under]
    exact ⟨_, h.served_settle under⟩
  | none =>
    obtain ⟨c, established⟩ := connects o h.getElem?_eq under
    rcases dialed_cases h.getElem?_eq under (n.connect s.pool.address) with
      ⟨c, buffers, streams, -, dialed⟩ | ⟨cause, rejected, buffers, streams, failed, -⟩
    · rw [dialed]
      exact ⟨_, (h.establish c buffers streams).served_settle rfl⟩
    · rw [established] at failed
      cases failed

/-- If there is a place, the first look finds a connection or takes the place for one. -/
theorem served_of_room (counted : Counted s) {n : Network} (isOpen : s.pool.closed = false)
    (room : s.lent.length + s.openings.length < s.pool.settings.maxSize)
    (welcomes : s.Welcomes timeout n) : ∃ ticket,
      (s.calls, .ok ticket) ∈ ((s.call timeout).establishFor n.opener s.calls).answers := by
  have not_full := not_full_of_room counted.balanced room
  have located : Located (s.call timeout) := located_step counted.located (.call timeout)
  have phase : Phase s timeout [] (s.call timeout) := phase_call counted timeout
  cases phase with
  | waiting waits => exact absurd waits.full not_full
  | failed undone =>
    cases undone.blame with
    | closed isClosed =>
      rw [isOpen] at isClosed
      cases isClosed
    | exhausted full | timedOut full => exact absurd full not_full
    | unconnected dialed => cases dialed
  | @served ticket answer =>
    have answered : s.calls ∈ (s.call timeout).answered := List.mem_map_of_mem (f := (·.1)) answer
    rw [establishFor_of_not_mem (not_mem_openers located (List.mem_append_right _ answered))]
    exact ⟨ticket, answer⟩
  | opening opens => exact opens.served_establishFor counted.balanced welcomes

theorem get_of_room (counted : Counted s) {n : Network} (isOpen : s.pool.closed = false)
    (room : s.lent.length + s.openings.length < s.pool.settings.maxSize)
    (welcomes : s.Welcomes timeout n) :
    ∃ l ticket t, s.get timeout n.opener = (.ok ticket, t) ∧ Continues s [l] t := by
  have got := got_get n timeout fun o ho => caller_ne_calls counted.balanced ho
  obtain ⟨first, rest, -, strides⟩ := strides_get counted n timeout
  obtain ⟨ticket, answer⟩ := served_of_room counted isOpen room welcomes
  have answer := mem_answers_get counted n answer
  generalize s.get timeout n.opener = result at got strides answer
  obtain ⟨result, t⟩ := result
  cases got with
  | refused _ _ _ _ refused =>
    have located := (strides.counted counted).located
    cases answer_unique located answer (mem_answers_of_answer? refused)
  | served l spared lent_eq =>
    exact ⟨l, _, t, rfl, strides.counted counted, spared.address_eq, spared.settings_eq,
      strides.dialer_eq, spared.closed_eq, lent_eq, spared.openings_eq⟩

/-- Calls one after another: how long each of them waits, and the network that it finds. -/
def getEach (s : PoolSystem) : List (Duration × Network) → List (Except Error Ticket) × PoolSystem
  | [] => ([], s)
  | (timeout, n) :: gets =>
    let (result, t) := s.get timeout n.opener
    let (results, t) := t.getEach gets
    (result :: results, t)

/-- Calls that fail leave things as they were. -/
theorem continues_getEach (counted : Counted s) {gets : List (Duration × Network)}
    (failed : ∀ result ∈ (s.getEach gets).1, ∃ cause, result = .error cause) :
    Continues s [] (s.getEach gets).2 := by
  induction gets generalizing s with
  | nil => exact ⟨counted, rfl, rfl, rfl, rfl, (List.append_nil _).symm, rfl⟩
  | cons get gets ih =>
    obtain ⟨timeout, n⟩ := get
    rw [getEach] at failed ⊢
    generalize result_eq : s.get timeout n.opener = result at failed ⊢
    obtain ⟨result, t⟩ := result
    obtain ⟨cause, rfl⟩ := failed result List.mem_cons_self
    obtain ⟨-, own, gone, strides, setback⟩ := setback_get counted result_eq
    have first : Continues s [] t := ⟨strides.counted counted, setback.address_eq,
      setback.settings_eq, setback.dialer_eq, setback.closed_eq,
      setback.lent_eq.trans (List.append_nil _).symm, setback.openings_eq⟩
    have failed : ∀ result ∈ (t.getEach gets).1, ∃ cause, result = .error cause :=
      fun result mem => failed result (List.mem_cons_of_mem _ mem)
    exact first.trans (ih first.counted failed)

/-- What any of the calls opens is established. -/
def WelcomesEach : PoolSystem → List (Duration × Network) → Prop
  | _, [] => True
  | s, (timeout, n) :: gets => s.Welcomes timeout n ∧ WelcomesEach (s.get timeout n.opener).2 gets

/-- Calls get connections as long as there are places, if there are connections to be had. -/
theorem getEach_of_room (counted : Counted s) {gets : List (Duration × Network)}
    (isOpen : s.pool.closed = false)
    (room : gets.length + s.lent.length + s.openings.length ≤ s.pool.settings.maxSize)
    (welcomes : s.WelcomesEach gets) :
    (∀ result ∈ (s.getEach gets).1, ∃ ticket, result = .ok ticket) ∧
      ∃ loans, loans.length = gets.length ∧ Continues s loans (s.getEach gets).2 := by
  induction gets generalizing s with
  | nil =>
    exact ⟨by simp [getEach], [], rfl, counted, rfl, rfl, rfl, rfl, (List.append_nil _).symm, rfl⟩
  | cons get gets ih =>
    obtain ⟨timeout, n⟩ := get
    rw [List.length_cons] at room
    obtain ⟨l, ticket, t, result_eq, first⟩ :=
      get_of_room counted isOpen (by omega) welcomes.1
    have welcomes := welcomes.2
    rw [result_eq] at welcomes
    rw [getEach, result_eq]
    have room' : gets.length + t.lent.length + t.openings.length ≤ t.pool.settings.maxSize := by
      rw [first.lent_eq, first.openings_eq, first.settings_eq, List.length_append]
      simp only [List.length_singleton]
      omega
    obtain ⟨served, loans, length_eq, rest⟩ :=
      ih first.counted (first.closed_eq.trans isOpen) room' welcomes
    refine ⟨?_, l :: loans, by rw [List.length_cons, List.length_cons, length_eq], first.trans rest⟩
    intro result mem
    rcases List.mem_cons.1 mem with rfl | mem
    · exact ⟨ticket, rfl⟩
    · exact served result mem

end

/-! ## Main result -/

/-- What failures mean to a pool in the state `s`. -/
structure Resilient (s : PoolSystem) : Prop where
  /-- However long a call takes, however often it is woken and whatever comes of its stream. -/
  setback : ∀ timeout own cause, (s.step (.call timeout)).Alone s.calls own →
    (s.calls, .error cause) ∈ (s.run (.call timeout :: own)).answers →
      ∃ gone, Setback s timeout own gone cause (s.run (.call timeout :: own))
  /-- The same for a call from its start to its end, which shuts down what it removes. -/
  get : ∀ timeout (n : Network) cause t, s.get timeout n.opener = (.error cause, t) →
    t.leaving = [] ∧ ∃ own gone,
      Strides s.calls (n.connect s.pool.address) (s.step (.call timeout)) own t ∧
        Setback s timeout own gone cause t
  /-- After any failures the places that are left can all be taken at once. -/
  recovers : s.pool.closed = false → ∀ failures gets,
    (∀ result ∈ (s.getEach failures).1, ∃ cause, result = .error cause) →
    gets.length + s.lent.length + s.openings.length ≤ s.pool.settings.maxSize →
    (s.getEach failures).2.WelcomesEach gets →
    let later := (s.getEach failures).2.getEach gets
    (∀ result ∈ later.1, ∃ ticket, result = .ok ticket) ∧
      ∃ loans, later.2.lent = s.lent ++ loans ∧ loans.length = gets.length ∧
        (later.2.lent.map (·.connection.link.serial)).Nodup

theorem resilient_run {address : Address} {settings : PoolSettings} {dialer : Dialer}
    {clock : Instant} {s₀ : PoolSystem} (h : create address settings dialer clock = .ok s₀)
    (events : List Event) : Resilient (s₀.run events) := by
  have counted := counted_run (counted_create h) events
  refine ⟨fun timeout own cause alone answer => ?_, fun _ _ _ _ => setback_get counted,
    fun isOpen failures gets failed room welcomes => ?_⟩
  · obtain ⟨gone, undone⟩ := undone_of_error counted alone answer
    exact ⟨gone, undone.setback⟩
  · have before := continues_getEach counted failed
    obtain ⟨served, loans, length_eq, after⟩ := getEach_of_room before.counted
      (before.closed_eq.trans isOpen)
      (by rwa [before.lent_eq, before.openings_eq, before.settings_eq, List.append_nil]) welcomes
    have lent_eq := (before.trans after).lent_eq
    exact ⟨served, loans, lent_eq, length_eq, lent_nodup after.counted.balanced⟩

/-- The only connection has become stale and there is no other one to be had. That leaves an empty
pool, and the next call gets the next connection but one. -/
theorem resilient_run_stale :
    let settings : PoolSettings := { maxSize := 1, maxIdleTime := .ofMillis 5 }
    let s₀ := fresh .localhost settings {} .zero
    let events : List Event := [.call .zero, .dialed 0 (.ok {}), .settle 0, .giveBack 0,
      .tick (.ofMillis 6)]
    let s := s₀.run events
    let down : Network := ⟨fun address => .error (.connectionClosed address), fun _ _ => [],
      fun _ _ _ => []⟩
    let up : Network := { down with connect := fun _ => .ok {} }
    let t := (s.get .zero down.opener).2
    create .localhost settings {} .zero = .ok s₀ ∧ s.pool.total = 1 ∧
      (s.get .zero down.opener).1 = .error (.connectionClosed .localhost) ∧ t.pool.total = 0 ∧
      t.shut.map (·.id) = [1] ∧ (t.get .zero up.opener).1 = .ok ⟨3, 0⟩ ∧ Resilient s := by
  intro settings s₀ events s down up t
  have created : create .localhost settings {} .zero = .ok s₀ := rfl
  have failed : s.pool.total = 1 ∧
      (s.get .zero down.opener).1 = .error (.connectionClosed .localhost) ∧ t.pool.total = 0 ∧
      t.shut.map (·.id) = [1] := by decide +kernel
  have served : (t.get .zero up.opener).1 = .ok ⟨3, 0⟩ := by decide +kernel
  obtain ⟨total, refused, empty, shut⟩ := failed
  exact ⟨created, total, refused, empty, shut, served, resilient_run created events⟩

end PoolSystem

end ClusterClient

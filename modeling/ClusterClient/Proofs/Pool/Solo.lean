import ClusterClient.Proofs.Pool.Phases

/-!
# A call on its own

Each event of a call that is alone takes it from one phase to another. Events that would be about a
call in another phase are about nothing, since every call is in one place.

    Phase s timeout own t     for t = s.run (.call timeout :: own), if the call is alone (phase_run)
    Undone s timeout own gone cause t                 if it was answered with an error
                                                                               (undone_of_error)
-/

namespace ClusterClient

namespace PoolSystem

section

variable {s t u : PoolSystem} {timeout : Duration} {own more : List Event} {gone : List Idle}
  {e : Event} {cause : Error} {name : Nat} {o : Opening}

/-! ## Looks -/

theorem departed_of_looker? {k : Caller} {queued : Bool} (looks : s.looker? e = some (k, queued)) :
    (s.step e).departed = s.departed ++
      (s.pool.look s.clock k.deadline queued).discarded.map (·.connection.close) := by
  have leaving_eq := (looked_step looks).leaving_eq
  have shut_eq : (s.step e).shut = s.shut := by
    cases e with
    | call timeout =>
      cases looks
      exact congrArg Ledger.shut (ledger_look { s with calls := s.calls + 1 } _ false rfl)
    | recheck name =>
      obtain ⟨caller, known, he⟩ := Option.map_eq_some_iff.1 looks
      rw [step, recheck, known]
      exact congrArg Ledger.shut (s.ledger_look caller true rfl)
    | _ => cases looks
  rw [departed, departed, shut_eq, leaving_eq, List.map_append, List.map_map, List.append_assoc]
  rfl

theorem Looked.untouched {k : Caller} {l : Look} (h : Looked s k l t)
    (dialer_eq : t.dialer = s.dialer)
    (departed_eq : t.departed = s.departed ++ l.discarded.map (·.connection.close))
    (loans : l.verdict.loans k.name = []) (begun : l.verdict.begun k.name s.reservations = [])
    (discarded : l.discarded = []) : Untouched s t where
  dialer_eq := dialer_eq
  lent_eq := by rw [h.lent_eq, loans, List.append_nil]
  openings_eq := by rw [h.openings_eq, begun, List.append_nil]
  departed_eq := by rw [departed_eq, discarded, List.map_nil, List.append_nil]

theorem Looked.mem_answers {k : Caller} {l : Look} {answer : Except Error Ticket}
    (h : Looked s k l t) (replied : l.verdict.reply? s.pool k.timeout = some answer) :
    (k.name, answer) ∈ t.answers := by
  rw [h.answers_eq, replied]
  exact List.mem_cons_self

/-- Whoever is told to wait is the only caller of its name. -/
theorem asked_of_wait {k : Caller}
    (callers_eq : t.callers = s.callers.filter (·.name != k.name) ++ Verdict.wait.queued k) :
    k.name ∈ t.queue ∧ ∀ k' ∈ t.callers, k'.name = k.name → k'.timeout = k.timeout := by
  refine ⟨by simp [queue, callers_eq, Verdict.queued], fun k' hk' named => ?_⟩
  rw [callers_eq] at hk'
  rcases List.mem_append.1 hk' with other | new
  · have := List.of_mem_filter other
    simp [named] at this
  · rw [List.mem_singleton.1 new]

/-- The end of a call that the pool refuses. -/
theorem phase_of_refused {total : Nat} {idle : List Idle} {requested : Bool}
    (untouched : Untouched s t)
    (pool_eq : t.pool = { s.pool with idle, total, maintenanceRequested := requested })
    (idle_eq : s.pool.idle = idle) (total_eq : total = s.pool.total)
    (answer : (s.calls, .error cause) ∈ t.answers) (blame : Blame s timeout own [] cause) :
    Phase s timeout own t := by
  have sheds : Sheds s [] t :=
    .of_pool_eq pool_eq untouched.dialer_eq untouched.lent_eq idle_eq (by simp)
  refine .failed ⟨sheds, untouched.openings_eq, ?_, ⟨none, ?_⟩, blame⟩ answer
  · rw [pool_eq]
    exact total_eq
  · simp [untouched.departed_eq]

/-- The first look. -/
theorem phase_call (counted : Counted s) (timeout : Duration) :
    Phase s timeout [] (s.step (.call timeout)) := by
  let k : Caller := ⟨s.calls, timeout, ⟨s.clock.nanos + timeout.nanos⟩, false⟩
  have looks : s.looker? (.call timeout) = some (k, false) := rfl
  have looked := looked_step looks
  have dialer_eq := s.dialer_step (.call timeout)
  have departed_eq := departed_of_looker? looks
  have ruled := s.pool.ruled_look s.clock k.deadline false
  generalize s.pool.look s.clock k.deadline false = l at looked departed_eq ruled
  generalize s.step (.call timeout) = t at looked departed_eq dialer_eq
  have untouched := looked.untouched dialer_eq departed_eq
  cases ruled with
  | closed isClosed =>
    exact phase_of_refused (untouched rfl rfl rfl) looked.pool_eq rfl rfl (looked.mem_answers rfl)
      (.closed isClosed)
  | reuse => exact .served (looked.mem_answers rfl)
  | reserve isOpen unusable room =>
    have le_total := (accounted_of_balanced counted.balanced).idle_le
    have lent_eq : t.lent = s.lent := looked.lent_eq.trans (List.append_nil _)
    have sheds : Sheds s s.pool.idle t :=
      .of_pool_eq looked.pool_eq dialer_eq lent_eq (List.append_nil _).symm unusable
    refine .opening ⟨sheds, isOpen, ?_, looked.openings_eq, rfl, departed_eq⟩
    rw [looked.pool_eq]
    show s.pool.total - s.pool.idle.length + 1 + s.pool.idle.length = s.pool.total + 1
    omega
  | exhausted isOpen unusable none first crowded =>
    have full := full_of_balanced counted.balanced isOpen none
    have crowded := Nat.le_antisymm counted.waiters_le crowded
    exact phase_of_refused (untouched rfl rfl full.idle_eq) looked.pool_eq full.idle_eq
      (by rw [full.idle_eq]; rfl) (looked.mem_answers rfl) (.exhausted full crowded)
  | timedOut isOpen unusable none =>
    have full := full_of_balanced counted.balanced isOpen none
    exact phase_of_refused (untouched rfl rfl full.idle_eq) looked.pool_eq full.idle_eq
      (by rw [full.idle_eq]; rfl) (looked.mem_answers rfl) (.timedOut full)
  | wait isOpen unusable none =>
    have full := full_of_balanced counted.balanced isOpen none
    obtain ⟨queued, asked⟩ := asked_of_wait looked.callers_eq
    refine .waiting ⟨untouched rfl rfl full.idle_eq, full, ?_, queued, asked⟩
    rw [looked.pool_eq]
    exact congrArg (fun p : Pool => { p with waiters := s.pool.waiters + 1 }) full.emptied_eq

/-- A caller that waited goes on waiting, or its time is over. Nothing has become free. -/
theorem Waits.recheck (h : Waits s timeout t) :
    Phase s timeout own (t.step (.recheck s.calls)) := by
  cases known : t.callers.find? (·.name == s.calls) with
  | none =>
    rw [step, PoolSystem.recheck, known]
    exact .waiting h
  | some k =>
    have named : k.name = s.calls := by simpa using List.find?_some known
    obtain rfl := h.asked k (List.mem_of_find?_eq_some known) named
    have full : t.pool.Full := by
      rw [h.pool_eq]
      exact ⟨h.full.isOpen, h.full.idle_eq, h.full.total_eq⟩
    have looks : t.looker? (.recheck s.calls) = some (k, true) := by rw [looker?, known]; rfl
    have looked := looked_step looks
    have dialer_eq := t.dialer_step (.recheck s.calls)
    have departed_eq := departed_of_looker? looks
    have ruled := t.pool.ruled_look t.clock k.deadline true
    generalize t.pool.look t.clock k.deadline true = l at looked departed_eq ruled
    generalize t.step (.recheck s.calls) = u at looked departed_eq dialer_eq
    have untouched := looked.untouched dialer_eq departed_eq
    have pool_eq := looked.pool_eq
    cases ruled with
    | closed isClosed =>
      rw [full.isOpen] at isClosed
      cases isClosed
    | reuse _ split =>
      rw [full.idle_eq] at split
      simp at split
    | reserve _ _ room => exact absurd (full.unusable t.clock).2 (Nat.not_le.2 room)
    | exhausted _ _ _ first => cases first
    | timedOut =>
      have address_eq : t.pool.address = s.pool.address := by rw [h.pool_eq]
      have answer : (k.name, .error (.poolWaitTimeout t.pool.address k.timeout)) ∈ u.answers :=
        looked.mem_answers rfl
      rw [named, address_eq] at answer
      rw [h.pool_eq] at pool_eq
      exact phase_of_refused (h.toUntouched.trans (untouched rfl rfl full.idle_eq)) pool_eq
        h.full.idle_eq (by rw [h.full.idle_eq]; rfl) answer (.timedOut h.full)
    | wait =>
      obtain ⟨queued, asked⟩ := asked_of_wait looked.callers_eq
      rw [named] at queued asked
      refine .waiting ⟨h.toUntouched.trans (untouched rfl rfl full.idle_eq), h.full, ?_, queued,
        asked⟩
      rw [← h.pool_eq, pool_eq]
      exact congrArg (fun p : Pool => { p with waiters := t.pool.waiters }) full.emptied_eq

/-! ## Openings -/

theorem fails_of_attempt {stream : Except Error Link} {rejected : Option Connection}
    (failed : s.attempt o stream = .failed cause rejected) :
    s.dialer.Fails s.pool.address stream cause :=
  ⟨_, _, _, _, _, _, failed⟩

/-- An attempt to connect succeeds, or it fails and gives the place back. -/
theorem dialed_cases {index : Nat} (known : s.openings[index]? = some o)
    (under : o.connection = none) (stream : Except Error Link) :
    (∃ c buffers streams, s.attempt o stream = .established c ∧ s.dialed index stream = { s with
      buffers, streams, openings := s.openings.set index { o with connection := some c } }) ∨
    ∃ cause rejected buffers streams, s.attempt o stream = .failed cause rejected ∧
      s.dialed index stream = (owe { s with
        buffers, streams, pool := s.pool.vacate, openings := s.openings.eraseIdx index
        shut := s.shut ++ rejected.toList } .one).fail o.caller cause := by
  obtain ⟨id, generation, place, caller, connection⟩ := o
  obtain rfl : connection = none := under
  unfold dialed
  rw [known]
  simp only
  split
  · next c established => exact .inl ⟨c, _, _, established, rfl⟩
  · next cause rejected failed => exact .inr ⟨cause, rejected, _, _, failed, rfl⟩

theorem dialed_of_done {index : Nat} {c : Connection} (known : s.openings[index]? = some o)
    (done : o.connection = some c) (stream : Except Error Link) : s.dialed index stream = s := by
  obtain ⟨id, generation, place, caller, _⟩ := o
  obtain rfl : _ = some c := done
  rw [dialed, known]

theorem Opens.mem_openers (h : Opens s gone o t) : s.calls ∈ t.openers :=
  List.mem_filterMap.2 ⟨o, by simp [h.openings_eq], h.caller⟩

theorem Opens.getElem?_eq (h : Opens s gone o t) : t.openings[s.openings.length]? = some o := by
  rw [h.openings_eq, List.getElem?_concat_length]

theorem Opens.set_eq (h : Opens s gone o t) (o' : Opening) :
    t.openings.set s.openings.length o' = s.openings ++ [o'] := by
  rw [h.openings_eq, set_concat]

theorem Opens.eraseIdx_eq (h : Opens s gone o t) :
    t.openings.eraseIdx s.openings.length = s.openings := by
  rw [h.openings_eq, eraseIdx_concat]

theorem Opens.eq_of_caller (h : Opens s gone o t) (balanced : s.ledger.Balanced) {index : Nat}
    {o' : Opening} (known : t.openings[index]? = some o') (caller : o'.caller = some s.calls) :
    index = s.openings.length ∧ o' = o := by
  rw [h.openings_eq] at known
  by_cases old : index < s.openings.length
  · rw [List.getElem?_append_left old] at known
    exact absurd caller (caller_ne_calls balanced (List.mem_of_getElem? known))
  · rw [List.getElem?_append_right (Nat.not_lt.1 old), List.getElem?_singleton] at known
    split at known
    · next first =>
      cases known
      exact ⟨by omega, rfl⟩
    · cases known

/-- The opening has its connection. -/
theorem Opens.establish (h : Opens s gone o t) (c : Connection) (buffers : Recycler)
    (streams : Nat) : Opens s gone { o with connection := some c } { t with
      buffers, streams
      openings := t.openings.set s.openings.length { o with connection := some c } } :=
  ⟨h.toSheds.of_eq rfl rfl rfl, h.isOpen, h.total_eq, h.set_eq _, h.caller, h.departed_eq⟩

theorem Opens.dialed (h : Opens s gone o t) (balanced : s.ledger.Balanced) {index : Nat}
    {stream : Except Error Link} (mine : t.Own s.calls (.dialed index stream))
    (mem : .dialed index stream ∈ own) :
    Phase s timeout own (t.step (.dialed index stream)) := by
  rw [step]
  rcases t.dialed_eq_or index stream with same | ⟨o', known, under, -⟩
  · rw [same]
    exact .opening h
  · obtain ⟨rfl, rfl⟩ := h.eq_of_caller balanced known (mine o' known)
    rcases dialed_cases known under stream with
      ⟨c, buffers, streams, -, dialed⟩ | ⟨cause, rejected, buffers, streams, failed, dialed⟩
    · rw [dialed]
      exact .opening (h.establish c buffers streams)
    · have idle_le : s.pool.idle.length ≤ s.pool.total := (accounted_of_balanced balanced).idle_le
      rw [h.idle_eq, List.length_append] at idle_le
      have total_eq := h.total_eq
      have departed_eq := h.departed_eq
      have fails := fails_of_attempt failed
      rw [h.address_eq, h.dialer_eq] at fails
      rw [dialed, h.caller]
      refine .failed ⟨h.toSheds.of_eq rfl rfl rfl, h.eraseIdx_eq, ?_, ⟨rejected, ?_⟩,
        .unconnected mem fails⟩ List.mem_cons_self
      · show t.pool.total - 1 + gone.length = s.pool.total
        omega
      · rw [← departed_eq]
        show ((t.shut ++ rejected.toList) ++ t.leaving.map (·.close)).Perm
          ((t.shut ++ t.leaving.map (·.close)) ++ rejected.toList)
        rw [List.append_assoc, List.append_assoc]
        exact List.perm_append_comm.append_left t.shut

theorem Opens.settle (h : Opens s gone o t) {index : Nat} (mine : t.Own s.calls (.settle index)) :
    Phase s timeout own (t.step (.settle index)) := by
  have stepped := t.stepped_step (.settle index)
  generalize t.step (.settle index) = u at stepped
  cases stepped with
  | nothing => exact .opening h
  | @settled _ o' _ _ known done settled =>
    have caller := mine o' known
    cases settled with
    | abandoned isClosed =>
      rw [h.closed_eq, h.isOpen] at isClosed
      cases isClosed
    | lent _ caller' =>
      cases caller.symm.trans caller'
      exact .served List.mem_cons_self
    | filed _ nobody => cases caller.symm.trans nobody

theorem Opens.served_settle (h : Opens s gone o t) {c : Connection} (done : o.connection = some c) :
    (s.calls, .ok ⟨o.id, o.generation⟩) ∈ (t.step (.settle s.openings.length)).answers := by
  have isOpen : t.pool.closed = false := h.closed_eq.trans h.isOpen
  have known := h.getElem?_eq
  have caller := h.caller
  obtain ⟨id, generation, place, _, _⟩ := o
  obtain rfl : _ = some s.calls := caller
  obtain rfl : _ = some c := done
  rw [step, PoolSystem.settle, known]
  simp only [isOpen, Bool.false_eq_true, if_false]
  exact List.mem_cons_self

/-! ## Events about nothing -/

theorem not_mem_openers (located : Located s) (elsewhere : name ∈ s.queue ++ s.answered) :
    name ∉ s.openers := by
  intro inside
  have once := located name
  have inside := List.count_pos_iff.2 inside
  have elsewhere := List.count_pos_iff.2 elsewhere
  rw [List.count_append] at elsewhere
  split at once <;> omega

/-- The events of a call that opens nothing are about nothing. -/
theorem none_of_own {index : Nat} (out : name ∉ s.openers)
    (mine : ∀ o, s.openings[index]? = some o → o.caller = some name) :
    s.openings[index]? = none := by
  cases known : s.openings[index]? with
  | none => rfl
  | some o => exact absurd (List.mem_filterMap.2 ⟨o, List.mem_of_getElem? known, mine o known⟩) out

theorem step_dialed_of_own (out : name ∉ s.openers) {index : Nat} {stream : Except Error Link}
    (mine : s.Own name (.dialed index stream)) : s.step (.dialed index stream) = s := by
  rw [step, dialed, none_of_own out mine]

theorem step_settle_of_own (out : name ∉ s.openers) {index : Nat}
    (mine : s.Own name (.settle index)) : s.step (.settle index) = s := by
  rw [step, settle, none_of_own out mine]

theorem step_recheck_of_not_mem (out : name ∉ s.queue) : s.step (.recheck name) = s := by
  have none : s.callers.find? (·.name == name) = none := by
    rw [List.find?_eq_none]
    intro k hk named
    exact out (List.mem_map.2 ⟨k, hk, by simpa using named⟩)
  rw [step, recheck, none]

theorem Phase.waits_or (phase : Phase s timeout own t) (counted : Counted t) :
    Waits s timeout t ∨ s.calls ∉ t.queue := by
  cases phase with
  | waiting waits => exact .inl waits
  | opening opens =>
    exact .inr (not_mem_queue_of_ended counted (by simp [opens.mem_openers]))
  | failed _ answer | served answer =>
    have answered : s.calls ∈ t.answered := List.mem_map_of_mem (f := (·.1)) answer
    exact .inr (not_mem_queue_of_ended counted (by simp [answered]))

theorem Phase.opens_or (phase : Phase s timeout own t) (located : Located t) :
    (∃ gone o, Opens s gone o t) ∨ s.calls ∉ t.openers := by
  cases phase with
  | opening opens => exact .inl ⟨_, _, opens⟩
  | waiting waits => exact .inr (not_mem_openers located (List.mem_append_left _ waits.queued))
  | failed _ answer | served answer =>
    have answered : s.calls ∈ t.answered := List.mem_map_of_mem (f := (·.1)) answer
    exact .inr (not_mem_openers located (List.mem_append_right _ answered))

/-! ## Runs -/

theorem phase_step (balanced : s.ledger.Balanced) (counted : Counted t)
    (phase : Phase s timeout own t) (mine : t.Own s.calls e) :
    Phase s timeout (own ++ [e]) (t.step e) := by
  have kept : Phase s timeout (own ++ [e]) t := phase.mono (List.subset_append_left _ _)
  cases e with
  | recheck other =>
    obtain rfl : other = s.calls := mine
    rcases phase.waits_or counted with waits | out
    · exact waits.recheck
    · rwa [step_recheck_of_not_mem out]
  | dialed index stream =>
    rcases phase.opens_or counted.located with ⟨gone, o, opens⟩ | out
    · exact opens.dialed balanced mine (by simp)
    · rwa [step_dialed_of_own out mine]
  | settle index =>
    rcases phase.opens_or counted.located with ⟨gone, o, opens⟩ | out
    · exact opens.settle mine
    · rwa [step_settle_of_own out mine]
  | shutFirst => exact kept.of_rests (rests_shutFirst t)
  | notify pick => exact kept.of_rests (rests_notify t pick)
  | tick elapsed => exact kept.of_rests (rests_tick t elapsed)
  | _ => cases mine

theorem phase_run (counted : Counted s) (alone : (s.step (.call timeout)).Alone s.calls own) :
    Phase s timeout own (s.run (.call timeout :: own)) := by
  induction own using List.reverseRecOn with
  | nil => exact phase_call counted timeout
  | append_singleton own e ih =>
    have counted' := counted_run counted (.call timeout :: own)
    rw [← List.cons_append, run_append]
    exact phase_step counted.balanced counted' (ih alone.init) alone.last

/-- A call has one answer. -/
theorem answer_unique (located : Located s) {a b : Except Error Ticket}
    (ha : (name, a) ∈ s.answers) (hb : (name, b) ∈ s.answers) : a = b := by
  have nodup : s.answered.Nodup := by
    refine List.nodup_iff_count_le_one.2 fun n => ?_
    have := located n
    split at this <;> omega
  exact (Prod.mk.inj (List.inj_on_of_nodup_map nodup ha hb rfl)).2

theorem undone_of_error (counted : Counted s)
    (alone : (s.step (.call timeout)).Alone s.calls own)
    (answer : (s.calls, .error cause) ∈ (s.run (.call timeout :: own)).answers) :
    ∃ gone, Undone s timeout own gone cause (s.run (.call timeout :: own)) := by
  have counted' := counted_run counted (.call timeout :: own)
  have phase := phase_run counted alone
  generalize s.run (.call timeout :: own) = t at answer counted' phase
  have answered : s.calls ∈ t.answered := List.mem_map_of_mem (f := (·.1)) answer
  cases phase with
  | waiting waits =>
    exact absurd waits.queued (not_mem_queue_of_ended counted' (by simp [answered]))
  | opening opens =>
    exact absurd opens.mem_openers
      (not_mem_openers counted'.located (List.mem_append_right _ answered))
  | @failed gone cause' undone answer' =>
    cases answer_unique counted'.located answer answer'
    exact ⟨gone, undone⟩
  | served answer' => cases answer_unique counted'.located answer answer'

end

end PoolSystem

end ClusterClient

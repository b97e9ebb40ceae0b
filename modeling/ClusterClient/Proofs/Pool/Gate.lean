import ClusterClient.Proofs.Connection.Authentication
import ClusterClient.Proofs.Pool.Barrier

/-!
# The gate

Where a credential is configured, authentication is the only way into a pool, for callers and for
maintenance alike. An attempt to connect either ends with a connection that the chosen handler has
accepted, or leaves nothing but a stream that was shut down. From then on a connection is only used
by borrowers, and that proves nothing.

    c is lent or idle in s.run events → s.Vouched events a c               (vouched_of_held)
    the attempt is refused → Rejected …, now and whatever happens then             (rejected_dialed)
-/

namespace ClusterClient

namespace PoolSystem

open Ledger Authenticator

/-! ## Connections that are held -/

/-- The connections that are idle, lent, or about to be. -/
def held (s : PoolSystem) : List Connection :=
  s.pool.idle.map (·.connection) ++ s.lent.map (·.connection) ++
    s.openings.filterMap (·.connection)

section

variable {s s' : PoolSystem} {c : Connection}

theorem mem_held : c ∈ s.held ↔ (∃ i ∈ s.pool.idle, i.connection = c) ∨
    (∃ l ∈ s.lent, l.connection = c) ∨ ∃ o ∈ s.openings, o.connection = some c := by
  simp [held]

theorem mem_held_of_subset (h : c ∈ s'.held) (idle : s'.pool.idle ⊆ s.pool.idle)
    (lent : s'.lent ⊆ s.lent) (openings : s'.openings ⊆ s.openings) : c ∈ s.held := by
  rw [mem_held] at h ⊢
  rcases h with ⟨i, hi, rfl⟩ | ⟨l, hl, rfl⟩ | ⟨o, ho, same⟩
  · exact .inl ⟨i, idle hi, rfl⟩
  · exact .inr (.inl ⟨l, lent hl, rfl⟩)
  · exact .inr (.inr ⟨o, openings ho, same⟩)

theorem held_of_ledger_eq (h : s'.ledger = s.ledger) : s'.held = s.held := by
  have idle_eq : s'.pool.idle = s.pool.idle := congrArg Ledger.idle h
  have lent_eq : s'.lent = s.lent := congrArg Ledger.lent h
  have openings_eq : s'.openings = s.openings := congrArg Ledger.openings h
  rw [held, held, idle_eq, lent_eq, openings_eq]

theorem mem_held_of_decided {name : Nat} {l : Look} (d : Decided s s' name l)
    (hc : c ∈ s'.held) : c ∈ s.held := by
  have idle_eq := d.idle_eq
  rw [mem_held, d.pool_eq, d.lent_eq, d.openings_eq] at hc
  rw [mem_held, idle_eq]
  rcases hc with ⟨i, hi, rfl⟩ | ⟨m, hm, rfl⟩ | ⟨o, ho, same⟩
  · exact .inl ⟨i, by simp [hi], rfl⟩
  · rcases List.mem_append.1 hm with hm | hm
    · exact .inr (.inl ⟨m, hm, rfl⟩)
    · obtain ⟨i, hv, rfl⟩ := Verdict.mem_loans.1 hm
      exact .inl ⟨i, by simp [hv, Verdict.reused], rfl⟩
  · rcases List.mem_append.1 ho with ho | ho
    · exact .inr (.inr ⟨o, ho, same⟩)
    · obtain ⟨id, generation, -, rfl⟩ := Verdict.mem_begun.1 ho
      cases same

/-- As long as nothing is opened, each connection is one that was there before, after some use. -/
theorem exists_used_of_held_step {e : Event} (unlooked : s.decision? e = none)
    (notDialed : ∀ index stream, e ≠ .dialed index stream) (hc : c ∈ (s.step e).held) :
    ∃ c' ∈ s.held, c'.Used c := by
  have kept (h : c ∈ s.held) : ∃ c' ∈ s.held, c'.Used c := ⟨c, h, .refl⟩
  have stepped := s.stepped_step e
  generalize s.step e = t at stepped hc
  cases stepped with
  | called => cases unlooked
  | rechecked known => simp [decision?, known] at unlooked
  | attempted => exact absurd rfl (notDialed _ _)
  | @settled index o d _ known done settled =>
    have opened : d ∈ s.held := mem_held.2 (.inr (.inr ⟨o, List.mem_of_getElem? known, done⟩))
    have left : s.openings.eraseIdx index ⊆ s.openings := List.eraseIdx_subset
    cases settled with
    | abandoned =>
      rw [held_of_ledger_eq (ledger_fail ..)] at hc
      exact kept (mem_held_of_subset hc (List.Subset.refl _) (List.Subset.refl _) left)
    | lent =>
      refine kept ?_
      rw [mem_held] at hc opened ⊢
      simp only [conclude, List.mem_append, List.mem_singleton] at hc
      grind
    | filed =>
      refine kept ?_
      rw [mem_held] at hc opened ⊢
      simp only [owe, Pool.file, List.mem_cons] at hc
      grind
  | @used l usage loan =>
    have lent := (mem_of_loan? loan).1
    rcases mem_held.1 hc with idle | ⟨m, hm, rfl⟩ | opening
    · exact kept (mem_held.2 (.inl idle))
    · obtain ⟨m', hm', rfl⟩ := List.mem_map.1 hm
      split
      · exact ⟨l.connection, mem_held.2 (.inr (.inl ⟨l, lent, rfl⟩)),
          .single ⟨s.buffers, usage, rfl⟩⟩
      · exact ⟨m'.connection, mem_held.2 (.inr (.inl ⟨m', hm', rfl⟩)), .refl⟩
    · exact kept (mem_held.2 (.inr (.inr opening)))
  | @returned l _ loan returned =>
    have back : l.connection ∈ s.held :=
      mem_held.2 (.inr (.inl ⟨l, (mem_of_loan? loan).1, rfl⟩))
    have others : s.lent.filter (·.borrower != l.borrower) ⊆ s.lent := List.filter_subset_self _
    cases returned with
    | kept =>
      refine kept ?_
      rw [mem_held] at hc back ⊢
      simp only [owe, Pool.file, List.mem_cons] at hc
      grind
    | discarded =>
      exact kept (mem_held_of_subset hc (List.Subset.refl _) others (List.Subset.refl _))
  | invalidated | closed =>
    exact kept (mem_held_of_subset hc (List.nil_subset _) (List.Subset.refl _)
      (List.Subset.refl _))
  | pruned =>
    exact kept (mem_held_of_subset hc (List.filter_subset_self _) (List.Subset.refl _)
      (List.Subset.refl _))
  | reserved =>
    refine kept ?_
    simpa [held, beginOpening, Pool.reserve] using hc
  | nothing | shut | notified | ended | rested | ticked => exact kept hc

/-! ## Attempts -/

/-- The connection that an attempt begins with when its stream is there. -/
def openedOn (s : PoolSystem) (o : Opening) (link : Link) : Connection :=
  s.dialer.begun s.pool.address o.id s.clock { link with serial := s.streams, place := o.place }

variable {a : Authenticator} {index : Nat} {o : Opening} {link : Link}

/-- How an attempt goes on when its stream is there. -/
inductive Passed (s : PoolSystem) (a : Authenticator) (index : Nat) (o : Opening) (link : Link) :
    PoolSystem → Prop where
  | admitted {d : Connection} {buffers : Recycler}
      (admits : a.Admits (s.openedOn o link) s.buffers d) :
      Passed s a index o link { s with
        buffers, streams := s.streams + 1
        openings := s.openings.set index { o with connection := some d } }
  | rejected {d : Connection} {buffers : Recycler} {cause : String}
      (refuses : a.Refuses (s.openedOn o link) s.buffers cause)
      (follows : (s.openedOn o link).Follows d) :
      Passed s a index o link <| fail (owe { s with
        buffers, streams := s.streams + 1, pool := s.pool.vacate
        openings := s.openings.eraseIdx index, shut := s.shut ++ [d.close] } .one) o.caller
        (.authentication a.credential.username cause)

theorem passed_dialed (guarded : s.dialer.authenticator = some a)
    (known : s.openings[index]? = some o) (under : o.connection = none) (link : Link) :
    Passed s a index o link (s.dialed index (.ok link)) := by
  obtain ⟨id, generation, place, caller, connection⟩ := o
  obtain rfl : connection = none := under
  have screened := screened_dial guarded s.pool.address id s.clock
    { link with serial := s.streams, place } s.buffers
  unfold dialed
  rw [known]
  simp only [Except.map, Except.isOk, Except.toBool]
  generalize s.dialer.dial _ _ _ _ _ = result at screened
  cases screened with
  | admitted admits => exact .admitted admits
  | rejected refuses follows => exact .rejected refuses follows

theorem mem_held_dialed (guarded : s.dialer.authenticator = some a) {stream : Except Error Link}
    (hc : c ∈ (s.dialed index stream).held) : c ∈ s.held ∨ ∃ link o, stream = .ok link ∧
      s.openings[index]? = some o ∧ o.connection = none ∧
      a.Admits (s.openedOn o link) s.buffers c := by
  have erased : s.openings.eraseIdx index ⊆ s.openings := List.eraseIdx_subset
  rcases s.dialed_eq_or index stream with same | ⟨o, known, under, attempted⟩
  · exact .inl (same ▸ hc)
  · cases stream with
    | error cause =>
      generalize s.dialed index _ = s' at attempted hc
      cases attempted
      rw [held_of_ledger_eq (ledger_fail ..)] at hc
      exact .inl (mem_held_of_subset hc (List.Subset.refl _) (List.Subset.refl _) erased)
    | ok link =>
      have passed := passed_dialed guarded known under link
      generalize s.dialed index _ = s' at passed hc
      cases passed with
      | admitted admits =>
        rcases mem_held.1 hc with idle | lent | ⟨p, hp, done⟩
        · exact .inl (mem_held.2 (.inl idle))
        · exact .inl (mem_held.2 (.inr (.inl lent)))
        · rcases List.mem_or_eq_of_mem_set hp with old | rfl
          · exact .inl (mem_held.2 (.inr (.inr ⟨p, old, done⟩)))
          · obtain rfl := Option.some.inj done
            exact .inr ⟨link, o, rfl, known, under, admits⟩
      | rejected =>
        rw [held_of_ledger_eq (ledger_fail ..)] at hc
        exact .inl (mem_held_of_subset hc (List.Subset.refl _) (List.Subset.refl _) erased)

/-! ## Runs -/

/-- One of the events was an attempt that `a` admitted, and its connection is `c` after some use. -/
def Vouched (s : PoolSystem) (events : List Event) (a : Authenticator) (c : Connection) : Prop :=
  ∃ earlier index link later o d, events = earlier ++ .dialed index (.ok link) :: later ∧
    (s.run earlier).openings[index]? = some o ∧ o.connection = none ∧
    a.Admits ((s.run earlier).openedOn o link) (s.run earlier).buffers d ∧ d.Used c

variable {events : List Event}

theorem Vouched.after {c' : Connection} (h : s.Vouched events a c') (used : c'.Used c) (e : Event) :
    s.Vouched (events ++ [e]) a c := by
  obtain ⟨earlier, index, link, later, o, d, rfl, known, under, admits, before⟩ := h
  exact ⟨earlier, index, link, later ++ [e], o, d, by simp, known, under, admits,
    before.trans used⟩

/-- A connection that is vouched for has proved itself once. -/
theorem Vouched.exists_conversations_eq (h : s.Vouched events a c) :
    ∃ index m h, a.Chosen index m h ∧ c.conversations = [⟨index, m, a.credential, true⟩] := by
  obtain ⟨earlier, -, link, later, o, d, -, -, -, admits, used⟩ := h
  obtain ⟨index, m, h, chosen, proved⟩ := admits.exists_conversations_eq
  exact ⟨index, m, h, chosen, used.conversations_eq.trans proved⟩

theorem vouched_of_held (guarded : s.dialer.authenticator = some a) (nothing : s.held = [])
    (events : List Event) (hc : c ∈ (s.run events).held) : s.Vouched events a c := by
  induction events using List.reverseRecOn generalizing c with
  | nil =>
    change c ∈ s.held at hc
    simp [nothing] at hc
  | append_singleton events e ih =>
    rw [run_append] at hc
    change c ∈ ((s.run events).step e).held at hc
    have guarded' : (s.run events).dialer.authenticator = some a := by rw [dialer_run, guarded]
    by_cases he : ∃ index stream, e = .dialed index stream
    · obtain ⟨index, stream, rfl⟩ := he
      rcases mem_held_dialed guarded' hc with old | ⟨link, o, rfl, known, under, admits⟩
      · exact (ih old).after .refl _
      · exact ⟨events, index, link, [], o, c, rfl, known, under, admits, .refl⟩
    · simp only [not_exists] at he
      cases looked : (s.run events).decision? e with
      | none =>
        obtain ⟨c', hc', used⟩ := exists_used_of_held_step looked he hc
        exact (ih hc').after used e
      | some d => exact (ih (mem_held_of_decided (decided_step looked) hc)).after .refl e

/-! ## Refused connections -/

/-- The connection `c` is out of the way: its stream, which was `link` at first, is shut down once,
and whatever happens to the pool, nobody gets it and nobody shuts it down again. -/
structure Spent (t : PoolSystem) (link : Link) (c : Connection) : Prop where
  isClosed : c.closed = true
  close_eq : c.close = c
  shutdowns_eq : c.link.shutdowns = link.shutdowns + 1
  shut : ∀ later, c ∈ (t.run later).shut
  elsewhere : ∀ later, ∀ d ∈ (t.run later).held ++ (t.run later).leaving,
    d.link.serial ≠ c.link.serial

/-- What is left when an attempt was refused. -/
structure Rejected (s : PoolSystem) (a : Authenticator) (index : Nat) (o : Opening) (link : Link)
    (cause : String) (t : PoolSystem) : Prop where
  /-- The place is free again. -/
  total_eq : t.pool.total + 1 = s.pool.total
  openings_eq : t.openings = s.openings.eraseIdx index
  idle_eq : t.pool.idle = s.pool.idle
  lent_eq : t.lent = s.lent
  /-- A caller is told whose credential it was. -/
  answers_eq : t.answers = o.caller.toList.map
    (fun name => (name, .error (.authentication a.credential.username cause))) ++ s.answers
  spent : ∃ c, (s.openedOn o link).Follows c ∧ t.shut = s.shut ++ [c] ∧ Spent t link c

theorem spent_of_shut (sound : Sound s.ledger) (hc : c ∈ s.shut) (isClosed : c.closed = true)
    (shutdowns : c.link.shutdowns = link.shutdowns + 1) : Spent s link c where
  isClosed := isClosed
  close_eq := by rw [Connection.close, if_pos isClosed]
  shutdowns_eq := shutdowns
  shut later := shut_subset_run s later hc
  elsewhere later d hd same := by
    have balanced := (sound_of_moves sound (s.moves_run later)).balanced
    have hc' := shut_subset_run s later hc
    have nodup := (serials_perm balanced).nodup_iff.2 List.nodup_range
    have split : (s.run later).connections =
        ((s.run later).held ++ (s.run later).leaving) ++ (s.run later).shut := by
      simp [connections, held]
    rw [split, List.map_append, List.nodup_append] at nodup
    exact nodup.2.2 _ (List.mem_map_of_mem hd) _ (List.mem_map_of_mem hc') same

theorem rejected_dialed (sound : Sound s.ledger) (guarded : s.dialer.authenticator = some a)
    (known : s.openings[index]? = some o) (under : o.connection = none) {cause : String}
    (refuses : a.Refuses (s.openedOn o link) s.buffers cause) :
    Rejected s a index o link cause (s.dialed index (.ok link)) := by
  have sound' : Sound (s.dialed index (.ok link)).ledger :=
    sound_of_moves sound (s.moves_step (.dialed index (.ok link)))
  have passed := passed_dialed guarded known under link
  generalize s.dialed index _ = t at passed sound'
  cases passed with
  | admitted admits => exact absurd admits refuses.not_admits
  | @rejected d _ _ refuses' follows =>
    obtain rfl := refuses.unique refuses'
    have total_eq : s.pool.total = s.pool.idle.length + s.lent.length + s.openings.length :=
      sound.balanced.total_eq
    have some : 0 < s.openings.length := List.length_pos_of_mem (List.mem_of_getElem? known)
    have closing := follows.trans d.follows_close
    have shutdowns : d.close.link.shutdowns = link.shutdowns + 1 := by
      have := closing.shutdowns_eq
      rwa [d.closed_close] at this
    refine ⟨?_, congrArg Ledger.openings (ledger_fail ..), congrArg Ledger.idle (ledger_fail ..),
      congrArg Ledger.lent (ledger_fail ..), answers_fail .., d.close, closing,
      congrArg Ledger.shut (ledger_fail ..), ?_⟩
    · rw [pool_fail]
      show s.pool.total - 1 + 1 = s.pool.total
      omega
    · refine spent_of_shut sound' ?_ d.closed_close shutdowns
      rw [show (fail _ _ _).shut = _ from congrArg Ledger.shut (ledger_fail ..)]
      exact List.mem_append_right _ List.mem_cons_self

end

/-! ## Main result -/

/-- What is true of a pool `s₀` whose connections have to prove themselves to `a`, when it has come
to the state `s` after some events. -/
structure Gated (s₀ : PoolSystem) (events : List Event) (a : Authenticator) (s : PoolSystem) :
    Prop where
  lent : ∀ l ∈ s.lent, s₀.Vouched events a l.connection
  idle : ∀ i ∈ s.pool.idle, s₀.Vouched events a i.connection
  /-- The first handler of the mechanism has succeeded, and there was no other conversation. -/
  proved : ∀ c ∈ s.held, ∃ index m h, a.Chosen index m h ∧
    c.conversations = [⟨index, m, a.credential, true⟩]
  /-- An attempt with a stream is refused, or it ends with a connection that was admitted. -/
  attempted : ∀ index o link, s.openings[index]? = some o → o.connection = none →
    (∃ cause, a.Refuses (s.openedOn o link) s.buffers cause) ∨
      ∃ d, a.Admits (s.openedOn o link) s.buffers d ∧
        (s.step (.dialed index (.ok link))).openings =
          s.openings.set index { o with connection := some d }
  refused : ∀ index o link cause, s.openings[index]? = some o → o.connection = none →
    a.Refuses (s.openedOn o link) s.buffers cause →
      Rejected s a index o link cause (s.step (.dialed index (.ok link)))

theorem gated_run {address : Address} {settings : PoolSettings} {dialer : Dialer}
    {clock : Instant} {s₀ : PoolSystem} {a : Authenticator}
    (h : create address settings dialer clock = .ok s₀) (guarded : dialer.authenticator = some a)
    (events : List Event) : Gated s₀ events a (s₀.run events) := by
  have sound := sound_run h events
  obtain ⟨-, rfl⟩ := exists_fresh_of_create h
  have guarded' : ((fresh address settings dialer clock).run events).dialer.authenticator =
      some a := by rw [dialer_run]; exact guarded
  have vouched : ∀ c ∈ ((fresh address settings dialer clock).run events).held,
      Vouched _ events a c := fun c hc => vouched_of_held guarded rfl events hc
  refine ⟨fun l hl => vouched _ (mem_held.2 (.inr (.inl ⟨l, hl, rfl⟩))),
    fun i hi => vouched _ (mem_held.2 (.inl ⟨i, hi, rfl⟩)),
    fun c hc => (vouched c hc).exists_conversations_eq, fun index o link known under => ?_,
    fun index o link cause known under => rejected_dialed sound guarded' known under⟩
  have passed := passed_dialed guarded' known under link
  rw [step]
  generalize dialed _ index _ = t at passed
  cases passed with
  | admitted admits => exact .inr ⟨_, admits, rfl⟩
  | rejected refuses => exact .inl ⟨_, refuses⟩

/-- Of two handlers of the mechanism the first decides, and it does not like the second
connection. -/
theorem gated_run_denied :
    let credential : Credential := { username := some "user", mechanism := some .plain }
    let first : Handler :=
      ⟨.plain, fun _ c => .done (if c.id = 1 then .ok () else .error "denied")⟩
    let second : Handler := ⟨.plain, fun _ _ => .done (.ok ())⟩
    let a : Authenticator := ⟨credential, [first, second]⟩
    let s₀ := fresh .localhost {} { authenticator := some a } .zero
    let events : List Event :=
      [.call .zero, .dialed 0 (.ok {}), .settle 0, .call .zero, .dialed 0 (.ok {})]
    let t := s₀.run events
    create .localhost {} { authenticator := some a } .zero = .ok s₀ ∧
      t.lent.map (·.connection.conversations) = [[⟨0, .plain, credential, true⟩]] ∧
      t.shut.map (·.link.shutdowns) = [1] ∧
      t.answers = [(1, .error (.authentication (some "user") "denied")), (0, .ok ⟨1, 0⟩)] ∧
      Gated s₀ events a t := by
  intro credential first second a s₀ events t
  have created : create .localhost {} { authenticator := some a } .zero = .ok s₀ := rfl
  have proved : t.lent.map (·.connection.conversations) = [[⟨0, .plain, credential, true⟩]] := by
    decide +kernel
  have shutdowns : t.shut.map (·.link.shutdowns) = [1] := by decide +kernel
  have answers : t.answers =
      [(1, .error (.authentication (some "user") "denied")), (0, .ok ⟨1, 0⟩)] := by
    decide +kernel
  exact ⟨created, proved, shutdowns, answers, gated_run created rfl events⟩

end PoolSystem

end ClusterClient

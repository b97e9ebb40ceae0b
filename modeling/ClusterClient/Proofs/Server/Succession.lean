import ClusterClient.Proofs.Server.Findings
import Mathlib.Data.List.Chain
import Mathlib.Data.List.Induction

/-!
# The succession of descriptions

A monitor publishes what it finds out. A failure leaves no connection behind, so the next check has
to connect, and says so before anything else can be found. That is why an unknown server is always
published as connecting next, with the same error.

    connecting, connected → connected or unknown
    unknown               → connecting
    Lawful m₀ events (m₀.run events)     for each monitor m₀ that has done nothing yet  (lawful_run)
-/

namespace ClusterClient

namespace ServerDescription

/-- A monitor that has published `d` may publish `d'` next. -/
structure Precedes (d d' : ServerDescription) : Prop where
  ne : d ≠ d'
  ended : d.state ≠ .unknown → d'.state = .connected ∨ d'.state = .unknown
  restarted : d.state = .unknown → d'.state = .connecting ∧ d'.error = d.error

end ServerDescription

namespace Monitor

open ServerDescription

variable {m m₀ : Monitor} {d : ServerDescription} {e : Event}

/-! ## Order -/

/-- A monitor whose server has this address, between any two steps. -/
structure Orderly (a : Address) (m : Monitor) : Prop where
  address_eq : m.address = a
  chain : (fresh a :: m.published).IsChain Precedes
  description_eq : m.description = m.published.getLast?.getD (fresh a)
  named : ∀ d ∈ m.published, d.address = a
  rested : m.description.state = .unknown → Rested m

theorem Finding.precedes (found : Finding m e d) (ne : m.description ≠ d)
    (rested : m.description.state = .unknown → Rested m) : Precedes m.description d := by
  refine ⟨ne, fun known => ?_, fun failed => ?_⟩
  · cases found with
    | restart _ _ failed => exact absurd failed known
    | failure => exact Or.inr rfl
    | reply => exact Or.inl rfl
  · cases found with
    | restart => exact ⟨rfl, rfl⟩
    | failure f =>
      cases f with
      | unreachable connecting => exact absurd connecting (rested failed).notConnecting
      | unanswered probing => exact absurd probing (rested failed).notProbing
    | reply probing => exact absurd probing (rested failed).notProbing

theorem orderly_step {a : Address} (h : Orderly a m) (e : Event) : Orderly a (m.step e) := by
  have took := m.took_step e
  have address_eq : (m.step e).address = a := took.address_eq.trans h.address_eq
  have rested : (m.step e).description.state = .unknown → Rested (m.step e) := by
    intro failed
    cases took with
    | quietly alike _ rested =>
      rw [alike.description_eq] at failed
      exact rested failed (h.rested failed)
    | finding _ alike rested =>
      rw [alike.description_eq, description_publish] at failed
      exact rested failed
  rcases took.description_eq with ⟨description_eq, published_eq⟩ | ⟨found, ne, published_eq⟩
  · refine ⟨address_eq, ?_, ?_, ?_, rested⟩
    · rw [published_eq]
      exact h.chain
    · rw [description_eq, published_eq]
      exact h.description_eq
    · rw [published_eq]
      exact h.named
  · refine ⟨address_eq, ?_, ?_, ?_, rested⟩
    · rw [published_eq, ← List.cons_append, List.isChain_append]
      refine ⟨h.chain, List.isChain_singleton _, fun last hlast next hnext => ?_⟩
      rw [List.getLast?_cons, ← h.description_eq, Option.mem_some_iff] at hlast
      rw [List.head?_singleton, Option.mem_some_iff] at hnext
      rw [← hlast, ← hnext]
      exact found.precedes ne h.rested
    · rw [published_eq, List.getLast?_concat, Option.getD_some]
    · rw [published_eq]
      refine List.forall_mem_append.2 ⟨h.named, List.forall_mem_singleton.2 ?_⟩
      exact found.address_eq.trans h.address_eq

theorem orderly_run {a : Address} (h : Orderly a m) (events : List Event) :
    Orderly a (m.run events) := by
  induction events generalizing m with
  | nil => exact h
  | cons e events ih => exact ih (orderly_step h e)

/-! ## Origins -/

/-- Each description goes back to the event that found it. -/
theorem exists_finding (nothing : m₀.published = []) (events : List Event)
    {before after : List ServerDescription}
    (h : (m₀.run events).published = before ++ d :: after) :
    ∃ earlier e later, events = earlier ++ e :: later ∧
      (m₀.run earlier).published = before ∧ Finding (m₀.run earlier) e d := by
  induction events using List.reverseRecOn generalizing after with
  | nil =>
    rw [run, List.foldl_nil, nothing] at h
    simp at h
  | append_singleton events e ih =>
    rw [run_append] at h
    change ((m₀.run events).step e).published = _ at h
    rcases ((m₀.run events).took_step e).description_eq with ⟨-, same⟩ | ⟨found, -, published_eq⟩
    · rw [same] at h
      obtain ⟨earlier, e', later, rfl, origin⟩ := ih h
      exact ⟨earlier, e', later ++ [e], by simp, origin⟩
    · rw [published_eq] at h
      rcases List.eq_nil_or_concat after with rfl | ⟨after, last, rfl⟩
      · obtain ⟨published_eq, same⟩ := List.append_inj' h rfl
        cases same
        exact ⟨events, e, [], rfl, published_eq, found⟩
      · rw [List.concat_eq_append, ← List.cons_append, ← List.append_assoc] at h
        obtain ⟨earlier, e', later, rfl, origin⟩ := ih (List.append_inj' h rfl).1
        exact ⟨earlier, e', later ++ [e], by simp, origin⟩

/-! ## All states -/

/-- What is true of the descriptions that a monitor `m₀` has published after some events, when it
has come to the state `m`. -/
structure Lawful (m₀ : Monitor) (events : List Event) (m : Monitor) : Prop where
  chain : (fresh m₀.address :: m.published).IsChain Precedes
  named : ∀ d ∈ m.published, d.address = m₀.address
  description_eq : m.description = m.published.getLast?.getD (fresh m₀.address)
  /-- A connected server is described by the reply to a probe; ... -/
  connected : ∀ before d after, m.published = before ++ d :: after → d.state = .connected →
    ∃ earlier reply elapsed later, events = earlier ++ .probed (.ok reply) elapsed :: later ∧
      (m₀.run earlier).phase = .probing ∧ (m₀.run earlier).published = before ∧
      d = .ofReply m₀.address reply ((m₀.run earlier).latency elapsed) ∧ d.error = none
  /-- ... an unknown one by the failure of a check, and by nothing else; ... -/
  unknown : ∀ before d after, m.published = before ++ d :: after → d.state = .unknown →
    ∃ earlier e cause later, events = earlier ++ e :: later ∧
      Failure (m₀.run earlier) e cause ∧ (m₀.run earlier).published = before ∧
      d = .unknown m₀.address cause.message
  /-- ... and one that is being connected to again by the failure that came before. -/
  connecting : ∀ before d after, m.published = before ++ d :: after → d.state = .connecting →
    ∃ earlier last, before = earlier ++ [last] ∧ last.state = .unknown ∧
      d = { fresh m₀.address with error := last.error }
  /-- Each failure is published, ... -/
  failing : ∀ e cause, Failure m e cause →
    (m.step e).published = m.published ++ [.unknown m₀.address cause.message]
  /-- ... and each reply, unless it says nothing new. -/
  replying : ∀ reply elapsed, m.phase = .probing →
    (m.step (.probed (.ok reply) elapsed)).description =
      .ofReply m₀.address reply (m.latency elapsed)

theorem failed_of_unknown (found : Finding m e d) (failed : d.state = .unknown) :
    ∃ cause, Failure m e cause ∧ d = .unknown m.address cause.message := by
  cases found with
  | restart | reply => cases failed
  | failure f => exact ⟨_, f, rfl⟩

theorem lawful_of_orderly (ordered : Orderly m₀.address m₀) (nothing : m₀.published = [])
    (events : List Event) : Lawful m₀ events (m₀.run events) := by
  have orderly (events : List Event) : Orderly m₀.address (m₀.run events) :=
    orderly_run ordered events
  refine ⟨(orderly events).chain, (orderly events).named, (orderly events).description_eq,
    fun before d after h connected => ?_, fun before d after h failed => ?_,
    fun before d after h connecting => ?_, fun e cause f => ?_, fun reply elapsed probing => ?_⟩
  · obtain ⟨earlier, e, later, split, before_eq, found⟩ := exists_finding nothing events h
    cases found with
    | restart | failure => cases connected
    | reply probing =>
      rw [(orderly earlier).address_eq]
      exact ⟨earlier, _, _, later, split, probing, before_eq, rfl, rfl⟩
  · obtain ⟨earlier, e, later, split, before_eq, found⟩ := exists_finding nothing events h
    obtain ⟨cause, f, d_eq⟩ := failed_of_unknown found failed
    rw [(orderly earlier).address_eq] at d_eq
    exact ⟨earlier, e, cause, later, split, f, before_eq, d_eq⟩
  · obtain ⟨earlier, e, later, -, before_eq, found⟩ := exists_finding nothing events h
    cases found with
    | failure | reply => cases connecting
    | restart _ _ failed =>
      have description_eq := (orderly earlier).description_eq
      rw [before_eq] at description_eq
      rcases List.eq_nil_or_concat before with rfl | ⟨before, last, rfl⟩
      · rw [description_eq] at failed
        cases failed
      · rw [List.concat_eq_append, List.getLast?_concat, Option.getD_some] at description_eq
        rw [description_eq] at failed
        rw [description_eq, (orderly earlier).address_eq]
        exact ⟨before, last, List.concat_eq_append, failed, rfl⟩
  · have found : Finding (m₀.run events) e (.unknown m₀.address cause.message) := by
      rw [← (orderly events).address_eq]
      exact .failure f
    have took := (m₀.run events).took_step e
    have description_eq := took.of_finding found
    rcases took.description_eq with ⟨same, -⟩ | ⟨-, -, published_eq⟩
    · -- there was no check that could fail
      rw [description_eq] at same
      have rested := (orderly events).rested (same ▸ rfl)
      cases f with
      | unreachable connecting => exact absurd connecting rested.notConnecting
      | unanswered probing => exact absurd probing rested.notProbing
    · rw [published_eq, description_eq]
  · have took := (m₀.run events).took_step (.probed (.ok reply) elapsed)
    rw [← (orderly events).address_eq]
    exact took.of_finding (.reply probing)

theorem lawful_run (address : Address) (settings : ServerSettings) (dialer : Dialer)
    (buffers : Recycler) (clock : Instant) (events : List Event) :
    let m₀ : Monitor := { address, settings, dialer, buffers, clock }
    Lawful m₀ events (m₀.run events) :=
  lawful_of_orderly ⟨rfl, List.isChain_singleton _, rfl, by simp, fun h => by cases h⟩ rfl events

end Monitor

end ClusterClient

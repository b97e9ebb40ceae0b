import ClusterClient.Proofs.Connection.Identity
import Mathlib.Logic.Relation

/-!
# Authentication

A connection that was just opened proves itself before anybody uses it. The handler that holds the
dialogue is the first one of the mechanism that the credential names; if there is none, or if its
dialogue fails, the stream is shut down and the attempt to connect has failed. No use of a
connection has it prove itself again.

    a handler is chosen and its dialogue succeeds, or a refuses the connection, and never both
                                                           (screened_dial, Refuses.not_admits)
    c.Used d → d.conversations = c.conversations                       (Used.conversations_eq)
-/

namespace ClusterClient

/-! ## Uses -/

namespace Connection

theorem conversations_close (c : Connection) : c.close.conversations = c.conversations := by
  unfold close
  split <;> rfl

theorem conversations_send (c : Connection) (frame : Bytes) :
    (c.send frame).2.conversations = c.conversations := by
  simp only [send]
  split
  · rfl
  · split
    · rfl
    · exact conversations_close _

theorem conversations_receive (c : Connection) (buffers : Recycler) (id : Int32) :
    (c.receive buffers id).2.1.conversations = c.conversations := by
  simp only [receive]
  split
  · rfl
  · split
    · rfl
    · exact conversations_close _

theorem conversations_exchange (c : Connection) (buffers : Recycler) (id : Int32)
    (frame : Bytes) : (c.exchange buffers id frame).2.1.conversations = c.conversations := by
  have sent := c.conversations_send frame
  unfold exchange
  split
  · next h => rwa [h] at sent
  · next h =>
    rw [h] at sent
    exact (conversations_receive ..).trans sent

theorem conversations_apply (c : Connection) (buffers : Recycler) (usage : Usage) :
    (c.apply buffers usage).2.1.conversations = c.conversations := by
  cases usage with
  | send frame => exact c.conversations_send frame
  | receive id => exact c.conversations_receive buffers id
  | close => exact c.conversations_close
  | arrive | accept | flush => rfl

/-- The connection `d` is what `c` has become in the hands of borrowers. -/
abbrev Used : Connection → Connection → Prop :=
  Relation.ReflTransGen fun c d => ∃ buffers usage, d = (c.apply buffers usage).2.1

variable {c d : Connection}

theorem Used.conversations_eq (h : Used c d) : d.conversations = c.conversations := by
  induction h with
  | refl => rfl
  | tail _ use ih =>
    obtain ⟨buffers, usage, rfl⟩ := use
    exact (conversations_apply ..).trans ih

end Connection

theorem Dialogue.conversations_run (d : Dialogue) (c : Connection) (buffers : Recycler) :
    (d.run c buffers).2.1.conversations = c.conversations := by
  induction d generalizing c buffers with
  | done outcome => rfl
  | exchange id frame next ih => exact (ih _ _ _).trans (c.conversations_exchange buffers id frame)

/-! ## Handlers -/

namespace Authenticator

/-- The handler at `index` is the first one of the mechanism that the credential names. -/
structure Chosen (a : Authenticator) (index : Nat) (m : Mechanism) (h : Handler) : Prop where
  named : a.credential.mechanism = some m
  found : a.handlers[index]? = some h
  mechanism_eq : h.mechanism = m
  first : ∀ earlier < index, ∀ h', a.handlers[earlier]? = some h' → h'.mechanism ≠ m

section

variable {a : Authenticator} {c d : Connection} {buffers buffers' : Recycler}
  {index : Nat} {m : Mechanism} {h : Handler} {cause : String}

theorem Chosen.find?_eq (chosen : a.Chosen index m h) :
    a.handlers.find? (·.mechanism == m) = some h := by
  obtain ⟨inside, rfl⟩ := List.getElem?_eq_some_iff.1 chosen.found
  refine List.find?_eq_some_iff_getElem.2 ⟨by simpa using chosen.mechanism_eq, index, inside, rfl,
    fun earlier lt => ?_⟩
  simpa using chosen.first earlier lt _ (List.getElem?_eq_getElem (Nat.lt_trans lt inside))

theorem chosen_of_find? (named : a.credential.mechanism = some m)
    (found : a.handlers.find? (·.mechanism == m) = some h) :
    a.Chosen (a.handlers.findIdx (·.mechanism == m)) m h where
  named := named
  found := by rw [← List.find?_eq_getElem?_findIdx, found]
  mechanism_eq := by simpa using List.find?_some found
  first earlier lt h' known := by
    obtain ⟨inside, rfl⟩ := List.getElem?_eq_some_iff.1 known
    simpa using List.not_of_lt_findIdx lt

/-! ## Outcomes -/

/-- The chosen handler succeeds on `c`, which is `d` afterwards. -/
def Admits (a : Authenticator) (c : Connection) (buffers : Recycler) (d : Connection) : Prop :=
  ∃ index m h d₁ buffers', a.Chosen index m h ∧
    (h.talk a.credential c).run c buffers = (.ok (), d₁, buffers') ∧
    d = { d₁ with conversations := c.conversations ++ [⟨index, m, a.credential, true⟩] }

/-- Why a connection cannot prove itself. -/
inductive Refuses (a : Authenticator) (c : Connection) (buffers : Recycler) : String → Prop where
  | unnamed (none : a.credential.mechanism = none) :
      Refuses a c buffers "the credential does not name an authentication mechanism"
  | unsupported {m : Mechanism} (named : a.credential.mechanism = some m)
      (none : ∀ h ∈ a.handlers, h.mechanism ≠ m) :
      Refuses a c buffers ("authentication mechanism " ++ m.name ++ " is not supported")
  | failed {index : Nat} {m : Mechanism} {h : Handler} {cause : String} {d : Connection}
      {buffers' : Recycler} (chosen : a.Chosen index m h)
      (talked : (h.talk a.credential c).run c buffers = (.error cause, d, buffers')) :
      Refuses a c buffers cause

theorem Admits.authenticate_eq (h : a.Admits c buffers d) :
    (a.authenticate c buffers).1 = .ok () := by
  obtain ⟨index, m, h, d₁, buffers', chosen, talked, -⟩ := h
  simp only [authenticate, chosen.named, chosen.find?_eq, talked]

theorem Refuses.authenticate_eq (r : a.Refuses c buffers cause) :
    (a.authenticate c buffers).1 = .error cause := by
  cases r with
  | unnamed none => simp only [authenticate, none]
  | @unsupported m named none =>
    have nobody : a.handlers.find? (·.mechanism == m) = .none :=
      List.find?_eq_none.2 fun h hh => by simpa using none h hh
    simp only [authenticate, named, nobody]
  | failed chosen talked => simp only [authenticate, chosen.named, chosen.find?_eq, talked]

theorem Refuses.not_admits (r : a.Refuses c buffers cause) : ¬a.Admits c buffers d := by
  intro admits
  have both := r.authenticate_eq.symm.trans admits.authenticate_eq
  cases both

theorem Refuses.unique {cause' : String} (one : a.Refuses c buffers cause)
    (other : a.Refuses c buffers cause') : cause = cause' :=
  Except.error.inj (one.authenticate_eq.symm.trans other.authenticate_eq)

/-- A connection that proved itself has done so once more than before. -/
theorem Admits.exists_conversations_eq (h : a.Admits c buffers d) :
    ∃ index m h, a.Chosen index m h ∧
      d.conversations = c.conversations ++ [⟨index, m, a.credential, true⟩] := by
  obtain ⟨index, m, h, d₁, buffers', chosen, -, rfl⟩ := h
  exact ⟨index, m, h, chosen, rfl⟩

/-- What an authentication on `c` comes to. -/
inductive Tried (a : Authenticator) (c : Connection) (buffers : Recycler) :
    Except String Unit × Connection × Recycler → Prop where
  | admitted {d : Connection} {buffers' : Recycler} (admits : a.Admits c buffers d) :
      Tried a c buffers (.ok (), d, buffers')
  | refused {cause : String} {d : Connection} {buffers' : Recycler}
      (refuses : a.Refuses c buffers cause) : Tried a c buffers (.error cause, d, buffers')

theorem tried_authenticate (a : Authenticator) (c : Connection) (buffers : Recycler) :
    Tried a c buffers (a.authenticate c buffers) := by
  unfold authenticate
  split
  · next none => exact .refused (.unnamed none)
  · next m named =>
    split
    · next none =>
      refine .refused (.unsupported named fun h hh => ?_)
      simpa using List.find?_eq_none.1 none h hh
    · next h found =>
      have chosen := chosen_of_find? named found
      have kept := (h.talk a.credential c).conversations_run c buffers
      rcases talked : (h.talk a.credential c).run c buffers with ⟨outcome, d, buffers'⟩
      rw [talked] at kept
      cases outcome with
      | error cause => exact .refused (.failed chosen talked)
      | ok u =>
        refine .admitted ⟨_, m, h, d, buffers', chosen, talked, ?_⟩
        rw [← kept]
        rfl

/-- How the attempt to connect goes on with the connection `c`. -/
inductive Screened (a : Authenticator) (c : Connection) (buffers : Recycler) :
    Dialed × Recycler → Prop where
  | admitted {d : Connection} {buffers' : Recycler} (admits : a.Admits c buffers d) :
      Screened a c buffers (.established d, buffers')
  | rejected {cause : String} {d : Connection} {buffers' : Recycler}
      (refuses : a.Refuses c buffers cause) (follows : c.Follows d) :
      Screened a c buffers
        (.failed (.authentication a.credential.username cause) (some d.close), buffers')

theorem screened_dial {d : Dialer} (guarded : d.authenticator = some a) (address : Address)
    (id : UInt32) (now : Instant) (link : Link) (buffers : Recycler) :
    Screened a (d.begun address id now link) buffers
      (d.dial address id now (.ok link) buffers) := by
  have tried := a.tried_authenticate (d.begun address id now link) buffers
  have follows := a.follows_authenticate (d.begun address id now link) buffers
  simp only [Dialer.begun] at tried follows ⊢
  simp only [Dialer.dial, guarded]
  generalize a.authenticate _ buffers = result at tried follows
  cases tried with
  | admitted admits => exact .admitted admits
  | refused refuses => exact .rejected refuses follows

end

end Authenticator

end ClusterClient

import ClusterClient.Proofs.Connection.Identity
import ClusterClient.Proofs.Server.Findings
import Mathlib.Data.List.Perm.Basic

/-!
# The streams of a monitor

A monitor opens a stream only when it connects, and it keeps each of them: under its connection, or
under one that it has given up. To give up a connection is to close it, so of all streams at most
the one under the connection has not been shut down.

    m.Keeps m.opened …            for each monitor that has opened no stream yet         (keeps_run)
    m.Keeps links → at most one of the connections of m is open, and none if m has no connection
                                                                              (open_le, isShut)
-/

namespace ClusterClient

namespace Monitor

/-! ## Streams -/

/-- The stream that an event opens, as it is then. -/
def opens (m : Monitor) : Event → Option Link
  | .dialed (.ok link) => if m.phase = .connecting then some link else none
  | _ => none

/-- The streams that the events open, in order. -/
def opened (m : Monitor) : List Event → List Link
  | [] => []
  | e :: events => (m.opens e).toList ++ (m.step e).opened events

/-- The connections that the monitor has had. -/
def connections (m : Monitor) : List Connection := m.connection.toList ++ m.shut

/-- The monitor has one connection for each of the streams that it opened. A stream was shut down
once by it if the connection is closed, and not at all if it is open. -/
structure Keeps (m : Monitor) (links : List Link) : Prop where
  streams_eq : m.streams = links.length
  serials : (m.connections.map fun c => c.link.serial).Perm (List.range links.length)
  shutdowns : ∀ c ∈ m.connections, ∃ link, links[c.link.serial]? = some link ∧
    c.link.shutdowns = link.shutdowns + c.closed.toNat
  closed : ∀ c ∈ m.shut, c.closed = true

section

variable {m m' : Monitor} {e : Event} {links : List Link} {c : Connection}

theorem keeps_nil (connection : m.connection = none) (shut : m.shut = [])
    (streams : m.streams = 0) : Keeps m [] := by
  have nothing : m.connections = [] := by rw [connections, connection, shut]; rfl
  refine ⟨streams, ?_, ?_, ?_⟩
  · rw [nothing]
    exact .refl _
  · rw [nothing]
    exact List.forall_mem_nil _
  · rw [shut]
    exact List.forall_mem_nil _

/-- At most one of the streams has not been shut down, ... -/
theorem Keeps.open_le (h : Keeps m links) : m.connections.countP (fun c => !c.closed) ≤ 1 := by
  have none_shut : m.shut.countP (fun c => !c.closed) = 0 := by
    refine List.countP_eq_zero.2 fun c hc => ?_
    simp [h.closed c hc]
  have one : m.connection.toList.length ≤ 1 := Option.length_toList_le
  have := m.connection.toList.countP_le_length (p := fun c => !c.closed)
  rw [connections, List.countP_append]
  omega

/-- ... and that one is under the connection of the monitor. -/
theorem Keeps.isShut (h : Keeps m links) (apart : m.connection = none) :
    ∀ c ∈ m.connections, c.closed = true := by
  intro c hc
  rw [connections, apart] at hc
  exact h.closed c hc

/-! ## Steps -/

/-- The connection is on a stream that was just opened. -/
structure Begun (m : Monitor) (link : Link) (c : Connection) : Prop where
  serial_eq : c.link.serial = m.streams
  shutdowns_eq : c.link.shutdowns = link.shutdowns + c.closed.toNat

/-- What a step does with the streams. -/
inductive Handles (m : Monitor) (e : Event) (m' : Monitor) : Prop where
  | keeps (nothing : m.opens e = none) (connection : m'.connection = m.connection)
      (shut : m'.shut = m.shut) (streams : m'.streams = m.streams)
  | uses {c d : Connection} (nothing : m.opens e = none) (old : m.connection = some c)
      (new : m'.connection = some d) (follows : c.Follows d) (shut : m'.shut = m.shut)
      (streams : m'.streams = m.streams)
  | drops (nothing : m.opens e = none) (connection : m'.connection = none)
      (shut : m'.shut = m.disconnect.shut) (streams : m'.streams = m.streams)
  | connects {link : Link} {c : Connection} (opening : m.opens e = some link)
      (begun : Begun m link c) (connection : m'.connection = some c)
      (shut : m'.shut = m.disconnect.shut) (streams : m'.streams = m.streams + 1)
  | rejects {link : Link} {c : Connection} (opening : m.opens e = some link)
      (begun : Begun m link c) (isShut : c.closed = true) (connection : m'.connection = none)
      (shut : m'.shut = m.shut ++ c :: (m.connection.map (·.close)).toList)
      (streams : m'.streams = m.streams + 1)

theorem handles_begin (m : Monitor) : Handles m .begin m.begin := by
  unfold begin
  split
  · simp only
    split
    · exact .keeps rfl rfl rfl rfl
    · rw [publish_eq]
      split <;> exact .keeps rfl rfl rfl rfl
  · exact .keeps rfl rfl rfl rfl

theorem begun_of_follows {link : Link}
    (follows : (m.dialer.begun m.address m.lastId m.clock
      { link with serial := m.streams }).Follows c) : Begun m link c :=
  ⟨follows.link.serial_eq, follows.shutdowns_eq⟩

theorem handles_dialed (m : Monitor) (stream : Except Error Link) :
    Handles m (.dialed stream) (m.dialed stream) := by
  unfold dialed
  split
  · next connecting =>
    have ended := m.dialer.ended_dial m.address m.lastId m.clock
      (stream.map fun link => { link with serial := m.streams }) m.buffers
    cases stream with
    | error cause =>
      simp only [Except.map, Except.isOk, Except.toBool] at ended ⊢
      split
      · next h =>
        rw [h] at ended
        cases ended
      · next h =>
        rw [h] at ended
        cases ended
        rw [fail_eq]
        exact .drops rfl rfl (by simp [disconnect]) rfl
    | ok link =>
      have opening : m.opens (.dialed (.ok link)) = some link := if_pos connecting
      simp only [Except.map, Except.isOk, Except.toBool] at ended ⊢
      split
      · next h =>
        rw [h] at ended
        cases ended with
        | established follows => exact .connects opening (begun_of_follows follows) rfl rfl rfl
      · next h =>
        rw [h] at ended
        cases ended with
        | rejected follows isShut =>
          rw [fail_eq]
          exact .rejects opening (begun_of_follows follows) isShut rfl (List.append_assoc ..) rfl
  · next busy =>
    refine .keeps ?_ rfl rfl rfl
    cases stream with
    | error => rfl
    | ok => exact if_neg busy

theorem handles_look {m : Monitor} {e : Event} (nothing : m.opens e = none) (due : Instant) :
    Handles m e (m.look due) := by
  unfold look
  split
  · exact .drops nothing rfl rfl rfl
  · split <;> exact .keeps nothing rfl rfl rfl

theorem handles_step (m : Monitor) (e : Event) : Handles m e (m.step e) := by
  cases e with
  | begin => exact m.handles_begin
  | dialed stream => exact m.handles_dialed stream
  | use usage =>
    simp only [step, use]
    split
    · next c _ connected =>
      exact .uses rfl connected rfl (c.follows_apply m.buffers usage) rfl rfl
    · exact .keeps rfl rfl rfl rfl
  | probed outcome elapsed =>
    simp only [step, probed]
    split
    · split
      · rw [fail_eq]
        exact .drops rfl rfl rfl rfl
      · simp only [publish_eq]
        exact .keeps rfl rfl rfl rfl
    · exact .keeps rfl rfl rfl rfl
  | pause =>
    simp only [step, pause]
    split
    · exact handles_look rfl _
    · exact .keeps rfl rfl rfl rfl
  | resume =>
    simp only [step, resume]
    split
    · split
      · split
        · exact .drops rfl rfl rfl rfl
        · exact .keeps rfl rfl rfl rfl
      · exact handles_look rfl _
    · exact .keeps rfl rfl rfl rfl
  | invalidate =>
    simp only [step, invalidate, notify]
    split <;> exact .keeps rfl rfl rfl rfl
  | close =>
    simp only [step, close, notify]
    split <;> exact .keeps rfl rfl rfl rfl
  | tick elapsed => exact .keeps rfl rfl rfl rfl

/-! ## Runs -/

theorem Keeps.of_perm (h : Keeps m links) (streams : m'.streams = m.streams)
    (perm : m'.connections.Perm m.connections) (closed : ∀ c ∈ m'.shut, c.closed = true) :
    Keeps m' links :=
  ⟨streams.trans h.streams_eq, (perm.map _).trans h.serials,
    fun c hc => h.shutdowns c (perm.mem_iff.1 hc), closed⟩

/-- One connection has become another one on the same stream. -/
theorem Keeps.of_follows {d : Connection} (h : Keeps m links) (rest : List Connection)
    (streams : m'.streams = m.streams) (old : m.connections = c :: rest)
    (new : m'.connections = d :: rest) (follows : c.Follows d)
    (closed : ∀ c ∈ m'.shut, c.closed = true) : Keeps m' links := by
  refine ⟨streams.trans h.streams_eq, ?_, ?_, closed⟩
  · have serials := h.serials
    rw [old, List.map_cons, ← follows.link.serial_eq] at serials
    rw [new]
    exact serials
  · have shutdowns := h.shutdowns
    rw [old, List.forall_mem_cons] at shutdowns
    rw [new, List.forall_mem_cons]
    refine ⟨?_, shutdowns.2⟩
    obtain ⟨link, found, count⟩ := shutdowns.1
    have := follows.shutdowns_eq
    refine ⟨link, by rw [follows.link.serial_eq, found], by omega⟩

theorem Keeps.disconnect (h : Keeps m links) : Keeps m.disconnect links := by
  cases connection : m.connection with
  | none =>
    refine h.of_perm rfl ?_ ?_
    · simp [connections, Monitor.disconnect, connection]
    · simpa [Monitor.disconnect, connection] using h.closed
  | some c =>
    have closed : ∀ d ∈ m.disconnect.shut, d.closed = true := by
      simp only [Monitor.disconnect, connection, Option.map_some, Option.toList_some,
        List.forall_mem_append, List.forall_mem_singleton]
      exact ⟨h.closed, c.closed_close⟩
    -- first the connection is closed where it is, then it is put behind the others
    have told : Keeps { m with connection := some c.close } links :=
      h.of_follows m.shut rfl (by rw [connections, connection]; rfl) rfl c.follows_close h.closed
    refine told.of_perm rfl ?_ closed
    simp [connections, Monitor.disconnect, connection]

theorem Keeps.push {link : Link} (h : Keeps m links) (begun : Begun m link c)
    (streams : m'.streams = m.streams + 1) (perm : m'.connections.Perm (c :: m.connections))
    (closed : ∀ c ∈ m'.shut, c.closed = true) : Keeps m' (links ++ [link]) := by
  have serial : c.link.serial = links.length := begun.serial_eq.trans h.streams_eq
  refine ⟨?_, ?_, fun d hd => ?_, closed⟩
  · rw [streams, h.streams_eq, List.length_append, List.length_singleton]
  · refine (perm.map _).trans ?_
    rw [List.length_append, List.length_singleton, List.range_succ, List.map_cons, serial]
    exact (h.serials.cons _).trans (List.perm_append_singleton _ _).symm
  · rcases List.mem_cons.1 (perm.mem_iff.1 hd) with rfl | hd
    · exact ⟨link, by rw [serial, List.getElem?_concat_length], begun.shutdowns_eq⟩
    · obtain ⟨known, found, count⟩ := h.shutdowns d hd
      have earlier : d.link.serial < links.length := (List.getElem?_eq_some_iff.1 found).1
      exact ⟨known, by rw [List.getElem?_append_left earlier, found], count⟩

theorem keeps_step (h : Keeps m links) (e : Event) :
    Keeps (m.step e) (links ++ (m.opens e).toList) := by
  have dropped := h.disconnect
  have handles := m.handles_step e
  generalize m.step e = m' at handles
  cases handles with
  | keeps nothing connection shut streams =>
    rw [nothing, Option.toList_none, List.append_nil]
    exact h.of_perm streams (by rw [connections, connection, shut]; rfl) (shut ▸ h.closed)
  | uses nothing old new follows shut streams =>
    rw [nothing, Option.toList_none, List.append_nil]
    refine h.of_follows m.shut streams ?_ ?_ follows (shut ▸ h.closed)
    · rw [connections, old]
      rfl
    · rw [connections, new, shut]
      rfl
  | drops nothing connection shut streams =>
    rw [nothing, Option.toList_none, List.append_nil]
    refine dropped.of_perm streams ?_ (shut ▸ dropped.closed)
    rw [connections, connection, shut]
    rfl
  | connects opening begun connection shut streams =>
    rw [opening, Option.toList_some]
    refine dropped.push ⟨begun.serial_eq, begun.shutdowns_eq⟩ streams ?_ (shut ▸ dropped.closed)
    rw [connections, connection, shut]
    rfl
  | @rejects _ c opening begun isShut connection shut streams =>
    rw [opening, Option.toList_some]
    have perm : m'.shut.Perm (c :: m.disconnect.shut) := by
      rw [shut]
      exact List.perm_middle
    refine dropped.push ⟨begun.serial_eq, begun.shutdowns_eq⟩ streams ?_ fun d hd => ?_
    · rw [connections, connection]
      exact perm
    · rcases List.mem_cons.1 (perm.mem_iff.1 hd) with rfl | hd
      · exact isShut
      · exact dropped.closed d hd

theorem keeps_run (h : Keeps m links) (events : List Event) :
    Keeps (m.run events) (links ++ m.opened events) := by
  induction events generalizing m links with
  | nil =>
    rw [opened, List.append_nil]
    exact h
  | cons e events ih =>
    rw [opened, ← List.append_assoc]
    exact ih (keeps_step h e)

end

end Monitor

end ClusterClient

import ClusterClient.Server.Description

/-!
# Latency window

The servers that are not much slower than the fastest one. The bound is the least latency plus the
window; where this sum is longer than the longest duration there is no answer.

    withinWindow servers window = some kept →
      kept = the servers with latency ≤ least latency + window     (mem_withinWindow)
-/

namespace ClusterClient

open ServerDescription

/-- The least latency. -/
def leastLatency? (servers : List ServerDescription) : Option Duration :=
  ((servers.map (·.latency.nanos)).min?).map Duration.mk

def withinWindow (servers : List ServerDescription) (window : Duration) :
    Option (List ServerDescription) :=
  match leastLatency? servers with
  | none => some servers
  | some least => (least.add? window).map fun bound => servers.filter (·.latency ≤ bound)

/-- The first of the fastest servers. -/
def fastest? : List ServerDescription → Option ServerDescription
  | [] => none
  | s :: rest =>
    match fastest? rest with
    | some t => if t.latency < s.latency then some t else some s
    | none => some s

theorem mem_withinWindow {servers kept : List ServerDescription} {window least : Duration}
    (h : withinWindow servers window = some kept) (hl : leastLatency? servers = some least)
    (s : ServerDescription) :
    s ∈ kept ↔ s ∈ servers ∧ s.latency.nanos ≤ least.nanos + window.nanos := by
  simp only [withinWindow, hl, Option.map_eq_some_iff] at h
  obtain ⟨bound, hb, rfl⟩ := h
  obtain ⟨-, rfl⟩ := Duration.add?_eq_some_iff.1 hb
  simp [Duration.le_iff]

end ClusterClient

import ClusterClient.Proofs.Server.Findings

/-!
# Descriptions from monitors

A monitor publishes descriptions of three forms: of a server that it is going to connect to, of one
that it could not reach or probe, and of one that replied. Only the last is connected, and its type
is known. A cluster may declare any of them unusable.

    d.Observed → d.isConnected = true → d.type ≠ unknown                    (type_ne_unknown)
    (m.step e).published = m.published ++ news, all of them observed        (news_step)
-/

namespace ClusterClient

theorem ProbeReply.serverType_ne_unknown (r : ProbeReply) : r.serverType ≠ .unknown := by
  unfold serverType
  repeat' split
  all_goals decide

namespace ServerDescription

/-- What monitors publish, and what a cluster makes of it. -/
inductive Observed : ServerDescription → Prop where
  | connecting (address : Address) (error : Option String) :
      Observed { fresh address with error }
  | unreachable (address : Address) (error : String) : Observed (unknown address error)
  | replied (address : Address) (r : ProbeReply) (latency : Duration) :
      Observed (ofReply address r latency)
  | excluded {d : ServerDescription} (known : Observed d) (error : String) :
      Observed (d.unusable error)

theorem observed_fresh (address : Address) : Observed (fresh address) := .connecting address none

theorem Observed.type_ne_unknown {d : ServerDescription} (h : Observed d)
    (connected : d.isConnected = true) : d.type ≠ .unknown := by
  cases h with
  | connecting | unreachable | excluded => cases connected
  | replied address r latency => exact r.serverType_ne_unknown

end ServerDescription

namespace Monitor

open ServerDescription

variable {m : Monitor} {d : ServerDescription} {e : Event}

theorem Finding.observed (found : Finding m e d) : d.Observed := by
  cases found with
  | restart => exact .connecting _ _
  | failure => exact .unreachable _ _
  | reply => exact .replied _ _ _

/-- What a step publishes beyond what there was. -/
def News (m m' : Monitor) : Prop :=
  ∃ news, m'.published = m.published ++ news ∧ ∀ d ∈ news, d.Observed

theorem news_step (m : Monitor) (e : Event) : News m (m.step e) := by
  rcases (m.took_step e).description_eq with ⟨-, same⟩ | ⟨found, -, published_eq⟩
  · exact ⟨[], same.trans (List.append_nil _).symm, by simp⟩
  · exact ⟨_, published_eq, List.forall_mem_singleton.2 found.observed⟩

end Monitor

end ClusterClient

import ClusterClient.Error

/-!
# Reading addresses

    Address.parse t = .ok a    ↔ read? (trim t) = some a                     (parse_eq_ok_iff)
    Address.parse t = .error e ↔ read? (trim t) = none ∧ e names trim t      (parse_eq_error_iff)
-/

namespace ClusterClient

open Text

namespace Address

def parse (t : String) : Except Error Address :=
  let cs := trim t.toList
  match read? cs with
  | some a => .ok a
  | none => .error (.invalidAddress (String.ofList cs))

theorem parse_eq_ok_iff {t : String} {a : Address} :
    parse t = .ok a ↔ read? (trim t.toList) = some a := by
  simp only [parse]
  cases read? (trim t.toList) <;> simp

theorem parse_eq_error_iff {t : String} {e : Error} :
    parse t = .error e ↔
      read? (trim t.toList) = none ∧ e = .invalidAddress (String.ofList (trim t.toList)) := by
  simp only [parse]
  cases read? (trim t.toList) <;> simp [eq_comm]

end Address

end ClusterClient

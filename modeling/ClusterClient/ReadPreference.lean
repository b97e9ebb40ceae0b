import ClusterClient.Error
import ClusterClient.TagSet

/-!
# Read preferences

Which members of a replica set an operation may read from: a mode, and for the modes other than
`primary` a list of tag sets of which the first that matches a server is used.
-/

namespace ClusterClient

inductive ReadMode where
  | primary
  | primaryPreferred
  | secondary
  | secondaryPreferred
  | nearest
deriving DecidableEq, Repr

namespace ReadMode

/-- The name of the mode in settings. -/
def key : ReadMode → String
  | primary => "primary"
  | primaryPreferred => "primaryPreferred"
  | secondary => "secondary"
  | secondaryPreferred => "secondaryPreferred"
  | nearest => "nearest"

/-- The name of the mode in debug texts. -/
def label : ReadMode → String
  | primary => "Primary"
  | primaryPreferred => "PrimaryPreferred"
  | secondary => "Secondary"
  | secondaryPreferred => "SecondaryPreferred"
  | nearest => "Nearest"

def all : List ReadMode := [primary, primaryPreferred, secondary, secondaryPreferred, nearest]

def ofKey? (key : String) : Option ReadMode :=
  all.find? fun mode => mode.key == key

def parse (text : String) : Except Error ReadMode :=
  match ofKey? text with
  | some mode => .ok mode
  | none => .error (.invalidSettings ("unknown read preference `" ++ text ++ "`"))

theorem ofKey?_key (mode : ReadMode) : ofKey? mode.key = some mode := by
  cases mode <;> rfl

end ReadMode

structure ReadPreference where
  mode : ReadMode := .primary
  tagSets : List TagSet := []
deriving DecidableEq

namespace ReadPreference

def primary : ReadPreference := {}

/-- Whether members other than the primary may answer. -/
def isSlaveOk (p : ReadPreference) : Bool := p.mode != .primary

def validate (p : ReadPreference) : Except Error Unit :=
  if p.mode = .primary ∧ p.tagSets ≠ [] then
    .error (.invalidSettings "read preference `primary` cannot have tag sets")
  else .ok ()

end ReadPreference

end ClusterClient

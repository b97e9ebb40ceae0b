import ClusterClient.Error

/-!
# Credentials

Who a connection speaks for: the user, the database that knows the user, and the mechanism that
proves it. Debug texts never show the password.
-/

namespace ClusterClient

open Text

inductive Mechanism where
  | mongoDbX509
  | gssApi
  | plain
  | mongoDbCr
  | scramSha1
  | scramSha256
deriving DecidableEq, Repr

namespace Mechanism

/-- The name of the mechanism in settings and in the protocol. -/
def name : Mechanism → String
  | mongoDbX509 => "MONGODB-X509"
  | gssApi => "GSSAPI"
  | plain => "PLAIN"
  | mongoDbCr => "MONGODB-CR"
  | scramSha1 => "SCRAM-SHA-1"
  | scramSha256 => "SCRAM-SHA-256"

/-- The name of the mechanism in debug texts. -/
def label : Mechanism → String
  | mongoDbX509 => "MongoDbX509"
  | gssApi => "GssApi"
  | plain => "Plain"
  | mongoDbCr => "MongoDbCr"
  | scramSha1 => "ScramSha1"
  | scramSha256 => "ScramSha256"

def all : List Mechanism := [mongoDbX509, gssApi, plain, mongoDbCr, scramSha1, scramSha256]

def ofName? (name : String) : Option Mechanism :=
  all.find? fun m => m.name == name

def parse (text : String) : Except Error Mechanism :=
  match ofName? text with
  | some m => .ok m
  | none => .error (.invalidSettings ("unknown auth mechanism `" ++ text ++ "`"))

theorem ofName?_name (m : Mechanism) : ofName? m.name = some m := by
  cases m <;> rfl

end Mechanism

structure Credential where
  username : Option String := none
  password : Option String := none
  source? : Option String := none
  mechanism : Option Mechanism := none
deriving DecidableEq, Repr

namespace Credential

/-- The database the user is defined in. -/
def source (c : Credential) : String := c.source?.getD "admin"

def debugText (c : Credential) : String :=
  "Credential \x7b username: " ++ quoted? c.username ++
    ", password: " ++ quoted? (c.password.map fun _ => "***") ++
    ", source: " ++ quoted? c.source? ++
    ", mechanism: " ++ (match c.mechanism with
      | none => "None"
      | some m => "Some(" ++ m.label ++ ")") ++ " \x7d"

end Credential

end ClusterClient

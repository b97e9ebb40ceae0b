import ClusterClient.Address.Parse
import ClusterClient.Credential
import ClusterClient.Json.Basic
import ClusterClient.Settings.Basic

/-!
# Settings in JSON

Each kind of settings is an object of which every field is optional. Durations are in
milliseconds.
-/

namespace ClusterClient

def Address.ofJson : Json → Except Refusal Address :=
  Json.asParsed Address.parse

def TagSet.ofJson : Json → Except Refusal TagSet :=
  Json.foldFields (fun tags key value => value.asText.map (tags.insert key)) .empty

def ConnectionMode.ofJson (j : Json) : Except Refusal ConnectionMode := do
  match ofKey? (← j.asName) with
  | some mode => return mode
  | none => throw .shape

def ReadMode.ofJson (j : Json) : Except Refusal ReadMode := do
  match ofKey? (← j.asName) with
  | some mode => return mode
  | none => throw .shape

def ReadPreference.ofJson : Json → Except Refusal ReadPreference :=
  Json.foldFields (fun p key value => do
    match key with
    | "mode" => return { p with mode := ← ReadMode.ofJson value }
    | "tagSets" => return { p with tagSets := ← value.asList TagSet.ofJson }
    | _ => return p) {}

def SocketSettings.ofJson : Json → Except Refusal SocketSettings :=
  Json.foldFields (fun s key value => do
    match key with
    | "connectTimeout" => return { s with connectTimeout := ← value.asMillis }
    | "readTimeout" => return { s with readTimeout := ← value.asMillis }
    | _ => return s) {}

def PoolSettings.ofJson : Json → Except Refusal PoolSettings :=
  Json.foldFields (fun s key value => do
    match key with
    | "minSize" => return { s with minSize := ← value.asSize }
    | "maxSize" => return { s with maxSize := ← value.asSize }
    | "waitQueueMultiplier" => return { s with waitQueueMultiplier := ← value.asSize }
    | "maxWaitTime" => return { s with maxWaitTime := ← value.asMillis }
    | "maxIdleTime" => return { s with maxIdleTime := ← value.asMillis }
    | "maxLifeTime" => return { s with maxLifeTime := ← value.asMillis }
    | "maintenanceFrequency" => return { s with maintenanceFrequency := ← value.asMillis }
    | _ => return s) {}

def ServerSettings.ofJson : Json → Except Refusal ServerSettings :=
  Json.foldFields (fun s key value => do
    match key with
    | "heartbeatFrequency" => return { s with heartbeatFrequency := ← value.asMillis }
    | "heartbeatConnectRetryFrequency" =>
      return { s with heartbeatConnectRetryFrequency := ← value.asMillis }
    | "heartbeatSocket" => return { s with heartbeatSocket := ← SocketSettings.ofJson value }
    | "heartbeatThreadCount" => return { s with heartbeatThreadCount := ← value.asSize }
    | _ => return s) {}

def ClusterSettings.ofJson : Json → Except Refusal ClusterSettings :=
  Json.foldFields (fun s key value => do
    match key with
    | "hosts" => return { s with hosts := ← value.asList Address.ofJson }
    | "mode" => return { s with mode? := ← value.asOptional ConnectionMode.ofJson }
    | "requiredReplicaSetName" =>
      return { s with requiredReplicaSetName := ← value.asOptional Json.asText }
    | "serverSelectionTimeout" => return { s with serverSelectionTimeout := ← value.asMillis }
    | _ => return s) {}

def MessageSettings.ofJson : Json → Except Refusal MessageSettings :=
  Json.foldFields (fun s key value => do
    match key with
    | "maxMessageSize" => return { s with maxMessageSize := ← value.asSize }
    | "maxDocumentSize" => return { s with maxDocumentSize := ← value.asSize }
    | _ => return s) {}

def ClientSettings.ofJson : Json → Except Refusal ClientSettings :=
  Json.foldFields (fun s key value => do
    match key with
    | "cluster" => return { s with cluster := ← ClusterSettings.ofJson value }
    | "server" => return { s with server := ← ServerSettings.ofJson value }
    | "pool" => return { s with pool := ← PoolSettings.ofJson value }
    | "socket" => return { s with socket := ← SocketSettings.ofJson value }
    | "message" => return { s with message := ← MessageSettings.ofJson value }
    | "readPreference" => return { s with readPreference := ← ReadPreference.ofJson value }
    | "acceptableLatencyDifference" =>
      return { s with acceptableLatencyDifference := ← value.asMillis }
    | _ => return s) {}

def Mechanism.ofJson : Json → Except Refusal Mechanism :=
  Json.asParsed Mechanism.parse

def Credential.ofJson : Json → Except Refusal Credential :=
  Json.foldFields (fun c key value => do
    match key with
    | "username" => return { c with username := ← value.asOptional Json.asText }
    | "password" => return { c with password := ← value.asOptional Json.asText }
    | "source" => return { c with source? := ← value.asOptional Json.asText }
    | "mechanism" => return { c with mechanism := ← value.asOptional Mechanism.ofJson }
    | _ => return c) {}

end ClusterClient

import Gatehouse.Identity.Json
import Gatehouse.Settings
/-!
The written form of settings: reading them, when every section and every field may be missing, and
writing them in full.
-/

namespace Gatehouse.Settings

open Json

/-- What the form that settings are written in allows. -/
structure Form where
  /-- Nothing may follow the last field of a section that is written as an array. -/
  exact : Bool
  /-- How identifiers are written. -/
  uuid : Decoder Uuid

def Form.json : Form := ⟨true, Uuid.decoder⟩

def duration : Decoder Duration := textWith fun s => (Duration.parse s).toOption

/-- Reads where the server listens. -/
def Listener.decoder (form : Form) : Decoder Listener := fun d => do
  let p ← record [.defaulted "host" text, .defaulted "port" (natBelow UInt16.size),
    .defaulted "request_timeout" duration] form.exact d
  let l : Listener := {}
  return {
    host := ← p.withDefault "host" text l.host
    port := ← p.withDefault "port" (natBelow UInt16.size) l.port
    requestTimeout := ← p.withDefault "request_timeout" duration l.requestTimeout }

def Auth.decoder (form : Form) : Decoder Auth := fun d => do
  let p ← record [.defaulted "cos_admin_user_id" (Json.optional form.uuid),
    .defaulted "trust_domain" text, .defaulted "storage_timeout" duration,
    .defaulted "public_paths" (list text)] form.exact d
  let a : Auth := {}
  return {
    administrator := ← p.withDefault "cos_admin_user_id" (Json.optional form.uuid) a.administrator
    trustDomain := ← p.withDefault "trust_domain" text a.trustDomain
    storageTimeout := ← p.withDefault "storage_timeout" duration a.storageTimeout
    publicPaths := ← p.withDefault "public_paths" (list text) a.publicPaths }

/-- Reads what is said about the identity provider. -/
def Issuer.decoder (form : Form) : Decoder Issuer := fun d => do
  let p ← record [.defaulted "issuer" text, .defaulted "audiences" (list text),
    .defaulted "discovery_url" (Json.optional text), .defaulted "leeway_secs" (natBelow UInt64.size),
    .defaulted "connect_timeout" duration, .defaulted "request_timeout" duration,
    .defaulted "jwks_ttl" duration] form.exact d
  let i : Issuer := {}
  return {
    issuer := ← p.withDefault "issuer" text i.issuer
    audiences := ← p.withDefault "audiences" (list text) i.audiences
    discoveryUrl := ← p.withDefault "discovery_url" (Json.optional text) i.discoveryUrl
    leeway := ← p.withDefault "leeway_secs" (natBelow UInt64.size) i.leeway
    connectTimeout := ← p.withDefault "connect_timeout" duration i.connectTimeout
    requestTimeout := ← p.withDefault "request_timeout" duration i.requestTimeout
    keysTtl := ← p.withDefault "jwks_ttl" duration i.keysTtl }

/-- Reads what is said about the database. -/
def Database.decoder (form : Form) : Decoder Database := fun d => do
  let p ← record [.defaulted "url" text, .defaulted "max_connections" (natBelow UInt32.size),
    .defaulted "acquire_timeout" duration] form.exact d
  let b : Database := {}
  return {
    url := ← p.withDefault "url" text b.url
    maxConnections := ← p.withDefault "max_connections" (natBelow UInt32.size) b.maxConnections
    acquireTimeout := ← p.withDefault "acquire_timeout" duration b.acquireTimeout }

/-- Reads the cost of new hashes. -/
def secretsDecoder (form : Form) : Decoder Secret.Settings := fun d => do
  let word := natBelow UInt32.size
  let p ← record [.defaulted "memory_kib" word, .defaulted "iterations" word,
    .defaulted "parallelism" word, .defaulted "max_concurrent" (natBelow UInt64.size)] form.exact d
  let s := defaultSecrets
  return {
    memoryKib := ← p.withDefault "memory_kib" word s.memoryKib
    iterations := ← p.withDefault "iterations" word s.iterations
    parallelism := ← p.withDefault "parallelism" word s.parallelism
    maxConcurrent := ← p.withDefault "max_concurrent" (natBelow UInt64.size) s.maxConcurrent }

def decoder (form : Form) : Decoder Settings := fun d => do
  let p ← record [.defaulted "env_files" (list text), .defaulted "server" (Listener.decoder form),
    .defaulted "auth" (Auth.decoder form), .defaulted "oidc" (Issuer.decoder form),
    .defaulted "database" (Database.decoder form),
    .defaulted "secrets" (secretsDecoder form)] form.exact d
  let s : Settings := {}
  return {
    envFiles := ← p.withDefault "env_files" (list text) s.envFiles
    server := ← p.withDefault "server" (Listener.decoder form) s.server
    auth := ← p.withDefault "auth" (Auth.decoder form) s.auth
    oidc := ← p.withDefault "oidc" (Issuer.decoder form) s.oidc
    database := ← p.withDefault "database" (Database.decoder form) s.database
    secrets := ← p.withDefault "secrets" (secretsDecoder form) s.secrets }

/-! ## Writing -/

def durationValue (d : Duration) : Value := .text d.toText

/-- Writes settings in full. -/
def toJson (s : Settings) : Value :=
  .object [
    ("env_files", .texts s.envFiles),
    ("server", .object [
      ("host", .text s.server.host),
      ("port", .number s.server.port),
      ("request_timeout", durationValue s.server.requestTimeout)]),
    ("auth", .object [
      ("cos_admin_user_id", .textOrNull (s.auth.administrator.map (·.toText))),
      ("trust_domain", .text s.auth.trustDomain),
      ("storage_timeout", durationValue s.auth.storageTimeout),
      ("public_paths", .texts s.auth.publicPaths)]),
    ("oidc", .object [
      ("issuer", .text s.oidc.issuer),
      ("audiences", .texts s.oidc.audiences),
      ("discovery_url", .textOrNull s.oidc.discoveryUrl),
      ("leeway_secs", .number s.oidc.leeway),
      ("connect_timeout", durationValue s.oidc.connectTimeout),
      ("request_timeout", durationValue s.oidc.requestTimeout),
      ("jwks_ttl", durationValue s.oidc.keysTtl)]),
    ("database", .object [
      ("url", .text s.database.url),
      ("max_connections", .number s.database.maxConnections),
      ("acquire_timeout", durationValue s.database.acquireTimeout)]),
    ("secrets", .object [
      ("memory_kib", .number s.secrets.memoryKib),
      ("iterations", .number s.secrets.iterations),
      ("parallelism", .number s.secrets.parallelism),
      ("max_concurrent", .number s.secrets.maxConcurrent)])]

end Gatehouse.Settings

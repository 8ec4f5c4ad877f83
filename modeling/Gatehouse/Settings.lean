import Gatehouse.Duration
import Gatehouse.Secret.Verifier
import Gatehouse.Text.Blank
import Gatehouse.Uuid
/-!
The settings of a server, section by section, with the values that hold when nothing is said, and
the demands that settings have to meet before a server starts with them.
-/

namespace Gatehouse

namespace Settings

/-- Where the server listens, and how long it works on one request. -/
structure Listener where
  host : String := "127.0.0.1"
  port : Nat := 8443
  requestTimeout : Duration := .ofSeconds 30
deriving DecidableEq

/-- How callers are authenticated and authorized. -/
structure Auth where
  /-- The one user who holds the role of the administrator of all; nobody does when there is none.
  -/
  administrator : Option Uuid := none
  /-- The address that this deployment is known by. -/
  trustDomain : String := "authvertx.example.org"
  storageTimeout : Duration := .ofSeconds 5
  publicPaths : List String := ["/health"]
deriving DecidableEq

/-- The identity provider, and what is demanded of its tokens. -/
structure Issuer where
  issuer : String := "https://keycloak.example.org/realms/main"
  audiences : List String := []
  discoveryUrl : Option String := none
  /-- How many seconds a token is accepted after it has expired. -/
  leeway : Nat := 60
  connectTimeout : Duration := .ofSeconds 3
  requestTimeout : Duration := .ofSeconds 5
  keysTtl : Duration := .ofSeconds 3600
deriving DecidableEq

/-- The database. -/
structure Database where
  /-- Its address, or the name of a variable that holds it. -/
  url : String := "env:DATABASE_URL"
  maxConnections : Nat := 16
  acquireTimeout : Duration := .ofSeconds 3
deriving DecidableEq

/-- The cost of new hashes when nothing is said. -/
def defaultSecrets : Secret.Settings := ⟨19456, 2, 1, 8⟩

/-- Where the discovery document of the provider is, if nothing else is said. -/
def Issuer.discovery (i : Issuer) : String :=
  i.discoveryUrl.getD (Text.trimEndWhile (· == '/') i.issuer ++ "/.well-known/openid-configuration")

/-- The address of the database. A reference to a variable that is not set stands for itself. -/
def Database.address (d : Database) (valueOf : String → Option String) : String :=
  match Text.afterStart? "env:".toList d.url.toList with
  | some name => (valueOf (String.ofList name)).getD d.url
  | none => d.url

end Settings

/-- The settings of a server. -/
structure Settings where
  /-- Files with further variables, which only references to variables see. -/
  envFiles : List String := []
  server : Settings.Listener := {}
  auth : Settings.Auth := {}
  oidc : Settings.Issuer := {}
  database : Settings.Database := {}
  secrets : Secret.Settings := Settings.defaultSecrets
deriving DecidableEq

namespace Settings

/-- What keeps settings from being used. -/
inductive Complaint
  | noTrustDomain
  | noIssuer
  | noConnections
  | noSecretSlots
  /-- There is no file with settings at the path. -/
  | fileNotFound (path : String)
  /-- The settings cannot be read. -/
  | unreadable
deriving DecidableEq, Repr

/-- The wording of a complaint. What exactly cannot be read is not said. -/
def Complaint.message : Complaint → String
  | .noTrustDomain => "auth.trust_domain must be set"
  | .noIssuer => "oidc.issuer must be set"
  | .noConnections => "database.max_connections must be at least 1"
  | .noSecretSlots => "secrets.max_concurrent must be at least 1"
  | .fileNotFound path => "Config file not found: " ++ path
  | .unreadable => "unreadable"

/-- The first complaint about settings that can be read. -/
def complaint? (s : Settings) : Option Complaint :=
  if Text.isAllBlank s.auth.trustDomain then some .noTrustDomain
  else if Text.isAllBlank s.oidc.issuer then some .noIssuer
  else if s.database.maxConnections = 0 then some .noConnections
  else if s.secrets.maxConcurrent = 0 then some .noSecretSlots
  else none

end Settings

end Gatehouse

import Gatehouse.Service
import Gatehouse.Settings.Json
import Gatehouse.Store.Address
/-!
Starting a service from its settings: the address of the database has to be usable, the identity
provider has to publish a discovery document that names the issuer of the settings, and the cost of
hashes has to be one that hashes can have. The first of these that fails keeps it from starting.
-/

namespace Gatehouse

open Provider

/-- Why a service does not start. -/
inductive StartupFault
  | settings (complaint : Settings.Complaint)
  /-- The server is to listen at something that is no numeric address. -/
  | noAddress
  /-- There can be no database at the address in the settings. -/
  | store
  | provider (fault : ProviderFault)
  | secrets (fault : Secret.SettingsFault)

namespace StartupFault

def message : StartupFault → String
  | .settings complaint => "Configuration error: " ++ complaint.message
  | .noAddress => "Configuration error: Invalid host: invalid IP address syntax"
  | .store => "Storage error: database error: error with configuration"
  | .provider fault => "Identity provider error: " ++ fault.message
  | .secrets fault => "Secret hashing error: " ++ fault.message

end StartupFault

namespace Startup

/-- The issuer without the slashes at its end, which do not matter when issuers are compared. -/
def issuerName (issuer : String) : String := Text.trimEndWhile (· == '/') issuer

/-- Accepts a discovery document that names an issuer. -/
def accept (issuer : String) (d : Discovery) : Except ProviderFault Discovery :=
  if issuerName d.issuer = issuerName issuer then .ok d
  else .error (.invalidResponse ("discovery issuer " ++ d.issuer ++
    " does not match configured issuer " ++ issuer))

/-- Fetches the discovery document of the provider in the settings. -/
def discover (s : Settings.Issuer) : Web (Except ProviderFault Discovery) := do
  let answer ← fetch silenceFault ⟨s.discovery, none⟩ Discovery.decoder
  return answer.bind (accept s.issuer)

def start (s : Settings) (valueOf : String → Option String) :
    Web (Except StartupFault Service) := do
  if !Store.isUsableAddress (s.database.address valueOf) then return .error .store
  match ← discover s.oidc with
  | .error fault => return .error (.provider fault)
  | .ok d => match Secret.Verifier.ofSettings s.secrets with
    | .error fault => return .error (.secrets fault)
    | .ok _ => return .ok (.ofSettings s d)

end Startup

end Gatehouse

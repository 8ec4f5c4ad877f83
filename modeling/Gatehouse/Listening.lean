import Gatehouse.Startup
/-!
A server that listens: what it writes to its log from the moment it starts to listen until it is
told to stop.
-/

namespace Gatehouse

/-- How important a line of the log is. -/
inductive LogLevel
  | info
  | warning
  | error
deriving DecidableEq

def LogLevel.name : LogLevel → String
  | .info => "INFO"
  | .warning => "WARN"
  | .error => "ERROR"

/-- A line of the log: a message and the values that it comes with. -/
structure LogLine where
  level : LogLevel
  message : String
  values : List (String × String) := []
deriving DecidableEq

def LogLine.text (l : LogLine) : String :=
  " ".intercalate
    (l.level.name :: (("message", l.message) :: l.values).map fun (name, value) =>
      name ++ "=" ++ value)

namespace Listening

def rule : LogLine := ⟨.info, String.ofList (List.replicate 60 '='), []⟩

/-- What is said when nobody can be the administrator of all. -/
def noAdministrator : LogLine :=
  ⟨.warning, "No COS administrator configured - COS_ADMIN is never granted", []⟩

/-- What a server says about itself when it starts to listen. -/
def greeting (s : Settings) : List LogLine :=
  let port := toString s.server.port
  [rule, ⟨.info, "AAA SERVER v" ++ Surface.version, []⟩, rule,
    ⟨.info, "Listening", [("host", s.server.host), ("port", port)]⟩,
    ⟨.info, "Bearer tokens validated against", [("issuer", s.oidc.issuer)]⟩,
    ⟨.info, "Provider scope trust domain", [("trust_domain", s.auth.trustDomain)]⟩] ++
  (if s.auth.administrator.isNone then [noAdministrator] else []) ++
  [⟨.info, "  GET http://" ++ s.server.host ++ ":" ++ port ++ Surface.identityPath, []⟩, rule]

/-- What a server says when it is told to stop. -/
def farewell : LogLine := ⟨.info, "Shutdown signal received", []⟩

/-- The log of a server that listens until it is told to stop. It listens at numeric addresses
only. -/
def log (s : Settings) : Except StartupFault (List LogLine) :=
  if (Net.IpAddress.parse? s.server.host).isSome then .ok (greeting s ++ [farewell])
  else .error .noAddress

end Listening

end Gatehouse

import Gatehouse.Listening
import Gatehouse.Settings.Load
import Gatehouse.Usage
/-!
The program as a whole: what it does with its arguments and variables, and how it ends. It asks for
files, for documents on the web, for its standard input and for chance, each when it is needed and
not before.
-/

namespace Gatehouse

open Settings

/-- What the program needs from outside. -/
inductive Need
  | file (path : String)
  | fetch (f : Provider.Fetch)
  /-- Everything on the standard input. -/
  | input
  /-- The salt of a new hash. -/
  | salt

/-- What the program is given when it needs something. -/
def Need.Answer : Need → Type
  | .file _ => Option FileEntry
  | .fetch _ => Provider.WebReply
  | .input => List UInt8
  | .salt => List UInt8

/-- Why no hash is issued. -/
inductive HashFault
  /-- The standard input is no text. -/
  | noText
  | noSecret
  | settings (complaint : Complaint)
  | cost (fault : Secret.SettingsFault)

def HashFault.message : HashFault → String
  | .noText => "reading secret from stdin: stream did not contain valid UTF-8"
  | .noSecret => "secret must not be empty"
  | .settings complaint => StartupFault.message (.settings complaint)
  | .cost fault => fault.message

/-- How the program ends. -/
inductive Ending
  /-- Something is shown that was asked for. -/
  | shown (text : String)
  /-- The program is used wrongly. -/
  | misused (fault : CommandLine.Fault)
  | hash (text : String)
  | noHash (fault : HashFault)
  | notStarted (fault : StartupFault)
  /-- The service has started and may listen. -/
  | ready (settings : Settings) (service : Service)

namespace Ending

def exitCode : Ending → Nat
  | .shown _ | .hash _ | .ready _ _ => 0
  | .noHash _ | .notStarted _ => 1
  | .misused _ => 2

/-- What the program writes to its standard output. -/
def output : Ending → String
  | .shown text => text
  | .hash text => text ++ "\n"
  | _ => ""

/-- What the program writes to its log. -/
def log : Ending → List LogLine
  | .notStarted (.settings complaint) =>
    [⟨.error, "Failed to load configuration: " ++ StartupFault.message (.settings complaint), []⟩]
  | .notStarted fault => [⟨.error, "Failed to start server: " ++ fault.message, []⟩]
  | .ready settings _ => match Listening.log settings with
    | .ok lines => lines
    | .error fault => [⟨.error, "Server error: " ++ fault.message, []⟩]
  | _ => []

/-- What the program writes to its standard error. -/
def complaint : Ending → String
  | .misused fault => "error: " ++ fault.message ++ "\n"
  | .noHash fault => "Error: " ++ fault.message ++ "\n"
  | _ => ""

end Ending

namespace Program

/-- A computation of the program. -/
abbrev Course := Dialogue Need Need.Answer

/-- A computation that looks at files, as one of the program. -/
def onDisk {α : Type} (d : Disk α) : Course α := d.through fun path => .question (.file path)

/-- A computation that fetches documents, as one of the program. -/
def onWeb {α : Type} (w : Provider.Web α) : Course α := w.through fun f => .question (.fetch f)

/-! ## Hashing -/

/-- The secret to hash. The ends of lines at the end of the standard input do not belong to it. -/
def secretOf (given : Option String) : Course (Except HashFault String) :=
  match given with
  | some secret => .done (.ok secret)
  | none => .ask .input fun bytes => .done <|
    match Encoding.textOfBytes? bytes with
    | some text => .ok (Text.trimEndWhile (fun c => c == '\r' || c == '\n') text)
    | none => .error .noText

/-- The cost of the hash: that of the settings in a file, or else the usual one. -/
def costOf (v : Variables) (path : Option String) : Course (Except HashFault Secret.Settings) :=
  match path with
  | none => .done (.ok defaultSecrets)
  | some p => do
    let (settings, _) ← onDisk (load v (some p))
    return (settings.map (·.secrets)).mapError .settings

/-- Hashes a secret. An empty one is refused before anything else is looked at. -/
def hash (v : Variables) (path given : Option String) : Course Ending := do
  match ← secretOf given with
  | .error fault => return .noHash fault
  | .ok secret =>
    if secret.isEmpty then return .noHash .noSecret
    match ← costOf v path with
    | .error fault => return .noHash fault
    | .ok cost => match Secret.Verifier.ofSettings cost with
      | .error fault => return .noHash (.cost fault)
      | .ok verifier => .ask .salt fun salt => .done (.hash (verifier.issue salt secret))

/-! ## Serving -/

/-- The settings with what the command line says about listening. -/
def override (s : Settings) (c : CommandLine) : Settings :=
  { s with server := { s.server with
      port := c.port.getD s.server.port
      host := c.host.getD s.server.host } }

def serve (v : Variables) (c : CommandLine) : Course Ending := do
  let (settings, v) ← onDisk (load v c.config)
  match settings with
  | .error complaint => return .notStarted (.settings complaint)
  | .ok s =>
    let s := override s c
    match ← onWeb (Startup.start s v.get?) with
    | .error fault => return .notStarted fault
    | .ok service => return .ready s service

def run (v : Variables) (args : List String) : Course Ending :=
  match CommandLine.parse v args with
  | .error (.help level) => .done (.shown (Usage.page v level))
  | .error .version => .done (.shown (Usage.versionLine Surface.version))
  | .error (.fault f) => .done (.misused f)
  | .ok c => match c.task with
    | some (.hashSecret given) => hash v c.config given
    | _ => serve v c

end Program

end Gatehouse

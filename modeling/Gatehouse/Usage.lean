import Gatehouse.CommandLine
/-!
The pages that show how the program is used: one for the program itself and one for each of its
commands. A page has tables of two columns, a form and what it is for; what is too wide for a line
goes on below, in the second column.
-/

namespace Gatehouse

open Settings CommandLine

namespace Usage

def program : String := "aaa-server"

/-- What the program is for. -/
def purpose : String :=
  "Multi-tenant authentication and authorization-resolution service: bearer/client-secret auth, " ++
    "role and delegation resolution"

def width : Nat := 100

/-! ## Layout -/

def blanks (n : Nat) : String := String.ofList (List.replicate n ' ')

/-- Spreads words over lines of a width, as many on each as fit. A word is never divided. -/
def spread (width : Nat) : (line : String) → List String → List String
  | line, [] => [line]
  | line, w :: rest =>
    let longer := line ++ " " ++ w
    if longer.length ≤ width then spread width longer rest else line :: spread width w rest

/-- Spreads a text over lines of a width, each but the first behind blanks. -/
def paragraph (indent width : Nat) (text : String) : String :=
  match text.splitOn " " with
  | [] => ""
  | w :: rest => ("\n" ++ blanks indent).intercalate (spread width w rest)

/-- A form of argument and what it is for. -/
structure Row where
  form : String
  purpose : String

/-- Rows under a heading, with the second column beside the longest form. -/
def table (heading : String) (rows : List Row) : String :=
  let column := rows.foldl (fun n r => max n r.form.length) 0 + 4
  let row (r : Row) : String :=
    "  " ++ r.form ++ blanks (column - 2 - r.form.length) ++
      paragraph column (width - column) r.purpose ++ "\n"
  heading ++ ":\n" ++ String.join (rows.map row)

/-! ## Rows -/

def switchPurpose : Switch → String
  | .config => "Path to configuration file (YAML)"
  | .port => "Port to listen on"
  | .host => "Host to bind to"
  | .logLevel => "Log level (trace, debug, info, warn, error)"
  | .logFormat => "Log format (text, json)"

/-- What stands for the value of a switch. -/
def placeholder (s : Switch) : String :=
  String.ofList (s.name.toList.map fun c => if c == '-' then '_' else c.toUpper)

def switchForm (letter? : Option Char) (name : String) : String :=
  (letter?.elim "    " fun c => "-" ++ c.toString ++ ", ") ++ "--" ++ name

/-- The row of a switch with a value: it shows the variable that stands in for the switch, with its
current value, and the usual value if there is one. -/
def switchRow (v : Variables) (s : Switch) : Row where
  form := switchForm s.letter? s.name ++ " <" ++ placeholder s ++ ">"
  purpose := switchPurpose s ++
    " [env: " ++ s.standIn ++ "=" ++ (v.get? s.standIn).getD "" ++ "]" ++
    if s = .logLevel then " [default: " ++ defaultLogLevel ++ "]" else ""

/-- The rows of the switches that show something. -/
def displayRows (level : Level) : List Row :=
  ⟨switchForm (some 'h') "help", "Print help"⟩ ::
    if level = .top then [⟨switchForm (some 'V') "version", "Print version"⟩] else []

/-! ## Pages -/

/-- What a command is for. -/
def levelPurpose : Level → String
  | .top => purpose
  | .serve => "Start the server (default)"
  | .hashSecret => "Print an Argon2id PHC hash of a client secret, for seeding client rows"
  | .help => "Print this message or the help of the given subcommand(s)"

def levelForm : Level → String
  | .top => program ++ " [OPTIONS] [COMMAND]"
  | .serve => program ++ " serve [OPTIONS]"
  | .hashSecret => program ++ " hash-secret [OPTIONS] [SECRET]"
  | .help => program ++ " help [COMMAND]..."

def words : Level → List Row
  | .top | .serve => []
  | .hashSecret => [⟨"[SECRET]", "Secret to hash. Read from stdin when omitted"⟩]
  | .help => [⟨"[COMMAND]...", "Print help for the subcommand(s)"⟩]

def commandRows : Level → List Row
  | .top => Level.commands.map fun (name, level) => ⟨name, levelPurpose level⟩
  | _ => []

def switchRows (v : Variables) : Level → List Row
  | .help => []
  | level => level.switches.map (switchRow v) ++ displayRows level

/-- The page of a command, or of the program itself. -/
def page (v : Variables) (level : Level) : String :=
  let tables := [("Commands", commandRows level), ("Arguments", words level),
    ("Options", switchRows v level)]
  "\n".intercalate <|
    [paragraph 0 width (levelPurpose level) ++ "\n", "Usage: " ++ levelForm level ++ "\n"] ++
      (tables.filter fun t => !t.2.isEmpty).map fun (heading, rows) => table heading rows

def versionLine (version : String) : String := program ++ " " ++ version ++ "\n"

end Usage

end Gatehouse

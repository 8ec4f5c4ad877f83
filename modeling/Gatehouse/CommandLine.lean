import Gatehouse.Settings.Variables
/-!
The command line of the program: switches with values, two commands, and variables that stand in for
switches that are not given. Switches that make sense for every command may be given before or
after it; when they are given in both places, what is said after the command counts.
-/

namespace Gatehouse

open Settings Text

/-- What the program is asked to do. -/
inductive Task
  | serve
  /-- Hash a secret: the one given, or else the one on the standard input. -/
  | hashSecret (secret : Option String)
deriving DecidableEq

/-- What a command line says. -/
structure CommandLine where
  config : Option String
  port : Option Nat
  host : Option String
  logLevel : String
  logFormat : Option String
  task : Option Task
deriving DecidableEq

namespace CommandLine

/-- What is wrong with a command line. -/
inductive Fault
  /-- A switch or a word that means nothing where it stands. -/
  | unknownArgument
  /-- A word where a command has to stand. -/
  | unknownCommand
  /-- A switch without the value that it needs. -/
  | missingValue
  /-- A value that a switch cannot have. -/
  | badValue
  /-- A switch that is given twice. -/
  | repeated
  /-- A value for a switch that has none. -/
  | needlessValue
deriving DecidableEq, Repr

namespace Fault

def message : Fault → String
  | .unknownArgument => "unexpected argument"
  | .unknownCommand => "unrecognized subcommand"
  | .missingValue => "a value is required for an option but none was supplied"
  | .badValue => "an option has an invalid value"
  | .repeated => "an option is given more than once"
  | .needlessValue => "an option has a value but takes none"

end Fault

/-- Where in a command line an argument stands: before any command, or after one. -/
inductive Level
  | top
  | serve
  | hashSecret
  /-- After the command that shows how the others are used. -/
  | help
deriving DecidableEq, Repr

/-- Why a command line does not lead to any task. -/
inductive Stop
  /-- Somebody asks how a command is used. -/
  | help (on : Level)
  | version
  | fault (f : Fault)
deriving DecidableEq, Repr

/-- The switches that have values. -/
inductive Switch
  | config
  | port
  | host
  | logLevel
  | logFormat
deriving DecidableEq

namespace Switch

def name : Switch → String
  | .config => "config"
  | .port => "port"
  | .host => "host"
  | .logLevel => "log-level"
  | .logFormat => "log-format"

/-- The letter of a switch, if it has one. -/
def letter? : Switch → Option Char
  | .config => some 'c'
  | .port => some 'p'
  | _ => none

/-- The variable that stands in for a switch. -/
def standIn : Switch → String
  | .config => "AAA_CONFIG"
  | .port => "AAA_PORT"
  | .host => "AAA_HOST"
  | .logLevel => "AAA_LOG_LEVEL"
  | .logFormat => "AAA_LOG_FORMAT"

def all : List Switch := [.config, .port, .host, .logLevel, .logFormat]

/-- The port that a value is. -/
def port? (value : String) : Option Nat := do
  let (negative, digits) := Scientific.splitSign value.toList
  let n ← natOfDigits? digits
  if n < UInt16.size && (!negative || n == 0) then some n else none

/-- Accepts a value of a switch. -/
def accept (s : Switch) (value : String) : Except Stop Unit :=
  match s with
  | .config => if value.isEmpty then .error (.fault .missingValue) else .ok ()
  | .port => if (port? value).isSome then .ok () else .error (.fault .badValue)
  | _ => .ok ()

end Switch

namespace Level

def switches : Level → List Switch
  | .top => Switch.all
  | .serve | .hashSecret => [.config, .logLevel, .logFormat]
  | .help => []

def commands : List (String × Level) :=
  [("serve", .serve), ("hash-secret", .hashSecret), ("help", .help)]

def isCommand (word : String) : Bool := (commands.lookup word).isSome

/-- The end of a command line that asks for help, on a command or on none. -/
def helpOn : List String → Stop
  | [] => .help .top
  | [word] => (commands.lookup word).elim (.fault .unknownCommand) .help
  | _ => .fault .unknownCommand

/-- What is wrong with a word that has no place at a level. -/
def strayWord (level : Level) (isTrailing : Bool) (word : String) : Fault :=
  if level = .top && !(isTrailing && isCommand word) then .unknownCommand else .unknownArgument

end Level

/-! ## Arguments -/

/-- The arguments of a level that have been read. -/
structure Arguments where
  values : List (Switch × String) := []
  /-- A switch that has been read last, with its value if that has been read, too. -/
  pending : Option (Switch × Option String) := none
  secret : Option String := none

namespace Arguments

/-- Whether the next word is a value. -/
def awaitsValue (a : Arguments) : Bool := a.pending.any (·.2.isNone)

/-- Accepts the switch that has been read last. -/
def settle (a : Arguments) : Except Stop Arguments :=
  match a.pending with
  | none => .ok a
  | some (_, none) => .error (.fault .missingValue)
  | some (s, some value) => do
    if (a.values.lookup s).isSome then .error (.fault .repeated)
    s.accept value
    return { a with values := a.values ++ [(s, value)], pending := none }

/-- Reads a switch with the value that is attached to it, if one is. -/
def take (a : Arguments) (s : Switch) (attached : Option String) : Except Stop Arguments := do
  let a ← a.settle
  let a := { a with pending := some (s, attached) }
  if attached.isSome then a.settle else return a

/-- Takes a value for the switch that has been read last. -/
def supply (a : Arguments) (value : String) : Arguments :=
  { a with pending := a.pending.map fun (s, _) => (s, some value) }

/-- Reads a switch that shows something and has no value. -/
def display (a : Arguments) (stop : Stop) (hasValue : Bool) : Except Stop Arguments :=
  if hasValue then .error (.fault .needlessValue)
  else do
    let _ ← a.settle
    .error stop

/-- Reads an argument after its two hyphens. -/
def long (level : Level) (a : Arguments) (text : List Char) : Except Stop Arguments :=
  let name := String.ofList (text.takeWhile (· != '='))
  let attached := match text.dropWhile (· != '=') with
    | _ :: value => some (String.ofList value)
    | [] => none
  match level.switches.find? (·.name == name) with
  | some s => a.take s attached
  | none =>
    if name == "help" then a.display (.help level) attached.isSome
    else if name == "version" && level = .top then a.display .version attached.isSome
    else .error (.fault .unknownArgument)

/-- Reads an argument after its one hyphen: a letter, with its value if that is attached. -/
def short (level : Level) (a : Arguments) (letter : Char) (text : List Char) :
    Except Stop Arguments :=
  match level.switches.find? (·.letter? == some letter) with
  | some s =>
    let attached := match text with
      | [] => none
      | '=' :: value => some (String.ofList value)
      | value => some (String.ofList value)
    a.take s attached
  | none =>
    if letter == 'h' then a.display (.help level) false
    else if letter == 'V' && level = .top then a.display .version false
    else .error (.fault .unknownArgument)

/-- Reads a word that is neither a switch nor a value nor a command. -/
def word (level : Level) (isTrailing : Bool) (a : Arguments) (w : String) :
    Except Stop Arguments := do
  if level = .hashSecret && a.secret.isNone then
    let a ← a.settle
    return { a with secret := some w }
  else .error (.fault (level.strayWord isTrailing w))

/-- The level that a word leads to when it is a command where it stands. -/
def command? (level : Level) (a : Arguments) (w : String) : Option Level :=
  if level = .top && !a.awaitsValue then Level.commands.lookup w else none

/-- Reads arguments up to a command, which is told with the arguments after it. After two hyphens
all arguments are words. -/
def read (level : Level) : (isTrailing : Bool) → Arguments → List String →
    Except Stop (Arguments × Option (Level × List String))
  | _, a, [] => .ok (a, none)
  | true, a, w :: rest => do read level true (← a.word level true w) rest
  | false, a, w :: rest =>
    match a.command? level w, w.toList with
    | some .help, _ => .error (Level.helpOn rest)
    | some next, _ => .ok (a, some (next, rest))
    | none, ['-', '-'] => read level true a rest
    | none, '-' :: '-' :: text => do read level false (← a.long level text) rest
    | none, '-' :: letter :: text => do read level false (← a.short level letter text) rest
    | none, _ =>
      if a.awaitsValue then read level false (a.supply w) rest
      else do read level false (← a.word level false w) rest

end Arguments

/-! ## Values -/

/-- A value of a switch, and whether it comes from the command line itself. -/
structure Found where
  value : String
  isGiven : Bool

/-- The value of a switch at a level. -/
def find (v : Variables) (a : Arguments) (s : Switch) : Except Stop (Option Found) :=
  match a.values.lookup s, v.get? s.standIn with
  | some value, _ => .ok (some ⟨value, true⟩)
  | none, some value => do
    s.accept value
    return some ⟨value, false⟩
  | none, none => .ok none

def findAll (v : Variables) (level : Level) (a : Arguments) :
    Except Stop (List (Switch × Found)) := do
  let found ← level.switches.mapM fun s => return (s, ← find v a s)
  return found.filterMap fun (s, f) => f.map (s, ·)

/-- The value that counts: the one after the command, unless only the one before it is given. -/
def choose (before after : Option Found) : Option String :=
  match before, after with
  | some b, some a => some (if b.isGiven && !a.isGiven then b.value else a.value)
  | b, a => ((a.or b)).map (·.value)

def taskOf (level : Level) (a : Arguments) : Option Task :=
  match level with
  | .serve => some .serve
  | .hashSecret => some (.hashSecret a.secret)
  | .top | .help => none

def defaultLogLevel : String := "info"

/-- Reads a command line. What is wrong after a command is found before what is wrong in front. -/
def parse (v : Variables) (args : List String) : Except Stop CommandLine := do
  let (top, command) ← Arguments.read .top false {} args
  let (task, after) ← match command with
    | none => pure (none, [])
    | some (level, rest) => do
      let (a, _) ← Arguments.read level false {} rest
      let a ← a.settle
      pure (taskOf level a, ← findAll v level a)
  let before ← findAll v .top (← top.settle)
  let value (s : Switch) : Option String := choose (before.lookup s) (after.lookup s)
  return {
    config := value .config
    port := (value .port).bind Switch.port?
    host := value .host
    logLevel := (value .logLevel).getD defaultLogLevel
    logFormat := value .logFormat
    task }

end CommandLine

end Gatehouse

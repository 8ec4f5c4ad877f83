import Gatehouse.Dialogue
import Gatehouse.Settings.VariableFile
import Gatehouse.Yaml.Meaning
/-!
Loading settings: a file, the variables laid over it, then the files with further variables, and
last the demands that settings have to meet. The further variables are there for references only;
they are never laid over the settings.
-/

namespace Gatehouse

/-- What there is at a path. -/
inductive FileEntry
  | folder
  /-- A file, with its text if it is one. -/
  | file (text : Option String)

/-- A computation that looks at files. -/
abbrev Disk := Dialogue String fun _ => Option FileEntry

namespace Settings

/-- The settings in the file at a path. A folder has none. -/
def fromFile (path : String) : Disk (Except Complaint Tree) :=
  .ask path fun entry => .done <| match entry with
    | none => .error (.fileNotFound path)
    | some .folder => .ok (.map [])
    | some (.file text) => match text.bind Yaml.settings? with
      | some t => .ok t
      | none => .error .unreadable

/-- A path that may start with a mark of the home folder. -/
def expandHome (v : Variables) (path : String) : String :=
  match path.toList, v.get? "HOME" with
  | '~' :: rest, some home => home ++ String.ofList rest
  | _, _ => path

/-- Loads further variables from files, in order; files that are not there are passed over. -/
def loadVariables (v : Variables) : List String → Disk Variables
  | [] => .done v
  | path :: rest => .ask (expandHome v path) fun entry =>
    match entry with
    | some (.file (some text)) => loadVariables (VariableFile.load v text) rest
    | _ => loadVariables v rest

/-- The settings of a file and of variables laid over it. -/
def merge (file : Tree) (v : Variables) : Except Complaint Settings :=
  match Tree.settings? (file.overlay v.settings) with
  | some s => .ok s
  | none => .error .unreadable

/-- Accepts settings that there is no complaint about. -/
def accept (s : Settings) : Except Complaint Settings :=
  match s.complaint? with
  | some complaint => .error complaint
  | none => .ok s

/-- Loads settings; tells the variables that there are afterwards, too. -/
def load (v : Variables) (path : Option String) : Disk (Except Complaint Settings × Variables) := do
  let file ← match path with
    | some p => fromFile p
    | none => pure (.ok (.map []))
  match file.bind (merge · v) with
  | .error complaint => return (.error complaint, v)
  | .ok s =>
    let v ← loadVariables v s.envFiles
    return (accept s, v)

end Settings

end Gatehouse

import Gatehouse.Proofs.Duration
import Gatehouse.Proofs.Except
import Gatehouse.Settings.Load

/-!
# Which file gives a variable its value

A variable that has a value keeps it, so of all files that define a variable the first one counts,
and in it the first line that does (`first_definition_counts`). The files after it are read as well,
but what they say about the variable is lost.
-/

namespace Gatehouse.Settings

theorem Variables.get?_setIfUnset (v : Variables) (name value other : String) :
    (v.setIfUnset name value).get? other =
      (v.get? other).or (if other == name then some value else none) := by
  unfold setIfUnset
  by_cases hset : (v.get? name).isSome
  · rw [if_pos hset]
    by_cases hname : other == name
    · rw [eq_of_beq hname, Option.or_of_isSome hset]
    · rw [if_neg hname, Option.or_none]
  · rw [if_neg hset]
    unfold get?
    rw [List.lookup_append, List.lookup_cons, List.lookup_nil]
    cases other == name <;> rfl

namespace VariableFile

/-- The assignments of lines up to the first one that cannot be read, each with the value that it
has where it stands. -/
def assignmentsIn (v : Variables) : List (Option (List Char)) → List (String × String)
  | [] => []
  | none :: _ => []
  | some line :: rest => match assignment? v line with
    | none => []
    | some none => assignmentsIn v rest
    | some (some (name, value)) => (name, value) :: assignmentsIn (v.setIfUnset name value) rest

def assignments (v : Variables) (text : String) : List (String × String) :=
  assignmentsIn v (lines text.toList)

theorem get?_loadLines (v : Variables) (ls : List (Option (List Char))) (name : String) :
    (loadLines v ls).get? name = (v.get? name).or ((assignmentsIn v ls).lookup name) := by
  induction ls generalizing v with
  | nil => simp [loadLines, assignmentsIn]
  | cons line ls ih =>
    cases line with
    | none => simp [loadLines, assignmentsIn]
    | some line =>
      rw [loadLines, assignmentsIn]
      cases assignment? v line with
      | none => simp
      | some assigned =>
        cases assigned with
        | none => exact ih v
        | some assigned =>
          obtain ⟨other, value⟩ := assigned
          change (loadLines (v.setIfUnset other value) ls).get? name = _
          rw [ih, Variables.get?_setIfUnset, Option.or_assoc, List.lookup_cons]
          cases name == other <;> rfl

theorem get?_load (v : Variables) (text name : String) :
    (load v text).get? name = (v.get? name).or ((assignments v text).lookup name) :=
  get?_loadLines v (lines text.toList) name

end VariableFile

variable {disk : String → Option FileEntry} {v v' : Variables} {path : Option String} {s : Settings}

/-- The values that files have for a variable: one for each file that is there and defines it, in
the order of the files. -/
def definitions (disk : String → Option FileEntry) (name : String) (v : Variables) :
    List String → List String
  | [] => []
  | path :: rest => match disk (expandHome v path) with
    | some (.file (some text)) =>
      ((VariableFile.assignments v text).lookup name).toList ++
        definitions disk name (VariableFile.load v text) rest
    | _ => definitions disk name v rest

theorem get?_loadVariables (disk : String → Option FileEntry) (v : Variables)
    (paths : List String) (name : String) :
    ((loadVariables v paths).answered disk).get? name =
      (v.get? name).or (definitions disk name v paths).head? := by
  induction paths generalizing v with
  | nil => simp [loadVariables, definitions, Dialogue.answered]
  | cons path paths ih =>
    rw [loadVariables, definitions, Dialogue.answered]
    cases disk (expandHome v path) with
    | none => exact ih v
    | some entry =>
      cases entry with
      | folder => exact ih v
      | file text =>
        cases text with
        | none => exact ih v
        | some text =>
          -- A variable that this file sets is there for all files after it.
          have htail := ih (VariableFile.load v text)
          rw [VariableFile.get?_load, Option.or_assoc] at htail
          refine htail.trans (congrArg (v.get? name).or ?_)
          change _ = (((VariableFile.assignments v text).lookup name).toList ++ _).head?
          cases (VariableFile.assignments v text).lookup name <;> rfl

/-! ## Loading -/

/-- What there is to lay the variables over: what is in a file, or nothing. -/
def found (disk : String → Option FileEntry) : Option String → Except Complaint Tree
  | some path => (fromFile path).answered disk
  | none => .ok (.map [])

theorem answered_load (disk : String → Option FileEntry) (v : Variables) (path : Option String) :
    (load v path).answered disk = match (found disk path).bind (merge · v) with
      | .error complaint => (.error complaint, v)
      | .ok s => (accept s, (loadVariables v s.envFiles).answered disk) := by
  have hload : ∀ file : Except Complaint Tree,
      Dialogue.answered disk (match file.bind (merge · v) with
        | .error complaint => .done (.error complaint, v)
        | .ok s => (loadVariables v s.envFiles).bind fun v => .done (accept s, v)) =
      match file.bind (merge · v) with
        | .error complaint => (.error complaint, v)
        | .ok s => (accept s, (loadVariables v s.envFiles).answered disk) := by
    intro file
    cases file.bind (merge · v) with
    | error complaint => rfl
    | ok s => exact Dialogue.answered_bind disk _ _
  cases path with
  | none => exact hload (.ok (.map []))
  | some path => exact (Dialogue.answered_bind disk _ _).trans (hload _)

theorem accept_eq_ok {s s' : Settings} : accept s = .ok s' ↔ s = s' ∧ s.complaint? = none := by
  unfold accept
  cases s.complaint? with
  | none => simp
  | some complaint => simp

/-- Settings that are loaded come out of one tree, and the files that they name are loaded after
that. -/
theorem of_load (h : (load v path).answered disk = (.ok s, v')) :
    (∃ file, found disk path = .ok file ∧ merge file v = .ok s) ∧ s.complaint? = none ∧
      v' = (loadVariables v s.envFiles).answered disk := by
  rw [answered_load] at h
  cases hmerge : (found disk path).bind (merge · v) with
  | error complaint =>
    rw [hmerge] at h
    cases h
  | ok s₀ =>
    rw [hmerge] at h
    obtain ⟨hs, rfl⟩ := Prod.mk.inj h
    obtain ⟨rfl, hnone⟩ := accept_eq_ok.mp hs
    exact ⟨bind_eq_ok.mp hmerge, hnone, rfl⟩

theorem Database.address_of_reference {b : Database} {name : String} (h : b.url = "env:" ++ name)
    (valueOf : String → Option String) : b.address valueOf = (valueOf name).getD b.url := by
  have hafter : Text.afterStart? "env:".toList b.url.toList = some name.toList := by
    rw [Text.afterStart?_eq_some, h, String.toList_append]
  unfold address
  rw [hafter]
  exact congrArg (fun name => (valueOf name).getD b.url) String.ofList_toList

/-- After settings have been loaded, a variable has the value that it had before or else, of those
that the files of variables have for it, the first one. That is what a reference to it in the
address of the database stands for. -/
theorem first_definition_counts (h : (load v path).answered disk = (.ok s, v')) (name : String) :
    v'.get? name = (v.get? name).or (definitions disk name v s.envFiles).head? ∧
      (s.database.url = "env:" ++ name → s.database.address v'.get? =
        ((v.get? name).or (definitions disk name v s.envFiles).head?).getD s.database.url) := by
  obtain ⟨-, -, rfl⟩ := of_load h
  have hvalue := get?_loadVariables disk v s.envFiles name
  refine ⟨hvalue, fun hurl => ?_⟩
  rw [s.database.address_of_reference hurl, hvalue]

/-- One file is in the home folder, one is missing, and the last one has a value of its own for the
address. -/
theorem first_definition_counts_referring :
    let disk (path : String) : Option FileEntry :=
      [("a.yaml", .file (some "env_files: ['~/one', two, three]\ndatabase: \x7burl: 'env:URL'\x7d\n")),
        ("/h/one", .file (some "export HOST=db # ours\nURL=postgres://$HOST\nURL=none\n")),
        ("three", .file (some "URL=postgres://last\nHOST=last\n"))].lookup path
    let v : Variables := [("HOME", "/h")]
    let s : Settings := { envFiles := ["~/one", "two", "three"], database := { url := "env:URL" } }
    let v' : Variables := [("HOME", "/h"), ("HOST", "db"), ("URL", "postgres://db")]
    (load v (some "a.yaml")).answered disk = (.ok s, v') ∧ s.database.url = "env:" ++ "URL" ∧
      definitions disk "URL" v s.envFiles = ["postgres://db", "postgres://last"] ∧
      v'.get? "URL" = some "postgres://db" ∧ s.database.address v'.get? = "postgres://db" := by
  intro disk v s v'
  have hload : (load v (some "a.yaml")).answered disk = (.ok s, v') := by decide +kernel
  have hurl : s.database.url = "env:" ++ "URL" := by decide
  have hdefined : definitions disk "URL" v s.envFiles = ["postgres://db", "postgres://last"] := by
    decide +kernel
  obtain ⟨hvalue, haddress⟩ := first_definition_counts hload "URL"
  rw [hdefined] at hvalue haddress
  exact ⟨hload, hurl, hdefined, hvalue, haddress hurl⟩

/-- Both files are there and can be read, the variable has no value before, and the last file does
not override the first one. -/
theorem last_definition_lost :
    let disk (path : String) : Option FileEntry :=
      [("aaa.yaml", .file (some
          "env_files: ['one.env', 'two.env']\ndatabase:\n  url: env:DATABASE_URL\n")),
        ("one.env", .file (some "DATABASE_URL=postgres://one\nONE=1\n")),
        ("two.env", .file (some "DATABASE_URL=postgres://two\nTWO=2\n"))].lookup path
    let s : Settings := { envFiles := ["one.env", "two.env"] }
    let v' : Variables := [("DATABASE_URL", "postgres://one"), ("ONE", "1"), ("TWO", "2")]
    (load [] (some "aaa.yaml")).answered disk = (.ok s, v') ∧
      (definitions disk "DATABASE_URL" [] s.envFiles).getLast? = some "postgres://two" ∧
      v'.get? "DATABASE_URL" = some "postgres://one" ∧
      s.database.address v'.get? = "postgres://one" := by
  decide +kernel

end Gatehouse.Settings

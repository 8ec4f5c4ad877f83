import Gatehouse.Store.Fault
import Gatehouse.Uuid
/-!
Statements to a relational database and the rows it replies with. A statement is kept as syntax, of
which the text is written when it is sent. The values in it are sent beside the text, which refers
to every one of them by its number.
-/

namespace Gatehouse.Store

/-- A value that goes with a statement. -/
inductive Bound
  | uuid (u : Uuid)
  | text (s : String)
  | texts (l : List String)
deriving DecidableEq

/-- The types of columns. -/
inductive ColumnType
  | text
  | uuid
  | int8
deriving DecidableEq, Repr

/-- A column of a reply. -/
structure Column where
  name : String
  type : ColumnType
deriving DecidableEq, Repr

/-! ## Syntax -/

/-- The tables of the database. -/
inductive Table
  | servers
  | roles
  | clients
  | delegations
deriving DecidableEq, Repr

def Table.name : Table → String
  | .servers => "resource_server"
  | .roles => "roles"
  | .clients => "user_clients"
  | .delegations => "delegations"

/-- A table that a statement draws from, and the label that it refers to it by, if it has one. -/
structure Source where
  table : Table
  label : Option String := none
deriving DecidableEq

/-- A field of the source with a label, or of the one without. -/
structure FieldName where
  label : Option String := none
  name : String
deriving DecidableEq

/-- A term of a statement. -/
inductive Term
  | field (f : FieldName)
  | value (v : Bound)
  | literal (s : String)
  /-- A text that is not there. -/
  | null
  | lower (t : Term)
  /-- A text without any of the character at its end. -/
  | trimEnd (t : Term) (c : Char)
deriving DecidableEq

/-- A condition on the rows of the sources. -/
inductive Condition
  | equal (a b : Term)
  /-- A text is one of some texts. -/
  | oneOf (a texts : Term)
  | both (a b : Condition)
  /-- Some row of another source satisfies a condition. -/
  | someRow (s : Source) (c : Condition)
  | never
deriving DecidableEq

/-- What a statement asks for in one column. -/
inductive Output
  /-- A field, under its own name. -/
  | field (f : FieldName) (type : ColumnType)
  /-- A term, under a name that the statement gives to it. -/
  | named (t : Term) (column : Column)
deriving DecidableEq

def Output.column : Output → Column
  | .field f type => ⟨f.name, type⟩
  | .named _ column => column

/-- Whether a row without a partner is left out of a join or kept. -/
inductive JoinKind
  | inner
  | left
deriving DecidableEq, Repr

/-- Puts the rows of a second source beside those of the first: the ones that have the same content
in two fields. -/
structure Join where
  kind : JoinKind
  source : Source
  field : FieldName
  partner : FieldName
deriving DecidableEq

/-- A selection of rows. -/
structure Select where
  outputs : List Output
  /-- Where there is no source there is one row without fields. -/
  source : Option Source := none
  join : Option Join := none
  condition : Condition
deriving DecidableEq

/-- A statement. -/
inductive Statement
  | select (s : Select)
  /-- The rows of both selections, also those that are equal. -/
  | unionAll (a b : Select)
  /-- The row with the least content of a field. -/
  | leastBy (s : Select) (f : FieldName)
deriving DecidableEq

/-! ## Text -/

/-- A piece of the text of a statement. -/
inductive Piece
  | text (s : String)
  | value (v : Bound)
deriving DecidableEq

def Source.text (s : Source) : String := s.table.name ++ s.label.elim "" (" " ++ ·)

def FieldName.text (f : FieldName) : String := f.label.elim "" (· ++ ".") ++ f.name

def Term.pieces : Term → List Piece
  | .field f => [.text f.text]
  | .value v => [.value v]
  | .literal s => [.text ("'" ++ s ++ "'")]
  | .null => [.text "NULL::text"]
  | .lower t => [.text "lower("] ++ t.pieces ++ [.text ")"]
  | .trimEnd t c => [.text "rtrim("] ++ t.pieces ++ [.text (", '" ++ c.toString ++ "')")]

def Condition.pieces : Condition → List Piece
  | .equal a b => a.pieces ++ [.text " = "] ++ b.pieces
  | .oneOf a texts => a.pieces ++ [.text " = ANY("] ++ texts.pieces ++ [.text ")"]
  | .both a b => a.pieces ++ [.text " AND "] ++ b.pieces
  | .someRow s c =>
    [.text ("EXISTS (SELECT 1 FROM " ++ s.text ++ " WHERE ")] ++ c.pieces ++ [.text ")"]
  | .never => [.text "FALSE"]

def Output.pieces : Output → List Piece
  | .field f _ => [.text f.text]
  | .named t column => t.pieces ++ [.text (" AS " ++ column.name)]

def JoinKind.text : JoinKind → String
  | .inner => " JOIN "
  | .left => " LEFT JOIN "

def Join.text (j : Join) : String :=
  j.kind.text ++ j.source.text ++ " ON " ++ j.field.text ++ " = " ++ j.partner.text

def Select.pieces (s : Select) : List Piece :=
  [.text "SELECT "] ++ ((s.outputs.map Output.pieces).intersperse [.text ", "]).flatten ++
    [.text (s.source.elim "" fun source => " FROM " ++ source.text),
      .text (s.join.elim "" Join.text), .text " WHERE "] ++ s.condition.pieces

namespace Statement

def pieces : Statement → List Piece
  | .select s => s.pieces
  | .unionAll a b => a.pieces ++ [.text " UNION ALL "] ++ b.pieces
  | .leastBy s f => s.pieces ++ [.text (" ORDER BY " ++ f.text ++ " LIMIT 1")]

/-- The text of pieces, of which values get numbers from `n` on. -/
def textFrom : (n : Nat) → List Piece → String
  | _, [] => ""
  | n, .text s :: rest => s ++ textFrom n rest
  | n, .value _ :: rest => "$" ++ toString n ++ textFrom (n + 1) rest

/-- The text that is sent. -/
def sql (s : Statement) : String := textFrom 1 s.pieces

/-- The values that the text refers to, in order. -/
def values (s : Statement) : List Bound :=
  s.pieces.filterMap fun
    | .value v => some v
    | .text _ => none

/-- The columns that are asked for. -/
def columns : Statement → List Column
  | .select s | .unionAll s _ | .leastBy s _ => s.outputs.map Output.column

end Statement

/-! ## Replies -/

/-- What stands in one column of a row. -/
inductive Cell
  | null
  | text (s : String)
  | number (n : Int)
deriving DecidableEq

/-- A row, as a list of its columns with what stands in them. -/
abbrev Row := List (Column × Cell)

/-- The reply of the database to a statement. -/
inductive Reply
  | rows (rows : List Row)
  | failed (fault : DatabaseFault)

def Reply.toExcept : Reply → Except StoreFault (List Row)
  | .rows l => .ok l
  | .failed fault => .error (.database fault)

namespace Row

/-- The column with a name; of several, the last one. -/
def column (row : Row) (name : String) : Except StoreFault (Column × Cell) :=
  match row.reverse.find? (·.1.name == name) with
  | some c => .ok c
  | none => .error (.database (.columnNotFound name))

/-- The complaint about a column that cannot be read. -/
def unreadable (name : String) : StoreFault := .database (.columnUnreadable name)

def textOrNull (row : Row) (name : String) : Except StoreFault (Option String) := do
  match ← row.column name with
  | (_, .null) => return none
  | (⟨_, .text⟩, .text s) => return some s
  | _ => throw (unreadable name)

def text (row : Row) (name : String) : Except StoreFault String := do
  match ← row.textOrNull name with
  | some s => return s
  | none => throw (unreadable name)

/-- The identifier in a column. -/
def uuid (row : Row) (name : String) : Except StoreFault Uuid := do
  match ← row.column name with
  | (⟨_, .uuid⟩, .text s) => match Uuid.parse? s with
    | some u => return u
    | none => throw (unreadable name)
  | _ => throw (unreadable name)

end Row

end Gatehouse.Store

import Gatehouse.Json.Draft
import Gatehouse.Settings.Json
/-!
Settings as they come out of files and variables, before anything is known about what they mean:
trees of values, in which later ones replace earlier ones name by name.
-/

namespace Gatehouse.Settings

open Json

/-- A value as it was written. No setting takes a number with a fraction, so its value is dropped.
-/
inductive Tree
  | null
  | bool (b : Bool)
  | integer (n : Int)
  | fraction
  | text (s : String)
  | list (items : List Tree)
  | map (entries : List (String × Tree))

namespace Tree

def set (entries : List (String × Tree)) (name : String) (t : Tree) : List (String × Tree) :=
  entries.filter (·.1 != name) ++ [(name, t)]

mutual

/-- The first tree with the second one laid over it: maps are joined name by name, and anything else
is replaced. -/
def overlay : Tree → Tree → Tree
  | .map below, .map above => .map (overlayEntries below above)
  | _, above => above

def overlayEntries (below : List (String × Tree)) : List (String × Tree) → List (String × Tree)
  | [] => below
  | (name, t) :: rest =>
    let t := match below.lookup name with
      | some old => old.overlay t
      | none => t
    overlayEntries (set below name t) rest

end

mutual

/-- A tree as a text that is read without any flaw. -/
def toDraft : Tree → Draft
  | .null => .null
  | .bool b => .bool b
  | .integer n => .number ⟨n < 0, n.natAbs, 0, true⟩
  | .fraction => .number ⟨false, 0, 0, false⟩
  | .text s => .text (.ok s) none
  | .list items => .array (itemDrafts items) none
  | .map entries => .object (entryDrafts entries) .closed

def itemDrafts : List Tree → List Draft
  | [] => []
  | t :: rest => t.toDraft :: itemDrafts rest

def entryDrafts : List (String × Tree) → List (Except Flaw String × Draft)
  | [] => []
  | (name, t) :: rest => (.ok name, t.toDraft) :: entryDrafts rest

end

/-- Reads an identifier that may also be written as its bytes. -/
def uuid : Decoder Uuid
  | .array items _ => do
    let bytes ← Json.items (natBelow 256) (items.take 16)
    let number := bytes.foldl (fun n b => 256 * n + b) 0
    if bytes.length = 16 then .ok ⟨BitVec.ofNat 128 number⟩ else .error .mismatch
  | d => Uuid.decoder d

/-- The form of settings in a tree. What follows the last field of a section does not matter. -/
def form : Form := ⟨false, uuid⟩

def settings? (t : Tree) : Option Settings := (decoder form t.toDraft).toOption

end Tree

end Gatehouse.Settings

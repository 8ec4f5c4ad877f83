/-!
Finite sets of texts, kept as strictly ascending lists, so that a set has one representation. Texts
are compared by their code points, which is the order of their encoded bytes too.
-/

namespace Gatehouse

/-- A strictly ascending list of texts. -/
structure TextSet where
  toList : List String
  ascending : toList.Pairwise (· < ·) := by simp

namespace TextSet

instance : DecidableEq TextSet := fun s t =>
  if h : s.toList = t.toList then isTrue (by cases s; cases t; simp_all)
  else isFalse fun e => h (e ▸ rfl)

/-- The set without members. -/
def empty : TextSet := { toList := [] }

/-- Inserts a text into an ascending list, unless it is there. -/
def insertSorted (x : String) : List String → List String
  | [] => [x]
  | y :: ys =>
    if x < y then x :: y :: ys
    else if x = y then y :: ys
    else y :: insertSorted x ys

theorem mem_insertSorted {x z : String} {l : List String} :
    z ∈ insertSorted x l ↔ z = x ∨ z ∈ l := by
  induction l with
  | nil => simp [insertSorted]
  | cons y ys ih =>
    unfold insertSorted
    split
    · simp
    · split
      · next h => subst h; simp
      · simp only [List.mem_cons, ih, or_left_comm]

theorem lt_of_not_lt_of_ne {x y : String} (h : ¬ x < y) (hne : ¬ x = y) : y < x := by
  rcases String.le_total x y with h' | h'
  · exact absurd (String.le_antisymm h' (String.not_lt.mp h)) hne
  · exact Decidable.byContradiction fun hn => hne (String.le_antisymm (String.not_lt.mp hn) h')

theorem pairwise_insertSorted {x : String} {l : List String} (h : l.Pairwise (· < ·)) :
    (insertSorted x l).Pairwise (· < ·) := by
  induction l with
  | nil => simp [insertSorted]
  | cons y ys ih =>
    obtain ⟨hy, hys⟩ := List.pairwise_cons.mp h
    unfold insertSorted
    split
    · next hlt =>
      refine List.pairwise_cons.mpr ⟨fun z hz => ?_, h⟩
      rcases List.mem_cons.mp hz with rfl | hz
      · exact hlt
      · exact String.lt_trans hlt (hy z hz)
    · next hnlt =>
      split
      · exact h
      · next hne =>
        refine List.pairwise_cons.mpr ⟨fun z hz => ?_, ih hys⟩
        rcases mem_insertSorted.mp hz with rfl | hz
        · exact lt_of_not_lt_of_ne hnlt hne
        · exact hy z hz

/-- The set with one more member. -/
def insert (s : TextSet) (x : String) : TextSet :=
  { toList := insertSorted x s.toList, ascending := pairwise_insertSorted s.ascending }

def insertMany (s : TextSet) (l : List String) : TextSet := l.foldl insert s

def ofList (l : List String) : TextSet := empty.insertMany l

instance : Membership String TextSet := ⟨fun s x => x ∈ s.toList⟩

theorem mem_insert {s : TextSet} {x z : String} : z ∈ s.insert x ↔ z = x ∨ z ∈ s :=
  mem_insertSorted

@[simp] theorem not_mem_empty {z : String} : ¬ z ∈ empty := List.not_mem_nil

@[simp] theorem mem_toList {s : TextSet} {z : String} : z ∈ s.toList ↔ z ∈ s := Iff.rfl

@[simp] theorem mem_insertMany {s : TextSet} {l : List String} {z : String} :
    z ∈ s.insertMany l ↔ z ∈ s ∨ z ∈ l := by
  induction l generalizing s with
  | nil => simp [insertMany]
  | cons x l ih =>
    rw [insertMany, List.foldl_cons, ← insertMany, ih, mem_insert, List.mem_cons]
    exact or_assoc.trans or_left_comm

@[simp] theorem mem_ofList {l : List String} {z : String} : z ∈ ofList l ↔ z ∈ l := by
  simp [ofList]

end TextSet

end Gatehouse

import Gatehouse.Proofs.JsonText

/-!
# What is written is JSON on one line

The text of every value is a JSON text (`isJson_chars`), whatever characters the texts in it have,
and it is free of the controls below the space, line breaks among them (`noControls_chars`).
-/

namespace Gatehouse.Json

open Text Encoding

/-! ## Induction over values -/

/-- Arrays and objects get a property from their parts, and the other values have it. -/
structure FromParts (P : Value → Prop) : Prop where
  null : P .null
  bool : ∀ b, P (.bool b)
  number : ∀ n, P (.number n)
  text : ∀ s, P (.text s)
  array : ∀ items, (∀ v ∈ items, P v) → P (.array items)
  object : ∀ members, (∀ m ∈ members, P m.2) → P (.object members)

namespace FromParts

variable {P : Value → Prop}

mutual

theorem holds (h : FromParts P) : (v : Value) → P v
  | .null => h.null
  | .bool b => h.bool b
  | .number n => h.number n
  | .text s => h.text s
  | .array items => h.array items (h.holds_items items)
  | .object members => h.object members (h.holds_members members)

theorem holds_items (h : FromParts P) : (items : List Value) → ∀ v ∈ items, P v
  | [] => nofun
  | v :: rest => List.forall_mem_cons.mpr ⟨h.holds v, h.holds_items rest⟩

theorem holds_members (h : FromParts P) : (members : List (String × Value)) → ∀ m ∈ members, P m.2
  | [] => nofun
  | (_, v) :: rest => List.forall_mem_cons.mpr ⟨h.holds v, h.holds_members rest⟩

end

end FromParts

theorem itemsChars_eq_map (items : List Value) : itemsChars items = items.map Value.chars := by
  induction items with
  | nil => rfl
  | cons v rest ih => rw [itemsChars, ih, List.map_cons]

theorem membersChars_eq_map (members : List (String × Value)) :
    membersChars members = members.map fun m => quote m.1 ++ ':' :: m.2.chars := by
  induction members with
  | nil => rfl
  | cons m rest ih =>
    rw [membersChars, ih, List.map_cons, List.append_assoc]
    rfl

/-! ## The grammar -/

theorem isNumber_toDigits (n : Nat) : IsNumber (Nat.toDigits 10 n) := by
  have hinteger : IsInteger (Nat.toDigits 10 n) := by
    by_cases hn : n = 0
    · rw [hn, Nat.toDigits_zero]
      exact .zero
    · obtain ⟨c, cs, hcs, hc⟩ := exists_toDigits_eq_cons hn
      have hdigits := digits_toDigits n
      rw [hcs] at hdigits ⊢
      exact .digits hc hdigits
  have hnumber := IsNumber.intro (Or.inl rfl) hinteger .none .none
  rwa [List.nil_append, List.append_nil, List.append_nil] at hnumber

theorem isJson_array {items : List Value} (h : ∀ v ∈ items, IsJson v.chars) :
    IsJson (Value.array items).chars := by
  rw [Value.chars, itemsChars_eq_map]
  cases items with
  | nil =>
    have hblank : Blank (commaSeparated []) := nofun
    exact .emptyArray hblank
  | cons v rest =>
    refine .array (List.cons_ne_nil _ _) ?_
    rw [List.forall_mem_map]
    exact h

theorem isJson_object {members : List (String × Value)} (h : ∀ m ∈ members, IsJson m.2.chars) :
    IsJson (Value.object members).chars := by
  rw [Value.chars, membersChars_eq_map]
  cases members with
  | nil =>
    have hblank : Blank (commaSeparated []) := nofun
    exact .emptyObject hblank
  | cons m rest =>
    rw [← Function.comp_def (fun p : List Char × List Char => p.1 ++ ':' :: p.2)
      fun m : String × Value => (quote m.1, m.2.chars), ← List.map_map]
    refine .object (List.cons_ne_nil _ _) ?_ ?_
    · rw [List.forall_mem_map]
      exact fun m _ => ⟨_, isKey_quote m.1⟩
    · rw [List.forall_mem_map]
      exact h

/-- What is written for a value is a JSON text. -/
theorem isJson_chars (v : Value) : IsJson v.chars := by
  have hparts : FromParts fun v => IsJson v.chars :=
    { null := .null
      bool := fun b => match b with
        | true => .true
        | false => .false
      number := fun n => .number (isNumber_toDigits n)
      text := fun s => .text (isLiteral_quote s)
      array := fun _ => isJson_array
      object := fun _ => isJson_object }
  exact hparts.holds v

/-! ## Controls -/

/-- There is no control below the space among some characters. -/
def NoControls (cs : List Char) : Prop := ∀ c ∈ cs, 0x20 ≤ c.toNat

instance : DecidablePred NoControls := fun cs =>
  decidable_of_iff (cs.all (fun c => decide (0x20 ≤ c.toNat)) = true) (by simp [NoControls])

theorem NoControls.append {cs ds : List Char} (hcs : NoControls cs) (hds : NoControls ds) :
    NoControls (cs ++ ds) :=
  List.forall_mem_append.mpr ⟨hcs, hds⟩

theorem noControls_hexDigits (count n : Nat) : NoControls (hexDigits count n) := by
  have hdigit : ∀ d < 16, 0x20 ≤ (hexDigit d).toNat := by decide
  intro c hc
  obtain ⟨d, hd, rfl⟩ := exists_of_mem_hexDigits hc
  exact hdigit d hd

/-- A control is written with its short escape or with its number. -/
theorem noControls_escapeChar (c : Char) : NoControls (escapeChar c) := by
  unfold escapeChar
  split
  case h_8 =>
    split
    · exact NoControls.append (by decide) (noControls_hexDigits 4 c.toNat)
    · next hcontrol => exact List.forall_mem_singleton.mpr (Nat.le_of_not_lt hcontrol)
  all_goals decide

theorem noControls_quote (s : String) : NoControls (quote s) := by
  have hmark : NoControls ['"'] := by decide
  refine (hmark.append ?_).append hmark
  intro c hc
  obtain ⟨d, -, hd⟩ := List.mem_flatMap.mp hc
  exact noControls_escapeChar d c hd

theorem noControls_commaSeparated {parts : List (List Char)} (h : ∀ part ∈ parts, NoControls part) :
    NoControls (commaSeparated parts) := by
  cases parts with
  | nil => nofun
  | cons part parts =>
    rw [commaSeparated_cons]
    obtain ⟨hpart, hparts⟩ := List.forall_mem_cons.mp h
    refine hpart.append ?_
    intro c hc
    obtain ⟨part', hmem, hc⟩ := List.mem_flatMap.mp hc
    rcases List.mem_cons.mp hc with rfl | hc
    · decide
    · exact hparts part' hmem c hc

theorem noControls_toDigits (n : Nat) : NoControls (Nat.toDigits 10 n) := by
  intro c hc
  have hdigit := (digits_toDigits n).2 c hc
  simp only [isDigit, Bool.and_eq_true, decide_eq_true_eq, Char.le_def] at hdigit
  exact Nat.le_trans (by decide) hdigit.1

theorem noControls_array {items : List Value} (h : ∀ v ∈ items, NoControls v.chars) :
    NoControls (Value.array items).chars := by
  have hopen : NoControls ['['] := by decide
  have hclose : NoControls [']'] := by decide
  rw [Value.chars, itemsChars_eq_map]
  refine (hopen.append (noControls_commaSeparated ?_)).append hclose
  rw [List.forall_mem_map]
  exact h

theorem noControls_object {members : List (String × Value)}
    (h : ∀ m ∈ members, NoControls m.2.chars) : NoControls (Value.object members).chars := by
  have hopen : NoControls ['\x7b'] := by decide
  have hclose : NoControls ['\x7d'] := by decide
  have hcolon : NoControls [':'] := by decide
  rw [Value.chars, membersChars_eq_map]
  refine (hopen.append (noControls_commaSeparated ?_)).append hclose
  rw [List.forall_mem_map]
  intro m hm
  rw [List.append_cons]
  exact ((noControls_quote m.1).append hcolon).append (h m hm)

/-- What is written for a value has no controls in it. -/
theorem noControls_chars (v : Value) : NoControls v.chars := by
  have hparts : FromParts fun v => NoControls v.chars :=
    { null := by decide
      bool := fun b => by cases b <;> decide
      number := noControls_toDigits
      text := noControls_quote
      array := fun _ => noControls_array
      object := fun _ => noControls_object }
  exact hparts.holds v

end Gatehouse.Json

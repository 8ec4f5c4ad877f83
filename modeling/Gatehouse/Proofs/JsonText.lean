import Gatehouse.Json.Decode
import Gatehouse.Json.Value
import Gatehouse.Proofs.Except
import Gatehouse.Proofs.Runs
import Gatehouse.Proofs.Uuid
import Mathlib.Data.List.DropRight
import Mathlib.Data.List.Forall2

/-!
# JSON texts are read as what they say

The grammar of JSON texts (`IsJson`), with blanks between tokens and with every way to write a
number or a text. The reader takes any such text to its end and finds nothing wrong with its form
(`IsJson.reads`), and a value that was written is read as that value (`reads_chars`). After a flaw
nothing is left of a text, so that an object that was read up to its brace holds none
(`skip_of_read`).
-/

namespace Gatehouse.Json

open Text Encoding

/-! ## The grammar -/

def Blank (cs : List Char) : Prop := ∀ c ∈ cs, isSpace c = true

def Digits (cs : List Char) : Prop := cs ≠ [] ∧ ∀ c ∈ cs, isDigit c = true

/-- One part of a text literal and a way to write it: a character that stands for itself, a short
escape, or a code unit in hexadecimal digits. -/
inductive Glyph : Symbol → List Char → Prop
  | plain {c : Char} (quote : c ≠ '"') (backslash : c ≠ '\\') (control : ¬ c.toNat < 0x20) :
      Glyph (.char c) [c]
  | short {e c : Char} (escape : shortEscape? e = some c) : Glyph (.char c) ['\\', e]
  | unit {a b c d : Char} {n : Nat} (digits : hexNumber? [a, b, c, d] = some n) :
      Glyph (.ofUnit n) ['\\', 'u', a, b, c, d]

/-- A text literal with its quotes. -/
inductive IsLiteral : List Symbol → List Char → Prop
  | intro {symbols : List Symbol} {parts : List (List Char)}
      (glyphs : List.Forall₂ Glyph symbols parts) :
      IsLiteral symbols ('"' :: (parts.flatten ++ ['"']))

inductive IsInteger : List Char → Prop
  | zero : IsInteger ['0']
  | digits {c : Char} {cs : List Char} (first : c ≠ '0') (all : Digits (c :: cs)) :
      IsInteger (c :: cs)

inductive IsFraction : List Char → Prop
  | none : IsFraction []
  | digits {cs : List Char} (all : Digits cs) : IsFraction ('.' :: cs)

inductive IsExponent : List Char → Prop
  | none : IsExponent []
  | digits {e : Char} {sign cs : List Char} (letter : e = 'e' ∨ e = 'E')
      (signed : sign = [] ∨ sign = ['+'] ∨ sign = ['-']) (all : Digits cs) :
      IsExponent (e :: (sign ++ cs))

inductive IsNumber : List Char → Prop
  | intro {sign integer fraction exponent : List Char} (signed : sign = [] ∨ sign = ['-'])
      (integral : IsInteger integer) (fractional : IsFraction fraction)
      (scaled : IsExponent exponent) : IsNumber (sign ++ (integer ++ (fraction ++ exponent)))

/-- The text of an object with members in order, each with its key and its colon. -/
def objectText (members : List (List Char)) : List Char :=
  '\x7b' :: (commaSeparated members ++ ['\x7d'])

/-- The key of a member, with the blanks around it. -/
inductive IsKey (symbols : List Symbol) : List Char → Prop
  | intro {before literal after : List Char} (leading : Blank before)
      (literally : IsLiteral symbols literal) (trailing : Blank after) :
      IsKey symbols (before ++ (literal ++ after))

/-- A JSON text, with any blanks around it. -/
inductive IsJson : List Char → Prop
  | null : IsJson "null".toList
  | true : IsJson "true".toList
  | false : IsJson "false".toList
  | number {cs : List Char} (number : IsNumber cs) : IsJson cs
  | text {symbols : List Symbol} {cs : List Char} (literal : IsLiteral symbols cs) : IsJson cs
  | emptyArray {blanks : List Char} (blank : Blank blanks) : IsJson ('[' :: (blanks ++ [']']))
  | array {items : List (List Char)} (some : items ≠ []) (json : ∀ item ∈ items, IsJson item) :
      IsJson ('[' :: (commaSeparated items ++ [']']))
  | emptyObject {blanks : List Char} (blank : Blank blanks) :
      IsJson ('\x7b' :: (blanks ++ ['\x7d']))
  | object {members : List (List Char × List Char)} (some : members ≠ [])
      (keys : ∀ m ∈ members, ∃ symbols, IsKey symbols m.1) (json : ∀ m ∈ members, IsJson m.2) :
      IsJson (objectText (members.map fun m => m.1 ++ ':' :: m.2))
  | spaced {before cs after : List Char} (leading : Blank before) (json : IsJson cs)
      (trailing : Blank after) : IsJson (before ++ (cs ++ after))

/-! ## Blanks -/

theorem skipSpaces_append {blanks : List Char} (h : Blank blanks) (cs : List Char) :
    skipSpaces (blanks ++ cs) = skipSpaces cs := by
  unfold skipSpaces
  rw [List.dropWhile_append_of_pos h]

theorem skipSpaces_cons {c : Char} (h : isSpace c = false) (cs : List Char) :
    skipSpaces (c :: cs) = c :: cs := by
  unfold skipSpaces
  rw [List.dropWhile_cons_of_neg (by simp [h])]

theorem skipSpaces_skipSpaces (cs : List Char) : skipSpaces (skipSpaces cs) = skipSpaces cs := by
  unfold skipSpaces
  exact List.dropWhile_idempotent ..

/-- A value ends where something else than more of it follows. -/
def Stops (rest : List Char) : Prop :=
  ∀ c ∈ rest.head?, isSpace c = true ∨ c = ',' ∨ c = ']' ∨ c = '\x7d'

theorem Stops.append {blanks rest : List Char} (h : Stops rest) (hblank : Blank blanks) :
    Stops (blanks ++ rest) := by
  cases blanks with
  | nil => exact h
  | cons c blanks =>
    intro c' hc'
    have hsame : c = c' := by simpa using hc'
    exact Or.inl (hsame ▸ hblank c List.mem_cons_self)

theorem isDigit_of_stops {rest : List Char} (h : Stops rest) :
    ∀ c ∈ rest.head?, isDigit c = false := by
  intro c hc
  rcases h c hc with hspace | rfl | rfl | rfl
  · simp only [isSpace, Bool.or_eq_true, beq_iff_eq] at hspace
    rcases hspace with ((rfl | rfl) | rfl) | rfl <;> decide
  all_goals decide

/-! ## Text literals -/

theorem literal_of_glyph {s : Symbol} {part : List Char} (h : Glyph s part) (rest : List Char) :
    literal (part ++ rest) = (literal rest).cons s := by
  cases h with
  | plain quote backslash control =>
    rw [List.singleton_append, literal]
    · rw [if_neg control]
    all_goals simp_all
  | @short e c escape =>
    have hu : e ≠ 'u' := by
      rintro rfl
      cases escape
    simp only [List.cons_append, List.nil_append]
    rw [literal]
    · rw [escape]
    all_goals simp_all
  | unit digits =>
    simp only [List.cons_append, List.nil_append]
    rw [literal, digits]

theorem literal_of_glyphs {symbols : List Symbol} {parts : List (List Char)}
    (h : List.Forall₂ Glyph symbols parts) (rest : List Char) :
    literal (parts.flatten ++ '"' :: rest) = ⟨symbols, none, rest⟩ := by
  induction h with
  | nil => rfl
  | @cons s part symbols parts hglyph _ ih =>
    rw [List.flatten_cons, List.append_assoc, literal_of_glyph hglyph, ih]
    rfl

/-- Every character that is written is one part of a text. -/
theorem glyph_escapeChar (c : Char) : Glyph (.char c) (escapeChar c) := by
  unfold escapeChar
  split
  · exact .short rfl
  · exact .short rfl
  · exact .short rfl
  · exact .short rfl
  · exact .short rfl
  · exact .short rfl
  · exact .short rfl
  · split
    · next hcontrol =>
      have hunit : Symbol.ofUnit c.toNat = .char c := by
        unfold Symbol.ofUnit
        rw [if_neg (by simp only [Bool.and_eq_true, decide_eq_true_eq]; omega), Char.ofNat_toNat]
      have hdigits : hexNumber? (hexDigits 4 c.toNat) = some c.toNat := by
        rw [hexNumber?_hexDigits, Nat.mod_eq_of_lt (by omega)]
      rw [← hunit]
      exact .unit hdigits
    · next hquote hbackslash _ _ _ _ _ hcontrol => exact .plain hquote hbackslash hcontrol

theorem isLiteral_quote (s : String) : IsLiteral (s.toList.map .char) (quote s) := by
  have hglyphs : List.Forall₂ Glyph (s.toList.map .char) (s.toList.map escapeChar) := by
    rw [List.forall₂_map_left_iff, List.forall₂_map_right_iff, List.forall₂_same]
    intro c _
    exact glyph_escapeChar c
  have hquote := IsLiteral.intro hglyphs
  rw [← List.flatMap_def] at hquote
  exact hquote

theorem isKey_quote (s : String) : IsKey (s.toList.map .char) (quote s) := by
  have hblank : Blank [] := by simp [Blank]
  simpa using IsKey.intro hblank (isLiteral_quote s) hblank

theorem joinSymbols_map_char (cs : List Char) : joinSymbols none (cs.map .char) = .ok cs := by
  induction cs with
  | nil => rfl
  | cons c cs ih =>
    rw [List.map_cons, joinSymbols, ih]
    rfl

/-! ## Numbers -/

theorem ne_of_isDigit {c d : Char} (hc : isDigit c = true) (hd : isDigit d = false) : c ≠ d := by
  rintro rfl
  rw [hd] at hc
  cases hc

theorem exponent_reads {sign cs : List Char} (hsign : sign = [] ∨ sign = ['+'] ∨ sign = ['-'])
    (hcs : Digits cs) :
    ∃ n, ∀ rest, (∀ c ∈ rest.head?, isDigit c = false) →
      exponent (sign ++ (cs ++ rest)) = .ok (n, rest) := by
  rcases hsign with rfl | rfl | rfl
  · refine ⟨appendDigits 0 cs, ?_⟩
    intro rest hrest
    have htake := takeWhile_append_of_stops hcs.2 hrest
    have hdrop := dropWhile_append_of_stops hcs.2 hrest
    obtain ⟨c, cs, rfl⟩ := List.exists_cons_of_ne_nil hcs.1
    have hc := hcs.2 c List.mem_cons_self
    have hplus : c ≠ '+' := ne_of_isDigit hc (by decide)
    have hminus : c ≠ '-' := ne_of_isDigit hc (by decide)
    simp only [List.cons_append] at htake hdrop
    simp [exponent, hplus, hminus, htake, hdrop]
  · refine ⟨appendDigits 0 cs, ?_⟩
    intro rest hrest
    simp [exponent, hcs.1, takeWhile_append_of_stops hcs.2 hrest,
      dropWhile_append_of_stops hcs.2 hrest]
  · refine ⟨-appendDigits 0 cs, ?_⟩
    intro rest hrest
    simp [exponent, hcs.1, takeWhile_append_of_stops hcs.2 hrest,
      dropWhile_append_of_stops hcs.2 hrest]

theorem ne_of_stops {c d : Char} {rest : List Char} (h : Stops (c :: rest))
    (hd : ¬ (isSpace d = true ∨ d = ',' ∨ d = ']' ∨ d = '\x7d')) : c ≠ d := by
  rintro rfl
  exact hd (h c rfl)

theorem afterInteger_of_stops {rest : List Char} (h : Stops rest) (negative : Bool) (n : Nat) :
    afterInteger negative n rest = .ok (⟨negative, n, 0, true⟩, rest) := by
  cases rest with
  | nil => rfl
  | cons c rest =>
    have hpoint : c ≠ '.' := ne_of_stops h (by decide)
    have hlower : c ≠ 'e' := ne_of_stops h (by decide)
    have hupper : c ≠ 'E' := ne_of_stops h (by decide)
    simp [afterInteger, hpoint, hlower, hupper]

theorem isDigit_of_exponent {cs rest : List Char} (h : IsExponent cs) (hrest : Stops rest) :
    ∀ c ∈ (cs ++ rest).head?, isDigit c = false := by
  cases h with
  | none => exact isDigit_of_stops hrest
  | @digits e sign cs letter signed all =>
    intro c hc
    have hc : e = c := by simpa using hc
    rcases letter with rfl | rfl
    · rw [← hc]
      decide
    · rw [← hc]
      decide

/-- Whatever follows the integer digits is read to the end of the number. -/
theorem afterInteger_reads {fraction scale : List Char} (hfraction : IsFraction fraction)
    (hscale : IsExponent scale) (negative : Bool) (n : Nat) :
    ∃ m, ∀ rest, Stops rest →
      afterInteger negative n (fraction ++ (scale ++ rest)) = .ok (m, rest) := by
  cases hfraction with
  | none =>
    cases hscale with
    | none => exact ⟨_, fun rest hrest => afterInteger_of_stops hrest negative n⟩
    | digits letter signed all =>
      obtain ⟨e, he⟩ := exponent_reads signed all
      refine ⟨⟨negative, n, e, false⟩, ?_⟩
      intro rest hrest
      have hread := he rest (isDigit_of_stops hrest)
      rcases letter with rfl | rfl
      · simp [afterInteger, hread, Except.map]
      · simp [afterInteger, hread, Except.map]
  | @digits cs all =>
    cases hscale with
    | none =>
      refine ⟨⟨negative, appendDigits n cs, -cs.length, false⟩, ?_⟩
      intro rest hrest
      have htake := takeWhile_append_of_stops all.2 (isDigit_of_stops hrest)
      have hdrop := dropWhile_append_of_stops all.2 (isDigit_of_stops hrest)
      cases rest with
      | nil =>
        simp only [List.append_nil] at htake hdrop
        simp [afterInteger, htake, hdrop, all.1]
      | cons c rest =>
        have hlower : c ≠ 'e' := ne_of_stops hrest (by decide)
        have hupper : c ≠ 'E' := ne_of_stops hrest (by decide)
        simp [afterInteger, htake, hdrop, all.1, hlower, hupper]
    | digits letter signed all' =>
      obtain ⟨e, he⟩ := exponent_reads signed all'
      refine ⟨⟨negative, appendDigits n cs, e - cs.length, false⟩, ?_⟩
      intro rest hrest
      have hnext := isDigit_of_exponent (.digits letter signed all') hrest
      have htake := takeWhile_append_of_stops all.2 hnext
      have hdrop := dropWhile_append_of_stops all.2 hnext
      have hread := he rest (isDigit_of_stops hrest)
      rcases letter with rfl | rfl
      · simp only [List.cons_append, List.append_assoc] at htake hdrop ⊢
        simp [afterInteger, htake, hdrop, all.1, hread, Except.map]
      · simp only [List.cons_append, List.append_assoc] at htake hdrop ⊢
        simp [afterInteger, htake, hdrop, all.1, hread, Except.map]

theorem isDigit_of_fraction {fraction scale rest : List Char} (hfraction : IsFraction fraction)
    (hscale : IsExponent scale) (hrest : Stops rest) :
    ∀ c ∈ (fraction ++ (scale ++ rest)).head?, isDigit c = false := by
  cases hfraction with
  | none =>
    rw [List.nil_append]
    exact isDigit_of_exponent hscale hrest
  | digits all =>
    intro c hc
    have hc : '.' = c := by simpa using hc
    rw [← hc]
    decide

theorem magnitude_zero {rest : List Char} (hrest : ∀ c ∈ rest.head?, isDigit c = false)
    (negative : Bool) : magnitude negative ('0' :: rest) = afterInteger negative 0 rest := by
  cases rest with
  | nil => rfl
  | cons c rest => simp [magnitude, hrest c rfl]

theorem magnitude_digits {c : Char} {cs rest : List Char} (hfirst : c ≠ '0')
    (hcs : Digits (c :: cs)) (hrest : ∀ c ∈ rest.head?, isDigit c = false) (negative : Bool) :
    magnitude negative (c :: cs ++ rest) =
      afterInteger negative (appendDigits 0 (c :: cs)) rest := by
  have htake := takeWhile_append_of_stops hcs.2 hrest
  have hdrop := dropWhile_append_of_stops hcs.2 hrest
  simp only [List.cons_append] at htake hdrop ⊢
  simp [magnitude, hfirst, htake, hdrop]

theorem magnitude_reads {integer fraction scale : List Char} (hinteger : IsInteger integer)
    (hfraction : IsFraction fraction) (hscale : IsExponent scale) (negative : Bool) :
    ∃ m, ∀ rest, Stops rest →
      magnitude negative (integer ++ (fraction ++ (scale ++ rest))) = .ok (m, rest) := by
  cases hinteger with
  | zero =>
    obtain ⟨m, hm⟩ := afterInteger_reads hfraction hscale negative 0
    refine ⟨m, ?_⟩
    intro rest hrest
    rw [List.singleton_append, magnitude_zero (isDigit_of_fraction hfraction hscale hrest)]
    exact hm rest hrest
  | @digits c cs first all =>
    obtain ⟨m, hm⟩ := afterInteger_reads hfraction hscale negative (appendDigits 0 (c :: cs))
    refine ⟨m, ?_⟩
    intro rest hrest
    rw [magnitude_digits first all (isDigit_of_fraction hfraction hscale hrest)]
    exact hm rest hrest

/-! ## Values -/

/-- A text is read into a draft, with fuel enough for its characters, wherever a value may end after
it; blanks at its end may be left. -/
structure Reads (cs : List Char) (d : Draft) : Prop where
  opens : ∃ c r, skipSpaces cs = c :: r ∧ c ≠ ']'
  value_eq : ∀ fuel rest, 3 * cs.length ≤ fuel → Stops rest →
    ∃ blanks, Blank blanks ∧ value fuel (cs ++ rest) = (d, blanks ++ rest)

theorem skipSpaces_append_of_cons {c : Char} {cs r : List Char} (h : skipSpaces cs = c :: r)
    (rest : List Char) : skipSpaces (cs ++ rest) = c :: (r ++ rest) := by
  unfold skipSpaces at *
  rw [List.dropWhile_append, h]
  rfl

section Blanks

attribute [local simp] value firstItem moreItems member firstMember moreMembers skipSpaces_skipSpaces

theorem value_skipSpaces (fuel : Nat) (cs : List Char) :
    value fuel (skipSpaces cs) = value fuel cs := by
  cases fuel with
  | zero => simp
  | succ fuel => simp

theorem member_skipSpaces (afterComma : Bool) (fuel : Nat) (cs : List Char) :
    member afterComma fuel (skipSpaces cs) = member afterComma fuel cs := by
  cases fuel with
  | zero => simp
  | succ fuel => simp

end Blanks

theorem length_pos_of_skipSpaces {c : Char} {cs r : List Char} (h : skipSpaces cs = c :: r) :
    0 < cs.length := by
  rw [List.length_pos_iff]
  rintro rfl
  cases h

/-- A text that starts with no blank is read as it stands. -/
theorem reads_of_value {c : Char} {cs : List Char} {d : Draft} (hspace : isSpace c = false)
    (hbracket : c ≠ ']')
    (h : ∀ fuel rest, 3 * cs.length ≤ fuel → Stops rest →
      value (fuel + 1) (c :: (cs ++ rest)) = (d, rest)) : Reads (c :: cs) d := by
  refine ⟨⟨c, cs, skipSpaces_cons hspace cs, hbracket⟩, ?_⟩
  intro fuel rest hfuel hrest
  cases fuel with
  | zero => simp at hfuel
  | succ fuel =>
    rw [List.length_cons] at hfuel
    exact ⟨[], by simp [Blank], h fuel rest (by omega) hrest⟩

theorem reads_null : Reads "null".toList .null := by
  refine reads_of_value (by decide) (by decide) ?_
  intro fuel rest _ _
  rw [value, skipSpaces_cons (by decide)]
  rfl

theorem reads_true : Reads "true".toList (.bool true) := by
  refine reads_of_value (by decide) (by decide) ?_
  intro fuel rest _ _
  rw [value, skipSpaces_cons (by decide)]
  rfl

theorem reads_false : Reads "false".toList (.bool false) := by
  refine reads_of_value (by decide) (by decide) ?_
  intro fuel rest _ _
  rw [value, skipSpaces_cons (by decide)]
  rfl

theorem isSpace_of_isDigit {c : Char} (hc : isDigit c = true) : isSpace c = false := by
  unfold isSpace
  simp [ne_of_isDigit hc (by decide : isDigit ' ' = false),
    ne_of_isDigit hc (by decide : isDigit '\n' = false),
    ne_of_isDigit hc (by decide : isDigit '\t' = false),
    ne_of_isDigit hc (by decide : isDigit '\r' = false)]

theorem value_digit {c : Char} (hc : isDigit c = true) (fuel : Nat) (rest : List Char) :
    value (fuel + 1) (c :: rest) = numberDraft (magnitude false (c :: rest)) := by
  rw [value, skipSpaces_cons (isSpace_of_isDigit hc)]
  simp [hc, ne_of_isDigit hc (by decide : isDigit 'n' = false),
    ne_of_isDigit hc (by decide : isDigit 't' = false),
    ne_of_isDigit hc (by decide : isDigit 'f' = false),
    ne_of_isDigit hc (by decide : isDigit '-' = false),
    ne_of_isDigit hc (by decide : isDigit '"' = false),
    ne_of_isDigit hc (by decide : isDigit '[' = false),
    ne_of_isDigit hc (by decide : isDigit '\x7b' = false)]

theorem reads_text {symbols : List Symbol} {cs : List Char} (h : IsLiteral symbols cs) :
    Reads cs (.text ((joinSymbols none symbols).map String.ofList) none) := by
  obtain ⟨hglyphs⟩ := h
  refine reads_of_value (by decide) (by decide) ?_
  intro fuel rest _ _
  rw [value, skipSpaces_cons (by decide)]
  simp only [List.append_assoc, List.singleton_append, literal_of_glyphs hglyphs]
  rfl

theorem Reads.spaced {before cs after : List Char} {d : Draft} (h : Reads cs d)
    (hbefore : Blank before) (hafter : Blank after) : Reads (before ++ (cs ++ after)) d := by
  obtain ⟨⟨c, r, hopens, hbracket⟩, hvalue⟩ := h
  constructor
  · refine ⟨c, r ++ after, ?_, hbracket⟩
    rw [skipSpaces_append hbefore, skipSpaces_append_of_cons hopens]
  · intro fuel rest hfuel hrest
    simp only [List.length_append] at hfuel
    obtain ⟨blanks, hblanks, hread⟩ := hvalue fuel (after ++ rest) (by omega) (hrest.append hafter)
    refine ⟨blanks ++ after, ?_, ?_⟩
    · intro c hc
      rcases List.mem_append.mp hc with hc | hc
      · exact hblanks c hc
      · exact hafter c hc
    · rw [← value_skipSpaces, List.append_assoc, skipSpaces_append hbefore, value_skipSpaces,
        List.append_assoc, hread, List.append_assoc]

/-! ## Arrays -/

theorem commaSeparated_cons (t : List Char) (ts : List (List Char)) :
    commaSeparated (t :: ts) = t ++ ts.flatMap (',' :: ·) := by
  induction ts generalizing t with
  | nil => simp [commaSeparated]
  | cons t' ts ih =>
    rw [commaSeparated, ih]
    simp

theorem stops_more {ts : List (List Char)} {close : Char} (hclose : close = ']' ∨ close = '\x7d')
    (rest : List Char) : Stops (ts.flatMap (',' :: ·) ++ close :: rest) := by
  intro c hc
  cases ts with
  | nil =>
    have hc : close = c := by simpa using hc
    rw [← hc]
    rcases hclose with rfl | rfl
    · exact Or.inr (Or.inr (Or.inl rfl))
    · exact Or.inr (Or.inr (Or.inr rfl))
  | cons t ts =>
    have hc : ',' = c := by simpa using hc
    exact Or.inr (Or.inl hc.symm)

theorem moreItems_reads {ts : List (List Char)} {ds : List Draft} (h : List.Forall₂ Reads ts ds)
    {fuel : Nat} {blanks rest : List Char} (hblanks : Blank blanks)
    (hfuel : 3 * ((ts.flatMap (',' :: ·)).length + 1) ≤ fuel) :
    moreItems fuel (blanks ++ (ts.flatMap (',' :: ·) ++ ']' :: rest)) = (ds, none, rest) := by
  induction h generalizing fuel blanks with
  | nil =>
    cases fuel with
    | zero => simp at hfuel
    | succ fuel =>
      rw [moreItems, skipSpaces_append hblanks, List.flatMap_nil, List.nil_append,
        skipSpaces_cons (by decide)]
      rfl
  | @cons t d ts ds hd hds ih =>
    cases fuel with
    | zero => simp at hfuel
    | succ fuel =>
      simp only [List.flatMap_cons, List.length_append, List.length_cons] at hfuel
      obtain ⟨blanks', hblanks', hread⟩ := hd.value_eq fuel
        (ts.flatMap (',' :: ·) ++ ']' :: rest) (by omega) (stops_more (Or.inl rfl) rest)
      rw [moreItems, skipSpaces_append hblanks, List.flatMap_cons, List.cons_append,
        List.cons_append, skipSpaces_cons (by decide), List.append_assoc]
      simp only [hread, ih hblanks' (by omega : _ ≤ fuel)]

theorem reads_emptyArray {blanks : List Char} (h : Blank blanks) :
    Reads ('[' :: (blanks ++ [']'])) (.array [] none) := by
  refine reads_of_value (by decide) (by decide) ?_
  intro fuel rest hfuel _
  rw [value, skipSpaces_cons (by decide)]
  cases fuel with
  | zero => simp at hfuel
  | succ fuel =>
    simp [firstItem, skipSpaces_append h, skipSpaces_cons (by decide : isSpace ']' = false)]

theorem reads_array {ts : List (List Char)} {ds : List Draft} (h : List.Forall₂ Reads ts ds) :
    Reads ('[' :: (commaSeparated ts ++ [']'])) (.array ds none) := by
  cases h with
  | nil => exact reads_emptyArray (by simp [Blank, commaSeparated])
  | @cons t d ts ds hd hds =>
    refine reads_of_value (by decide) (by decide) ?_
    intro fuel rest hfuel _
    rw [value, skipSpaces_cons (by decide)]
    cases fuel with
    | zero => simp at hfuel
    | succ fuel =>
      rw [commaSeparated_cons] at hfuel ⊢
      simp only [List.length_append, List.length_cons, List.length_nil] at hfuel
      obtain ⟨c, r, hopens, hbracket⟩ := hd.opens
      obtain ⟨blanks, hblanks, hread⟩ := hd.value_eq fuel
        (ts.flatMap (',' :: ·) ++ ']' :: rest) (by omega) (stops_more (Or.inl rfl) rest)
      have hpos := length_pos_of_skipSpaces hopens
      have hskip := skipSpaces_append_of_cons hopens (ts.flatMap (',' :: ·) ++ ']' :: rest)
      rw [← value_skipSpaces, hskip] at hread
      simp only [List.append_assoc, List.singleton_append]
      rw [firstItem, hskip]
      simp [hbracket, hread, moreItems_reads hds hblanks (by omega : _ ≤ fuel)]

/-! ## Objects -/

/-- The text of a member is read as a key and a draft. -/
inductive ReadsMember : List Char → Except Flaw String × Draft → Prop
  | intro {symbols : List Symbol} {name cs : List Char} {d : Draft} (key : IsKey symbols name)
      (value : Reads cs d) :
      ReadsMember (name ++ ':' :: cs) ((joinSymbols none symbols).map String.ofList, d)

variable {t : List Char} {m : Except Flaw String × Draft}

theorem ReadsMember.opens (h : ReadsMember t m) : ∃ r, skipSpaces t = '"' :: r := by
  obtain ⟨⟨hleading, ⟨hglyphs⟩, htrailing⟩, hvalue⟩ := h
  simp only [List.append_assoc, List.cons_append]
  rw [skipSpaces_append hleading, skipSpaces_cons (by decide)]
  exact ⟨_, rfl⟩

/-- A member is read up to the comma or brace after it. -/
theorem member_reads (h : ReadsMember t m) (afterComma : Bool) {fuel : Nat} {rest : List Char}
    (hfuel : 3 * t.length ≤ fuel) (hrest : Stops rest) :
    ∃ blanks, Blank blanks ∧ member afterComma (fuel + 1) (t ++ rest) =
      (m :: (moreMembers fuel (blanks ++ rest)).1, (moreMembers fuel (blanks ++ rest)).2) := by
  obtain ⟨⟨hleading, ⟨hglyphs⟩, htrailing⟩, hvalue⟩ := h
  simp only [List.length_append, List.length_cons] at hfuel
  obtain ⟨blanks, hblanks, hread⟩ := hvalue.value_eq fuel rest (by omega) hrest
  refine ⟨blanks, hblanks, ?_⟩
  simp only [List.append_assoc, List.cons_append, List.nil_append]
  rw [member, skipSpaces_append hleading, skipSpaces_cons (by decide)]
  simp [literal_of_glyphs hglyphs, Literal.content, skipSpaces_append htrailing,
    skipSpaces_cons (by decide : isSpace ':' = false), hread]

theorem moreMembers_reads {ts : List (List Char)} {ms : List (Except Flaw String × Draft)}
    (h : List.Forall₂ ReadsMember ts ms) {fuel : Nat} {blanks rest : List Char}
    (hblanks : Blank blanks) (hfuel : 3 * ((ts.flatMap (',' :: ·)).length + 1) ≤ fuel) :
    moreMembers fuel (blanks ++ (ts.flatMap (',' :: ·) ++ '\x7d' :: rest)) =
      (ms, .closed, rest) := by
  induction h generalizing fuel blanks with
  | nil =>
    cases fuel with
    | zero => simp at hfuel
    | succ fuel =>
      rw [moreMembers, skipSpaces_append hblanks, List.flatMap_nil, List.nil_append,
        skipSpaces_cons (by decide)]
      rfl
  | @cons t m ts ms hm hms ih =>
    simp only [List.flatMap_cons, List.length_append, List.length_cons] at hfuel
    obtain ⟨fuel, rfl⟩ : ∃ k, fuel = k + 2 := ⟨fuel - 2, by omega⟩
    have hstops : Stops (ts.flatMap (',' :: ·) ++ '\x7d' :: rest) := stops_more (Or.inr rfl) rest
    obtain ⟨blanks', hblanks', hread⟩ :=
      member_reads hm true (by omega : 3 * t.length ≤ fuel) hstops
    rw [moreMembers, skipSpaces_append hblanks, List.flatMap_cons, List.cons_append,
      List.cons_append, skipSpaces_cons (by decide), List.append_assoc]
    simp only [hread, ih hblanks' (by omega : _ ≤ fuel)]

theorem reads_emptyObject {blanks : List Char} (h : Blank blanks) :
    Reads ('\x7b' :: (blanks ++ ['\x7d'])) (.object [] .closed) := by
  refine reads_of_value (by decide) (by decide) ?_
  intro fuel rest hfuel _
  rw [value, skipSpaces_cons (by decide)]
  cases fuel with
  | zero => simp at hfuel
  | succ fuel =>
    simp [firstMember, skipSpaces_append h, skipSpaces_cons (by decide : isSpace '\x7d' = false)]

theorem reads_object {ts : List (List Char)} {ms : List (Except Flaw String × Draft)}
    (h : List.Forall₂ ReadsMember ts ms) : Reads (objectText ts) (.object ms .closed) := by
  cases h with
  | nil => exact reads_emptyObject (by simp [Blank, commaSeparated])
  | @cons t m ts ms hm hms =>
    refine reads_of_value (by decide) (by decide) ?_
    intro fuel rest hfuel _
    rw [value, skipSpaces_cons (by decide)]
    rw [commaSeparated_cons] at hfuel ⊢
    simp only [List.length_append, List.length_cons, List.length_nil] at hfuel
    obtain ⟨fuel, rfl⟩ : ∃ k, fuel = k + 2 := ⟨fuel - 2, by omega⟩
    obtain ⟨r, hopens⟩ := hm.opens
    have hpos := length_pos_of_skipSpaces hopens
    have hskip := skipSpaces_append_of_cons hopens (ts.flatMap (',' :: ·) ++ '\x7d' :: rest)
    have hstops : Stops (ts.flatMap (',' :: ·) ++ '\x7d' :: rest) := stops_more (Or.inr rfl) rest
    obtain ⟨blanks, hblanks, hread⟩ :=
      member_reads hm false (by omega : 3 * t.length ≤ fuel) hstops
    rw [← member_skipSpaces, hskip] at hread
    simp only [List.append_assoc, List.singleton_append]
    rw [firstMember, hskip]
    simp [hread, moreMembers_reads hms hblanks (by omega : _ ≤ fuel)]

/-! ## Any JSON text -/

theorem IsInteger.exists_digit {cs : List Char} (h : IsInteger cs) :
    ∃ c r, cs = c :: r ∧ isDigit c = true := by
  cases h with
  | zero => exact ⟨_, _, rfl, rfl⟩
  | digits _ all => exact ⟨_, _, rfl, all.2 _ List.mem_cons_self⟩

theorem IsNumber.reads {cs : List Char} (h : IsNumber cs) : ∃ n, Reads cs (.number n) := by
  obtain ⟨hsign, hinteger, hfraction, hscale⟩ := h
  rcases hsign with rfl | rfl
  · obtain ⟨m, hm⟩ := magnitude_reads hinteger hfraction hscale false
    obtain ⟨c, r, rfl, hc⟩ := hinteger.exists_digit
    refine ⟨m, reads_of_value (isSpace_of_isDigit hc) (ne_of_isDigit hc (by decide)) ?_⟩
    intro fuel rest _ hrest
    have hread := hm rest hrest
    rw [value_digit hc]
    simp only [List.append_eq, List.cons_append, List.append_assoc] at hread ⊢
    rw [hread]
    rfl
  · obtain ⟨m, hm⟩ := magnitude_reads hinteger hfraction hscale true
    refine ⟨m, reads_of_value (by decide) (by decide) ?_⟩
    intro fuel rest _ hrest
    have hread := hm rest hrest
    rw [value, skipSpaces_cons (by decide)]
    simp only [List.append_eq, List.nil_append, List.append_assoc] at hread ⊢
    rw [hread]
    rfl

theorem skipItems_eq_ok {ds : List Draft} (h : ∀ d ∈ ds, d.skip = .ok ()) :
    skipItems ds = .ok () := by
  induction ds with
  | nil => rfl
  | cons d ds ih =>
    rw [skipItems, h d List.mem_cons_self]
    exact ih fun d' hd' => h d' (List.mem_cons_of_mem d hd')

theorem skipMembers_eq_ok {ms : List (Except Flaw String × Draft)} :
    skipMembers ms = .ok () ↔ ∀ m ∈ ms, m.2.skip = .ok () := by
  induction ms with
  | nil => simp [skipMembers]
  | cons m ms ih =>
    rw [skipMembers, bind_eq_ok, List.forall_mem_cons, ih]
    constructor
    · rintro ⟨_, h⟩
      exact h
    · exact fun h => ⟨(), h⟩

theorem exists_forall₂ {α β : Type} {P : α → β → Prop} {Q : β → Prop} {l : List α}
    (h : ∀ a ∈ l, ∃ b, P a b ∧ Q b) : ∃ l', List.Forall₂ P l l' ∧ ∀ b ∈ l', Q b := by
  induction l with
  | nil => exact ⟨[], .nil, by simp⟩
  | cons a l ih =>
    obtain ⟨b, hb, hq⟩ := h a List.mem_cons_self
    obtain ⟨l', hl', hall⟩ := ih fun a' ha' => h a' (List.mem_cons_of_mem a ha')
    exact ⟨b :: l', .cons hb hl', List.forall_mem_cons.mpr ⟨hq, hall⟩⟩

/-- Any JSON text is read to its end, and can be passed over. -/
theorem IsJson.reads {cs : List Char} (h : IsJson cs) : ∃ d, Reads cs d ∧ d.skip = .ok () := by
  induction h with
  | null => exact ⟨_, reads_null, rfl⟩
  | true => exact ⟨_, reads_true, rfl⟩
  | false => exact ⟨_, reads_false, rfl⟩
  | number number =>
    obtain ⟨n, hn⟩ := number.reads
    exact ⟨_, hn, rfl⟩
  | text literal => exact ⟨_, reads_text literal, rfl⟩
  | emptyArray blank => exact ⟨_, reads_emptyArray blank, rfl⟩
  | @array items _ _ ih =>
    obtain ⟨ds, hds, hskip⟩ := exists_forall₂ ih
    refine ⟨_, reads_array hds, ?_⟩
    rw [Draft.skip, skipItems_eq_ok hskip]
    rfl
  | emptyObject blank => exact ⟨_, reads_emptyObject blank, rfl⟩
  | @object members _ keys _ ih =>
    have hmembers : ∀ m ∈ members, ∃ e : Except Flaw String × Draft,
        ReadsMember (m.1 ++ ':' :: m.2) e ∧ e.2.skip = .ok () := by
      intro m hm
      obtain ⟨symbols, hkey⟩ := keys m hm
      obtain ⟨d, hd, hskip⟩ := ih m hm
      exact ⟨_, .intro hkey hd, hskip⟩
    obtain ⟨ms, hms, hskip⟩ := exists_forall₂ hmembers
    refine ⟨_, reads_object (List.forall₂_map_left_iff.mpr hms), ?_⟩
    rw [Draft.skip, skipMembers_eq_ok.mpr hskip]
    rfl
  | spaced leading _ trailing ih =>
    obtain ⟨d, hd, hskip⟩ := ih
    exact ⟨d, hd.spaced leading trailing, hskip⟩

/-! ## What is left after a flaw -/

/-- A value was read whole, or nothing is left of the text and the value is no object with a brace
at its end. -/
def WholeValue (r : Draft × List Char) : Prop :=
  r.1.skip = .ok () ∨ (r.2 = [] ∧ ∀ ms, r.1 ≠ .object ms .closed)

/-- Items were read up to the bracket after them, or nothing is left of the text. -/
def WholeItems (r : List Draft × Option Flaw × List Char) : Prop :=
  (skipItems r.1 = .ok () ∧ r.2.1 = none) ∨ r.2.2 = []

/-- Members were read up to the brace after them, or there is none and nothing is left of the
text. -/
def WholeMembers (r : List (Except Flaw String × Draft) × ObjectEnd Draft × List Char) : Prop :=
  (skipMembers r.1 = .ok () ∧ r.2.1 = .closed) ∨ (r.2.2 = [] ∧ r.2.1 ≠ .closed)

theorem literal_ending_or_rest (cs : List Char) :
    (literal cs).ending = none ∨ (literal cs).rest = [] := by
  fun_induction literal cs <;> first | assumption | exact Or.inl rfl | exact Or.inr rfl

theorem wholeValue_word {d : Draft} (h : d.skip = .ok ()) (letters cs : List Char) :
    WholeValue (word d letters cs) := by
  fun_induction word d letters cs <;> simp_all [WholeValue]

theorem wholeValue_number (r : Except Flaw (Numeral × List Char)) :
    WholeValue (numberDraft r) := by
  cases r with
  | ok n => exact Or.inl rfl
  | error f => exact Or.inr ⟨rfl, nofun⟩

theorem moreItems_nil (fuel : Nat) : moreItems fuel [] = ([], some .truncated, []) := by
  cases fuel with
  | zero => rw [moreItems]
  | succ fuel =>
    rw [moreItems]
    rfl

theorem moreMembers_nil (fuel : Nat) :
    moreMembers fuel [] = ([], .flawed false .truncated, []) := by
  cases fuel with
  | zero => rw [moreMembers]
  | succ fuel =>
    rw [moreMembers]
    rfl

/-- One item is read after another only as long as each is whole. -/
theorem wholeItems_cons {fuel : Nat} {r : Draft × List Char} (hr : WholeValue r)
    (hmore : WholeItems (moreItems fuel r.2)) :
    WholeItems (r.1 :: (moreItems fuel r.2).1, (moreItems fuel r.2).2) := by
  rcases hmore with ⟨hitems, hending⟩ | hrest
  · rcases hr with hskip | ⟨hrest, -⟩
    · refine Or.inl ⟨?_, hending⟩
      rw [skipItems, hskip]
      exact hitems
    · rw [hrest, moreItems_nil] at hending
      cases hending
  · exact Or.inr hrest

theorem wholeMembers_cons {fuel : Nat} {r : Draft × List Char} (hr : WholeValue r)
    (hmore : WholeMembers (moreMembers fuel r.2)) (key : Except Flaw String) :
    WholeMembers ((key, r.1) :: (moreMembers fuel r.2).1, (moreMembers fuel r.2).2) := by
  rcases hmore with ⟨hmembers, hending⟩ | hrest
  · rcases hr with hskip | ⟨hrest, -⟩
    · refine Or.inl ⟨?_, hending⟩
      rw [skipMembers, hskip]
      exact hmembers
    · rw [hrest, moreMembers_nil] at hending
      cases hending
  · exact Or.inr hrest

/-- What is read with some fuel is whole, or nothing is left of the text. -/
structure ReadsWhole (fuel : Nat) : Prop where
  value : ∀ cs, WholeValue (value fuel cs)
  firstItem : ∀ cs, WholeItems (firstItem fuel cs)
  moreItems : ∀ cs, WholeItems (moreItems fuel cs)
  member : ∀ afterComma cs, WholeMembers (member afterComma fuel cs)
  firstMember : ∀ cs, WholeMembers (firstMember fuel cs)
  moreMembers : ∀ cs, WholeMembers (moreMembers fuel cs)

theorem ReadsWhole.value_succ {fuel : Nat} (h : ReadsWhole fuel) (cs : List Char) :
    WholeValue (Json.value (fuel + 1) cs) := by
  rw [Json.value]
  split
  · exact Or.inr ⟨rfl, nofun⟩
  · exact wholeValue_word rfl _ _
  · exact wholeValue_word rfl _ _
  · exact wholeValue_word rfl _ _
  · exact wholeValue_number _
  · next r _ =>
    rcases literal_ending_or_rest r with hending | hrest
    · left
      dsimp only
      rw [Draft.skip, hending]
      rfl
    · exact Or.inr ⟨hrest, nofun⟩
  · next r _ =>
    rcases h.firstItem r with ⟨hitems, hending⟩ | hrest
    · left
      dsimp only
      rw [Draft.skip, hitems, hending]
      rfl
    · exact Or.inr ⟨hrest, nofun⟩
  · next r _ =>
    rcases h.firstMember r with ⟨hmembers, hending⟩ | ⟨hrest, hending⟩
    · left
      dsimp only
      rw [Draft.skip, hmembers, hending]
      rfl
    · refine Or.inr ⟨hrest, ?_⟩
      intro ms heq
      exact hending (Draft.object.inj heq).2
  · split
    · exact wholeValue_number _
    · exact Or.inr ⟨rfl, nofun⟩

theorem ReadsWhole.member_succ {fuel : Nat} (h : ReadsWhole fuel) (afterComma : Bool)
    (cs : List Char) : WholeMembers (Json.member afterComma (fuel + 1) cs) := by
  rw [Json.member]
  split
  · exact Or.inr ⟨rfl, nofun⟩
  · dsimp only
    split
    · exact Or.inr ⟨rfl, nofun⟩
    · split
      · exact wholeMembers_cons (h.value _) (h.moreMembers _) _
      · exact Or.inr ⟨rfl, nofun⟩
      · exact Or.inr ⟨rfl, nofun⟩
  · exact Or.inr ⟨rfl, nofun⟩
  · exact Or.inr ⟨rfl, nofun⟩

theorem readsWhole (fuel : Nat) : ReadsWhole fuel := by
  induction fuel with
  | zero =>
    constructor <;>
      simp [value, firstItem, moreItems, member, firstMember, moreMembers, WholeValue, WholeItems,
        WholeMembers]
  | succ fuel ih =>
    refine ⟨ih.value_succ, ?_, ?_, ih.member_succ, ?_, ?_⟩
    · intro cs
      rw [firstItem]
      split
      · exact Or.inr rfl
      · exact Or.inl ⟨rfl, rfl⟩
      · exact wholeItems_cons (ih.value _) (ih.moreItems _)
    · intro cs
      rw [moreItems]
      split
      · exact Or.inr rfl
      · exact Or.inl ⟨rfl, rfl⟩
      · exact wholeItems_cons (ih.value _) (ih.moreItems _)
      · exact Or.inr rfl
    · intro cs
      rw [firstMember]
      split
      · exact Or.inl ⟨rfl, rfl⟩
      · exact ih.member _ _
    · intro cs
      rw [moreMembers]
      split
      · exact Or.inr ⟨rfl, nofun⟩
      · exact Or.inl ⟨rfl, rfl⟩
      · exact ih.member _ _
      · exact Or.inr ⟨rfl, nofun⟩

/-- The members of an object that was read up to its brace can all be passed over. -/
theorem skip_of_read {cs rest : List Char} {ms : List (Except Flaw String × Draft)}
    (h : read cs = (.object ms .closed, rest)) : ∀ m ∈ ms, m.2.skip = .ok () := by
  have hwhole : WholeValue (read cs) := (readsWhole _).value cs
  rw [h] at hwhole
  rcases hwhole with hskip | ⟨-, hopen⟩
  · dsimp only at hskip
    rw [Draft.skip] at hskip
    obtain ⟨_, hmembers, -⟩ := bind_eq_ok.mp hskip
    exact skipMembers_eq_ok.mp hmembers
  · exact absurd rfl (hopen ms)

/-! ## Written values -/

mutual

/-- What a written value is read as. -/
def Value.draft : Value → Draft
  | .null => .null
  | .bool b => .bool b
  | .number n => .number ⟨false, n, 0, true⟩
  | .text s => .text (.ok s) none
  | .array items => .array (itemsDrafts items) none
  | .object members => .object (membersDrafts members) .closed

/-- What each item is read as. -/
def itemsDrafts : List Value → List Draft
  | [] => []
  | v :: rest => v.draft :: itemsDrafts rest

/-- What each member is read as. -/
def membersDrafts : List (String × Value) → List (Except Flaw String × Draft)
  | [] => []
  | (k, v) :: rest => (.ok k, v.draft) :: membersDrafts rest

end

theorem digits_toDigits (n : Nat) : Digits (Nat.toDigits 10 n) := by
  refine ⟨Nat.toDigits_ne_nil, ?_⟩
  intro c hc
  have hdigit := Nat.isDigit_of_mem_toDigits (by decide) (by decide) hc
  simpa [isDigit, Char.isDigit, Char.le_def] using hdigit

theorem appendDigits_toDigits (n : Nat) : appendDigits 0 (Nat.toDigits 10 n) = n :=
  Nat.ofDigitChars_eq_foldl.symm.trans Nat.ofDigitChars_ten_toDigits

/-- A number above zero is written without a zero in front. -/
theorem exists_toDigits_eq_cons {n : Nat} (h : n ≠ 0) :
    ∃ c cs, Nat.toDigits 10 n = c :: cs ∧ c ≠ '0' := by
  induction n using Nat.strongRecOn with
  | ind n ih =>
    by_cases hsmall : n < 10
    · have hdigit : ∀ m < 10, m ≠ 0 → m.digitChar ≠ '0' := by decide
      exact ⟨n.digitChar, [], Nat.toDigits_of_lt_base hsmall, hdigit n hsmall h⟩
    · obtain ⟨c, cs, hcs, hc⟩ := ih (n / 10) (by omega) (by omega)
      refine ⟨c, cs ++ [(n % 10).digitChar], ?_, hc⟩
      rw [Nat.toDigits_of_base_le (by decide) (by omega), hcs]
      rfl

theorem reads_nat (n : Nat) : Reads (Nat.toDigits 10 n) (.number ⟨false, n, 0, true⟩) := by
  by_cases hn : n = 0
  · rw [hn, Nat.toDigits_zero]
    refine reads_of_value (by decide) (by decide) ?_
    intro fuel rest _ hrest
    rw [value_digit (by decide), List.nil_append, magnitude_zero (isDigit_of_stops hrest),
      afterInteger_of_stops hrest]
    rfl
  · obtain ⟨c, cs, hcs, hc⟩ := exists_toDigits_eq_cons hn
    have hdigits := digits_toDigits n
    have hvalue := appendDigits_toDigits n
    rw [hcs] at hdigits hvalue ⊢
    have hdigit := hdigits.2 c List.mem_cons_self
    refine reads_of_value (isSpace_of_isDigit hdigit) (ne_of_isDigit hdigit (by decide)) ?_
    intro fuel rest _ hrest
    rw [value_digit hdigit, ← List.cons_append,
      magnitude_digits hc hdigits (isDigit_of_stops hrest), hvalue, afterInteger_of_stops hrest]
    rfl

theorem reads_string (s : String) : Reads (quote s) (.text (.ok s) none) := by
  have hread := reads_text (isLiteral_quote s)
  rw [joinSymbols_map_char] at hread
  simpa [Except.map] using hread

theorem readsMember_of_reads {cs : List Char} {d : Draft} (name : String) (h : Reads cs d) :
    ReadsMember (quote name ++ [':'] ++ cs) (.ok name, d) := by
  have hmember := ReadsMember.intro (isKey_quote name) h
  rw [joinSymbols_map_char] at hmember
  simpa [Except.map] using hmember

mutual

theorem reads_chars : (v : Value) → Reads v.chars v.draft
  | .null => reads_null
  | .bool true => reads_true
  | .bool false => reads_false
  | .number n => reads_nat n
  | .text s => reads_string s
  | .array items => by
    have h := reads_array (reads_items items)
    simpa [Value.chars, Value.draft] using h
  | .object members => by
    have h := reads_object (reads_members members)
    simpa [Value.chars, Value.draft, objectText] using h

theorem reads_items : (vs : List Value) → List.Forall₂ Reads (itemsChars vs) (itemsDrafts vs)
  | [] => .nil
  | v :: rest => .cons (reads_chars v) (reads_items rest)

theorem reads_members : (ms : List (String × Value)) →
    List.Forall₂ ReadsMember (membersChars ms) (membersDrafts ms)
  | [] => .nil
  | (k, v) :: rest => .cons (readsMember_of_reads k (reads_chars v)) (reads_members rest)

end

/-! ## Whole texts -/

theorem decode_of_reads {α : Type} {dec : Decoder α} {cs : List Char} {d : Draft} {a : α}
    (h : Reads cs d) (hdec : dec d = .ok a) : decode dec (String.ofList cs) = .ok a := by
  obtain ⟨blanks, hblanks, hread⟩ := h.value_eq (3 * cs.length + 3) [] (by omega)
    (by simp [Stops])
  have hend : skipSpaces blanks = [] := by
    have hskip := skipSpaces_append hblanks []
    rwa [List.append_nil] at hskip
  rw [List.append_nil, List.append_nil] at hread
  unfold decode decodeChars read
  rw [String.toList_ofList, hread]
  simp [hdec, hend, bind, Except.bind, pure, Except.pure]

end Gatehouse.Json

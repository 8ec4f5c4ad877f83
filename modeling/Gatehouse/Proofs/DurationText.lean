import Gatehouse.Proofs.Duration

/-!
# The texts of durations

A text says a duration when there is, between blanks, an optional plus sign, digits of a number that
can be counted, and the letters of a unit or none (`Reading`). The reader succeeds on exactly these
texts, and there is one way only to read one (`parse_exact`), although the letters of one unit are
the end of those of another. What is read of minutes and hours is what they say as long as their
seconds can be counted (`Reading.counted_eq_iff`).
-/

namespace Gatehouse.Duration

open Text

/-- The nanoseconds of one unit; a number alone counts seconds. -/
def nanosOf : Option Measure → Nat
  | none => 1000000000
  | some .milliseconds => 1000000
  | some .seconds => 1000000000
  | some .minutes => 60 * 1000000000
  | some .hours => 3600 * 1000000000

def signOf (plus : Bool) : List Char := if plus then ['+'] else []

/-- A way to read a text as a duration. -/
@[ext] structure Reading (s : String) where
  before : List Char
  plus : Bool
  digits : List Char
  unit : Option Measure
  after : List Char
  chars_eq : s.toList = before ++ (signOf plus ++ digits ++ lettersOf unit) ++ after
  blank_before : ∀ c ∈ before, isBlank c = true
  blank_after : ∀ c ∈ after, isBlank c = true
  isDigits : Json.Digits digits
  count_lt : Json.appendDigits 0 digits < countBound

/-- Only the seconds of minutes and hours can be more than can be counted. -/
theorem times_eq_iff (unit : Option Measure) (n : Nat) :
    (unit.getD .seconds).times n = ⟨n * nanosOf unit⟩ ↔
      (unit = some .minutes ∨ unit = some .hours →
        (Duration.mk (n * nanosOf unit)).IsCountable) := by
  have hassoc : ∀ m, Duration.mk (n * (m * 1000000000)) = ofSeconds (n * m) := fun m =>
    congrArg Duration.mk (Nat.mul_assoc n m _).symm
  cases unit with
  | none => exact iff_of_true rfl nofun
  | some measure =>
    cases measure with
    | milliseconds => exact iff_of_true rfl nofun
    | seconds => exact iff_of_true rfl nofun
    | minutes =>
      rw [nanosOf, hassoc, forall_prop_of_true (Or.inl rfl)]
      exact ofSeconds_mod_eq_iff
    | hours =>
      rw [nanosOf, hassoc, forall_prop_of_true (Or.inr rfl)]
      exact ofSeconds_mod_eq_iff

theorem splitMeasure_eq {cs number : List Char} {measure : Measure}
    (h : splitMeasure cs = (number, measure)) :
    ∃ unit : Option Measure, cs = number ++ lettersOf unit ∧ unit.getD .seconds = measure := by
  unfold splitMeasure at h
  split at h
  · next hend =>
    cases h
    exact ⟨some .milliseconds, beforeEnd?_eq_some.mp hend, rfl⟩
  · split at h
    · next hend =>
      cases h
      exact ⟨some .seconds, beforeEnd?_eq_some.mp hend, rfl⟩
    · split at h
      · next hend =>
        cases h
        exact ⟨some .minutes, beforeEnd?_eq_some.mp hend, rfl⟩
      · split at h
        · next hend =>
          cases h
          exact ⟨some .hours, beforeEnd?_eq_some.mp hend, rfl⟩
        · cases h
          exact ⟨none, (List.append_nil _).symm, rfl⟩

theorem eq_of_mem_signOf {plus : Bool} {c : Char} (h : c ∈ signOf plus) : c = '+' := by
  cases plus with
  | true => exact List.mem_singleton.mp h
  | false => cases h

namespace Reading

variable {s : String}

/-- What stands between the blanks. -/
def body (r : Reading s) : List Char := signOf r.plus ++ r.digits ++ lettersOf r.unit

def count (r : Reading s) : Nat := Json.appendDigits 0 r.digits

def duration (r : Reading s) : Duration := ⟨r.count * nanosOf r.unit⟩

/-- What the units of a reading come to when seconds are counted in 64 bits. -/
def counted (r : Reading s) : Duration := (r.unit.getD .seconds).times r.count

theorem counted_eq_iff (r : Reading s) :
    r.counted = r.duration ↔
      (r.unit = some .minutes ∨ r.unit = some .hours → r.duration.IsCountable) :=
  times_eq_iff ..

/-- What is true of a plus sign, of the letters of units and of digits, is true of all that stands
between the blanks. -/
theorem forall_mem_body {P : Char → Prop} (r : Reading s) (hplus : P '+') (hm : P 'm') (hs : P 's')
    (hh : P 'h') (hdigit : ∀ c, isDigit c = true → P c) : ∀ c ∈ r.body, P c := by
  intro c hc
  unfold body at hc
  rcases List.mem_append.mp hc with hc | hc
  · rcases List.mem_append.mp hc with hc | hc
    · rw [eq_of_mem_signOf hc]
      exact hplus
    · exact hdigit c (r.isDigits.2 c hc)
  · have hunit : ∀ unit, ∀ d ∈ lettersOf unit, P d := by
      rintro (_ | _ | _ | _ | _) <;> simp [lettersOf, hm, hs, hh]
    exact hunit _ c hc

theorem not_blank_of_mem_body (r : Reading s) : ∀ c ∈ r.body, isBlank c = false :=
  r.forall_mem_body rfl rfl rfl rfl fun _ => isBlank_of_isDigit

theorem trim_eq (r : Reading s) : trim s = String.ofList r.body :=
  trim_append r.chars_eq r.blank_before r.blank_after
    (fun c hc => r.not_blank_of_mem_body c (List.mem_of_mem_head? hc))
    fun c hc => r.not_blank_of_mem_body c (List.mem_of_getLast? hc)

theorem readUnsigned_eq (r : Reading s) :
    readUnsigned countBound (signOf r.plus ++ r.digits) = .ok r.count := by
  rw [readUnsigned_eq_ok (by decide)]
  refine ⟨r.digits, ?_, r.isDigits, rfl, r.count_lt⟩
  cases r.plus with
  | true => exact Or.inr rfl
  | false => exact Or.inl rfl

theorem parse_eq (r : Reading s) : parse s = .ok r.counted := by
  refine parse_eq_ok.mpr ⟨signOf r.plus ++ r.digits, r.unit.getD .seconds, r.count, ?_,
    r.readUnsigned_eq, rfl⟩
  rw [r.trim_eq, String.toList_ofList]
  apply splitMeasure_append
  intro c hc
  rcases List.mem_append.mp hc with hc | hc
  · rw [eq_of_mem_signOf hc]
    decide
  · exact not_mem_of_any (p := isDigit) (by decide) (r.isDigits.2 c hc)

/-- The reading of what is left when blanks are taken off. -/
def trimmed (r : Reading s) : Reading (String.ofList r.body) :=
  { r with
    before := []
    after := []
    chars_eq := by
      rw [String.toList_ofList, List.nil_append, List.append_nil]
      rfl
    blank_before := by simp
    blank_after := by simp }

theorem nonempty_of_parse {d : Duration} (h : parse s = .ok d) : Nonempty (Reading s) := by
  obtain ⟨number, measure, n, hsplit, hn, -⟩ := parse_eq_ok.mp h
  obtain ⟨unit, htrim, -⟩ := splitMeasure_eq hsplit
  obtain ⟨digits, hsign, hdigits, rfl, hlt⟩ := (readUnsigned_eq_ok (by decide)).mp hn
  obtain ⟨before, after, hs, hbefore, hafter⟩ := exists_append_trim s
  rw [htrim] at hs
  rcases hsign with rfl | rfl
  · exact ⟨⟨before, false, number, unit, after, hs, hbefore, hafter, hdigits, hlt⟩⟩
  · exact ⟨⟨before, true, digits, unit, after, hs, hbefore, hafter, hdigits, hlt⟩⟩

/-! ## One way to read a text -/

theorem signOf_injective : Function.Injective signOf := by
  rintro (_ | _) (_ | _) <;> simp [signOf]

theorem lettersOf_injective : Function.Injective lettersOf := by
  rintro (_ | _ | _ | _ | _) (_ | _ | _ | _ | _) <;> simp [lettersOf]

theorem stops_lettersOf (unit : Option Measure) :
    ∀ c ∈ (lettersOf unit).head?, isDigit c = false := by
  rcases unit with _ | _ | _ | _ | _ <;> rintro c ⟨⟩ <;> rfl

theorem stops_digits (r : Reading s) :
    ∀ c ∈ (r.digits ++ lettersOf r.unit).head?, (c == '+') = false := by
  intro c hc
  rw [List.head?_append_of_ne_nil _ r.isDigits.1] at hc
  have hdigit := r.isDigits.2 c (List.mem_of_mem_head? hc)
  rw [beq_eq_false_iff_ne]
  rintro rfl
  cases hdigit

theorem stops_body (r : Reading s) : ∀ c ∈ (r.body ++ r.after).head?, isBlank c = false := by
  intro c hc
  have hne : r.body ≠ [] := by simp [body, r.isDigits.1]
  rw [List.head?_append_of_ne_nil _ hne] at hc
  exact r.not_blank_of_mem_body c (List.mem_of_mem_head? hc)

/-- Where one part of a text ends can be told from the first character of the next. -/
theorem unique (r r' : Reading s) : r = r' := by
  have hbody : r.body = r'.body := by rw [← String.ofList_inj, ← r.trim_eq, ← r'.trim_eq]
  have hchars : r.before ++ (r.body ++ r.after) = r'.before ++ (r'.body ++ r'.after) := by
    rw [← List.append_assoc, ← List.append_assoc]
    exact r.chars_eq.symm.trans r'.chars_eq
  obtain ⟨hbefore, hrest⟩ := append_inj_of_stops hchars r.blank_before r'.blank_before
    r.stops_body r'.stops_body
  rw [hbody] at hrest
  have hafter : r.after = r'.after := List.append_cancel_left hrest
  unfold body at hbody
  rw [List.append_assoc, List.append_assoc] at hbody
  have hplus : ∀ plus, ∀ c ∈ signOf plus, (c == '+') = true := fun _ _ hc =>
    beq_iff_eq.mpr (eq_of_mem_signOf hc)
  obtain ⟨hsign, hnumber⟩ := append_inj_of_stops hbody (hplus _) (hplus _) r.stops_digits
    r'.stops_digits
  obtain ⟨hdigits, hletters⟩ := append_inj_of_stops hnumber r.isDigits.2 r'.isDigits.2
    (stops_lettersOf _) (stops_lettersOf _)
  exact Reading.ext hbefore (signOf_injective hsign) hdigits (lettersOf_injective hletters) hafter

end Reading

/-- A text is read as a duration exactly if it says one, in the one way that it can be read. Minutes
and hours count as long as their seconds do. -/
theorem parse_exact (s : String) :
    ((∃ d, parse s = .ok d) ↔ Nonempty (Reading s)) ∧
    (∀ r : Reading s, (r.unit = some .minutes ∨ r.unit = some .hours → r.duration.IsCountable) →
      parse s = .ok r.duration) ∧
    ∀ r r' : Reading s, r = r' := by
  refine ⟨⟨?_, ?_⟩, ?_, Reading.unique⟩
  · rintro ⟨d, h⟩
    exact Reading.nonempty_of_parse h
  · rintro ⟨r⟩
    exact ⟨_, r.parse_eq⟩
  · intro r hcount
    rw [← r.counted_eq_iff.mpr hcount]
    exact r.parse_eq

/-- Three days in hours, with a sign and with zeros and blanks that do not matter. -/
def Reading.threeDays : Reading " +0072h\n" where
  before := [' ']
  plus := true
  digits := ['0', '0', '7', '2']
  unit := some .hours
  after := ['\n']
  chars_eq := rfl
  blank_before := List.all_eq_true.mp rfl
  blank_after := List.all_eq_true.mp rfl
  isDigits := ⟨List.cons_ne_nil _ _, List.all_eq_true.mp rfl⟩
  count_lt := by decide

theorem parse_exact_threeDays :
    parse " +0072h\n" = .ok (ofSeconds 259200) ∧ ∀ r : Reading " +0072h\n", r = .threeDays := by
  obtain ⟨-, hread, hunique⟩ := parse_exact " +0072h\n"
  have hduration : Reading.threeDays.duration = ofSeconds 259200 := by decide +kernel
  have hcount : (ofSeconds 259200).IsCountable := by decide +kernel
  rw [← hduration] at hcount ⊢
  exact ⟨hread .threeDays fun _ => hcount, fun r => hunique r .threeDays⟩

end Gatehouse.Duration

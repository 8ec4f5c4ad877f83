import Gatehouse.Duration
import Gatehouse.Proofs.Ascii
import Gatehouse.Proofs.Decimal
import Gatehouse.Proofs.Runs

/-!
# Durations are read as they were written

Writing drops what is finer than a millisecond and reading adds nothing, so a written duration is
read as its whole milliseconds (`parse_toText`), provided that its number is one that can be read.
A duration that was read is whole already and can be read again (`isRead_of_parse`).
-/

namespace Gatehouse

namespace Duration

open Text

/-- The seconds of a duration can be counted. -/
def IsCountable (d : Duration) : Prop := d.seconds < countBound

/-- The number that a duration is written with can be read: its seconds, or else its milliseconds
when there is a part of a second. -/
def Fits (d : Duration) : Prop :=
  d.IsCountable ∧ (d.millis % 1000 ≠ 0 → d.millis < countBound)

instance (d : Duration) : Decidable d.IsCountable :=
  inferInstanceAs (Decidable (d.seconds < countBound))

instance (d : Duration) : Decidable d.Fits :=
  inferInstanceAs (Decidable (d.IsCountable ∧ (d.millis % 1000 ≠ 0 → d.millis < countBound)))

/-- A duration without what is finer than a millisecond. -/
def whole (d : Duration) : Duration := ofMillis d.millis

theorem millis_ofMillis (n : Nat) : (ofMillis n).millis = n := Nat.mul_div_cancel n (by decide)

theorem whole_ofMillis (n : Nat) : (ofMillis n).whole = ofMillis n := by
  unfold whole
  rw [millis_ofMillis]

theorem ofSeconds_eq (n : Nat) : ofSeconds n = ofMillis (1000 * n) := by
  have h : n * 1000000000 = 1000 * n * 1000000 := by omega
  unfold ofSeconds ofMillis
  rw [h]

theorem whole_ofSeconds (n : Nat) : (ofSeconds n).whole = ofSeconds n := by
  rw [ofSeconds_eq, whole_ofMillis]

theorem seconds_eq (d : Duration) : d.seconds = d.millis / 1000 := by
  unfold seconds millis
  omega

theorem isCountable_ofSeconds {n : Nat} : (ofSeconds n).IsCountable ↔ n < countBound := by
  unfold IsCountable seconds ofSeconds
  rw [Nat.mul_div_cancel n (by omega)]

theorem ofSeconds_injective : Function.Injective ofSeconds := by
  intro m n h
  have hnanos : m * 1000000000 = n * 1000000000 := congrArg nanos h
  omega

/-- Seconds that start over are as many as there were, exactly if these can be counted. -/
theorem ofSeconds_mod_eq_iff {n : Nat} :
    ofSeconds (n % countBound) = ofSeconds n ↔ (ofSeconds n).IsCountable := by
  rw [ofSeconds_injective.eq_iff, isCountable_ofSeconds]
  exact Nat.mod_eq_iff_lt (by decide)

theorem whole_of_no_part {d : Duration} (h : d.millis % 1000 = 0) :
    d.whole = ofSeconds d.seconds := by
  rw [ofSeconds_eq, seconds_eq, whole, Nat.mul_div_cancel' (Nat.dvd_of_mod_eq_zero h)]

/-! ## Reading -/

/-- The letters of a unit, of which a number alone has none. -/
def lettersOf : Option Measure → List Char
  | none => []
  | some .milliseconds => ['m', 's']
  | some .seconds => ['s']
  | some .minutes => ['m']
  | some .hours => ['h']

theorem splitMeasure_append {number : List Char} (h : ∀ c ∈ number, c ∉ ['m', 's', 'h'])
    (unit : Option Measure) :
    splitMeasure (number ++ lettersOf unit) = (number, unit.getD .seconds) := by
  have hm : 'm' ∉ number := fun hmem => h _ hmem (by decide)
  have hs : 's' ∉ number := fun hmem => h _ hmem (by decide)
  have hh : 'h' ∉ number := fun hmem => h _ hmem (by decide)
  unfold splitMeasure
  -- Every unit that is tried before has a letter that the text does not have.
  cases unit with
  | none =>
    rw [lettersOf, List.append_nil, beforeEnd?_eq_none (by decide) hm,
      beforeEnd?_eq_none (by decide) hs, beforeEnd?_eq_none (by decide) hm,
      beforeEnd?_eq_none (by decide) hh]
    rfl
  | some measure =>
    have hfound : ∀ {tail : List Char}, beforeEnd? tail (number ++ tail) = some number :=
      beforeEnd?_eq_some.mpr rfl
    cases measure with
    | milliseconds =>
      rw [lettersOf, hfound]
      rfl
    | seconds =>
      have hm' : 'm' ∉ number ++ ['s'] := by simp [hm]
      rw [lettersOf, beforeEnd?_eq_none (by decide) hm', hfound]
      rfl
    | minutes =>
      have hs' : 's' ∉ number ++ ['m'] := by simp [hs]
      rw [lettersOf, beforeEnd?_eq_none (by decide) hs', beforeEnd?_eq_none (by decide) hs', hfound]
      rfl
    | hours =>
      have hm' : 'm' ∉ number ++ ['h'] := by simp [hm]
      have hs' : 's' ∉ number ++ ['h'] := by simp [hs]
      rw [lettersOf, beforeEnd?_eq_none (by decide) hs', beforeEnd?_eq_none (by decide) hs',
        beforeEnd?_eq_none (by decide) hm', hfound]
      rfl

theorem isBlank_of_isDigit {c : Char} (h : isDigit c = true) : isBlank c = false := by
  unfold isDigit at h
  simp only [Bool.and_eq_true, decide_eq_true_eq, Char.le_def, UInt32.le_iff_toNat_le] at h
  have hlow : 48 ≤ c.toNat := h.1
  have hhigh : c.toNat ≤ 57 := h.2
  unfold isBlank
  simp only [Bool.or_eq_false_iff, Bool.and_eq_false_iff, decide_eq_false_iff_not,
    beq_eq_false_iff_ne]
  omega

theorem trim_measured (n : Nat) {unit : List Char} (hne : unit ≠ [])
    (h : unit.any isBlank = false) :
    trim (String.ofList (Nat.toDigits 10 n ++ unit)) =
      String.ofList (Nat.toDigits 10 n ++ unit) := by
  obtain ⟨hdigits, hall⟩ := Json.digits_toDigits n
  apply trim_eq_self
  · intro c hc
    rw [String.toList_ofList, List.head?_append_of_ne_nil _ hdigits] at hc
    exact isBlank_of_isDigit (hall c (List.mem_of_mem_head? hc))
  · intro c hc
    rw [String.toList_ofList, List.getLast?_append_of_ne_nil _ hne] at hc
    simpa using List.any_eq_false.mp h c (List.mem_of_getLast? hc)

theorem parse_eq_ok {s : String} {d : Duration} :
    parse s = .ok d ↔ ∃ number measure n, splitMeasure (trim s).toList = (number, measure) ∧
      readUnsigned countBound number = .ok n ∧ measure.times n = d := by
  unfold parse
  cases splitMeasure (trim s).toList with
  | mk number measure =>
    refine map_eq_ok.trans ⟨?_, ?_⟩
    · rintro ⟨n, hn, hd⟩
      exact ⟨number, measure, n, rfl, hn, hd⟩
    · rintro ⟨_, _, n, ⟨⟩, hn, hd⟩
      exact ⟨n, hn, hd⟩

theorem parse_toText {d : Duration} (h : d.Fits) : parse d.toText = .ok d.whole := by
  obtain ⟨hseconds, hmillis⟩ := h
  have hletters : ∀ n, ∀ c ∈ Nat.toDigits 10 n, c ∉ ['m', 's', 'h'] := fun n c hc =>
    not_mem_of_any (p := isDigit) (by decide) ((Json.digits_toDigits n).2 c hc)
  rw [parse_eq_ok]
  unfold toText
  by_cases hpart : d.millis % 1000 = 0
  · have htext : toString d.seconds ++ "s" =
        String.ofList (Nat.toDigits 10 d.seconds ++ ['s']) := by
      rw [String.ofList_append, Nat.toString_eq_ofList_toDigits]
    refine ⟨Nat.toDigits 10 d.seconds, .seconds, d.seconds, ?_, readUnsigned_toDigits hseconds,
      (whole_of_no_part hpart).symm⟩
    rw [if_pos hpart, htext, trim_measured _ (by simp) rfl, String.toList_ofList]
    exact splitMeasure_append (hletters _) (some .seconds)
  · have htext : toString d.millis ++ "ms" =
        String.ofList (Nat.toDigits 10 d.millis ++ ['m', 's']) := by
      rw [String.ofList_append, Nat.toString_eq_ofList_toDigits]
    refine ⟨Nat.toDigits 10 d.millis, .milliseconds, d.millis, ?_,
      readUnsigned_toDigits (hmillis hpart), rfl⟩
    rw [if_neg hpart, htext, trim_measured _ (by simp) rfl, String.toList_ofList]
    exact splitMeasure_append (hletters _) (some .milliseconds)

/-- What is true of a duration that was read: it has nothing finer than a millisecond, and the
number that it is written with can be read. -/
structure IsRead (d : Duration) : Prop where
  whole : d.whole = d
  fits : d.Fits

theorem isRead_ofMillis {n : Nat} (h : n < countBound) : (ofMillis n).IsRead := by
  refine ⟨whole_ofMillis n, ?_, fun _ => ?_⟩
  · unfold IsCountable
    rw [seconds_eq, millis_ofMillis]
    omega
  · rwa [millis_ofMillis]

theorem isRead_ofSeconds {n : Nat} (h : n < countBound) : (ofSeconds n).IsRead := by
  refine ⟨whole_ofSeconds n, isCountable_ofSeconds.mpr h, fun hpart => ?_⟩
  rw [ofSeconds_eq, millis_ofMillis] at hpart
  omega

theorem isRead_of_parse {s : String} {d : Duration} (h : parse s = .ok d) : d.IsRead := by
  obtain ⟨number, measure, n, -, hn, rfl⟩ := parse_eq_ok.mp h
  obtain ⟨-, -, -, -, hbound⟩ := (readUnsigned_eq_ok (by decide)).mp hn
  have hmod : ∀ seconds, seconds % countBound < countBound := fun _ => Nat.mod_lt _ (by decide)
  cases measure with
  | milliseconds => exact isRead_ofMillis hbound
  | seconds => exact isRead_ofSeconds hbound
  | minutes => exact isRead_ofSeconds (hmod _)
  | hours => exact isRead_ofSeconds (hmod _)

end Duration

end Gatehouse

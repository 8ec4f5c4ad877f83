import Gatehouse.Proofs.DurationText
import Gatehouse.Proofs.Settings
import Gatehouse.Proofs.Variables

/-!
# Durations in variables

What a variable says is given a type before it is known which setting it is. A duration with a
unit stays the text that it is, blanks at its ends apart, and is read as in a file; a number alone
becomes a number, so that it is no duration any more (`load_duration`).
-/

namespace Gatehouse

open Json

namespace Settings

/-- A setting that is a length of time. -/
inductive DurationSetting
  | serverRequest
  | storage
  | connect
  | request
  | keysTtl
  | acquire

namespace DurationSetting

/-- The section of a setting and its name in there. -/
def place : DurationSetting → String × String
  | .serverRequest => ("server", "request_timeout")
  | .storage => ("auth", "storage_timeout")
  | .connect => ("oidc", "connect_timeout")
  | .request => ("oidc", "request_timeout")
  | .keysTtl => ("oidc", "jwks_ttl")
  | .acquire => ("database", "acquire_timeout")

def path (x : DurationSetting) : List String := [x.place.1, x.place.2]

def variableName : DurationSetting → String
  | .serverRequest => "AAA_SERVER__REQUEST_TIMEOUT"
  | .storage => "AAA_AUTH__STORAGE_TIMEOUT"
  | .connect => "AAA_OIDC__CONNECT_TIMEOUT"
  | .request => "AAA_OIDC__REQUEST_TIMEOUT"
  | .keysTtl => "AAA_OIDC__JWKS_TTL"
  | .acquire => "AAA_DATABASE__ACQUIRE_TIMEOUT"

/-- The usual settings, with another duration in one place. -/
def usualWith (x : DurationSetting) (t : Duration) : Settings :=
  match x with
  | .serverRequest => { server := { requestTimeout := t } }
  | .storage => { auth := { storageTimeout := t } }
  | .connect => { oidc := { connectTimeout := t } }
  | .request => { oidc := { requestTimeout := t } }
  | .keysTtl => { oidc := { keysTtl := t } }
  | .acquire => { database := { acquireTimeout := t } }

theorem path?_variableName (x : DurationSetting) : Written.path? x.variableName = some x.path := by
  cases x <;> decide +kernel

theorem accept_usualWith (x : DurationSetting) (t : Duration) :
    accept (x.usualWith t) = .ok (x.usualWith t) := by
  have hcomplaint : (x.usualWith t).complaint? = ({} : Settings).complaint? := by cases x <;> rfl
  have hnone : ({} : Settings).complaint? = none := by decide +kernel
  unfold accept
  rw [hcomplaint, hnone]

end DurationSetting

variable {form : Form} {d : Draft} {s : String}

/-! ## A section with one setting -/

theorem decoder_server : decoder form (.object [(.ok "server", d)] .closed) =
    (Listener.decoder form d).map fun l => { server := l } :=
  record_bind_of_only rfl rfl rfl

theorem decoder_auth : decoder form (.object [(.ok "auth", d)] .closed) =
    (Auth.decoder form d).map fun a => { auth := a } :=
  record_bind_of_only rfl rfl rfl

theorem decoder_oidc : decoder form (.object [(.ok "oidc", d)] .closed) =
    (Issuer.decoder form d).map fun i => { oidc := i } :=
  record_bind_of_only rfl rfl rfl

theorem decoder_database : decoder form (.object [(.ok "database", d)] .closed) =
    (Database.decoder form d).map fun b => { database := b } :=
  record_bind_of_only rfl rfl rfl

theorem decoder_place (x : DurationSetting) :
    decoder form (.object [(.ok x.place.1, .object [(.ok x.place.2, d)] .closed)] .closed) =
      (duration d).map x.usualWith := by
  have hmap : ∀ {α β : Type} {dec : Except ReadFault α} {f : α → β} {g : Duration → α},
      dec = (duration d).map g → dec.map f = (duration d).map fun t => f (g t) := by
    rintro α β dec f g rfl
    cases duration d <;> rfl
  cases x with
  | serverRequest => exact decoder_server.trans (hmap (record_bind_of_only rfl rfl rfl))
  | storage => exact decoder_auth.trans (hmap (record_bind_of_only rfl rfl rfl))
  | connect => exact decoder_oidc.trans (hmap (record_bind_of_only rfl rfl rfl))
  | request => exact decoder_oidc.trans (hmap (record_bind_of_only rfl rfl rfl))
  | keysTtl => exact decoder_oidc.trans (hmap (record_bind_of_only rfl rfl rfl))
  | acquire => exact decoder_database.trans (hmap (record_bind_of_only rfl rfl rfl))

/-! ## Variables -/

namespace Variables

/-- The settings among variables: the way to each, and its value as it is written. -/
def written (v : Variables) : List (List String × String) :=
  v.filterMap fun (name, s) => (Written.path? name).map (·, s)

theorem settings_eq (v : Variables) :
    v.settings = v.written.foldl
      (fun t (path, s) => t.overlay (Written.nested (Written.meaning s) path)) (.map []) := by
  unfold settings written
  rw [List.foldl_filterMap]
  refine congrArg (fun f => List.foldl f (Tree.map []) v) (funext fun t => funext fun e => ?_)
  obtain ⟨name, s⟩ := e
  dsimp only
  cases Written.path? name with
  | none => rfl
  | some path => rfl

theorem settings_of_written {v : Variables} {outer inner : String}
    (h : v.written = [([outer, inner], s)]) :
    v.settings = .map [(outer, .map [(inner, Written.meaning s)])] := by
  rw [settings_eq, h]
  simp [Written.nested, Tree.overlay, Tree.overlayEntries, Tree.set]

end Variables

theorem merge_of_written {v : Variables} {x : DurationSetting} (h : v.written = [(x.path, s)]) :
    merge (.map []) v =
      ((duration (Written.meaning s).toDraft).map x.usualWith).mapError fun _ => .unreadable := by
  have hdecoded : decoder Tree.form ((Tree.map []).overlay
      (.map [(x.place.1, .map [(x.place.2, Written.meaning s)])])).toDraft =
        (duration (Written.meaning s).toDraft).map x.usualWith := decoder_place x
  unfold merge Tree.settings?
  rw [Variables.settings_of_written h, hdecoded]
  cases duration (Written.meaning s).toDraft <;> rfl

/-! ## What a duration means as a value -/

namespace Written

open Text Duration

theorem isBlank_of_isSpace {c : Char} (h : isSpace c = true) : isBlank c = true := by
  unfold isSpace at h
  simp only [Bool.or_eq_true, beq_iff_eq] at h
  rcases h with (((rfl | rfl) | rfl) | rfl) | rfl <;> rfl

theorem trim_skipSpaces (cs : List Char) :
    trim (String.ofList (skipSpaces cs)) = trim (String.ofList cs) := by
  have hdrop : (skipSpaces cs).dropWhile isBlank = cs.dropWhile isBlank := by
    unfold skipSpaces
    induction cs with
    | nil => rfl
    | cons c cs ih =>
      rw [List.dropWhile_cons]
      split
      · next hc => rw [ih, List.dropWhile_cons_of_pos (isBlank_of_isSpace hc)]
      · rfl
  unfold trim
  rw [String.toList_ofList, String.toList_ofList, hdrop]

/-- The characters that start anything but a word, or end one. -/
def marks : List Char := ['t', 'f', '"', '\x27', ',', '\x7b', '\x7d', '[', ']']

theorem value?_of_plain {cs : List Char} (h : ∀ c ∈ cs, c ∉ marks) (fuel : Nat) :
    value? (fuel + 1) cs = some (word (skipSpaces cs), []) := by
  have hskip : ∀ c ∈ skipSpaces cs, c ∉ marks := fun c hc =>
    h c ((List.dropWhile_sublist isSpace).mem hc)
  rw [value?]
  cases hcs : skipSpaces cs with
  | nil => rfl
  | cons c rest =>
    rw [hcs] at hskip
    have hne : ∀ d ∈ marks, c ≠ d := by
      rintro d hd rfl
      exact hskip c List.mem_cons_self hd
    have htrue : afterStart? "true".toList (c :: rest) = none := by
      simp [afterStart?, (hne 't' (by decide)).symm]
    have hfalse : afterStart? "false".toList (c :: rest) = none := by
      simp [afterStart?, (hne 'f' (by decide)).symm]
    have hword : ∀ d ∈ c :: rest, (!isSeparator d) = true := by
      intro d hd
      have hsep : isSeparator d = true → d ∈ marks := by
        unfold isSeparator
        simp only [Bool.or_eq_true, beq_iff_eq]
        rintro ((((rfl | rfl) | rfl) | rfl) | rfl) <;> decide
      simpa using fun hsep' => hskip d hd (hsep hsep')
    have hwhole := List.takeWhile_eq_self_iff.mpr hword
    have hend := List.dropWhile_eq_nil_iff.mpr hword
    simp only [htrue, hfalse]
    -- The first character rules out every kind of value but a word, which goes on to the end.
    split
    · next h => cases h
    · next h => cases h
    · next h => exact absurd (List.cons.inj h).1 (hne _ (by decide))
    · next h => exact absurd (List.cons.inj h).1 (hne _ (by decide))
    · next h => exact absurd (List.cons.inj h).1 (hne _ (by decide))
    · next h => exact absurd (List.cons.inj h).1 (hne _ (by decide))
    · next h => exact absurd (List.cons.inj h).1 (hne _ (by decide))
    · simp [hwhole, hend, skipSpaces]

theorem not_mem_marks_of_reading (r : Reading s) : ∀ c ∈ s.toList, c ∉ marks := by
  have hblank : ∀ c, isBlank c = true → c ∉ marks := fun c => not_mem_of_any (by decide)
  have hdigit : ∀ c, isDigit c = true → c ∉ marks := fun c => not_mem_of_any (by decide)
  intro c hc
  rw [r.chars_eq] at hc
  rcases List.mem_append.mp hc with hc | hc
  · rcases List.mem_append.mp hc with hc | hc
    · exact hblank c (r.blank_before c hc)
    · exact r.forall_mem_body (by decide) (by decide) (by decide) (by decide) hdigit c hc
  · exact hblank c (r.blank_after c hc)

theorem readUnsigned_of_unit (r : Reading s) {n : Nat} (hunit : r.unit.isSome = true) :
    readUnsigned UInt64.size r.body ≠ .ok n := by
  have hletters : ∀ unit : Option Measure, unit.isSome = true →
      (lettersOf unit).any (fun c => !isDigit c && c != '+') = true := by
    rintro (_ | _ | _ | _ | _) <;> decide
  obtain ⟨c, hc, hletter⟩ := List.any_eq_true.mp (hletters _ hunit)
  rw [Bool.and_eq_true, Bool.not_eq_true', bne_iff_ne] at hletter
  obtain ⟨hdigit, hplus⟩ := hletter
  have hbody : c ∈ r.body := List.mem_append_right _ hc
  intro h
  obtain ⟨ds, hds, ⟨-, hdigits⟩, -⟩ := (readUnsigned_eq_ok (by decide)).mp h
  have hmem : c ∈ ds := by
    rcases hds with hds | hds
    · rwa [hds] at hbody
    · rw [hds] at hbody
      exact (List.mem_cons.mp hbody).resolve_left hplus
  rw [hdigits c hmem] at hdigit
  cases hdigit

/-- A number alone is taken for one, and what has a unit is the text that it is. -/
theorem meaning_of_reading (r : Reading s) :
    meaning s = match r.unit with
      | none => .integer r.count
      | some _ => .text (String.ofList r.body) := by
  have hvalue : meaning s = word (skipSpaces s.toList) := by
    unfold meaning
    rw [value?_of_plain (not_mem_marks_of_reading r)]
  have htrim : trim (String.ofList (skipSpaces s.toList)) = String.ofList r.body := by
    rw [trim_skipSpaces, String.ofList_toList, r.trim_eq]
  have hother : ∀ c ∈ r.body, c ≠ '.' ∧ c ≠ '-' := by
    refine r.forall_mem_body (by decide) (by decide) (by decide) (by decide) fun c hc => ⟨?_, ?_⟩
    · rintro rfl
      cases hc
    · rintro rfl
      cases hc
  have hpoint : r.body.contains '.' = false := by
    simpa using fun h => (hother '.' h).1 rfl
  rw [hvalue]
  simp only [word, htrim, String.toList_ofList, hpoint, Bool.false_and, Bool.false_eq_true,
    if_false]
  cases hunit : r.unit with
  | none =>
    have hnumber : r.body = signOf r.plus ++ r.digits := by
      unfold Reading.body
      rw [hunit]
      exact List.append_nil _
    rw [hnumber, ← countBound, r.readUnsigned_eq]
  | some measure =>
    cases hread : readUnsigned UInt64.size r.body with
    | ok n => exact absurd hread (readUnsigned_of_unit r (by rw [hunit]; rfl))
    | error fault =>
      split
      · next h => cases h
      · next digits _ hbody =>
        rw [hbody] at hother
        exact absurd rfl (hother '-' List.mem_cons_self).2
      · rfl

end Written

/-! ## Loading -/

theorem duration_integer (n : Nat) :
    ∃ fault, duration (Tree.integer n).toDraft = .error fault :=
  ⟨_, rfl⟩

theorem duration_body (r : Duration.Reading s) :
    duration (Tree.text (String.ofList r.body)).toDraft = .ok r.counted :=
  duration_eq_ok.mpr ⟨_, ⟨none, rfl⟩, r.trimmed.parse_eq⟩

theorem merge_reading {v : Variables} {x : DurationSetting} (h : v.written = [(x.path, s)])
    (r : Duration.Reading s) :
    merge (.map []) v = match r.unit with
      | none => .error .unreadable
      | some _ => .ok (x.usualWith r.counted) := by
  rw [merge_of_written h, Written.meaning_of_reading r]
  cases r.unit with
  | none =>
    obtain ⟨fault, hfault⟩ := duration_integer r.count
    dsimp only
    rw [hfault]
    rfl
  | some measure =>
    dsimp only
    rw [duration_body]
    rfl

/-- Whatever else there is among the variables, a duration in the one that is a setting is loaded
if it has a unit. A number alone is taken for a number, and keeps the settings from being read. -/
theorem load_duration (x : DurationSetting) (s : String) (t : Duration)
    (hread : Duration.parse s = .ok t) :
    Written.path? x.variableName = some x.path ∧ ∃ r : Duration.Reading s, r.counted = t ∧
      ∀ (v : Variables) (disk : String → Option FileEntry), v.written = [(x.path, s)] →
        (load v none).answered disk = match r.unit with
          | none => (.error .unreadable, v)
          | some _ => (.ok (x.usualWith t), v) := by
  obtain ⟨r⟩ := Duration.Reading.nonempty_of_parse hread
  obtain rfl : r.counted = t := Except.ok.inj (r.parse_eq.symm.trans hread)
  refine ⟨x.path?_variableName, r, rfl, fun v disk hv => ?_⟩
  have hmerge : (found disk none).bind (merge · v) = _ := merge_reading hv r
  rw [answered_load, hmerge]
  cases r.unit with
  | none => rfl
  | some measure =>
    have hfiles : (x.usualWith r.counted).envFiles = [] := by cases x <;> rfl
    dsimp only
    rw [x.accept_usualWith, hfiles]
    rfl

/-- The name of the variable is spelled in small letters, and another variable is no setting. -/
theorem load_duration_hours :
    let v : Variables := [("HOME", "/h"), ("aaa_oidc__jwks_ttl", " +0072h\n")]
    Duration.parse " +0072h\n" = .ok (.ofSeconds 259200) ∧
      (load v none).answered (fun _ => none) =
        (.ok (DurationSetting.keysTtl.usualWith (.ofSeconds 259200)), v) := by
  intro v
  have hread : Duration.parse " +0072h\n" = .ok (.ofSeconds 259200) := by decide +kernel
  have hwritten : v.written = [(DurationSetting.keysTtl.path, " +0072h\n")] := by decide +kernel
  obtain ⟨-, r, -, hload⟩ := load_duration .keysTtl _ _ hread
  rw [r.unique .threeDays] at hload
  exact ⟨hread, hload v _ hwritten⟩

/-- A bare number of seconds is a duration, and as the value of a variable it is none. -/
theorem bare_seconds_refused :
    Duration.parse "45" = .ok (.ofSeconds 45) ∧
      (load [(DurationSetting.serverRequest.variableName, "45")] none).answered (fun _ => none) =
        (.error .unreadable, [(DurationSetting.serverRequest.variableName, "45")]) := by
  decide +kernel

end Settings

end Gatehouse

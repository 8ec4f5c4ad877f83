import Gatehouse.Failure
import Gatehouse.Identity.Json
import Gatehouse.Proofs.Identity
import Gatehouse.Proofs.Json
import Gatehouse.Proofs.JsonText
import Gatehouse.Provider.Json
import Gatehouse.Record.Json
import Mathlib.Data.List.Perm.Basic

/-!
# Records are read as they were written

The text that is written for a record is read as that record, and so is every text that differs from
it by the order of members and by members that the record does not have (`formats_faithful`). A
text is first read as a draft, in which the members stand in the order of the text (`Matches`); a
decoder then finds its fields wherever they are (`record_of_fills`).
-/

namespace Gatehouse

namespace Json

/-! ## Rearranged texts -/

/-- Which objects there are in a written value: none; a map; or a record, which may lack some of its
members and have more objects in those that are there. -/
inductive Shape
  | plain
  | map
  | record (names : List String) (member : String → Shape)

/-- A member that is none of a record: its key says another name, and its value is any JSON text. -/
inductive Foreign (names : List String) : List Char → Prop
  | intro {symbols : List Symbol} {name : String} {key cs : List Char} (unknown : name ∉ names)
      (written : IsKey symbols key) (named : joinSymbols none symbols = .ok name.toList)
      (json : IsJson cs) : Foreign names (key ++ ':' :: cs)

/-- A text is that of a value, but for the order of the members of each object and for members that
no record has. -/
def Rearranged : Shape → Value → List Char → Prop
  | .plain, v, cs => cs = v.chars
  | .map, v, cs => ∃ ms ms', v = .object ms ∧ ms'.Perm ms ∧ cs = (Value.object ms').chars
  | .record names member, v, cs => ∃ ms own foreign all, v = .object ms ∧
      List.Forall₂ (fun m t => ∃ w, t = quote m.1 ++ [':'] ++ w ∧ Rearranged (member m.1) m.2 w)
        ms own ∧
      (∀ t ∈ foreign, Foreign names t) ∧ all.Perm (own ++ foreign) ∧ cs = objectText all

/-- A value is read from the text written for it, and from every text that this one may be
rearranged into. -/
structure ReadsBack {α : Type} (shape : Shape) (v : Value) (dec : Decoder α) (a : α) : Prop where
  written : decode dec v.render = .ok a
  rearranged : ∀ cs, Rearranged shape v cs → decode dec (String.ofList cs) = .ok a

/-! ## Drafts of rearranged texts -/

/-- A draft is that of a value, but for the order of members and for members that no record has. -/
def Matches : Shape → Value → Draft → Prop
  | .plain, v, d => d = v.draft
  | .map, v, d => ∃ ms ms', v = .object ms ∧ ms'.Perm ms ∧ d = (Value.object ms').draft
  | .record names member, v, d => ∃ ms own foreign all, v = .object ms ∧
      List.Forall₂ (fun m e => e.1 = .ok m.1 ∧ Matches (member m.1) m.2 e.2) ms own ∧
      (∀ e ∈ foreign, ∃ name, e.1 = .ok name ∧ name ∉ names ∧ e.2.skip = .ok ()) ∧
      all.Perm (own ++ foreign) ∧ d = .object all .closed

theorem exists_readsMember {names : List String} {t : List Char} (h : Foreign names t) :
    ∃ e, ReadsMember t e ∧ ∃ name, e.1 = .ok name ∧ name ∉ names ∧ e.2.skip = .ok () := by
  obtain ⟨unknown, written, named, json⟩ := h
  obtain ⟨d, hd, hskip⟩ := json.reads
  refine ⟨_, .intro written hd, _, ?_, unknown, hskip⟩
  rw [named]
  simp [Except.map]

/-- A rearranged text is read as a draft that matches the value. -/
theorem exists_matches {shape : Shape} {v : Value} {cs : List Char} (h : Rearranged shape v cs) :
    ∃ d, Reads cs d ∧ Matches shape v d := by
  induction shape generalizing v cs with
  | plain => exact ⟨_, h ▸ reads_chars v, rfl⟩
  | map =>
    obtain ⟨ms, ms', hv, hperm, rfl⟩ := h
    exact ⟨_, reads_chars (.object ms'), ms, ms', hv, hperm, rfl⟩
  | record names member ih =>
    obtain ⟨ms, own, foreign, all, rfl, hown, hforeign, hperm, rfl⟩ := h
    have howned : ∃ es, List.Forall₂ ReadsMember own es ∧
        List.Forall₂ (fun m e => e.1 = .ok m.1 ∧ Matches (member m.1) m.2 e.2) ms es := by
      clear hperm
      induction hown with
      | nil => exact ⟨[], .nil, .nil⟩
      | cons hfirst _ ihrest =>
        obtain ⟨w, rfl, hw⟩ := hfirst
        obtain ⟨d, hd, hmatches⟩ := ih _ hw
        obtain ⟨es, hes, hms⟩ := ihrest
        exact ⟨_, .cons (readsMember_of_reads _ hd) hes, .cons ⟨rfl, hmatches⟩ hms⟩
    obtain ⟨es, hes, hms⟩ := howned
    obtain ⟨fs, hfs, hskip⟩ := exists_forall₂ fun t ht => exists_readsMember (hforeign t ht)
    obtain ⟨drafts, hdrafts, hdrafted⟩ := List.perm_comp_forall₂ hperm
      (List.rel_append hes hfs)
    exact ⟨_, reads_object hdrafts, ms, es, fs, drafts, rfl, hms, hskip, hdrafted, rfl⟩

/-- A value, and what a decoder makes of every draft that matches it. -/
structure Stands {α : Type} (shape : Shape) (v : Value) (dec : Decoder α) (a : α) : Prop where
  self : Matches shape v v.draft
  decoded : ∀ d, Matches shape v d → dec d = .ok a

variable {α : Type} {dec : Decoder α} {a : α} {v : Value} {shape : Shape}

theorem Stands.readsBack (h : Stands shape v dec a) : ReadsBack shape v dec a := by
  constructor
  · exact decode_of_reads (reads_chars v) (h.decoded _ h.self)
  · intro cs hcs
    obtain ⟨d, hd, hmatches⟩ := exists_matches hcs
    exact decode_of_reads hd (h.decoded d hmatches)

theorem stands_plain (h : dec v.draft = .ok a) : Stands .plain v dec a := by
  refine ⟨rfl, ?_⟩
  rintro d rfl
  exact h

/-! ## Records -/

/-- The members written for a record, field by field: each has a value that the field accepts, and
only what need not be there is missing. -/
inductive Fills (member : String → Shape) : List Field → List (String × Value) → Prop
  | nil : Fills member [] []
  | given {f : Field} {fields : List Field} {v : Value} {ms : List (String × Value)}
      (self : Matches (member f.name) v v.draft)
      (accepted : ∀ d, Matches (member f.name) v d → f.check d = .ok ())
      (rest : Fills member fields ms) : Fills member (f :: fields) ((f.name, v) :: ms)
  | missing {f : Field} {fields : List Field} {ms : List (String × Value)}
      (spare : f.presence ≠ .required) (rest : Fills member fields ms) :
      Fills member (f :: fields) ms

namespace Fills

variable {member : String → Shape} {fields : List Field} {ms : List (String × Value)}
  {name : String}

theorem required (h : Stands (member name) v dec a) (rest : Fills member fields ms) :
    Fills member (.required name dec :: fields) ((name, v) :: ms) := by
  refine .given (f := .required name dec) h.self ?_ rest
  intro d hd
  exact map_eq_ok.mpr ⟨a, h.decoded d hd, rfl⟩

theorem defaulted (h : Stands (member name) v dec a) (rest : Fills member fields ms) :
    Fills member (.defaulted name dec :: fields) ((name, v) :: ms) := by
  refine .given (f := .defaulted name dec) h.self ?_ rest
  intro d hd
  exact map_eq_ok.mpr ⟨a, h.decoded d hd, rfl⟩

/-- A field that is left out when it has no value. -/
theorem optional {β : Type} {dec : Decoder β} {toJson : β → Value} {o : Option β}
    (h : ∀ b, o = some b → Stands (member name) (toJson b) dec b)
    (hnull : ∀ b, o = some b → ∀ d, Matches (member name) (toJson b) d → d ≠ .null)
    (rest : Fills member fields ms) :
    Fills member (.optional name dec :: fields)
      (Value.member? name (o.map toJson) ++ ms) := by
  cases o with
  | none => exact .missing (f := .optional name dec) nofun rest
  | some b =>
    refine .given (f := .optional name dec) (h b rfl).self ?_ rest
    intro d hd
    have hdec := optional_of_ne_null (hnull b rfl d hd) ((h b rfl).decoded d hd)
    exact map_eq_ok.mpr ⟨some b, hdec, rfl⟩

theorem sublist_names (h : Fills member fields ms) :
    (ms.map Prod.fst).Sublist (fields.map (·.name)) := by
  induction h with
  | nil => exact .slnil
  | given _ _ _ ih => exact ih.cons_cons _
  | missing _ _ ih => exact ih.cons _

theorem accepted (h : Fills member fields ms) (hnodup : (fields.map (·.name)).Nodup) {f : Field}
    (hf : f ∈ fields) (hv : (f.name, v) ∈ ms) {d : Draft} (hd : Matches (member f.name) v d) :
    f.check d = .ok () := by
  induction h with
  | nil => cases hf
  | @given g fields w ms self accepted rest ih =>
    obtain ⟨hg, hnodup⟩ := List.nodup_cons.mp hnodup
    rcases List.mem_cons.mp hf with rfl | hf
    · rcases List.mem_cons.mp hv with heq | hv
      · obtain ⟨-, rfl⟩ := Prod.mk.inj heq
        exact accepted d hd
      · exact absurd (rest.sublist_names.subset (List.mem_map.mpr ⟨_, hv, rfl⟩)) hg
    · rcases List.mem_cons.mp hv with heq | hv
      · obtain ⟨hname, -⟩ := Prod.mk.inj heq
        exact absurd (List.mem_map.mpr ⟨f, hf, hname⟩) hg
      · exact ih hnodup hf hv
  | @missing g fields ms spare rest ih =>
    obtain ⟨hg, hnodup⟩ := List.nodup_cons.mp hnodup
    rcases List.mem_cons.mp hf with rfl | hf
    · exact absurd (rest.sublist_names.subset (List.mem_map.mpr ⟨_, hv, rfl⟩)) hg
    · exact ih hnodup hf hv

theorem complete (h : Fills member fields ms) {f : Field} (hf : f ∈ fields)
    (hrequired : f.presence = .required) : ∃ v, (f.name, v) ∈ ms := by
  induction h with
  | nil => cases hf
  | given _ _ _ ih =>
    rcases List.mem_cons.mp hf with rfl | hf
    · exact ⟨_, List.mem_cons_self⟩
    · obtain ⟨v, hv⟩ := ih hf
      exact ⟨v, List.mem_cons_of_mem _ hv⟩
  | missing spare _ ih =>
    rcases List.mem_cons.mp hf with rfl | hf
    · exact absurd hrequired spare
    · exact ih hf

end Fills

variable {member : String → Shape} {fields : List Field} {ms : List (String × Value)}

/-- The members of a rearranged object that are the record's own are those written. -/
theorem own_iff {own : Members} {P : String × Value → Draft → Prop}
    (h : List.Forall₂ (fun m e => e.1 = .ok m.1 ∧ P m e.2) ms own) :
    own.map Prod.fst = ms.map (fun m => .ok m.1) ∧
      (∀ e ∈ own, ∃ m ∈ ms, e.1 = .ok m.1 ∧ P m e.2) ∧
      ∀ m ∈ ms, ∃ d, (.ok m.1, d) ∈ own ∧ P m d := by
  induction h with
  | nil => simp
  | @cons m e ms own hfirst _ ih =>
    obtain ⟨key, d⟩ := e
    obtain ⟨rfl, hd⟩ := hfirst
    obtain ⟨hnames, hown, hms⟩ := ih
    refine ⟨by simp [hnames], ?_, ?_⟩
    · intro e he
      rcases List.mem_cons.mp he with rfl | he
      · exact ⟨m, List.mem_cons_self, rfl, hd⟩
      · obtain ⟨m', hm', h⟩ := hown e he
        exact ⟨m', List.mem_cons_of_mem m hm', h⟩
    · intro m' hm'
      rcases List.mem_cons.mp hm' with rfl | hm'
      · exact ⟨d, List.mem_cons_self, hd⟩
      · obtain ⟨d', hd', h⟩ := hms m' hm'
        exact ⟨d', List.mem_cons_of_mem _ hd', h⟩

/-- The members of an object are those written for a record, and others that it does not have. -/
structure Mixes (member : String → Shape) (fields : List Field) (ms : List (String × Value))
    (own foreign all : Members) : Prop where
  written : List.Forall₂ (fun m e => e.1 = .ok m.1 ∧ Matches (member m.1) m.2 e.2) ms own
  unknown : ∀ e ∈ foreign, ∃ name, e.1 = .ok name ∧ name ∉ fields.map (·.name) ∧
    e.2.skip = .ok ()
  perm : all.Perm (own ++ foreign)

theorem isField_iff {name : String} : IsField fields name ↔ name ∈ fields.map (·.name) :=
  List.mem_map.symm

namespace Mixes

variable {own foreign all : Members} {name : String} {d : Draft}

theorem mem_iff (h : Mixes member fields ms own foreign all) (e : Except Flaw String × Draft) :
    e ∈ all ↔ e ∈ own ∨ e ∈ foreign :=
  h.perm.mem_iff.trans List.mem_append

theorem mem_of_written (h : Mixes member fields ms own foreign all) {v : Value}
    (hv : (name, v) ∈ ms) : ∃ d, (.ok name, d) ∈ all ∧ Matches (member name) v d := by
  obtain ⟨-, -, hto⟩ := own_iff h.written
  obtain ⟨d, hd, hmatches⟩ := hto _ hv
  exact ⟨d, (h.mem_iff _).mpr (Or.inl hd), hmatches⟩

/-- A member of the name of a field was written. -/
theorem written_of_mem (h : Mixes member fields ms own foreign all) (hname : IsField fields name)
    (hd : (.ok name, d) ∈ all) : ∃ v, (name, v) ∈ ms ∧ Matches (member name) v d := by
  obtain ⟨-, hfrom, -⟩ := own_iff h.written
  rcases (h.mem_iff _).mp hd with hd | hd
  · obtain ⟨⟨name', v⟩, hm, hkey, hmatches⟩ := hfrom _ hd
    cases hkey
    exact ⟨v, hm, hmatches⟩
  · obtain ⟨name', hkey, hunknown, -⟩ := h.unknown _ hd
    cases hkey
    exact absurd (isField_iff.mp hname) hunknown

theorem apart_foreign (h : Mixes member fields ms own foreign all)
    (e : Except Flaw String × Draft) : ∀ e' ∈ foreign, Apart fields e e' := by
  intro e' he' name hname _ heq
  obtain ⟨name', hkey, hunknown, -⟩ := h.unknown e' he'
  rw [hkey] at heq
  cases heq
  exact hunknown (isField_iff.mp hname)

theorem once (h : Mixes member fields ms own foreign all) (hnodup : (ms.map Prod.fst).Nodup) :
    all.Pairwise (Apart fields) := by
  obtain ⟨hnames, -, -⟩ := own_iff h.written
  rw [h.perm.pairwise_iff fun h => Std.Symm.symm _ _ h, List.pairwise_append]
  refine ⟨?_, List.pairwise_of_forall_mem_list fun e _ e' he' => h.apart_foreign e e' he',
    fun e _ => h.apart_foreign e⟩
  apply apart_of_nodup
  rw [hnames, ← Function.comp_def, ← List.map_map]
  exact hnodup.map fun _ _ heq => Except.ok.inj heq

theorem fits (h : Mixes member fields ms own foreign all) (hfills : Fills member fields ms)
    (hnodup : (fields.map (·.name)).Nodup) : Fits fields all := by
  obtain ⟨-, hfrom, -⟩ := own_iff h.written
  constructor
  · intro e he
    rcases (h.mem_iff e).mp he with he | he
    · obtain ⟨m, -, hkey, -⟩ := hfrom e he
      exact ⟨m.1, hkey⟩
    · obtain ⟨name, hkey, -⟩ := h.unknown e he
      exact ⟨name, hkey⟩
  · intro f hf d he
    obtain ⟨v, hv, hmatches⟩ := h.written_of_mem ⟨f, hf, rfl⟩ he
    exact hfills.accepted hnodup hf hv hmatches
  · intro name d he hnone
    rcases (h.mem_iff _).mp he with he | he
    · obtain ⟨m, hm, hkey, -⟩ := hfrom _ he
      cases hkey
      have hwritten := hfills.sublist_names.subset (List.mem_map_of_mem hm)
      exact absurd (isField_iff.mpr hwritten) hnone
    · obtain ⟨_, -, -, hskip⟩ := h.unknown _ he
      exact hskip
  · exact h.once (hfills.sublist_names.nodup hnodup)
  · intro f hf hrequired
    obtain ⟨v, hv⟩ := hfills.complete hf hrequired
    obtain ⟨d, hd, -⟩ := h.mem_of_written hv
    exact ⟨d, hd⟩

end Mixes

/-- A record is read from any draft that matches what was written for it, and finds in it the
members that were written. -/
theorem record_of_fills (h : Fills member fields ms) (hnodup : (fields.map (·.name)).Nodup)
    {d : Draft} (hd : Matches (.record (fields.map (·.name)) member) (.object ms) d)
    (exact : Bool) :
    ∃ p, record fields exact d = .ok p ∧
      (∀ name v, (name, v) ∈ ms → ∃ d, p.lookup name = some d ∧ Matches (member name) v d) ∧
      ∀ name ∈ fields.map (·.name), (∀ v, (name, v) ∉ ms) → p.lookup name = none := by
  obtain ⟨ms, own, foreign, all, heq, hown, hforeign, hperm, rfl⟩ := hd
  cases heq
  have hmixes : Mixes member fields ms own foreign all := ⟨hown, hforeign, hperm⟩
  obtain ⟨p, hp, hlookup⟩ := record_of_fits (hmixes.fits h hnodup) exact
  refine ⟨p, hp, ?_, ?_⟩
  · intro name v hv
    have hname : IsField fields name :=
      isField_iff.mpr (h.sublist_names.subset (List.mem_map.mpr ⟨_, hv, rfl⟩))
    obtain ⟨d, hd, hmatches⟩ := hmixes.mem_of_written hv
    exact ⟨d, (hlookup name d hname).mpr hd, hmatches⟩
  · intro name hname hnone
    rw [Option.eq_none_iff_forall_ne_some]
    intro d hd
    have hname := isField_iff.mpr hname
    obtain ⟨v, hv, -⟩ := hmixes.written_of_mem hname ((hlookup name d hname).mp hd)
    exact hnone v hv

/-- What is present of a record is what was written for it. -/
structure Holds (member : String → Shape) (fields : List Field) (ms : List (String × Value))
    (p : Present) : Prop where
  given : ∀ name v, (name, v) ∈ ms → ∃ d, p.lookup name = some d ∧ Matches (member name) v d
  missing : ∀ name ∈ fields.map (·.name), (∀ v, (name, v) ∉ ms) → p.lookup name = none

namespace Holds

variable {p : Present}

theorem required (h : Holds member fields ms p) (name : String) (hv : (name, v) ∈ ms)
    (hdec : Stands (member name) v dec a) : p.required name dec = .ok a := by
  obtain ⟨d, hlookup, hd⟩ := h.given name v hv
  unfold Present.required
  rw [hlookup]
  exact hdec.decoded d hd

theorem withDefault (h : Holds member fields ms p) (name : String) (hv : (name, v) ∈ ms)
    (hdec : Stands (member name) v dec a) (default : α) :
    p.withDefault name dec default = .ok a := by
  obtain ⟨d, hlookup, hd⟩ := h.given name v hv
  unfold Present.withDefault
  rw [hlookup]
  exact hdec.decoded d hd

theorem optional {toJson : α → Value} {o : Option α} (h : Holds member fields ms p)
    (name : String) (hname : name ∈ fields.map (·.name))
    (hmem : ∀ v, (name, v) ∈ ms ↔ ∃ a, o = some a ∧ toJson a = v)
    (hdec : ∀ a, Stands (member name) (toJson a) dec a)
    (hnull : ∀ a d, Matches (member name) (toJson a) d → d ≠ .null) :
    p.optional name dec = .ok o := by
  unfold Present.optional
  cases o with
  | none =>
    have hnone : ∀ v, (name, v) ∉ ms := by simp [hmem]
    rw [h.missing name hname hnone]
  | some a =>
    obtain ⟨d, hlookup, hd⟩ := h.given name (toJson a) ((hmem _).mpr ⟨a, rfl, rfl⟩)
    rw [hlookup]
    exact optional_of_ne_null (hnull a d hd) ((hdec a).decoded d hd)

end Holds

theorem Fills.matches_self (h : Fills member fields ms) :
    List.Forall₂ (fun m e => e.1 = .ok m.1 ∧ Matches (member m.1) m.2 e.2) ms
      (membersDrafts ms) := by
  induction h with
  | nil => exact .nil
  | given self _ _ ih => exact .cons ⟨rfl, self⟩ ih
  | missing _ _ ih => exact ih

theorem stands_record (h : Fills member fields ms) (hnodup : (fields.map (·.name)).Nodup)
    (hdec : ∀ d p, record fields true d = .ok p → Holds member fields ms p → dec d = .ok a) :
    Stands (.record (fields.map (·.name)) member) (.object ms) dec a := by
  constructor
  · exact ⟨ms, membersDrafts ms, [], membersDrafts ms, rfl, h.matches_self, by simp, by simp, rfl⟩
  · intro d hd
    obtain ⟨p, hp, hgiven, hmissing⟩ := record_of_fills h hnodup hd true
    exact hdec d p hp ⟨hgiven, hmissing⟩

theorem ne_null_of_matches_record {names : List String} {d : Draft}
    (h : Matches (.record names member) v d) : d ≠ .null := by
  obtain ⟨ms, own, foreign, all, -, -, -, -, rfl⟩ := h
  exact nofun

theorem ne_null_of_matches_plain (hv : v.draft ≠ .null) {d : Draft} (h : Matches .plain v d) :
    d ≠ .null := by
  rw [h]
  exact hv

/-! ## Plain values -/

theorem stands_text (s : String) : Stands .plain (.text s) text s := stands_plain rfl

theorem stands_number {bound n : Nat} (h : n < bound) :
    Stands .plain (.number n) (natBelow bound) n :=
  stands_plain (natBelow_eq_ok.mpr ⟨⟨0, rfl⟩, h⟩)

theorem list_of_items {toJson : α → Value} {l : List α} (h : ∀ a ∈ l, dec (toJson a).draft = .ok a) :
    list dec (Value.array (l.map toJson)).draft = .ok l := by
  have hitems : items dec (itemsDrafts (l.map toJson)) = .ok l := by
    induction l with
    | nil => rfl
    | cons a l ih =>
      rw [List.map_cons, itemsDrafts, items, h a List.mem_cons_self]
      have hrest := ih fun a' ha' => h a' (List.mem_cons_of_mem a ha')
      exact bind_eq_ok.mpr ⟨a, rfl, bind_eq_ok.mpr ⟨l, hrest, rfl⟩⟩
  exact bind_eq_ok.mpr ⟨l, hitems, rfl⟩

end Json

open Json

theorem Uuid.stands (u : Uuid) : Stands .plain u.toJson Uuid.decoder u := by
  refine stands_plain ?_
  unfold Uuid.toJson Uuid.decoder textWith
  simp [Value.draft, Uuid.parse?_toText, text, bind, Except.bind]

theorem Role.stands (r : Role) : Stands .plain r.toJson Role.decoder r := by
  cases r <;> exact stands_plain rfl

theorem SecretAlgorithm.stands (a : SecretAlgorithm) : Stands .plain a.toJson decoder a := by
  cases a
  exact stands_plain rfl

theorem CredentialKind.stands (k : CredentialKind) : Stands .plain k.toJson decoder k := by
  cases k <;> exact stands_plain rfl

theorem RoleSet.stands (s : RoleSet) : Stands .plain s.toJson decoder s := by
  refine stands_plain (map_eq_ok.mpr ⟨s.toList, ?_, s.ofList_toList⟩)
  exact list_of_items fun r _ => r.stands.decoded _ rfl

theorem TextSet.stands (s : TextSet) : Stands .plain s.toJson decoder s := by
  refine stands_plain (map_eq_ok.mpr ⟨s.toList, ?_, s.ofList_toList⟩)
  exact list_of_items fun _ _ => rfl

/-- Entries are read in the order in which they stand. -/
theorem RoleScope.entries_of_draft {l : List (Role × TextSet)} :
    Json.entries Role.ofName? TextSet.decoder
      (membersDrafts (l.map fun (r, urls) => (r.name, urls.toJson))) = .ok l := by
  induction l with
  | nil => rfl
  | cons e l ih =>
    obtain ⟨r, urls⟩ := e
    have hname : Role.ofName? r.name = some r := by cases r <;> rfl
    have hurls := urls.stands.decoded _ rfl
    rw [List.map_cons, membersDrafts, Json.entries, hname]
    exact bind_eq_ok.mpr ⟨urls, hurls, bind_eq_ok.mpr ⟨l, ih, rfl⟩⟩

theorem RoleScope.stands (s : RoleScope) : Stands .map s.toJson RoleScope.decoder s := by
  constructor
  · exact ⟨_, _, rfl, List.Perm.refl _, rfl⟩
  · rintro d ⟨ms, ms', heq, hperm, rfl⟩
    cases heq
    have hall : List.Forall₂ (fun m (e : Role × TextSet) => m = (e.1.name, e.2.toJson))
        (s.entries.map fun (r, urls) => (r.name, urls.toJson)) s.entries := by
      rw [List.forall₂_map_left_iff, List.forall₂_same]
      exact fun _ _ => rfl
    obtain ⟨l, hl, hentries⟩ := List.perm_comp_forall₂ hperm hall
    rw [← List.forall₂_map_right_iff (f := fun e : Role × TextSet => (e.1.name, e.2.toJson)),
      List.forall₂_eq_eq_eq] at hl
    rw [hl]
    refine map_eq_ok.mpr ⟨l, ?_, RoleScope.ofEntries_of_perm hentries⟩
    exact bind_eq_ok.mpr ⟨l, RoleScope.entries_of_draft, rfl⟩

/-! ## Records -/

def DisplayName.shape : Shape := .record (DisplayName.fields.map (·.name)) fun _ => .plain

theorem DisplayName.stands (n : DisplayName) : Stands shape n.toJson decoder n := by
  have hfirst := stands_text n.first
  have hlast := stands_text n.last
  refine stands_record (.required hfirst (.required hlast .nil)) (by decide) ?_
  intro d p hp hholds
  have hfirst := hholds.required "first" (by simp) hfirst
  have hlast := hholds.required "last" (by simp) hlast
  simp only [decoder, hp, hfirst, hlast, bind, Except.bind]
  rfl

def Identity.shape : Shape :=
  .record (Identity.fields.map (·.name)) fun
    | "display_name" => DisplayName.shape
    | "role_scope" => .map
    | _ => .plain

theorem Identity.stands (i : Identity) : Stands shape i.toJson decoder i := by
  have huser := i.user.stands
  have hroles := i.roles.stands
  have hscope := i.scope.stands
  refine stands_record (.required huser (.optional (fun n _ => n.stands)
    (fun n _ d => ne_null_of_matches_record) (.required hroles (.required hscope .nil))))
    (by decide) ?_
  intro d p hp hholds
  have huser := hholds.required "user_id" (by simp) huser
  have hname : p.optional "display_name" DisplayName.decoder = .ok i.displayName :=
    hholds.optional "display_name" (by decide) (by simp [Value.member?]) DisplayName.stands
      fun n d => ne_null_of_matches_record
  have hroles := hholds.required "roles" (by simp) hroles
  have hscope := hholds.required "role_scope" (by simp) hscope
  simp only [decoder, hp, huser, hname, hroles, hscope, bind, Except.bind]
  rfl

def DelegationContext.shape : Shape :=
  .record (DelegationContext.fields.map (·.name)) fun _ => .plain

theorem DelegationContext.stands (c : DelegationContext) : Stands shape c.toJson decoder c := by
  have hid := c.id.stands
  have hdelegator := c.delegator.stands
  have hrole := c.role.stands
  have hurl := stands_text c.url
  refine stands_record (.required hid (.required hdelegator (.required hrole (.required hurl .nil))))
    (by decide) ?_
  intro d p hp hholds
  have hid := hholds.required "delegation_id" (by simp) hid
  have hdelegator := hholds.required "delegator_user_id" (by simp) hdelegator
  have hrole := hholds.required "role" (by simp) hrole
  have hurl := hholds.required "resource_server_url" (by simp) hurl
  simp only [decoder, hp, hid, hdelegator, hrole, hurl, bind, Except.bind]
  rfl

def ProviderScope.shape : Shape := .record (ProviderScope.fields.map (·.name)) fun _ => .plain

theorem ProviderScope.stands (s : ProviderScope) : Stands shape s.toJson decoder s := by
  have hprovider := s.provider.stands
  have hdomain := stands_text s.trustDomain
  refine stands_record (.required hprovider (.required hdomain .nil)) (by decide) ?_
  intro d p hp hholds
  have hprovider := hholds.required "provider_id" (by simp) hprovider
  have hdomain := hholds.required "trust_domain" (by simp) hdomain
  simp only [decoder, hp, hprovider, hdomain, bind, Except.bind]
  rfl

def IdentityContext.members : String → Shape
  | "identity" => Identity.shape
  | "delegation" => DelegationContext.shape
  | "provider_scope" => ProviderScope.shape
  | _ => .plain

def IdentityContext.shape : Shape := .record (IdentityContext.fields.map (·.name)) members

theorem IdentityContext.stands (c : IdentityContext) : Stands shape c.toJson decoder c := by
  have hidentity := c.identity.stands
  have hcredential := c.credential.stands
  have hlast : Fills members [.optional "provider_scope" ProviderScope.decoder]
      (Value.member? "provider_scope" (c.providerScope.map (·.toJson)) ++ []) :=
    .optional (fun s _ => s.stands) (fun _ _ _ => ne_null_of_matches_record) .nil
  rw [List.append_nil] at hlast
  refine stands_record (.required hidentity (.required hcredential
    (.optional (fun d _ => d.stands) (fun _ _ _ => ne_null_of_matches_record) hlast)))
    (by decide) ?_
  intro d p hp hholds
  have hidentity := hholds.required "identity" (by simp) hidentity
  have hcredential := hholds.required "credential" (by simp) hcredential
  have hdelegation : p.optional "delegation" DelegationContext.decoder = .ok c.delegation :=
    hholds.optional "delegation" (by decide) (by simp [Value.member?]) DelegationContext.stands
      fun _ _ => ne_null_of_matches_record
  have hscope : p.optional "provider_scope" ProviderScope.decoder = .ok c.providerScope :=
    hholds.optional "provider_scope" (by decide) (by simp [Value.member?]) ProviderScope.stands
      fun _ _ => ne_null_of_matches_record
  simp only [decoder, hp, hidentity, hcredential, hdelegation, hscope, bind, Except.bind]
  rfl

def DelegationGrant.shape : Shape := .record (DelegationGrant.fields.map (·.name)) fun _ => .plain

theorem DelegationGrant.stands (g : DelegationGrant) : Stands shape g.toJson decoder g := by
  have hid := g.id.stands
  have hdelegator := g.delegator.stands
  have hdelegate := g.delegate.stands
  have hrole := g.role.stands
  have hurl := stands_text g.url
  refine stands_record (.required hid (.required hdelegator (.required hdelegate
    (.required hrole (.required hurl .nil))))) (by decide) ?_
  intro d p hp hholds
  have hid := hholds.required "delegation_id" (by simp) hid
  have hdelegator := hholds.required "delegator_user_id" (by simp) hdelegator
  have hdelegate := hholds.required "delegate_user_id" (by simp) hdelegate
  have hrole := hholds.required "role" (by simp) hrole
  have hurl := hholds.required "resource_server_url" (by simp) hurl
  simp only [decoder, hp, hid, hdelegator, hdelegate, hrole, hurl, bind, Except.bind]
  rfl

def ClientCredential.shape : Shape :=
  .record (ClientCredential.fields.map (·.name)) fun _ => .plain

theorem ClientCredential.stands (c : ClientCredential) : Stands shape c.toJson decoder c := by
  have hclient := c.client.stands
  have howner := c.owner.stands
  have hhash := stands_text c.secretHash
  have halgorithm := c.algorithm.stands
  refine stands_record (.required hclient (.required howner (.required hhash
    (.required halgorithm .nil)))) (by decide) ?_
  intro d p hp hholds
  have hclient := hholds.required "client_id" (by simp) hclient
  have howner := hholds.required "owner_user_id" (by simp) howner
  have hhash := hholds.required "secret_hash" (by simp) hhash
  have halgorithm := hholds.required "algorithm" (by simp) halgorithm
  simp only [decoder, hp, hclient, howner, hhash, halgorithm, bind, Except.bind]
  rfl

def FailureEnvelope.shape : Shape := .record (FailureEnvelope.fields.map (·.name)) fun _ => .plain

theorem FailureEnvelope.stands {e : FailureEnvelope} (h : e.status < statusBound) :
    Stands shape e.toJson decoder e := by
  have hkind := stands_text e.kind
  have htitle := stands_text e.title
  have hdetail := stands_text e.detail
  have hstatus := stands_number h
  refine stands_record (.required hkind (.required htitle (.required hdetail
    (.required hstatus .nil)))) (by decide) ?_
  intro d p hp hholds
  have hkind := hholds.required "type" (by simp) hkind
  have htitle := hholds.required "title" (by simp) htitle
  have hdetail := hholds.required "detail" (by simp) hdetail
  have hstatus := hholds.required "status" (by simp) hstatus
  simp only [decoder, hp, hkind, htitle, hdetail, hstatus, bind, Except.bind]
  rfl

def SubjectClaims.shape : Shape := .record (SubjectClaims.fields.map (·.name)) fun _ => .plain

theorem SubjectClaims.stands (c : SubjectClaims) : Stands shape c.toJson decoder c := by
  have hsubject := stands_text c.subject
  have hgiven := stands_text c.givenName
  have hfamily := stands_text c.familyName
  refine stands_record (.required hsubject (.defaulted hgiven (.defaulted hfamily .nil)))
    (by decide) ?_
  intro d p hp hholds
  have hsubject := hholds.required "sub" (by simp) hsubject
  have hgiven := hholds.withDefault "given_name" (by simp) hgiven ""
  have hfamily := hholds.withDefault "family_name" (by simp) hfamily ""
  simp only [decoder, hp, hsubject, hgiven, hfamily, bind, Except.bind]
  rfl

def ValidatedToken.shape : Shape := .record (ValidatedToken.fields.map (·.name)) fun _ => .plain

theorem ValidatedToken.stands {t : ValidatedToken} (h : t.expiry < expiryBound) :
    Stands shape t.toJson decoder { t with raw := "" } := by
  have hsubject := stands_text t.subject
  have hexpiry := stands_number h
  refine stands_record (.required hsubject (.required hexpiry .nil)) (by decide) ?_
  intro d p hp hholds
  have hsubject := hholds.required "subject" (by simp) hsubject
  have hexpiry := hholds.required "expiry" (by simp) hexpiry
  simp only [decoder, hp, hsubject, hexpiry, bind, Except.bind]
  rfl

/-- Every shared record is read from the text written for it, a validated token without the token
itself; and so it is when the members of the objects in the text are put in another order and when
its records are given members that they do not have. -/
theorem formats_faithful :
    (∀ r : Role, ReadsBack .plain r.toJson Role.decoder r) ∧
    (∀ a : SecretAlgorithm, ReadsBack .plain a.toJson SecretAlgorithm.decoder a) ∧
    (∀ k : CredentialKind, ReadsBack .plain k.toJson CredentialKind.decoder k) ∧
    (∀ n : DisplayName, ReadsBack DisplayName.shape n.toJson DisplayName.decoder n) ∧
    (∀ i : Identity, ReadsBack Identity.shape i.toJson Identity.decoder i) ∧
    (∀ c : DelegationContext,
      ReadsBack DelegationContext.shape c.toJson DelegationContext.decoder c) ∧
    (∀ s : ProviderScope, ReadsBack ProviderScope.shape s.toJson ProviderScope.decoder s) ∧
    (∀ c : IdentityContext, ReadsBack IdentityContext.shape c.toJson IdentityContext.decoder c) ∧
    (∀ g : DelegationGrant, ReadsBack DelegationGrant.shape g.toJson DelegationGrant.decoder g) ∧
    (∀ c : ClientCredential,
      ReadsBack ClientCredential.shape c.toJson ClientCredential.decoder c) ∧
    (∀ (kind title detail : String) (status : UInt16),
      let e : FailureEnvelope := ⟨kind, title, detail, status.toNat⟩
      ReadsBack FailureEnvelope.shape e.toJson FailureEnvelope.decoder e) ∧
    (∀ c : SubjectClaims, ReadsBack SubjectClaims.shape c.toJson SubjectClaims.decoder c) ∧
    ∀ (subject raw : String) (expiry : UInt64),
      let t : ValidatedToken := ⟨subject, expiry.toNat, raw⟩
      ReadsBack ValidatedToken.shape t.toJson ValidatedToken.decoder { t with raw := "" } := by
  refine ⟨fun r => r.stands.readsBack, fun a => a.stands.readsBack, fun k => k.stands.readsBack,
    fun n => n.stands.readsBack, fun i => i.stands.readsBack, fun c => c.stands.readsBack,
    fun s => s.stands.readsBack, fun c => c.stands.readsBack, fun g => g.stands.readsBack,
    fun c => c.stands.readsBack, ?_, fun c => c.stands.readsBack, ?_⟩
  · intro kind title detail status e
    have hstatus : e.status < FailureEnvelope.statusBound := status.toNat_lt
    exact (FailureEnvelope.stands hstatus).readsBack
  · intro subject raw expiry t
    have hexpiry : t.expiry < ValidatedToken.expiryBound := expiry.toNat_lt
    exact (ValidatedToken.stands hexpiry).readsBack

/-- The last name comes first, after a number that names do not have. -/
theorem formats_faithful_swapped :
    let cs := objectText ["\"x\":-0.5".toList, "\"last\":\"B\"".toList, "\"first\":\"A\"".toList]
    Rearranged DisplayName.shape (DisplayName.toJson ⟨"A", "B"⟩) cs ∧
      decode DisplayName.decoder (String.ofList cs) = .ok ⟨"A", "B"⟩ := by
  intro cs
  have hdigits : Digits ['5'] := ⟨by simp, List.forall_mem_singleton.mpr rfl⟩
  have hnumber : IsNumber "-0.5".toList := .intro (Or.inr rfl) .zero (.digits hdigits) .none
  have hblank : Blank [] := by simp [Blank]
  have hkey : IsKey ("x".toList.map .char) "\"x\"".toList :=
    .intro hblank (isLiteral_quote "x") hblank
  have hunknown : "x" ∉ DisplayName.fields.map (·.name) := by decide
  have hforeign : Foreign (DisplayName.fields.map (·.name)) "\"x\":-0.5".toList :=
    .intro hunknown hkey rfl (.number hnumber)
  have hcs : Rearranged DisplayName.shape (DisplayName.toJson ⟨"A", "B"⟩) cs := by
    refine ⟨_, ["\"first\":\"A\"".toList, "\"last\":\"B\"".toList], ["\"x\":-0.5".toList], _, rfl,
      ?_, ?_, ?_, rfl⟩
    · exact .cons ⟨_, rfl, rfl⟩ (.cons ⟨_, rfl, rfl⟩ .nil)
    · simpa using hforeign
    · decide
  obtain ⟨-, -, -, hnames, -⟩ := formats_faithful
  exact ⟨hcs, (hnames ⟨"A", "B"⟩).rearranged cs hcs⟩

end Gatehouse

import Gatehouse.Json.Bytes
import Gatehouse.Proofs.Except
import Mathlib.Data.List.Nodup
import Mathlib.Data.List.Pairwise

/-!
# What decoders accept

Inversion lemmas of the decoders: from a value that was read to the draft that it was read from. A
field of a record is the one member of its name (`HasMember`), since a member that is given twice is
never accepted.
-/

namespace Gatehouse.Json

variable {α : Type} {d : Draft}

/-! ## Plain values -/

/-- A draft is a text literal that says something. -/
def Draft.Says (d : Draft) (s : String) : Prop := ∃ ending, d = .text (.ok s) ending

/-- A draft is an integer literal for a natural number. -/
def Draft.Counts (d : Draft) (n : Nat) : Prop :=
  ∃ scale, d = .number ⟨false, n, scale, true⟩

/-- A draft names something: as a text, or as the one key of an object whose value is null. -/
def Draft.Names (d : Draft) (s : String) : Prop :=
  d.Says s ∨ d = .object [(.ok s, .null)] .closed

/-- A draft is a text, or an array with the text as an item. -/
def Draft.Lists (d : Draft) (s : String) : Prop :=
  d.Says s ∨ ∃ ds, d = .array ds none ∧ ∃ item ∈ ds, item.Says s

/-- A draft tells texts: it is the one text, or an array of them in order. -/
def Draft.Tells (d : Draft) (names : List String) : Prop :=
  (∃ s, names = [s] ∧ d.Says s) ∨ ∃ ds, d = .array ds none ∧ List.Forall₂ Draft.Says ds names

theorem Draft.Tells.lists {names : List String} {s : String} (h : d.Tells names) (hs : s ∈ names) :
    d.Lists s := by
  rcases h with ⟨s', rfl, hsays⟩ | ⟨ds, rfl, hitems⟩
  · rw [List.mem_singleton.mp hs]
    exact Or.inl hsays
  · refine Or.inr ⟨ds, rfl, ?_⟩
    induction hitems with
    | nil => cases hs
    | @cons item name ds names hsays hrest ih =>
      rcases List.mem_cons.mp hs with rfl | hs
      · exact ⟨item, List.mem_cons_self, hsays⟩
      · obtain ⟨item', hitem, hsays'⟩ := ih hs
        exact ⟨item', List.mem_cons_of_mem item hitem, hsays'⟩

theorem Draft.Names.unique {s s' : String} (h : d.Names s) (h' : d.Names s') : s = s' := by
  rcases h with ⟨ending, rfl⟩ | rfl
  · rcases h' with ⟨ending', h'⟩ | h'
    · cases h'
      rfl
    · cases h'
  · rcases h' with ⟨ending', h'⟩ | h'
    · cases h'
    · cases h'
      rfl

theorem text_eq_ok {s : String} : text d = .ok s ↔ d.Says s := by
  constructor
  · intro h
    unfold text at h
    split at h
    · next ending =>
      cases h
      exact ⟨ending, rfl⟩
    · cases h
  · rintro ⟨ending, rfl⟩
    rfl

theorem optional_ok {dec : Decoder α} {a : α} (h : optional dec d = .ok (some a)) :
    dec d = .ok a := by
  unfold optional at h
  split at h
  · cases h
  · obtain ⟨b, hb, ⟨⟩⟩ := map_eq_ok.mp h
    exact hb

theorem optional_of_ne_null {dec : Decoder α} {a : α} (hnull : d ≠ .null) (h : dec d = .ok a) :
    optional dec d = .ok (some a) := by
  unfold optional
  split
  · exact absurd rfl hnull
  · rw [h]
    rfl

theorem natBelow_eq_ok {bound n : Nat} : natBelow bound d = .ok n ↔ d.Counts n ∧ n < bound := by
  constructor
  · intro h
    unfold natBelow at h
    split at h
    · next m =>
      obtain ⟨negative, digits, scale, integral⟩ := m
      split at h
      · next hm =>
        cases h
        simp only [Bool.and_eq_true, Bool.not_eq_eq_eq_not, Bool.not_true, decide_eq_true_eq] at hm
        obtain ⟨⟨rfl, rfl⟩, hbound⟩ := hm
        exact ⟨⟨scale, rfl⟩, hbound⟩
      · cases h
    · cases h
  · rintro ⟨⟨scale, rfl⟩, hbound⟩
    simp [natBelow, hbound]

theorem items_text_eq_ok {ds : List Draft} {l : List String} :
    items text ds = .ok l ↔ List.Forall₂ Draft.Says ds l := by
  induction ds generalizing l with
  | nil =>
    rw [List.forall₂_nil_left_iff]
    constructor
    · rintro ⟨⟩
      rfl
    · rintro rfl
      rfl
  | cons d ds ih =>
    unfold items
    constructor
    · intro h
      obtain ⟨s, hs, h⟩ := bind_eq_ok.mp h
      obtain ⟨rest, hrest, ⟨⟩⟩ := bind_eq_ok.mp h
      exact .cons (text_eq_ok.mp hs) (ih.mp hrest)
    · rintro (_ | ⟨hs, hrest⟩)
      exact bind_eq_ok.mpr ⟨_, text_eq_ok.mpr hs, bind_eq_ok.mpr ⟨_, ih.mpr hrest, rfl⟩⟩

theorem list_text_eq_ok {l : List String} :
    list text d = .ok l ↔ ∃ ds, d = .array ds none ∧ List.Forall₂ Draft.Says ds l := by
  constructor
  · intro h
    unfold list at h
    split at h
    · next ds ending =>
      obtain ⟨l, hl, h⟩ := bind_eq_ok.mp h
      obtain ⟨_, hclosing, ⟨⟩⟩ := bind_eq_ok.mp h
      cases ending with
      | none => exact ⟨ds, rfl, items_text_eq_ok.mp hl⟩
      | some f => cases hclosing
    · cases h
  · rintro ⟨ds, rfl, hitems⟩
    exact bind_eq_ok.mpr ⟨l, items_text_eq_ok.mpr hitems, rfl⟩

/-- One of several names is read from a draft that names it. -/
theorem oneOf_ok {named : String → Option α} {a : α} (h : oneOf named d = .ok a) :
    ∃ s, d.Names s ∧ named s = some a := by
  unfold oneOf at h
  split at h
  · next s ending =>
    split at h
    · next b hb =>
      cases h
      exact ⟨s, Or.inl ⟨ending, rfl⟩, hb⟩
    · cases h
  · cases h
  · cases h
  · cases h
  · cases h
  · next s value more ending =>
    split at h
    · next b hb =>
      dsimp only at h
      split at h
      · split at h
        · cases h
          exact ⟨s, Or.inr rfl, hb⟩
        · cases h
        · cases h
      · cases h
    · cases h
  · cases h
  · cases h

/-! ## Records -/

/-- The members of an object. -/
abbrev Members := List (Except Flaw String × Draft)

/-- An object has a member of a name, and no other one of that name. -/
def HasMember (ms : Members) (name : String) (d : Draft) : Prop :=
  (.ok name, d) ∈ ms ∧ ∀ d', (.ok name, d') ∈ ms → d' = d

/-- A name is that of a field. -/
def IsField (fields : List Field) (name : String) : Prop := ∃ f ∈ fields, f.name = name

/-- Reading members as fields keeps every member that is a field, and no name twice. -/
theorem fieldsOfMembers_ok {fields : List Field} {ms : Members} {present out : Present}
    (h : fieldsOfMembers fields present ms = .ok out) (hnodup : (present.map Prod.fst).Nodup) :
    (out.map Prod.fst).Nodup ∧ ∀ name d,
      (name, d) ∈ out ↔ (name, d) ∈ present ∨ (.ok name, d) ∈ ms ∧ IsField fields name := by
  induction ms generalizing present with
  | nil =>
    cases h
    exact ⟨hnodup, fun name d => by simp⟩
  | cons m ms ih =>
    obtain ⟨key, draft⟩ := m
    cases key with
    | error f => cases h
    | ok key =>
      unfold fieldsOfMembers at h
      split at h
      · next hnone =>
        -- The first member is no field, and is passed over.
        obtain ⟨-, -, h⟩ := bind_eq_ok.mp h
        obtain ⟨hout, hmem⟩ := ih h hnodup
        refine ⟨hout, fun name d => (hmem name d).trans (or_congr_right ?_)⟩
        constructor
        · rintro ⟨hm, hf⟩
          exact ⟨List.mem_cons_of_mem _ hm, hf⟩
        · rintro ⟨hm, f, hf, rfl⟩
          rcases List.mem_cons.mp hm with heq | hm
          · cases heq
            exact absurd (beq_self_eq_true f.name) (List.find?_eq_none.mp hnone f hf)
          · exact ⟨hm, f, hf, rfl⟩
      · next field hfield =>
        have hkey : IsField fields key :=
          ⟨field, List.mem_of_find?_eq_some hfield, by simpa using List.find?_some hfield⟩
        by_cases hany : present.any (·.1 == key) = true
        · rw [if_pos hany] at h
          cases h
        · -- It is a field that is not present yet, and counts as present from here on.
          rw [if_neg hany] at h
          obtain ⟨-, -, h⟩ := bind_eq_ok.mp h
          have hnew : ((key, draft) :: present).map Prod.fst |>.Nodup := by
            refine List.nodup_cons.mpr ⟨fun hmem => hany ?_, hnodup⟩
            obtain ⟨e, he, rfl⟩ := List.mem_map.mp hmem
            exact List.any_eq_true.mpr ⟨e, he, beq_self_eq_true e.1⟩
          obtain ⟨hout, hmem⟩ := ih h hnew
          refine ⟨hout, fun name d => (hmem name d).trans ?_⟩
          constructor
          · rintro (hm | ⟨hm, hf⟩)
            · rcases List.mem_cons.mp hm with heq | hm
              · cases heq
                exact Or.inr ⟨List.mem_cons_self, hkey⟩
              · exact Or.inl hm
            · exact Or.inr ⟨List.mem_cons_of_mem _ hm, hf⟩
          · rintro (hm | ⟨hm, hf⟩)
            · exact Or.inl (List.mem_cons_of_mem _ hm)
            · rcases List.mem_cons.mp hm with heq | hm
              · cases heq
                exact Or.inl List.mem_cons_self
              · exact Or.inr ⟨hm, hf⟩

theorem HasMember.unique {ms : Members} {name : String} {d' : Draft} (h : HasMember ms name d)
    (h' : HasMember ms name d') : d = d' :=
  h'.2 d h.1

/-- What is found in a record under the name of a field is the one member of that name. -/
theorem lookup_eq_some_iff {fields : List Field} {ms : Members} {out : Present} {name : String}
    (h : fieldsOfMembers fields [] ms = .ok out) (hf : IsField fields name) :
    out.lookup name = some d ↔ HasMember ms name d := by
  obtain ⟨hnodup, hmem⟩ := fieldsOfMembers_ok h List.nodup_nil
  have hout : ∀ d, (name, d) ∈ out ↔ (.ok name, d) ∈ ms := fun d =>
    (hmem name d).trans ⟨fun hd => (hd.resolve_left List.not_mem_nil).1, fun hd => Or.inr ⟨hd, hf⟩⟩
  have hfound : ∀ d, out.lookup name = some d → (name, d) ∈ out := by
    intro d hd
    obtain ⟨before, after, rfl, -⟩ := List.lookup_eq_some_iff.mp hd
    exact List.mem_append_right before List.mem_cons_self
  have hsame : ∀ d d', (name, d) ∈ out → (name, d') ∈ out → d = d' := fun d d' hd hd' =>
    congrArg Prod.snd (List.inj_on_of_nodup_map hnodup hd hd' rfl)
  constructor
  · intro hd
    exact ⟨(hout d).mp (hfound d hd), fun d' hd' =>
      hsame d' d ((hout d').mpr hd') (hfound d hd)⟩
  · rintro ⟨hm, -⟩
    cases hlookup : out.lookup name with
    | none =>
      have habsent := List.lookup_eq_none_iff.mp hlookup (name, d) ((hout d).mpr hm)
      simp at habsent
    | some d' => rw [hsame d' d (hfound d' hlookup) ((hout d).mpr hm)]

/-- A record that is read from an object finds its fields among the members. -/
theorem record_ok {fields : List Field} {exact : Bool} {ms : Members} {ending : ObjectEnd Draft}
    {out : Present} (h : record fields exact (.object ms ending) = .ok out) :
    ending = .closed ∧ ∀ name d, IsField fields name →
      (out.lookup name = some d ↔ HasMember ms name d) := by
  unfold record at h
  obtain ⟨present, hpresent, h⟩ := bind_eq_ok.mp h
  obtain ⟨_, hclosing, h⟩ := bind_eq_ok.mp h
  split at h
  · cases h
    refine ⟨?_, fun name d hf => lookup_eq_some_iff hpresent hf⟩
    cases ending with
    | closed => rfl
    | flawed afterComma f => cases hclosing
    | strayKey afterComma key => cases hclosing
  · cases h

/-- Two members are not the same field. -/
def Apart (fields : List Field) (m m' : Except Flaw String × Draft) : Prop :=
  ∀ name, IsField fields name → m.1 = .ok name → m'.1 ≠ .ok name

instance (fields : List Field) : Std.Symm (Apart fields) where
  symm _ _ h name hname hm' hm := h name hname hm hm'

theorem apart_of_nodup {fields : List Field} {ms : Members} (h : (ms.map Prod.fst).Nodup) :
    ms.Pairwise (Apart fields) := by
  refine (List.pairwise_map.mp h).imp ?_
  intro m m' hne name _ hkey hkey'
  exact hne (hkey.trans hkey'.symm)

/-- The members of an object make up a record: all keys can be read, a member that is a field has a
value that the field accepts and is given once, one that is no field can be passed over, and what
has to be there is. -/
structure Fits (fields : List Field) (ms : Members) : Prop where
  legible : ∀ m ∈ ms, ∃ name, m.1 = .ok name
  accepted : ∀ f ∈ fields, ∀ d, (.ok f.name, d) ∈ ms → f.check d = .ok ()
  passed : ∀ name d, (.ok name, d) ∈ ms → ¬ IsField fields name → d.skip = .ok ()
  once : ms.Pairwise (Apart fields)
  complete : ∀ f ∈ fields, f.presence = .required → ∃ d, (.ok f.name, d) ∈ ms

theorem isField_iff_find? {fields : List Field} {name : String} :
    IsField fields name ↔ ∃ f, fields.find? (·.name == name) = some f := by
  rw [← Option.isSome_iff_exists, List.find?_isSome]
  simp [IsField]

theorem exists_fieldsOfMembers {fields : List Field} {ms : Members} (present : Present)
    (hlegible : ∀ m ∈ ms, ∃ name, m.1 = .ok name)
    (haccepted : ∀ f ∈ fields, ∀ d, (.ok f.name, d) ∈ ms → f.check d = .ok ())
    (hpassed : ∀ name d, (.ok name, d) ∈ ms → ¬ IsField fields name → d.skip = .ok ())
    (honce : ms.Pairwise (Apart fields))
    (hnew : ∀ m ∈ ms, ∀ name, IsField fields name → m.1 = .ok name →
      present.any (·.1 == name) = false) :
    ∃ out, fieldsOfMembers fields present ms = .ok out := by
  induction ms generalizing present with
  | nil => exact ⟨present, rfl⟩
  | cons m ms ih =>
    obtain ⟨key, d⟩ := m
    obtain ⟨name, rfl⟩ : ∃ name, key = .ok name := hlegible (key, d) List.mem_cons_self
    obtain ⟨hfirst, hrest⟩ := List.pairwise_cons.mp honce
    have hnext : ∀ present' : Present,
        (∀ m ∈ ms, ∀ name, IsField fields name → m.1 = .ok name →
          present'.any (·.1 == name) = false) →
        ∃ out, fieldsOfMembers fields present' ms = .ok out := fun present' hnew' =>
      ih present' (fun m hm => hlegible m (List.mem_cons_of_mem _ hm))
        (fun f hf d hd => haccepted f hf d (List.mem_cons_of_mem _ hd))
        (fun name d hd => hpassed name d (List.mem_cons_of_mem _ hd)) hrest hnew'
    unfold fieldsOfMembers
    cases hfind : fields.find? (·.name == name) with
    | none =>
      have hno : ¬ IsField fields name := by
        rw [isField_iff_find?, hfind]
        simp
      rw [hpassed name d List.mem_cons_self hno]
      exact hnext present fun m hm => hnew m (List.mem_cons_of_mem _ hm)
    | some f =>
      have hname : f.name = name := by simpa using List.find?_some hfind
      have hfield : IsField fields name := ⟨f, List.mem_of_find?_eq_some hfind, hname⟩
      have hcheck : f.check d = .ok () :=
        haccepted f (List.mem_of_find?_eq_some hfind) d (hname ▸ List.mem_cons_self)
      have hany := hnew (.ok name, d) List.mem_cons_self name hfield rfl
      dsimp only
      rw [hany, hcheck]
      refine hnext ((name, d) :: present) ?_
      intro m hm name' hfield' hm'
      have hne : name ≠ name' := by
        rintro rfl
        exact hfirst m hm name hfield' rfl hm'
      simpa [hne] using hnew m (List.mem_cons_of_mem _ hm) name' hfield' hm'

/-- A field that is given once is the one member of its name. -/
theorem hasMember_iff {fields : List Field} {ms : Members} (h : ms.Pairwise (Apart fields))
    {name : String} (hname : IsField fields name) : HasMember ms name d ↔ (.ok name, d) ∈ ms := by
  refine ⟨And.left, fun hm => ⟨hm, fun d' hm' => ?_⟩⟩
  by_contra hne
  have hdistinct : ((.ok name, d') : Except Flaw String × Draft) ≠ (.ok name, d) := fun heq =>
    hne (congrArg Prod.snd heq)
  exact h.forall hm' hm hdistinct name hname rfl rfl

/-- A record is read from members that make it up, and its fields are the members. -/
theorem record_of_fits {fields : List Field} {ms : Members} (h : Fits fields ms) (exact : Bool) :
    ∃ p, record fields exact (.object ms .closed) = .ok p ∧
      ∀ name d, IsField fields name → (p.lookup name = some d ↔ (.ok name, d) ∈ ms) := by
  obtain ⟨p, hp⟩ := exists_fieldsOfMembers [] h.legible h.accepted h.passed h.once
    (fun _ _ _ _ _ => rfl)
  have hcomplete : complete fields p = true := by
    unfold complete
    rw [List.all_eq_true]
    intro f hf
    by_cases hrequired : f.presence = .required
    · obtain ⟨d, hd⟩ := h.complete f hf hrequired
      have hmem := ((fieldsOfMembers_ok hp List.nodup_nil).2 f.name d).mpr
        (Or.inr ⟨hd, f, hf, rfl⟩)
      simp only [Bool.or_eq_true, List.any_eq_true]
      exact Or.inr ⟨_, hmem, beq_self_eq_true f.name⟩
    · simp [hrequired]
  have hrecord : record fields exact (.object ms .closed) = .ok p := by
    unfold record
    exact bind_eq_ok.mpr ⟨p, hp, bind_eq_ok.mpr ⟨(), rfl, if_pos hcomplete⟩⟩
  refine ⟨p, hrecord, ?_⟩
  intro name d hname
  rw [(record_ok hrecord).2 name d hname, hasMember_iff h.once hname]

/-- A record of which only one member is there, when it lacks no member that it needs. -/
theorem record_bind_of_only {β : Type} {fields : List Field} {name : String} {dec : Decoder α}
    {d : Draft} {exact : Bool} {rest : Present → Except ReadFault β}
    {g : α → β}
    (hfield : fields.find? (·.name == name) = some (.defaulted name dec))
    (hnothing : complete fields [] = true)
    (hrest : rest [(name, d)] = dec d >>= fun a => .ok (g a)) :
    record fields exact (.object [(.ok name, d)] .closed) >>= rest = (dec d).map g := by
  have hcomplete : complete fields [(name, d)] = true := by
    unfold complete at hnothing ⊢
    rw [List.all_eq_true] at hnothing ⊢
    intro f hf
    have hf := hnothing f hf
    rw [List.any_nil, Bool.or_false] at hf
    rw [hf, Bool.true_or]
  have hrecord : record fields exact (.object [(.ok name, d)] .closed) =
      (dec d).map fun _ => [(name, d)] := by
    simp only [record, fieldsOfMembers, hfield, Field.defaulted, List.any_nil, Bool.false_eq_true,
      if_false]
    cases dec d with
    | error e => rfl
    | ok a => exact if_pos hcomplete
  rw [hrecord]
  cases h : dec d with
  | error e => rfl
  | ok a =>
    rw [h] at hrest
    exact hrest

section Fields

variable {fields : List Field} {ms : Members} {p : Present} {name : String} {dec : Decoder α}

/-- Members that make up a record have a value for each field that has to be there. -/
theorem Fits.exists_required (h : Fits fields ms)
    (hlookup : ∀ name d, IsField fields name → (p.lookup name = some d ↔ (.ok name, d) ∈ ms))
    (hf : .required name dec ∈ fields) : ∃ a, p.required name dec = .ok a := by
  obtain ⟨d, hd⟩ := h.complete _ hf rfl
  obtain ⟨a, ha, -⟩ := map_eq_ok.mp (h.accepted _ hf d hd)
  refine ⟨a, ?_⟩
  unfold Present.required
  rw [(hlookup name d ⟨_, hf, rfl⟩).mpr hd]
  exact ha

theorem Fits.exists_withDefault (h : Fits fields ms)
    (hlookup : ∀ name d, IsField fields name → (p.lookup name = some d ↔ (.ok name, d) ∈ ms))
    (hf : .defaulted name dec ∈ fields) (default : α) :
    ∃ a, p.withDefault name dec default = .ok a := by
  unfold Present.withDefault
  cases hp : p.lookup name with
  | none => exact ⟨default, rfl⟩
  | some d =>
    have hd := (hlookup name d ⟨_, hf, rfl⟩).mp hp
    obtain ⟨a, ha, -⟩ := map_eq_ok.mp (h.accepted _ hf d hd)
    exact ⟨a, ha⟩

end Fields

theorem required_ok {p : Present} {name : String} {dec : Decoder α} {a : α}
    (h : p.required name dec = .ok a) : ∃ d, p.lookup name = some d ∧ dec d = .ok a := by
  unfold Present.required at h
  split at h
  · next d hd => exact ⟨d, hd, h⟩
  · cases h

theorem present_optional_ok {p : Present} {name : String} {dec : Decoder α} {a : α}
    (h : p.optional name dec = .ok (some a)) : ∃ d, p.lookup name = some d ∧ dec d = .ok a := by
  unfold Present.optional at h
  split at h
  · next d hd => exact ⟨d, hd, optional_ok h⟩
  · cases h

theorem withDefault_ok {p : Present} {name : String} {dec : Decoder α} {default a : α}
    (h : p.withDefault name dec default = .ok a) :
    (∃ d, p.lookup name = some d ∧ dec d = .ok a) ∨ p.lookup name = none ∧ a = default := by
  unfold Present.withDefault at h
  split at h
  · next d hd => exact Or.inl ⟨d, hd, h⟩
  · next hnone =>
    cases h
    exact Or.inr ⟨hnone, rfl⟩

/-- A field without a value of its own is worth what the one member of its name is worth. -/
theorem withDefault_none_iff {β : Type} {P : Draft → β → Prop} {p : Present} {ms : Members}
    {name : String} {dec : Decoder (Option β)} {o : Option β}
    (hlookup : ∀ d, p.lookup name = some d ↔ HasMember ms name d)
    (hdec : ∀ d o, dec d = .ok o → ∀ b, o = some b ↔ P d b)
    (h : p.withDefault name dec none = .ok o) (b : β) :
    o = some b ↔ ∃ d, HasMember ms name d ∧ P d b := by
  rcases withDefault_ok h with ⟨d, hd, ho⟩ | ⟨hnone, rfl⟩
  · have hmember := (hlookup d).mp hd
    rw [hdec d o ho b]
    constructor
    · exact fun hb => ⟨d, hmember, hb⟩
    · rintro ⟨d', hd', hb⟩
      rwa [hmember.unique hd']
  · constructor
    · rintro ⟨⟩
    · rintro ⟨d, hd, -⟩
      rw [(hlookup d).mpr hd] at hnone
      cases hnone

/-! ## Whole texts -/

/-- Bytes are the JSON text of a draft, and of nothing after it. -/
def Spells (bytes : List UInt8) (d : Draft) : Prop :=
  ∃ rest, read (characters bytes) = (d, rest) ∧ (skipSpaces rest).isEmpty = true

theorem decodeBytes_eq_ok {dec : Decoder α} {bytes : List UInt8} {a : α} :
    decodeBytes dec bytes = .ok a ↔ ∃ d, Spells bytes d ∧ dec d = .ok a := by
  unfold decodeBytes decodeChars Spells
  cases hread : read (characters bytes) with
  | mk d rest =>
    constructor
    · intro h
      obtain ⟨b, hb, h⟩ := bind_eq_ok.mp h
      split at h
      · next hrest =>
        cases h
        exact ⟨d, ⟨rest, rfl, hrest⟩, hb⟩
      · cases h
    · rintro ⟨_, ⟨_, ⟨⟩, hrest⟩, hb⟩
      refine bind_eq_ok.mpr ⟨a, hb, ?_⟩
      rw [if_pos hrest]
      rfl

end Gatehouse.Json

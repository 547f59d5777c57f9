import FeatureTrials.Json.Decode
import FeatureTrials.Proofs.Decimal.Finite
import FeatureTrials.Proofs.Json.Canonical

/-!
# Reading undoes writing

What is read from a value is written in a normal form, and that is read as the same thing again
(`Rereads`). The two readings may be different ones, such as readings at different times. Records
reread field by field, as long as all their fields are written under different names, and a field is
left out only for what an absent field is read as.

* `IsProper` — the values that a text can hold.
* `Rereads` — reading undoes writing; `Rereads.list`, `Rereads.table` and so on for the parts of a
  record, `Rereads.required` and so on for its fields.
-/

namespace FeatureTrials.Json

/-- A value that a text can hold: whole numbers have 64 bits, and doubles are numbers. -/
inductive IsProper : Json → Prop
  | null : IsProper .null
  | bool (b : Bool) : IsProper (.bool b)
  | int {n : Int} (fits : IsSigned n ∨ IsUnsigned n) : IsProper (.int n)
  | float {x : Float} (finite : x.isFinite = true) : IsProper (.float x)
  | str (s : String) : IsProper (.str s)
  | arr {items : List Json} (each : ∀ item ∈ items, IsProper item) : IsProper (.arr items)
  | obj {fields : Fields} (each : ∀ field ∈ fields, IsProper field.2) : IsProper (.obj fields)

attribute [simp] IsProper.null IsProper.bool IsProper.str

@[simp] theorem isProper_int_iff {n : Int} : IsProper (.int n) ↔ IsSigned n ∨ IsUnsigned n :=
  ⟨fun | .int fits => fits, .int⟩

@[simp] theorem isProper_arr_iff {items : List Json} :
    IsProper (.arr items) ↔ ∀ item ∈ items, item.IsProper :=
  ⟨fun | .arr each => each, .arr⟩

@[simp] theorem isProper_obj_iff {fields : Fields} :
    IsProper (.obj fields) ↔ ∀ field ∈ fields, field.2.IsProper :=
  ⟨fun | .obj each => each, .obj⟩

theorem IsProper.items {items : List Json} (proper : IsProper (.arr items)) :
    ∀ item ∈ items, item.IsProper :=
  isProper_arr_iff.mp proper

theorem IsProper.fields {fields : Fields} (proper : IsProper (.obj fields)) :
    ∀ field ∈ fields, field.2.IsProper :=
  isProper_obj_iff.mp proper

/-- What `read` makes of a value, `reread` makes of what is written for it. Null is written only if
null has been read. -/
structure Rereads {α : Type} (read reread : Json → Option α) (write : α → Json) : Prop where
  reread : ∀ {j x}, j.IsProper → read j = some x → reread (write x) = some x
  nonnull : ∀ {j x}, j.IsProper → j ≠ .null → read j = some x → write x ≠ .null

variable {α : Type} {read reread : Json → Option α} {write : α → Json}

/-- What is not read from null is not written as null. -/
theorem Rereads.of_null (null : reread .null = none)
    (h : ∀ {j x}, j.IsProper → read j = some x → reread (write x) = some x) :
    Rereads read reread write where
  reread := h
  nonnull := by
    intro j x proper _ hread hnull
    have hreread := h proper hread
    rw [hnull, null] at hreread
    cases hreread

/-! ## Scalars -/

theorem Rereads.text : Rereads text? text? .str :=
  .of_null rfl fun _ _ => rfl

theorem Rereads.bool : Rereads bool? bool? .bool :=
  .of_null rfl fun _ _ => rfl

/-- A number that is read is finite, so it is written as a number. -/
theorem isFinite_of_number? {j : Json} {x : Float} (proper : j.IsProper)
    (h : j.number? = some x) : x.isFinite = true := by
  cases proper with
  | int fits =>
    cases h
    exact Decimal.isFinite_ofInt (by omega) (by omega)
  | float finite =>
    cases h
    exact finite
  | _ => cases h

theorem number?_ofFloat {x : Float} (finite : x.isFinite = true) :
    number? (.ofFloat x) = some x := by
  rw [ofFloat, if_pos finite, number?]

theorem Rereads.number : Rereads number? number? .ofFloat :=
  .of_null rfl fun proper h => number?_ofFloat (isFinite_of_number? proper h)

theorem lt_of_nat? {j : Json} {n : Nat} (h : j.nat? = some n) : n < 0x10000000000000000 := by
  cases j with
  | int i =>
    rw [nat?] at h
    split at h
    · cases h
      omega
    · cases h
  | _ => cases h

theorem nat?_ofNat {n : Nat} (h : n < 0x10000000000000000) : nat? (.ofNat n) = some n := by
  have hfits : IsUnsigned n := by omega
  rw [ofNat, nat?, if_pos hfits, Int.toNat_natCast]

theorem Rereads.nat : Rereads nat? nat? .ofNat :=
  .of_null rfl fun _ h => nat?_ofNat (lt_of_nat? h)

/-- The case of an enumeration is written under a name of its own. -/
theorem Rereads.word {ofName? : String → Option α} {name : α → String}
    (h : ∀ a, ofName? (name a) = some a) :
    Rereads (fun j => j.word?.bind ofName?) (fun j => j.word?.bind ofName?)
      (fun a => .str (name a)) :=
  .of_null rfl fun {_ x} _ _ => h x

/-- Free JSON is kept in its normal form. -/
theorem Rereads.canonical :
    Rereads (fun j => some j.canonical) (fun j => some j.canonical) fun j => j where
  reread := by
    intro j x _ h
    cases h
    rw [canonical_canonical]
  nonnull := by
    intro j x _ hnull h
    cases h
    cases j with
    | null => exact absurd rfl hnull
    | _ => exact Json.noConfusion

/-! ## Lists and tables -/

theorem exists_of_mem_mapM {β γ : Type} {f : β → Option γ} {bs : List β} {cs : List γ}
    (h : bs.mapM f = some cs) : ∀ c ∈ cs, ∃ b ∈ bs, f b = some c := by
  induction bs generalizing cs with
  | nil =>
    cases h
    exact fun _ hmem => nomatch hmem
  | cons b rest ih =>
    rw [List.mapM_cons] at h
    obtain ⟨c, hc, h⟩ := Option.bind_eq_some_iff.mp h
    obtain ⟨cs', hcs, h⟩ := Option.bind_eq_some_iff.mp h
    cases h
    intro c' hmem
    rcases List.mem_cons.mp hmem with rfl | hmem
    · exact ⟨b, List.mem_cons_self, hc⟩
    · obtain ⟨b', hb', hf⟩ := ih hcs c' hmem
      exact ⟨b', List.mem_cons_of_mem _ hb', hf⟩

theorem mapM_map_of_forall {β γ : Type} {f : β → Option γ} {g : γ → β} {cs : List γ}
    (h : ∀ c ∈ cs, f (g c) = some c) : (cs.map g).mapM f = some cs := by
  induction cs with
  | nil => rfl
  | cons c rest ih =>
    rw [List.map_cons, List.mapM_cons, h c List.mem_cons_self,
      ih fun c' hmem => h c' (List.mem_cons_of_mem _ hmem)]
    rfl

theorem items?_eq_some {j : Json} {items : List Json} (h : j.items? = some items) :
    j = .arr items := by
  cases j with
  | arr _ => exact congrArg Json.arr (Option.some.inj h)
  | _ => cases h

theorem fields?_eq_some {j : Json} {fields : Fields} (h : j.fields? = some fields) :
    j = .obj fields := by
  cases j with
  | obj _ => exact congrArg Json.obj (Option.some.inj h)
  | _ => cases h

/-- A list is read when all its elements are. -/
theorem list?_ofList {xs : List α} (h : ∀ x ∈ xs, reread (write x) = some x) :
    list? reread (ofList write xs) = some xs :=
  mapM_map_of_forall h

theorem Rereads.list (h : Rereads read reread write) :
    Rereads (list? read) (list? reread) (ofList write) := by
  refine .of_null rfl ?_
  intro j xs proper hread
  obtain ⟨items, hitems, hread⟩ := Option.bind_eq_some_iff.mp hread
  obtain rfl := items?_eq_some hitems
  refine list?_ofList fun x hx => ?_
  obtain ⟨item, hitem, hx⟩ := exists_of_mem_mapM hread x hx
  exact h.reread (proper.items item hitem) hx

theorem Rereads.texts : Rereads texts? texts? ofTexts := Rereads.text.list

theorem Rereads.table (h : Rereads read reread write) :
    Rereads (table? read) (table? reread) (ofTable write) := by
  refine .of_null rfl ?_
  intro j t proper hread
  obtain ⟨fields, hfields, hread⟩ := Option.bind_eq_some_iff.mp hread
  obtain rfl := fields?_eq_some hfields
  obtain ⟨entries, hentries, heq⟩ := Option.bind_eq_some_iff.mp hread
  obtain rfl := Option.some.inj heq
  have hwritten : ((Table.ofList entries).entries.map fun e => (e.1, write e.2)).mapM
      (fun field => (reread field.2).map (field.1, ·)) = some (Table.ofList entries).entries := by
    refine mapM_map_of_forall ?_
    rintro ⟨name, x⟩ hmem
    -- an entry of the table is one of the entries it has been filled from
    have hx := Table.mem_of_get?_ofList (Table.mem_entries_iff.mp hmem)
    obtain ⟨field, hfield, hmap⟩ := exists_of_mem_mapM hentries _ hx
    obtain ⟨x', hread, hpair⟩ := Option.map_eq_some_iff.mp hmap
    cases hpair
    rw [h.reread (proper.fields field hfield) hread]
    rfl
  change (List.mapM _ _ >>= fun entries => some (Table.ofList entries)) = _
  rw [hwritten]
  exact congrArg some (Table.ofList_entries _)

/-! ## Fields -/

/-- No name is written twice. -/
abbrev Fields.Distinct (fields : Fields) : Prop := (fields.map Prod.fst).Nodup

namespace Fields

variable {fields : Fields} {name : String} {j : Json}

theorem mem_of_find? (h : fields.find? name = some (some j)) : (name, j) ∈ fields := by
  rw [find?] at h
  split at h
  · cases h
  · next field hfilter =>
    cases h
    have hmem : field ∈ fields.filter fun field => field.1 == name := by
      rw [hfilter]
      exact List.mem_singleton_self field
    obtain ⟨hmem, hname⟩ := List.mem_filter.mp hmem
    rw [← beq_iff_eq.mp hname]
    exact hmem
  · cases h

theorem find?_of_not_mem (h : ∀ j, (name, j) ∉ fields) : fields.find? name = some none := by
  have hfilter : fields.filter (fun field => field.1 == name) = [] := by
    rw [List.filter_eq_nil_iff]
    intro field hmem heq
    rw [beq_iff_eq] at heq
    exact h field.2 (heq ▸ hmem)
  rw [find?, hfilter]

theorem find?_of_mem (distinct : fields.Distinct) (mem : (name, j) ∈ fields) :
    fields.find? name = some (some j) := by
  have hfilter : fields.filter (fun field => field.1 == name) = [(name, j)] := by
    induction fields with
    | nil => cases mem
    | cons field rest ih =>
      obtain ⟨hfirst, hrest⟩ := List.nodup_cons.mp distinct
      rcases List.mem_cons.mp mem with rfl | mem
      · have hnone : rest.filter (fun field => field.1 == name) = [] := by
          rw [List.filter_eq_nil_iff]
          intro other hother heq
          rw [beq_iff_eq] at heq
          exact hfirst (List.mem_map.mpr ⟨other, hother, heq⟩)
        rw [List.filter_cons, if_pos (beq_self_eq_true name), hnone]
      · have hne : ¬ (field.1 == name) = true := by
          intro heq
          rw [beq_iff_eq] at heq
          exact hfirst (List.mem_map.mpr ⟨(name, j), mem, heq.symm⟩)
        rw [List.filter_cons, if_neg hne]
        exact ih hrest mem
  rw [find?, hfilter]

/-- A field that is there is read. -/
theorem required_of_mem {α : Type} {read : Json → Option α} (distinct : fields.Distinct)
    (mem : (name, j) ∈ fields) : fields.required name read = read j := by
  rw [required, find?_of_mem distinct mem]

theorem orElse_of_mem {α : Type} {read : Json → Option α} {default : α}
    (distinct : fields.Distinct) (mem : (name, j) ∈ fields) :
    fields.orElse name read default = read j := by
  rw [orElse, find?_of_mem distinct mem]

end Fields

section

variable {fields written : Fields} {name : String}

/-- What is read from a required field is reread from a field it is written into. -/
theorem Rereads.required {x : α} (h : Rereads read reread write)
    (proper : ∀ field ∈ fields, field.2.IsProper) (distinct : written.Distinct)
    (hread : fields.required name read = some x) (mem : (name, write x) ∈ written) :
    written.required name reread = some x := by
  rw [Fields.required] at hread
  split at hread
  · next j hfind =>
    rw [Fields.required_of_mem distinct mem]
    exact h.reread (proper _ (Fields.mem_of_find? hfind)) hread
  · cases hread

/-- A default is written out, and reread as such. -/
theorem Rereads.orElse {x default default' : α} (h : Rereads read reread write)
    (proper : ∀ field ∈ fields, field.2.IsProper) (distinct : written.Distinct)
    (hread : fields.orElse name read default = some x) (mem : (name, write x) ∈ written)
    (hdefault : reread (write default) = some default) :
    written.orElse name reread default' = some x := by
  rw [Fields.orElse_of_mem distinct mem]
  rw [Fields.orElse] at hread
  split at hread
  · next j hfind => exact h.reread (proper _ (Fields.mem_of_find? hfind)) hread
  · cases hread
    exact hdefault
  · cases hread

/-- A default is left out, and is what an absent field is read as. -/
theorem Rereads.orElse_leftOut {x default : α} (h : Rereads read reread write)
    (proper : ∀ field ∈ fields, field.2.IsProper) (distinct : written.Distinct)
    (hread : fields.orElse name read default = some x)
    (mem : ∀ j, (name, j) ∈ written ↔ x ≠ default ∧ j = write x) :
    written.orElse name reread default = some x := by
  by_cases hdefault : x = default
  · have hfind : written.find? name = some none :=
      Fields.find?_of_not_mem fun j hj => ((mem j).mp hj).1 hdefault
    rw [Fields.orElse, hfind, hdefault]
  · have hfind := Fields.find?_of_mem distinct ((mem (write x)).mpr ⟨hdefault, rfl⟩)
    rw [Fields.orElse, hfind]
    rw [Fields.orElse] at hread
    split at hread
    · next j hfind' => exact h.reread (proper _ (Fields.mem_of_find? hfind')) hread
    · exact absurd (Option.some.inj hread).symm hdefault
    · cases hread

theorem Fields.nullable_of_find? {j : Json} (h : fields.find? name = some (some j))
    (hj : j ≠ .null) : fields.nullable name read = (read j).map some := by
  rw [Fields.nullable, h]
  cases j with
  | null => exact absurd rfl hj
  | _ => rfl

/-- A field that need not be there is read when it is and is not null. -/
theorem Fields.nullable_of_mem {j : Json} (distinct : fields.Distinct) (mem : (name, j) ∈ fields)
    (hj : j ≠ .null) : fields.nullable name read = (read j).map some :=
  nullable_of_find? (find?_of_mem distinct mem) hj

theorem Fields.nullable_of_not_mem (h : ∀ j, (name, j) ∉ fields) :
    fields.nullable name read = some none := by
  rw [Fields.nullable, find?_of_not_mem h]

/-- A value that is read from a field that need not be there is in the field, or there is none. -/
theorem Fields.nullable_eq_some {x : Option α} (h : fields.nullable name read = some x) :
    x = none ∨ ∃ j a, (name, j) ∈ fields ∧ j ≠ .null ∧ read j = some a ∧ x = some a := by
  rw [Fields.nullable] at h
  split at h
  · exact .inl (Option.some.inj h).symm
  · next j hnull hfind =>
    obtain ⟨a, ha, heq⟩ := Option.map_eq_some_iff.mp h
    exact .inr ⟨j, a, mem_of_find? hfind, fun heq => hnull (heq ▸ rfl), ha, heq.symm⟩
  · exact .inl (Option.some.inj h).symm
  · cases h

/-- What is read from a field that need not be there is reread from one that is null when there is
no value. -/
theorem Rereads.nullable {x : Option α} (h : Rereads read reread write)
    (proper : ∀ field ∈ fields, field.2.IsProper) (distinct : written.Distinct)
    (hread : fields.nullable name read = some x) (mem : (name, ofOption write x) ∈ written) :
    written.nullable name reread = some x := by
  rcases Fields.nullable_eq_some hread with rfl | ⟨j, a, hmem, hnull, ha, rfl⟩
  · rw [Fields.nullable, Fields.find?_of_mem distinct mem, ofOption]
  · have hj := proper _ hmem
    rw [Fields.nullable_of_mem distinct mem (h.nonnull hj hnull ha), ofOption, h.reread hj ha]
    rfl

/-- What is read from a field that need not be there is reread from one that is left out when there
is no value. -/
theorem Rereads.optional {x : Option α} (h : Rereads read reread write)
    (proper : ∀ field ∈ fields, field.2.IsProper) (distinct : written.Distinct)
    (hread : fields.nullable name read = some x)
    (mem : ∀ j, (name, j) ∈ written ↔ x.map write = some j) :
    written.nullable name reread = some x := by
  rcases Fields.nullable_eq_some hread with rfl | ⟨j, a, hmem, hnull, ha, rfl⟩
  · exact Fields.nullable_of_not_mem fun j hj => nomatch (mem j).mp hj
  · have hj := proper _ hmem
    have hmem := (mem (write a)).mpr rfl
    rw [Fields.nullable_of_mem distinct hmem (h.nonnull hj hnull ha), h.reread hj ha]
    rfl

@[simp] theorem mem_optionalField {x : Option α} {field : String × Json} :
    field ∈ optionalField name write x ↔ field.1 = name ∧ x.map write = some field.2 := by
  obtain ⟨other, j⟩ := field
  cases x with
  | none => simp [optionalField]
  | some a => simp [optionalField, eq_comm]

/-- A field that may be left out brings no other name with it. -/
theorem names_optionalField (x : Option α) :
    ((optionalField name write x).map Prod.fst).Sublist [name] := by
  cases x with
  | none => exact List.nil_sublist _
  | some a => exact List.Sublist.refl _

end

/-! ## Records -/

/-- A record is read step by step. -/
theorem do_eq_some_iff {β : Type} {p : Option α} {f : α → Option β} {b : β} :
    (p >>= f) = some b ↔ ∃ a, p = some a ∧ f a = some b :=
  Option.bind_eq_some_iff

/-- The fields of an object. -/
def entries (j : Json) : Fields := j.fields?.getD []

end FeatureTrials.Json

import FeatureTrials.Proofs.Definitions.Values

/-!
# The readings of a JSON value agree

Definitions are read kind by kind, the first one that fits, while values from elsewhere are looked
at once. Both ways lead to one flag value (`FlagValue.ofJson?_eq_some`), and to one attribute value,
except that the first way knows no objects at any depth.

A flag value is written as what it was read from, unless that was an integer that only fits 64 bits
without a sign, which has become a double.

* `Json.Occurs` — the parts of a value.
* `AttributeValue.ofJson?_eq_some_iff` — what is read as an attribute value.
* `FlagValue.toJson_ofAny_iff`, `FlagValue.ofAny_toJson_iff` — reading and writing flag values.
* `Json.readings_agree` — the main result.
-/

namespace FeatureTrials

/-! ## Values without objects -/

namespace Json

variable {items : List Json} {fields : Fields}

/-- A part of a value: the value itself, or a part of an element or of a field. -/
inductive Occurs (part : Json) : Json → Prop
  | self : Occurs part part
  | item {item : Json} {items : List Json} (mem : item ∈ items) (occurs : Occurs part item) :
    Occurs part (.arr items)
  | field {field : String × Json} {fields : Fields} (mem : field ∈ fields)
    (occurs : Occurs part field.2) : Occurs part (.obj fields)

/-- No object occurs in the value. -/
def ObjectFree (j : Json) : Prop := ∀ fields, ¬ Occurs (.obj fields) j

theorem objectFree_arr_iff : (arr items).ObjectFree ↔ ∀ item ∈ items, item.ObjectFree := by
  constructor
  · exact fun free item mem fields occurs => free fields (.item mem occurs)
  · rintro free fields (_ | ⟨mem, occurs⟩)
    exact free _ mem fields occurs

end Json

/-! ## Attribute values -/

namespace AttributeValue

mutual

theorem ofJson?_of_objectFree : ∀ j : Json, j.ObjectFree → ofJson? j = some (ofAny j)
  | .null, _ | .bool _, _ | .int _, _ | .float _, _ | .str _, _ => rfl
  | .arr items, free => by
    rw [ofJson?, ofJsonItems?_of_objectFree items (Json.objectFree_arr_iff.mp free),
      Option.map_some, ofAny]
  | .obj fields, free => absurd .self (free fields)

theorem ofJsonItems?_of_objectFree :
    ∀ items : List Json, (∀ item ∈ items, item.ObjectFree) →
      ofJsonItems? items = some (ofAnyItems items)
  | [], _ => rfl
  | item :: rest, free => by
    obtain ⟨hitem, hrest⟩ := List.forall_mem_cons.mp free
    rw [ofJsonItems?, ofJson?_of_objectFree item hitem, ofJsonItems?_of_objectFree rest hrest,
      ofAnyItems]

end

mutual

theorem objectFree_of_ofJson? :
    ∀ (j : Json) {value : AttributeValue}, ofJson? j = some value → j.ObjectFree
  | .null, _, _ | .bool _, _, _ | .int _, _, _ | .float _, _, _ | .str _, _, _ => nofun
  | .arr items, _, h => by
    rw [ofJson?] at h
    obtain ⟨values, hitems, -⟩ := Option.map_eq_some_iff.mp h
    exact Json.objectFree_arr_iff.mpr (objectFree_of_ofJsonItems? items hitems)

theorem objectFree_of_ofJsonItems? :
    ∀ (items : List Json) {values : List AttributeValue}, ofJsonItems? items = some values →
      ∀ item ∈ items, item.ObjectFree
  | [], _, _ => nofun
  | item :: rest, _, h => by
    rw [ofJsonItems?] at h
    split at h
    · next value values hvalue hvalues =>
      exact List.forall_mem_cons.mpr
        ⟨objectFree_of_ofJson? item hvalue, objectFree_of_ofJsonItems? rest hvalues⟩
    · cases h

end

/-- A value is read if no object occurs in it, and then it is what every value is taken for. -/
theorem ofJson?_eq_some_iff {j : Json} {value : AttributeValue} :
    ofJson? j = some value ↔ j.ObjectFree ∧ value = ofAny j := by
  constructor
  · intro h
    have free := objectFree_of_ofJson? j h
    rw [ofJson?_of_objectFree j free] at h
    exact ⟨free, (Option.some.inj h).symm⟩
  · rintro ⟨free, rfl⟩
    exact ofJson?_of_objectFree j free

end AttributeValue

/-! ## Flag values -/

namespace FlagValue

/-- A value of the first kind that fits: doubles are numbers, and other JSON is null, an array or an
object, with the fields of objects in order. -/
def IsNormal : FlagValue → Prop
  | .float x => x.isFinite = true
  | .json .null => True
  | .json (.arr items) => (Json.arr items).canonical = .arr items
  | .json (.obj fields) => (Json.obj fields).canonical = .obj fields
  | .json _ => False
  | _ => True

/-- Only integers that do not fit 64 bits with a sign are not written as they were read. -/
theorem toJson_ofAny_iff {j : Json} (proper : j.IsProper) :
    (ofAny j).toJson = j.canonical ↔ ¬ ∃ n, j = .int n ∧ 2 ^ 63 ≤ n := by
  cases j with
  | int n =>
    by_cases fits : Json.IsSigned n
    · have hwritten : (ofAny (.int n)).toJson = .int n := by
        rw [ofAny, if_pos fits, toJson, Int64.toInt_ofInt_of_le fits.1 fits.2]
      refine iff_of_true hwritten ?_
      rintro ⟨_, ⟨⟩, hle⟩
      exact absurd fits.2 (not_lt_of_ge hle)
    · have hwritten : (ofAny (.int n)).toJson = .float (Float.ofInt n) := by
        rw [ofAny, if_neg fits, toJson_float proper rfl]
      have hle : 2 ^ 63 ≤ n := by
        have hfits := Json.isProper_int_iff.mp proper
        unfold Json.IsSigned Json.IsUnsigned at *
        omega
      rw [hwritten]
      exact iff_of_false Json.noConfusion fun large => large ⟨n, rfl, hle⟩
  | float x =>
    refine iff_of_true (toJson_float proper rfl) ?_
    rintro ⟨_, ⟨⟩, -⟩
  | null | bool | str | arr | obj =>
    refine iff_of_true rfl ?_
    rintro ⟨_, ⟨⟩, -⟩

/-- Exactly the values in normal form are read as they are written. -/
theorem ofAny_toJson_iff (value : FlagValue) : ofAny value.toJson = value ↔ value.IsNormal := by
  cases value with
  | bool | text => exact iff_of_true rfl trivial
  | int n => exact iff_of_true (ofAny_int64 n) trivial
  | float x =>
    by_cases finite : x.isFinite = true
    · rw [toJson, Json.ofFloat, if_pos finite]
      exact iff_of_true rfl finite
    · rw [toJson, Json.ofFloat, if_neg finite]
      exact iff_of_false FlagValue.noConfusion finite
  | json j =>
    cases j with
    | null => exact iff_of_true rfl trivial
    | arr | obj => exact Iff.of_eq (json.injEq _ _)
    | bool | float | str => exact iff_of_false FlagValue.noConfusion id
    | int n =>
      refine iff_of_false ?_ id
      rw [toJson, ofAny]
      split <;> exact FlagValue.noConfusion

end FlagValue

/-! ## Both readings -/

namespace Json

/-- **The two readings agree** as a flag value for every value, and as an attribute value where no
object occurs, which is where the first one succeeds. A flag value is written as what it was read
from but for large integers, and read as what it was written from if it is in normal form. -/
theorem readings_agree :
    (∀ j : Json, FlagValue.ofJson? j = some (FlagValue.ofAny j)) ∧
    (∀ j value, AttributeValue.ofJson? j = some value ↔
      j.ObjectFree ∧ value = AttributeValue.ofAny j) ∧
    (∀ j : Json, j.IsProper →
      ((FlagValue.ofAny j).toJson = j.canonical ↔ ¬ ∃ n, j = .int n ∧ 2 ^ 63 ≤ n)) ∧
    ∀ value : FlagValue, FlagValue.ofAny value.toJson = value ↔ value.IsNormal :=
  ⟨FlagValue.ofJson?_eq_some, fun _ _ => AttributeValue.ofJson?_eq_some_iff,
    fun _ => FlagValue.toJson_ofAny_iff, FlagValue.ofAny_toJson_iff⟩

/-- The least integer that is not written as it was read, the one before it, and an object deep in a
list, which is no attribute value. -/
theorem readings_agree_limits :
    (int (2 ^ 63)).IsProper ∧ (FlagValue.ofAny (.int (2 ^ 63))).toJson ≠ .int (2 ^ 63) ∧
      (int (2 ^ 63 - 1)).IsProper ∧
      (FlagValue.ofAny (.int (2 ^ 63 - 1))).toJson = .int (2 ^ 63 - 1) ∧
      AttributeValue.ofJson? (.arr [.int 1, .arr [.obj []]]) = none ∧
      FlagValue.ofAny (FlagValue.json (.arr [.obj []])).toJson = .json (.arr [.obj []]) := by
  obtain ⟨-, attributes, written, kept⟩ := readings_agree
  have hlarge : (int (2 ^ 63)).IsProper := .int (by decide)
  have hsmall : (int (2 ^ 63 - 1)).IsProper := .int (by decide)
  refine ⟨hlarge, fun h => ?_, hsmall, (written _ hsmall).mpr ?_, ?_, (kept _).mpr rfl⟩
  · exact (written _ hlarge).mp h ⟨2 ^ 63, rfl, le_rfl⟩
  · rintro ⟨_, ⟨⟩, hle⟩
    exact absurd hle (by decide)
  · refine Option.eq_none_iff_forall_ne_some.mpr fun value h => ?_
    obtain ⟨free, -⟩ := (attributes _ value).mp h
    exact free [] (.item (.tail _ (.head _)) (.item (.head _) .self))

end Json

end FeatureTrials

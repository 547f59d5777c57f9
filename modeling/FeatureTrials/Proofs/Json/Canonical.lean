import FeatureTrials.Json.Table

/-!
# The normal form of JSON

The normal form of a value is its own normal form (`canonical_canonical`). Objects in normal form
are tables: sorting fields is filling a table with them, and a table keeps its entries.
-/

namespace FeatureTrials.Json

theorem insertField_eq (name : String) (value : Json) (fields : Fields) :
    insertField name value fields = Table.insertInto name value fields := by
  induction fields with
  | nil => rfl
  | cons field rest ih => rw [insertField, Table.insertInto, ih]

/-- Fields are sorted by putting them into a table. -/
theorem sortFields_eq (fields : Fields) : sortFields fields = (Table.ofList fields).entries := by
  have hfold : ∀ t : Table Json,
      fields.foldl (fun acc field => insertField field.1 field.2 acc) t.entries =
        (fields.foldl (fun t e => t.insert e.1 e.2) t).entries := by
    induction fields with
    | nil => exact fun _ => rfl
    | cons field rest ih =>
      intro t
      rw [List.foldl_cons, List.foldl_cons, insertField_eq]
      exact ih (t.insert field.1 field.2)
  exact hfold .empty

theorem mem_of_mem_sortFields {fields : Fields} {field : String × Json}
    (h : field ∈ sortFields fields) : field ∈ fields := by
  obtain ⟨name, value⟩ := field
  rw [sortFields_eq, Table.mem_entries_iff] at h
  exact Table.mem_of_get?_ofList h

theorem sortFields_sortFields (fields : Fields) :
    sortFields (sortFields fields) = sortFields fields := by
  rw [sortFields_eq (sortFields fields), sortFields_eq fields, Table.ofList_entries]

theorem canonicalFields_eq_self {fields : Fields}
    (h : ∀ field ∈ fields, field.2.canonical = field.2) : canonicalFields fields = fields := by
  induction fields with
  | nil => rfl
  | cons field rest ih =>
    obtain ⟨name, value⟩ := field
    rw [canonicalFields, h _ List.mem_cons_self,
      ih fun other hmem => h other (List.mem_cons_of_mem _ hmem)]

mutual

/-- A value in normal form is its own normal form. -/
@[simp] theorem canonical_canonical : ∀ j : Json, j.canonical.canonical = j.canonical
  | .null => rfl
  | .bool _ => rfl
  | .int _ => rfl
  | .float _ => rfl
  | .str _ => rfl
  | .arr items => by
    rw [canonical, canonical, canonicalItems_canonicalItems items]
  | .obj fields => by
    have hsorted : ∀ field ∈ sortFields (canonicalFields fields), field.2.canonical = field.2 :=
      fun field hmem => canonical_of_mem_canonicalFields fields field (mem_of_mem_sortFields hmem)
    rw [canonical, canonical, canonicalFields_eq_self hsorted, sortFields_sortFields]

theorem canonicalItems_canonicalItems :
    ∀ items : List Json, canonicalItems (canonicalItems items) = canonicalItems items
  | [] => rfl
  | item :: rest => by
    rw [canonicalItems, canonicalItems, canonical_canonical item,
      canonicalItems_canonicalItems rest]

theorem canonical_of_mem_canonicalFields :
    ∀ (fields : List (String × Json)), ∀ field ∈ canonicalFields fields,
      field.2.canonical = field.2
  | [], _, hmem => nomatch hmem
  | (name, value) :: rest, field, hmem => by
    rcases List.mem_cons.mp hmem with rfl | hmem
    · exact canonical_canonical value
    · exact canonical_of_mem_canonicalFields rest field hmem

end

end FeatureTrials.Json

import FeatureTrials.Flag.Value
import FeatureTrials.Attribute.Value
import FeatureTrials.Proofs.Json.Rereads
import FeatureTrials.Proofs.Time.Timestamp
import FeatureTrials.Time.Format

/-!
# Values of definitions are read back

What stands in the fields of definitions besides plain texts, numbers and truth values: instants and
spans, the values of attributes and the values of flags.

An attribute value and a flag value may be null themselves. A field that may be null is not read as
such a value then, so both are written as null only if they have been read from null.
-/

namespace FeatureTrials

open Json (Rereads)

/-! ## Times -/

theorem Instant.ofJson?_toJson {t : Instant} (told : t.told? = some t) :
    ofJson? t.toJson = some t := by
  rw [toJson, ofJson?, Json.text?, Option.bind_some, ofText?_text told]

/-- Any offset from UTC is read; it is written in UTC. -/
theorem Instant.rereads : Rereads ofJson? ofJson? toJson := by
  refine .of_null rfl ?_
  intro j t _ hread
  obtain ⟨s, -, hread⟩ := Option.bind_eq_some_iff.mp hread
  exact ofJson?_toJson (told_of_ofText? hread)

theorem Span.ofJson?_ofSeconds {n : Nat} (h : n < 0x10000000000000000) :
    ofJson? (ofSeconds n).toJson = some (ofSeconds n) := by
  rw [toJson, seconds_ofSeconds, ofJson?]
  exact congrArg (Option.map ofSeconds) (Json.nat?_ofNat h)

/-- A span that is read has whole seconds. -/
theorem Span.rereads : Rereads ofJson? ofJson? toJson := by
  refine .of_null rfl ?_
  intro j d _ hread
  obtain ⟨n, hn, rfl⟩ := Option.map_eq_some_iff.mp hread
  exact ofJson?_ofSeconds (Json.lt_of_nat? hn)

/-! ## Attribute values -/

namespace AttributeValue

theorem ofJson?_ofFloat {x : Float} (finite : x.isFinite = true) :
    ofJson? (.ofFloat x) = some (.number x) := by
  rw [Json.ofFloat, if_pos finite, ofJson?]

mutual

/-- Lists are written element by element. -/
theorem ofJson?_toJson :
    ∀ (j : Json) {value : AttributeValue}, j.IsProper → ofJson? j = some value →
      ofJson? value.toJson = some value
  | .null, _, _, h => by
    cases h
    rfl
  | .bool _, _, _, h => by
    cases h
    rfl
  | .int n, _, proper, h => by
    cases h
    exact ofJson?_ofFloat (Json.isFinite_of_number? proper rfl)
  | .float x, _, proper, h => by
    cases h
    exact ofJson?_ofFloat (Json.isFinite_of_number? proper rfl)
  | .str _, _, _, h => by
    cases h
    rfl
  | .arr items, _, proper, h => by
    rw [ofJson?] at h
    obtain ⟨values, hitems, rfl⟩ := Option.map_eq_some_iff.mp h
    rw [toJson, ofJson?, ofJsonItems?_toJsonItems items proper.items hitems, Option.map_some]
  | .obj _, _, _, h => by
    cases h

theorem ofJsonItems?_toJsonItems :
    ∀ (items : List Json) {values : List AttributeValue}, (∀ item ∈ items, item.IsProper) →
      ofJsonItems? items = some values → ofJsonItems? (toJsonItems values) = some values
  | [], _, _, h => by
    cases h
    rfl
  | item :: rest, _, proper, h => by
    rw [ofJsonItems?] at h
    split at h
    · next value values hvalue hvalues =>
      cases h
      rw [toJsonItems, ofJsonItems?,
        ofJson?_toJson item (proper item List.mem_cons_self) hvalue,
        ofJsonItems?_toJsonItems rest (fun other hmem => proper other (List.mem_cons_of_mem _ hmem))
          hvalues]
    · cases h

end

theorem rereads : Rereads ofJson? ofJson? toJson where
  reread := fun {j _} proper h => ofJson?_toJson j proper h
  nonnull := by
    intro j value proper hnull h
    cases j with
    | null => exact absurd rfl hnull
    | int n =>
      cases h
      rw [toJson, Json.ofFloat, if_pos (Json.isFinite_of_number? proper rfl)]
      exact Json.noConfusion
    | float x =>
      cases h
      rw [toJson, Json.ofFloat, if_pos (Json.isFinite_of_number? proper rfl)]
      exact Json.noConfusion
    | arr items =>
      rw [ofJson?] at h
      obtain ⟨values, -, rfl⟩ := Option.map_eq_some_iff.mp h
      exact Json.noConfusion
    | obj _ => cases h
    | _ =>
      cases h
      exact Json.noConfusion

end AttributeValue

/-! ## Flag values -/

namespace FlagValue

theorem ofAny_int64 (n : Int64) : ofAny (.int n.toInt) = .int n := by
  have hfits : Json.IsSigned n.toInt := ⟨n.le_toInt, n.toInt_lt⟩
  rw [ofAny, if_pos hfits, Int64.ofInt_toInt]

/-- A number is written as a number. -/
theorem toJson_float {j : Json} {x : Float} (proper : j.IsProper) (h : j.number? = some x) :
    toJson (.float x) = .float x := by
  rw [toJson, Json.ofFloat, if_pos (Json.isFinite_of_number? proper h)]

/-- Every value of a flag is read as it was written. -/
theorem ofAny_toJson_ofAny {j : Json} (proper : j.IsProper) : ofAny (ofAny j).toJson = ofAny j := by
  cases j with
  | null => rfl
  | bool _ => rfl
  | str _ => rfl
  | int n =>
    by_cases hfits : Json.IsSigned n
    · rw [ofAny, if_pos hfits, toJson, ofAny_int64]
    · rw [ofAny, if_neg hfits, toJson_float proper rfl, ofAny]
  | float x => rw [ofAny, toJson_float proper rfl, ofAny]
  | arr items =>
    have hcanonical : (Json.arr items).canonical.canonical = (Json.arr items).canonical :=
      Json.canonical_canonical _
    exact congrArg json hcanonical
  | obj fields =>
    have hcanonical : (Json.obj fields).canonical.canonical = (Json.obj fields).canonical :=
      Json.canonical_canonical _
    exact congrArg json hcanonical

theorem toJson_ofAny_ne_null {j : Json} (proper : j.IsProper) (hnull : j ≠ .null) :
    (ofAny j).toJson ≠ .null := by
  cases j with
  | null => exact absurd rfl hnull
  | int n =>
    by_cases hfits : Json.IsSigned n
    · rw [ofAny, if_pos hfits]
      exact Json.noConfusion
    · rw [ofAny, if_neg hfits, toJson_float proper rfl]
      exact Json.noConfusion
  | float x =>
    rw [ofAny, toJson_float proper rfl]
    exact Json.noConfusion
  | _ => exact Json.noConfusion

theorem rereads : Rereads ofJson? ofJson? toJson where
  reread := by
    intro j value proper h
    rw [ofJson?_eq_some] at h ⊢
    cases h
    rw [ofAny_toJson_ofAny proper]
  nonnull := by
    intro j value proper hnull h
    rw [ofJson?_eq_some] at h
    cases h
    exact toJson_ofAny_ne_null proper hnull

end FlagValue

end FeatureTrials

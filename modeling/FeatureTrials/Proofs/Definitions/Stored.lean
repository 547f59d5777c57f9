import FeatureTrials.Proofs.Definitions.Readings
import FeatureTrials.Proofs.Definitions.Records

/-!
# Flags that have been stored

A flag is written as JSON and read back. That never fails, and what is read back is told exactly
(`Flag.ofJson?_toJson`): it is the flag, but its values have been read as the first kind that fits.
So the flag that is read back serves what the flag did, with the same reason (`Flag.ServesLike`).
Only a whole number that needs all 64 bits, which nothing but free JSON can hold, comes back as a
double.

Reading undoes writing for everything that has been read (`Flag.rereads`). Here flags are built by
hand, with any kind of value in any place.

* `FlagValue.WellFormed.toJson_ofAny_toJson_iff` — the values that come back as the same JSON.
* `Flag.reread` — what a flag is read back as.
* `Flag.stored_servesLike` — the main result.
-/

namespace FeatureTrials

/-! ## Values -/

namespace FlagValue

/-- Free JSON in the value is one that a text can hold, in its normal form. -/
def WellFormed : FlagValue → Prop
  | .json j => j.IsProper ∧ j.canonical = j
  | _ => True

/-- Whatever the kind of a value, it is written as JSON that a text can hold. -/
theorem WellFormed.isProper_toJson {value : FlagValue} (wellFormed : value.WellFormed) :
    value.toJson.IsProper := by
  cases value with
  | bool b => exact .bool b
  | text s => exact .str s
  | int n => exact .int (.inl ⟨n.le_toInt, n.toInt_lt⟩)
  | float x =>
    rw [toJson, Json.ofFloat]
    split
    · next finite => exact .float finite
    · exact .null
  | json j => exact wellFormed.1

theorem WellFormed.canonical_toJson {value : FlagValue} (wellFormed : value.WellFormed) :
    value.toJson.canonical = value.toJson := by
  cases value with
  | bool | text | int => rfl
  | float x =>
    -- a double that is no number is written as null
    rw [toJson, Json.ofFloat]
    split <;> rfl
  | json j => exact wellFormed.2

/-- Only whole numbers that do not fit 64 bits with a sign come back as other JSON. -/
theorem WellFormed.toJson_ofAny_toJson_iff {value : FlagValue} (wellFormed : value.WellFormed) :
    (ofAny value.toJson).toJson = value.toJson ↔ ¬ ∃ n, value.toJson = .int n ∧ 2 ^ 63 ≤ n := by
  have written := toJson_ofAny_iff wellFormed.isProper_toJson
  rwa [wellFormed.canonical_toJson] at written

/-- What a value in a field that need not be there is read back as. -/
def reread? (value : FlagValue) : Option FlagValue :=
  match value.toJson with
  | .null => none
  | j => some (ofAny j)

theorem reread?_of_ne_null {value : FlagValue} (hnull : value.toJson ≠ .null) :
    value.reread? = some (ofAny value.toJson) := by
  unfold reread?
  split
  · next heq => exact absurd heq hnull
  · rfl

/-- A field that need not be there is read back as what has been written into it. -/
theorem nullable_optionalField {written : Json.Fields} {name : String} {value : Option FlagValue}
    (distinct : written.Distinct)
    (mem : ∀ j, (name, j) ∈ written ↔ value.map toJson = some j) :
    written.nullable name ofJson? = some (value.bind reread?) := by
  cases value with
  | none => exact Json.Fields.nullable_of_not_mem fun j hj => nomatch (mem j).mp hj
  | some value =>
    have hmem : (name, value.toJson) ∈ written := (mem value.toJson).mpr rfl
    by_cases hnull : value.toJson = .null
    · have hfind := Json.Fields.find?_of_mem distinct hmem
      rw [Json.Fields.nullable, hfind, hnull, Option.bind_some, reread?, hnull]
    · rw [Json.Fields.nullable_of_mem distinct hmem hnull, ofJson?_eq_some, Option.bind_some,
        reread?_of_ne_null hnull, Option.map_some]

end FlagValue

/-! ## Flags -/

namespace Flag

variable {flag : Flag}

/-- The value a flag has for being on or off. -/
def own? (flag : Flag) : Option FlagValue := if flag.on then some flag.value else flag.offValue

/-- Free JSON in the values of a flag is one that a text can hold, in its normal form. -/
structure WellFormed (flag : Flag) : Prop where
  value : flag.value.WellFormed
  offValue : ∀ value, flag.offValue = some value → value.WellFormed

/-- What the flag is read back as. -/
def reread (flag : Flag) : Flag :=
  { flag with
    value := .ofAny flag.value.toJson
    offValue := flag.offValue.bind FlagValue.reread? }

/-- A flag that is written can be read. -/
theorem ofJson?_toJson (flag : Flag) : ofJson? flag.toJson = some flag.reread := by
  have distinct := flag.distinct_entries
  obtain ⟨key, version, description, on, value, offValue, rolloutStrategy⟩ := flag
  simp only [ofJson?, ↓Json.do_eq_some_iff]
  refine ⟨_, rfl, key, ?_, version, ?_, description, ?_, on, ?_, .ofAny value.toJson, ?_,
    offValue.bind FlagValue.reread?, ?_, rolloutStrategy, ?_, rfl⟩
  · exact Json.Fields.required_of_mem (j := .str key) distinct (by simp)
  · have hread := readVersion version
    exact Eq.trans (Json.Fields.orElse_of_mem distinct (by simp)) hread
  · exact Json.Fields.orElse_of_mem (j := .str description) distinct (by simp)
  · exact Json.Fields.required_of_mem (j := .bool on) distinct (by simp)
  · have hread := FlagValue.ofJson?_eq_some value.toJson
    exact Eq.trans (Json.Fields.required_of_mem distinct (by simp)) hread
  · exact FlagValue.nullable_optionalField distinct (by simp)
  · cases rolloutStrategy with
    | none => exact Json.Fields.nullable_of_not_mem (by simp)
    | some id =>
      have hnull : Json.str id ≠ .null := Json.noConfusion
      exact Json.Fields.nullable_of_mem (j := .str id) distinct (by simp) hnull

/-- A flag is served its own value, or else the default. -/
theorem evaluate_eq (flag : Flag) (default : FlagValue) :
    flag.evaluate default =
      .because (if flag.on then .fallthrough else .off) (flag.own?.getD default) := by
  unfold evaluate own?
  split <;> rfl

theorem WellFormed.own {value : FlagValue} (wellFormed : flag.WellFormed)
    (own : flag.own? = some value) : value.WellFormed := by
  unfold own? at own
  split at own
  · cases own
    exact wellFormed.value
  · exact wellFormed.offValue value own

theorem own?_reread_of_none (own : flag.own? = none) : flag.reread.own? = none := by
  unfold own? at own ⊢
  rw [reread]
  dsimp only
  split at own
  · cases own
  · next off => rw [if_neg off, own, Option.bind_none]

/-- A flag that is on comes back with its value, and one that is off with its other value, unless
that is written as null. -/
theorem own?_reread_of_some {value : FlagValue} (own : flag.own? = some value)
    (written : flag.on = true ∨ value.toJson ≠ .null) :
    flag.reread.own? = some (.ofAny value.toJson) := by
  unfold own? at own ⊢
  rw [reread]
  dsimp only
  split at own
  · next on =>
    cases own
    rw [if_pos on]
  -- null stands for no value here, while the value of a flag that is on is read from null as well
  · next off =>
    have hnull : value.toJson ≠ .null := written.resolve_left off
    rw [if_neg off, own, Option.bind_some, FlagValue.reread?_of_ne_null hnull]

/-- What a flag serves after it has been written and read back. -/
structure ServesLike (flag stored : Flag) (default : FlagValue) : Prop where
  reason : (stored.evaluate default).reason = (flag.evaluate default).reason
  variantId : (stored.evaluate default).variantId = (flag.evaluate default).variantId
  /-- the default, where it serves none of its own -/
  fallback : flag.own? = none → (stored.evaluate default).value = default
  /-- its own value as the same JSON -/
  same : ∀ value, flag.own? = some value → (flag.on = true ∨ value.toJson ≠ .null) →
    (∀ n, value.toJson = .int n → n < 2 ^ 63) →
      (stored.evaluate default).value.toJson = (flag.evaluate default).value.toJson
  /-- or as the nearest double, if it is a whole number that does not fit 64 bits with a sign -/
  rounded : ∀ value n, flag.own? = some value → value.toJson = .int n → 2 ^ 63 ≤ n →
    (stored.evaluate default).value = .float (Float.ofInt n)

theorem WellFormed.servesLike_reread (wellFormed : flag.WellFormed) (default : FlagValue) :
    flag.ServesLike flag.reread default where
  reason := by
    rw [evaluate_eq, evaluate_eq]
    rfl
  variantId := by
    rw [evaluate_eq, evaluate_eq]
    rfl
  fallback own := by
    rw [evaluate_eq, own?_reread_of_none own]
    rfl
  same value own written small := by
    have hsmall : ¬ ∃ n, value.toJson = .int n ∧ 2 ^ 63 ≤ n := by
      rintro ⟨n, hint, hle⟩
      exact absurd hle (not_le_of_gt (small n hint))
    rw [evaluate_eq, evaluate_eq, own?_reread_of_some own written, own]
    exact (wellFormed.own own).toJson_ofAny_toJson_iff.mpr hsmall
  rounded value n own hint hle := by
    have written : value.toJson ≠ .null := by
      rw [hint]
      exact Json.noConfusion
    have unsigned : ¬ Json.IsSigned n := fun fits => absurd fits.2 (not_lt_of_ge hle)
    rw [evaluate_eq, own?_reread_of_some own (.inr written), hint, FlagValue.ofAny,
      if_neg unsigned]
    rfl

/-- **What is stored serves alike.** A flag that is written can always be read back, and evaluates
as before: for the same reason, with the same JSON served, be it the default, the value of the flag
or one other than null for being off. Only whole numbers that do not fit 64 bits with a sign are
rounded to doubles. -/
theorem stored_servesLike (wellFormed : flag.WellFormed) :
    ∃ stored, ofJson? flag.toJson = some stored ∧ ∀ default, flag.ServesLike stored default :=
  ⟨flag.reread, flag.ofJson?_toJson, wellFormed.servesLike_reread⟩

/-! ### Three flags

A flag that is switched off with another layout in its place, one with the largest whole number
there is in JSON, and one that is switched off with null in its place. -/

/-- What is served in place of a theme. -/
def plainLayout : Json := .obj [("layout", .arr [.str "grid", .int 2])]

/-- A flag that is switched off, with free JSON in its place. -/
def theme : Flag :=
  { key := "theme", on := false, value := .text "dark", offValue := some (.json plainLayout) }

/-- A flag with a number that fits 64 bits only without a sign. -/
def limit : Flag := { key := "limit", value := .json (.int (2 ^ 64 - 1)) }

/-- A flag that is switched off, with null in its place. -/
def banner : Flag :=
  { key := "banner", on := false, value := .int 1, offValue := some (.json .null) }

theorem limit_wellFormed : limit.WellFormed :=
  ⟨⟨.int (by decide), rfl⟩, nofun⟩

theorem stored_servesLike_theme :
    theme.WellFormed ∧ limit.WellFormed ∧
    (∃ stored, ofJson? theme.toJson = some stored ∧
      (stored.evaluate (.text "plain")).reason = .off ∧
      (stored.evaluate (.text "plain")).value.toJson = plainLayout) ∧
    ∃ stored, ofJson? limit.toJson = some stored ∧
      (stored.evaluate (.text "none")).reason = .fallthrough ∧
      (stored.evaluate (.text "none")).value = .float (Float.ofInt (2 ^ 64 - 1)) := by
  have proper : plainLayout.IsProper := by simp [plainLayout, Json.IsSigned]
  have wellFormed : theme.WellFormed := by
    refine ⟨trivial, fun value held => ?_⟩
    cases held
    exact ⟨proper, rfl⟩
  obtain ⟨stored, hread, serves⟩ := stored_servesLike wellFormed
  obtain ⟨rounded, hrounded, roundedServes⟩ := stored_servesLike limit_wellFormed
  refine ⟨wellFormed, limit_wellFormed, ⟨stored, hread, (serves _).reason, ?_⟩,
    rounded, hrounded, (roundedServes _).reason, ?_⟩
  · exact (serves _).same (.json plainLayout) rfl (.inr nofun) nofun
  · exact (roundedServes _).rounded _ (2 ^ 64 - 1) rfl rfl (by decide)

/-- Whole numbers that do not fit 64 bits with a sign do not come back, and neither does null in
place of a flag that is off. -/
theorem stored_serves_otherwise :
    (∃ stored, ofJson? limit.toJson = some stored ∧
      (limit.evaluate (.bool true)).value.toJson = .int (2 ^ 64 - 1) ∧
      (stored.evaluate (.bool true)).value.toJson ≠ .int (2 ^ 64 - 1)) ∧
    ∃ stored, ofJson? banner.toJson = some stored ∧
      (banner.evaluate (.text "red")).value.toJson = .null ∧
      (stored.evaluate (.text "red")).value.toJson = .str "red" := by
  refine ⟨⟨_, limit.ofJson?_toJson, rfl, ?_⟩, _, banner.ofJson?_toJson, rfl, rfl⟩
  have rounded := (limit_wellFormed.servesLike_reread (.bool true)).rounded _ (2 ^ 64 - 1) rfl rfl
  rw [rounded (by decide), FlagValue.toJson, Json.ofFloat]
  split
  · exact Json.noConfusion
  · exact Json.noConfusion

end Flag

end FeatureTrials

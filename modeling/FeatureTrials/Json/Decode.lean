import FeatureTrials.Json.Value

/-!
# Records as JSON objects

A record is read from an object field by field. Fields nobody asks for are skipped, and a field that
is asked for may be given only once. A missing field is an error (`required`), is filled in
(`orElse`), or stands for no value just like `null` does (`nullable`).
-/

namespace FeatureTrials.Json

variable {α : Type}

/-- The value of a field, `none` inside if there is none; refuses a repeated field. -/
def Fields.find? (fields : Fields) (name : String) : Option (Option Json) :=
  match fields.filter (fun field => field.1 == name) with
  | [] => some none
  | [field] => some (some field.2)
  | _ => none

/-- Reads a field that has to be there. -/
def Fields.required (fields : Fields) (name : String) (read : Json → Option α) : Option α :=
  match fields.find? name with
  | some (some j) => read j
  | _ => none

/-- Reads a field that has a default. -/
def Fields.orElse (fields : Fields) (name : String) (read : Json → Option α) (default : α) :
    Option α :=
  match fields.find? name with
  | some (some j) => read j
  | some none => some default
  | none => none

/-- Reads a field that need not have a value. -/
def Fields.nullable (fields : Fields) (name : String) (read : Json → Option α) :
    Option (Option α) :=
  match fields.find? name with
  | some (some .null) => some none
  | some (some j) => (read j).map some
  | some none => some none
  | none => none

/-- The name of an enumeration's case: a string, or an object with the name as its only field and
nothing in it. -/
def word? : Json → Option String
  | .str s => some s
  | .obj [(s, .null)] => some s
  | _ => none

/-- A list of strings. -/
def texts? (j : Json) : Option (List String) := j.list? text?

/-- An optional value, `null` when it is absent. -/
def ofOption (write : α → Json) : Option α → Json
  | some a => write a
  | none => .null

/-- A field that is left out when it has no value. -/
def optionalField (name : String) (write : α → Json) : Option α → Fields
  | some a => [(name, write a)]
  | none => []

/-- A list of values. -/
def ofList (write : α → Json) (as : List α) : Json := .arr (as.map write)

/-- A list of strings. -/
def ofTexts (ss : List String) : Json := ofList .str ss

/-- A natural number. -/
def ofNat (n : Nat) : Json := .int n

end FeatureTrials.Json

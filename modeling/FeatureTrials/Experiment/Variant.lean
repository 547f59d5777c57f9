import FeatureTrials.Flag.Value
import FeatureTrials.Json.Decode
import FeatureTrials.Json.Table

/-!
# Variants

One arm of an experiment: its weight among the other arms, and a free configuration that may declare
the value it serves.
-/

namespace FeatureTrials

/-- One arm of an experiment. -/
structure Variant where
  id : String
  name : String := ""
  description : String := ""
  /-- the share of the arm relative to the sum of all weights -/
  weight : Float
  isControl : Bool := false
  config : Table Json := .empty
  deriving BEq

namespace Variant

/-- The name in a configuration under which the served value stands. -/
def valueName : String := "value"

/-- A variant named by its id. -/
def named (id : String) (weight : Float) : Variant := { id, name := id, weight }

/-- Declares the served value. -/
def withValue (variant : Variant) (value : Json) : Variant :=
  { variant with config := variant.config.insert valueName value }

/-- The value the variant serves, if it declares one. -/
def value? (variant : Variant) : Option FlagValue :=
  (variant.config.get? valueName).map FlagValue.ofAny

/-- Reads a variant. -/
def ofJson? (j : Json) : Option Variant := do
  let fields ← j.fields?
  let id ← fields.required "id" Json.text?
  let name ← fields.orElse "name" Json.text? ""
  let description ← fields.orElse "description" Json.text? ""
  let weight ← fields.required "weight" Json.number?
  let isControl ← fields.orElse "is_control" Json.bool? false
  let config ← fields.orElse "config" (Json.table? fun j => some j.canonical) .empty
  some { id, name, description, weight, isControl, config }

/-- Writes a variant. -/
def toJson (variant : Variant) : Json :=
  .obj <|
    [("id", .str variant.id),
      ("name", .str variant.name),
      ("description", .str variant.description),
      ("weight", .ofFloat variant.weight)]
    ++ (if variant.isControl then [("is_control", .bool true)] else [])
    ++ [("config", .ofTable (fun j => j) variant.config)]

end Variant

end FeatureTrials

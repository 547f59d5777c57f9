/-!
# Shapes of records

Whoever reads a record asks for some fields only. A shape tells which, so that a reader of text can
pass over the others without reading them.
-/

namespace FeatureTrials.Json

/-- What is asked for of a value. -/
inductive Shape where
  /-- all of it -/
  | whole
  /-- every element of an array, in a shape -/
  | list (item : Shape)
  /-- the fields of an object with some names, each in a shape -/
  | record (fields : List (String × Shape))

namespace Shape

/-- The fields with some names as a whole, and others in shapes of their own. -/
def ofFields (names : List String) (others : List (String × Shape)) : Shape :=
  .record (names.map (·, .whole) ++ others)

/-- What is asked for of a field, if it is asked for. -/
def field? : Shape → String → Option Shape
  | .record fields, name => fields.lookup name
  | _, _ => some .whole

/-- What is asked for of an element. -/
def item : Shape → Shape
  | .list item => item
  | _ => .whole

end Shape

end FeatureTrials.Json

import FeatureTrials.Json.Value
import FeatureTrials.Table

/-!
# Tables as JSON objects

A table is written as an object with one field per name, and read from one: of several fields with
one name the last one counts, but all of them have to be readable.
-/

namespace FeatureTrials.Json

variable {α : Type}

/-- Reads an object as a table. -/
def table? (read : Json → Option α) (j : Json) : Option (Table α) := do
  let fields ← j.fields?
  let entries ← fields.mapM fun field => (read field.2).map (field.1, ·)
  some (Table.ofList entries)

/-- Writes a table as an object. -/
def ofTable (write : α → Json) (t : Table α) : Json :=
  .obj (t.entries.map fun e => (e.1, write e.2))

end FeatureTrials.Json

import FeatureTrials.Json.Shape
import FeatureTrials.Rule.Basic

/-!
# Rules as JSON

Operators and declared types are written under one name each and read under that name or an alias.
-/

namespace FeatureTrials

namespace Operator

/-- The name an operator is written under. -/
def name : Operator → String
  | .equals => "equals"
  | .notEquals => "not_equals"
  | .greaterThan => "greater_than"
  | .lessThan => "less_than"
  | .greaterThanOrEqual => "greater_than_or_equal"
  | .lessThanOrEqual => "less_than_or_equal"
  | .contains => "contains"
  | .startsWith => "starts_with"
  | .endsWith => "ends_with"
  | .isIn => "in"
  | .notIn => "not_in"

/-- The operator of a name or a sign. -/
def ofName? : String → Option Operator
  | "equals" | "==" => some .equals
  | "not_equals" | "!=" => some .notEquals
  | "greater_than" | ">" => some .greaterThan
  | "less_than" | "<" => some .lessThan
  | "greater_than_or_equal" | ">=" => some .greaterThanOrEqual
  | "less_than_or_equal" | "<=" => some .lessThanOrEqual
  | "contains" => some .contains
  | "starts_with" => some .startsWith
  | "ends_with" => some .endsWith
  | "in" => some .isIn
  | "not_in" => some .notIn
  | _ => none

theorem ofName?_name (operator : Operator) : ofName? operator.name = some operator := by
  cases operator <;> rfl

end Operator

namespace DeclaredType

/-- The name a declared type is written under. -/
def name : DeclaredType → String
  | .text => "string"
  | .number => "number"
  | .boolean => "boolean"

/-- The declared type of a name. -/
def ofName? : String → Option DeclaredType
  | "string" => some .text
  | "number" => some .number
  | "boolean" | "bool" => some .boolean
  | _ => none

theorem ofName?_name (declared : DeclaredType) : ofName? declared.name = some declared := by
  cases declared <;> rfl

end DeclaredType

namespace Rule

/-- The fields that are read. -/
def shape : Json.Shape := .ofFields ["attribute", "operator", "value", "type"] []

/-- Reads a rule. -/
def ofJson? (j : Json) : Option Rule := do
  let fields ← j.fields?
  let subject ← fields.required "attribute" Json.text?
  let operator ← fields.required "operator" fun j => j.word?.bind Operator.ofName?
  let value ← fields.required "value" AttributeValue.ofJson?
  let declared ← fields.nullable "type" fun j => j.word?.bind DeclaredType.ofName?
  some { subject, operator, value, declared }

/-- Writes a rule. -/
def toJson (rule : Rule) : Json :=
  .obj <|
    [("attribute", .str rule.subject),
      ("operator", .str rule.operator.name),
      ("value", rule.value.toJson)]
    ++ Json.optionalField "type" (fun declared => .str declared.name) rule.declared

end Rule

end FeatureTrials

import FeatureTrials.Decimal.Layout
import FeatureTrials.Json.Value

/-!
# Flag values

What a flag or a variant of an experiment serves: a truth value, a text, a number, or any other
JSON. Values are read in two ways that agree: `ofJson?` takes the first kind that fits, `ofAny`
looks at the JSON value once.
-/

namespace FeatureTrials

/-- A value that is served. -/
inductive FlagValue where
  | bool (b : Bool)
  | text (s : String)
  | int (n : Int64)
  | float (x : Float)
  /-- anything else, in normal form -/
  | json (j : Json)
  deriving BEq, Inhabited

namespace FlagValue

/-- Reads a value as the first kind that fits. -/
def ofJson? (j : Json) : Option FlagValue :=
  (j.bool?.map .bool) <|> (j.text?.map .text) <|> (j.int64?.map .int) <|>
    (j.number?.map .float) <|> some (.json j.canonical)

/-- The value a JSON value stands for; an integer that does not fit 64 bits with a sign becomes a
double. -/
def ofAny : Json → FlagValue
  | .bool b => .bool b
  | .str s => .text s
  | .int n => if Json.IsSigned n then .int (Int64.ofInt n) else .float (Float.ofInt n)
  | .float x => .float x
  | j => .json j.canonical

/-- The JSON value that is served; a double that is no number is served as null. -/
def toJson : FlagValue → Json
  | .bool b => .bool b
  | .text s => .str s
  | .int n => .int n.toInt
  | .float x => .ofFloat x
  | .json j => j

/-! ## Typed access -/

/-- The truth value. -/
def bool? : FlagValue → Option Bool
  | .bool b => some b
  | _ => none

/-- The text. -/
def text? : FlagValue → Option String
  | .text s => some s
  | _ => none

/-- The number; integers are converted. -/
def float? : FlagValue → Option Float
  | .float x => some x
  | .int n => some (Float.ofInt n.toInt)
  | _ => none

/-- The integer, or what a double truncates to as long as integers of that size are exact. -/
def int? : FlagValue → Option Int
  | .int n => some n.toInt
  | .float x => Decimal.toSafeInt x
  | _ => none

/-- A label that counts how often a value is served; values without a short text share one. -/
def label : FlagValue → String
  | .text s => s
  | .json .null => "null"
  | .json _ => "other"
  | .bool true => "true"
  | .bool false => "false"
  | .int n => toString n.toInt
  | .float x => if x.isFinite then Decimal.Layout.data.text x else "null"

theorem ofJson?_eq_some (j : Json) : ofJson? j = some (ofAny j) := by
  cases j with
  | int n =>
    by_cases h : Json.IsSigned n
    · simp only [ofJson?, ofAny, Json.bool?, Json.text?, Json.int64?, if_pos h, Option.map]
      rfl
    · simp only [ofJson?, ofAny, Json.bool?, Json.text?, Json.int64?, if_neg h, Option.map]
      rfl
  | _ => rfl

end FlagValue

end FeatureTrials

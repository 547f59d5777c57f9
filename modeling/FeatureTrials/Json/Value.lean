/-!
# JSON values

A JSON value as it stands in a text: objects are lists of fields in the order in which they were
written, repeated names included. Numbers without fraction and exponent that fit 64 bits are
integers, all others doubles, and an integer never equals a double.

`Json.canonical` is the value with every object in its normal form, names strictly increasing, where
of several fields with one name the last one counts.
-/

namespace FeatureTrials

/-- A JSON value. -/
inductive Json where
  | null
  | bool (b : Bool)
  /-- a whole number between `-2 ^ 63` and `2 ^ 64 - 1` -/
  | int (n : Int)
  | float (x : Float)
  | str (s : String)
  | arr (items : List Json)
  | obj (fields : List (String × Json))
  deriving Inhabited

namespace Json

/-- The fields of an object. -/
abbrev Fields := List (String × Json)

mutual

/-- Equality of values in normal form; doubles are compared as numbers. -/
def beq : Json → Json → Bool
  | .null, .null => true
  | .bool a, .bool b => a == b
  | .int a, .int b => a == b
  | .float a, .float b => a == b
  | .str a, .str b => a == b
  | .arr a, .arr b => beqItems a b
  | .obj a, .obj b => beqFields a b
  | _, _ => false

/-- Equality element by element. -/
def beqItems : List Json → List Json → Bool
  | [], [] => true
  | a :: as, b :: bs => beq a b && beqItems as bs
  | _, _ => false

/-- Equality field by field. -/
def beqFields : List (String × Json) → List (String × Json) → Bool
  | [], [] => true
  | (k, a) :: as, (l, b) :: bs => k == l && beq a b && beqFields as bs
  | _, _ => false

end

instance : BEq Json := ⟨beq⟩

/-- Puts a field into a list of fields with increasing names, in place of one with its name. -/
def insertField (name : String) (value : Json) : Fields → Fields
  | [] => [(name, value)]
  | (k, v) :: rest =>
    if name < k then (name, value) :: (k, v) :: rest
    else if name = k then (name, value) :: rest
    else (k, v) :: insertField name value rest

/-- The normal form of a list of fields whose values are in normal form. -/
def sortFields (fields : Fields) : Fields :=
  fields.foldl (fun acc field => insertField field.1 field.2 acc) []

mutual

/-- The normal form of a value. -/
def canonical : Json → Json
  | .arr items => .arr (canonicalItems items)
  | .obj fields => .obj (sortFields (canonicalFields fields))
  | value => value

/-- The normal forms of the elements of an array. -/
def canonicalItems : List Json → List Json
  | [] => []
  | item :: rest => canonical item :: canonicalItems rest

/-- The fields of an object with their values in normal form. -/
def canonicalFields : List (String × Json) → List (String × Json)
  | [] => []
  | (k, v) :: rest => (k, canonical v) :: canonicalFields rest

end

/-- An integer that fits 64 bits with a sign. -/
abbrev IsSigned (n : Int) : Prop := -0x8000000000000000 ≤ n ∧ n < 0x8000000000000000

/-- An integer that fits 64 bits without a sign. -/
abbrev IsUnsigned (n : Int) : Prop := 0 ≤ n ∧ n < 0x10000000000000000

/-- The text of a string value. -/
def text? : Json → Option String
  | .str s => some s
  | _ => none

/-- The truth value. -/
def bool? : Json → Option Bool
  | .bool b => some b
  | _ => none

/-- A number as a double; integers are converted. -/
def number? : Json → Option Float
  | .int n => some (Float.ofInt n)
  | .float x => some x
  | _ => none

/-- A natural number below `2 ^ 64`, written as an integer. -/
def nat? : Json → Option Nat
  | .int n => if IsUnsigned n then some n.toNat else none
  | _ => none

/-- An integer of 64 bits with a sign. -/
def int64? : Json → Option Int64
  | .int n => if IsSigned n then some (Int64.ofInt n) else none
  | _ => none

/-- A number, or null for a double that is none. -/
def ofFloat (x : Float) : Json := if x.isFinite then .float x else .null

/-- The elements of an array. -/
def items? : Json → Option (List Json)
  | .arr items => some items
  | _ => none

/-- The fields of an object. -/
def fields? : Json → Option Fields
  | .obj fields => some fields
  | _ => none

/-- The elements of an array, each read by `read`. -/
def list? {α : Type} (read : Json → Option α) (j : Json) : Option (List α) :=
  j.items?.bind fun items => items.mapM read

end Json

end FeatureTrials

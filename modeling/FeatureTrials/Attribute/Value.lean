import FeatureTrials.Decimal.Layout
import FeatureTrials.Decimal.Literal
import FeatureTrials.Json.Writer
import FeatureTrials.Text.Blank

/-!
# Attribute values

What is known about a user, and what a rule compares it with. All numbers are doubles, so that `31`
in a context and `31.0` in a rule are one value.

Two readings of JSON lead here. `ofJson?` is the strict one of definitions and contexts: an object
is no attribute value, nor is a list with one in it. `ofAny` takes everything and keeps an object as
its text.

Equality comes in two strengths: `==` compares values of one kind, `looselyEquals` also scalars of
different kinds by their texts.
-/

namespace FeatureTrials

/-- A value in a user's attributes or in a rule. -/
inductive AttributeValue where
  | text (s : String)
  | number (x : Float)
  | bool (b : Bool)
  | list (items : List AttributeValue)
  | null
  deriving Inhabited

namespace AttributeValue

/-! ## Equality -/

mutual

/-- Equality of values of one kind; numbers are compared as numbers. -/
def beq : AttributeValue → AttributeValue → Bool
  | .text a, .text b => a == b
  | .number a, .number b => a == b
  | .bool a, .bool b => a == b
  | .list a, .list b => beqItems a b
  | .null, .null => true
  | _, _ => false

/-- Equality element by element. -/
def beqItems : List AttributeValue → List AttributeValue → Bool
  | [], [] => true
  | a :: as, b :: bs => beq a b && beqItems as bs
  | _, _ => false

end

instance : BEq AttributeValue := ⟨beq⟩

/-! ## Reading a value as something else -/

/-- The text of a text. -/
def text? : AttributeValue → Option String
  | .text s => some s
  | _ => none

/-- There is no value. -/
def isNull : AttributeValue → Bool
  | .null => true
  | _ => false

/-- A number, or the finite number a text spells between blanks. -/
def number? : AttributeValue → Option Float
  | .number x => some x
  | .text s => Decimal.read? (Text.trim s.toList)
  | _ => none

/-- A truth value, or the texts `true` and `false` in any case. -/
def bool? : AttributeValue → Option Bool
  | .bool b => some b
  | .text s =>
    let word := s.toList.map Char.toLower
    if word = ['t', 'r', 'u', 'e'] then some true
    else if word = ['f', 'a', 'l', 's', 'e'] then some false
    else none
  | _ => none

/-- The elements of a list; any other value is a list of one. -/
def items : AttributeValue → List AttributeValue
  | .list items => items
  | value => [value]

mutual

/-- The text that stands for a value in comparisons of texts. -/
def display : AttributeValue → String
  | .text s => s
  | .number x => Decimal.plain x
  | .bool true => "true"
  | .bool false => "false"
  | .list [] => ""
  | .list (item :: rest) => display item ++ displayRest rest
  | .null => ""

/-- Further elements of a list, each behind a comma. -/
def displayRest : List AttributeValue → String
  | [] => ""
  | item :: rest => "," ++ display item ++ displayRest rest

end

/-- Neither null nor a list. -/
def isScalar : AttributeValue → Bool
  | .list _ => false
  | .null => false
  | _ => true

/-- Equal, or scalars with the same text. -/
def looselyEquals (a b : AttributeValue) : Bool :=
  a == b || (a.isScalar && b.isScalar && a.display == b.display)

/-! ## JSON -/

mutual

/-- Reads a value that has no object in it. -/
def ofJson? : Json → Option AttributeValue
  | .null => some .null
  | .bool b => some (.bool b)
  | .int n => some (.number (Float.ofInt n))
  | .float x => some (.number x)
  | .str s => some (.text s)
  | .arr items => (ofJsonItems? items).map .list
  | .obj _ => none

/-- Reads the elements of a list. -/
def ofJsonItems? : List Json → Option (List AttributeValue)
  | [] => some []
  | item :: rest =>
    match ofJson? item, ofJsonItems? rest with
    | some value, some values => some (value :: values)
    | _, _ => none

end

mutual

/-- Takes any JSON value; an object is kept as its text, names in increasing order. -/
def ofAny : Json → AttributeValue
  | .null => .null
  | .bool b => .bool b
  | .int n => .number (Float.ofInt n)
  | .float x => .number x
  | .str s => .text s
  | .arr items => .list (ofAnyItems items)
  | .obj fields => .text (Json.obj fields).canonical.write

/-- Takes the elements of an array. -/
def ofAnyItems : List Json → List AttributeValue
  | [] => []
  | item :: rest => ofAny item :: ofAnyItems rest

end

mutual

/-- Writes a value. -/
def toJson : AttributeValue → Json
  | .text s => .str s
  | .number x => .ofFloat x
  | .bool b => .bool b
  | .list items => .arr (toJsonItems items)
  | .null => .null

/-- Writes the elements of a list. -/
def toJsonItems : List AttributeValue → List Json
  | [] => []
  | item :: rest => toJson item :: toJsonItems rest

end

end AttributeValue

end FeatureTrials

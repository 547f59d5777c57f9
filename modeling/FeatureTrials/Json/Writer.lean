import FeatureTrials.Decimal.Layout
import FeatureTrials.Json.Value
import FeatureTrials.Text.Hex

/-!
# Writing JSON text

Values are written without blanks, fields in the order of the object. Strings escape only what has
to be escaped; a double that is no number is written as `null`.
-/

namespace FeatureTrials.Json

/-- A character inside a string. -/
def escape (c : Char) : List Char :=
  match c with
  | '"' => ['\\', '"']
  | '\\' => ['\\', '\\']
  | '\x08' => ['\\', 'b']
  | '\x0c' => ['\\', 'f']
  | '\n' => ['\\', 'n']
  | '\r' => ['\\', 'r']
  | '\t' => ['\\', 't']
  | c =>
    if c.toNat < 0x20 then
      ['\\', 'u', '0', '0', Text.hexDigit (c.toNat / 16), Text.hexDigit (c.toNat % 16)]
    else [c]

/-- A string between its quotes, in front of the text that follows it. -/
def quoteTo (s : String) (rest : List Char) : List Char :=
  '"' :: (s.toList.flatMap escape ++ '"' :: rest)

mutual

/-- A value in front of the text that follows it. -/
def writeTo (rest : List Char) : Json → List Char
  | .null => 'n' :: 'u' :: 'l' :: 'l' :: rest
  | .bool true => 't' :: 'r' :: 'u' :: 'e' :: rest
  | .bool false => 'f' :: 'a' :: 'l' :: 's' :: 'e' :: rest
  | .int n => (toString n).toList ++ rest
  | .float x =>
    if x.isFinite then (Decimal.Layout.data.text x).toList ++ rest
    else 'n' :: 'u' :: 'l' :: 'l' :: rest
  | .str s => quoteTo s rest
  | .arr [] => '[' :: ']' :: rest
  | .arr (item :: items) => '[' :: writeTo (writeItemsTo rest items) item
  | .obj [] => '\x7b' :: '\x7d' :: rest
  | .obj ((name, value) :: fields) =>
    '\x7b' :: quoteTo name (':' :: writeTo (writeFieldsTo rest fields) value)

/-- Further elements of an array and its end. -/
def writeItemsTo (rest : List Char) : List Json → List Char
  | [] => ']' :: rest
  | item :: items => ',' :: writeTo (writeItemsTo rest items) item

/-- Further fields of an object and its end. -/
def writeFieldsTo (rest : List Char) : List (String × Json) → List Char
  | [] => '\x7d' :: rest
  | (name, value) :: fields =>
    ',' :: quoteTo name (':' :: writeTo (writeFieldsTo rest fields) value)

end

/-- The text of a value. -/
def write (j : Json) : String := String.ofList (j.writeTo [])

end FeatureTrials.Json

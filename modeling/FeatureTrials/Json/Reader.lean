import FeatureTrials.Json.Shape
import FeatureTrials.Json.Skip

/-!
# Reading JSON text

`Json.parse?` reads a whole text as one value, or refuses it: for anything but JSON around or inside
the value, for strings and numbers that have no value, and for arrays and objects nested more than
127 deep. `Json.parseAs?` reads only what a shape asks for and passes over the other fields.
-/

namespace FeatureTrials.Json

/-- The nesting that is still read. -/
def maxDepth : Nat := 127

mutual

/-- What is asked for of the value at the start of a text. Every step of the reader spends one unit
of fuel and takes at least one character, so the length of the text is fuel enough. -/
def takeValue (fuel depth : Nat) (shape : Shape) (cs : List Char) :
    Option (Json × List Char) :=
  match fuel with
  | 0 => none
  | fuel + 1 =>
    match skipSpace cs with
    | '"' :: rest => do
      let (s, rest) ← takeString (rest.length + 1) [] rest
      some (.str s, rest)
    | '[' :: rest =>
      match depth with
      | 0 => none
      | depth + 1 =>
        match skipSpace rest with
        | ']' :: rest => some (.arr [], rest)
        | rest => takeItems fuel depth shape.item [] rest
    | '\x7b' :: rest =>
      match depth with
      | 0 => none
      | depth + 1 =>
        match skipSpace rest with
        | '\x7d' :: rest => some (.obj [], rest)
        | rest => takeFields fuel depth shape [] rest
    | c :: rest => if c = '-' ∨ c.isDigit then takeNumber (c :: rest) else takeWord (c :: rest)
    | [] => none

/-- The rest of an array, from an element on. -/
def takeItems (fuel depth : Nat) (shape : Shape) (acc : List Json) (cs : List Char) :
    Option (Json × List Char) :=
  match fuel with
  | 0 => none
  | fuel + 1 => do
    let (item, rest) ← takeValue fuel depth shape cs
    match skipSpace rest with
    | ',' :: rest => takeItems fuel depth shape (item :: acc) rest
    | ']' :: rest => some (.arr (item :: acc).reverse, rest)
    | _ => none

/-- The rest of an object, from a name on. -/
def takeFields (fuel depth : Nat) (shape : Shape) (acc : Fields) (cs : List Char) :
    Option (Json × List Char) :=
  match fuel with
  | 0 => none
  | fuel + 1 =>
    match skipSpace cs with
    | '"' :: rest => do
      let (name, rest) ← takeString (rest.length + 1) [] rest
      match skipSpace rest with
      | ':' :: rest => do
        let (acc, rest) ← match shape.field? name with
          | some inner => do
            let (value, rest) ← takeValue fuel depth inner rest
            some ((name, value) :: acc, rest)
          | none => (skipValue rest).map (acc, ·)
        match skipSpace rest with
        | ',' :: rest => takeFields fuel depth shape acc rest
        | '\x7d' :: rest => some (.obj acc.reverse, rest)
        | _ => none
      | _ => none
    | _ => none

end

/-- Reads a text, one JSON value with blanks around it, as far as it is asked for. -/
def parseAs? (shape : Shape) (s : String) : Option Json := do
  let cs := s.toList
  let (value, rest) ← takeValue (2 * cs.length + 2) maxDepth shape cs
  if (skipSpace rest).isEmpty then some value else none

/-- Reads a text as one JSON value with blanks around it. -/
def parse? (s : String) : Option Json := parseAs? .whole s

end FeatureTrials.Json

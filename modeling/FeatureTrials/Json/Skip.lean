import FeatureTrials.Json.Token

/-!
# Values that nobody reads

`Json.skipValue` passes over a value. It has to be written as JSON is, but it need not have a value:
its numbers may be beyond the doubles, its strings may name half a surrogate pair, and it may be
nested as deep as it likes. The arrays and objects that have been entered are kept in a list, the
innermost first.
-/

namespace FeatureTrials.Json

/-- The text behind a string whose opening quote has been passed. -/
def skipString : List Char → Option (List Char)
  | '"' :: rest => some rest
  | '\\' :: 'u' :: a :: b :: c :: d :: rest =>
    if (takeUnit [a, b, c, d]).isSome then skipString rest else none
  | '\\' :: c :: rest => if (simpleEscape? c).isSome then skipString rest else none
  | c :: rest => if c.toNat < 0x20 ∨ c = '\\' then none else skipString rest
  | [] => none

/-- The text behind a string, a number or a word. -/
def skipScalar : List Char → Option (List Char)
  | '"' :: rest => skipString rest
  | c :: rest =>
    if c = '-' ∨ c.isDigit then (takeWritten (c :: rest)).map (·.2)
    else (takeWord (c :: rest)).map (·.2)
  | [] => none

/-- The text behind the name of a field and its colon. -/
def skipName (cs : List Char) : Option (List Char) :=
  match skipSpace cs with
  | '"' :: rest =>
    match (skipString rest).map skipSpace with
    | some (':' :: rest) => some rest
    | _ => none
  | _ => none

/-- What a value stands in. -/
inductive Surrounding where
  | array
  | object
  deriving DecidableEq, Repr

mutual

/-- The text behind a value and behind what is left of the arrays and objects around it. Every step
spends one unit of fuel and passes at least one character, so the length of the text is fuel
enough. -/
def skipInside (fuel : Nat) (around : List Surrounding) (cs : List Char) : Option (List Char) :=
  match fuel with
  | 0 => none
  | fuel + 1 =>
    match skipSpace cs with
    | '[' :: rest =>
      match skipSpace rest with
      | ']' :: rest => skipBehind fuel around rest
      | rest => skipInside fuel (.array :: around) rest
    | '\x7b' :: rest =>
      match skipSpace rest with
      | '\x7d' :: rest => skipBehind fuel around rest
      | rest =>
        match skipName rest with
        | some rest => skipInside fuel (.object :: around) rest
        | none => none
    | cs =>
      match skipScalar cs with
      | some rest => skipBehind fuel around rest
      | none => none

/-- The text behind what is left of arrays and objects, from the end of an element on. -/
def skipBehind (fuel : Nat) (around : List Surrounding) (cs : List Char) : Option (List Char) :=
  match fuel, around with
  | 0, _ => none
  | _ + 1, [] => some cs
  | fuel + 1, .array :: outer =>
    match skipSpace cs with
    | ',' :: rest => skipInside fuel (.array :: outer) rest
    | ']' :: rest => skipBehind fuel outer rest
    | _ => none
  | fuel + 1, .object :: outer =>
    match skipSpace cs with
    | ',' :: rest =>
      match skipName rest with
      | some rest => skipInside fuel (.object :: outer) rest
      | none => none
    | '\x7d' :: rest => skipBehind fuel outer rest
    | _ => none

end

/-- The text behind the value at its start. -/
def skipValue (cs : List Char) : Option (List Char) := skipInside (2 * cs.length + 2) [] cs

end FeatureTrials.Json

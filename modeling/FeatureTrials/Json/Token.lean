import FeatureTrials.Decimal.Literal
import FeatureTrials.Json.Value
import FeatureTrials.Text.Hex

/-!
# Tokens of JSON text

The blanks, strings, numbers and words at the start of a text. A string may not hold control
characters or an escape that names half a surrogate pair, and a number has to be one of the doubles.
-/

namespace FeatureTrials.Json

/-- A blank between tokens. -/
def isSpace (c : Char) : Bool := c = ' ' || c = '\n' || c = '\t' || c = '\r'

/-- The text without its leading blanks. -/
def skipSpace (cs : List Char) : List Char := cs.dropWhile isSpace

/-- The code unit of an escape with four hexadecimal digits. -/
def takeUnit : List Char → Option (Nat × List Char)
  | a :: b :: c :: d :: rest => do
    let a ← Text.hexValue? a
    let b ← Text.hexValue? b
    let c ← Text.hexValue? c
    let d ← Text.hexValue? d
    some (((a * 16 + b) * 16 + c) * 16 + d, rest)
  | _ => none

/-- The character of an escape whose first code unit has been read: a low unit has to follow a high
one, and may not come alone. -/
def takeEscaped (unit : Nat) (cs : List Char) : Option (Char × List Char) :=
  if 0xD800 ≤ unit ∧ unit < 0xDC00 then
    match cs with
    | '\\' :: 'u' :: rest => do
      let (low, rest) ← takeUnit rest
      if 0xDC00 ≤ low ∧ low < 0xE000 then
        some (Char.ofNat (0x10000 + (unit - 0xD800) * 0x400 + (low - 0xDC00)), rest)
      else none
    | _ => none
  else if 0xDC00 ≤ unit ∧ unit < 0xE000 then none
  else some (Char.ofNat unit, cs)

/-- The character a one-letter escape stands for. -/
def simpleEscape? : Char → Option Char
  | '"' => some '"'
  | '\\' => some '\\'
  | '/' => some '/'
  | 'b' => some '\x08'
  | 'f' => some '\x0c'
  | 'n' => some '\n'
  | 'r' => some '\r'
  | 't' => some '\t'
  | _ => none

/-- One character inside a string, escaped or not. -/
def takeChar : List Char → Option (Char × List Char)
  | '\\' :: 'u' :: rest => do
    let (unit, rest) ← takeUnit rest
    takeEscaped unit rest
  | '\\' :: c :: rest => (simpleEscape? c).map (·, rest)
  | c :: rest => if c.toNat < 0x20 ∨ c = '\\' then none else some (c, rest)
  | [] => none

/-- The rest of a string behind its opening quote; `fuel` bounds its length, and `acc` holds what
has been read, last character first. -/
def takeString (fuel : Nat) (acc : List Char) (cs : List Char) : Option (String × List Char) :=
  match fuel, cs with
  | 0, _ => none
  | _ + 1, '"' :: rest => some (String.ofList acc.reverse, rest)
  | fuel + 1, cs =>
    match takeChar cs with
    | some (c, rest) => takeString fuel (c :: acc) rest
    | none => none

/-- A number is written with digits before the point, no idle zero in front, and digits behind the
point and in the exponent if these are there. -/
def wellWritten (w : Decimal.Written) : Bool :=
  let whole := match w.whole with
    | [] => false
    | '0' :: _ :: _ => false
    | _ => true
  whole && w.fraction != some [] && w.exponentOk

/-- The value of a number: an integer if it is written as one and fits, else a double. Minus zero
is a double. -/
def ofWritten (negative : Bool) (w : Decimal.Written) : Option Json :=
  let n := Decimal.ofDigits w.whole
  let integral := w.fraction.isNone && w.exponent.isNone
  if integral && !negative && IsUnsigned n then some (.int n)
  else if integral && negative && n ≠ 0 && IsSigned (-n) then some (.int (-n))
  else
    let x := w.value negative
    if x.isFinite then some (.float x) else none

/-- The well-written number at the start of a text; `true` for a minus. -/
def takeWritten (cs : List Char) : Option ((Bool × Decimal.Written) × List Char) :=
  let (negative, cs) := match cs with
    | '-' :: rest => (true, rest)
    | cs => (false, cs)
  let (w, rest) := Decimal.Written.scan cs
  if wellWritten w then some ((negative, w), rest) else none

/-- The value of the number at the start of a text. -/
def takeNumber (cs : List Char) : Option (Json × List Char) := do
  let ((negative, w), rest) ← takeWritten cs
  let value ← ofWritten negative w
  some (value, rest)

/-- The word at the start of a text. -/
def takeWord : List Char → Option (Json × List Char)
  | 'n' :: 'u' :: 'l' :: 'l' :: rest => some (.null, rest)
  | 't' :: 'r' :: 'u' :: 'e' :: rest => some (.bool true, rest)
  | 'f' :: 'a' :: 'l' :: 's' :: 'e' :: rest => some (.bool false, rest)
  | _ => none

end FeatureTrials.Json

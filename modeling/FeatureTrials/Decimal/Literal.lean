import FeatureTrials.Decimal.Binary

/-!
# Reading decimals

`Written.scan` splits a decimal into its parts; which parts have to be there is the business of the
format that is read. `Written.value` is the double nearest to what is written.
-/

namespace FeatureTrials.Decimal

/-- The number a string of decimal digits stands for. -/
def ofDigits (ds : List Char) : Nat :=
  ds.foldl (fun n c => 10 * n + (c.toNat - '0'.toNat)) 0

/-- An unsigned decimal as it is written. -/
structure Written where
  /-- the digits before the point -/
  whole : List Char
  /-- the digits after the point, if there is a point -/
  fraction : Option (List Char)
  /-- the sign and the digits of the exponent, if there is an exponent mark -/
  exponent : Option (Bool × List Char)
  deriving DecidableEq

/-- Splits off a leading sign; `true` for a minus. -/
def takeSign : List Char → Bool × List Char
  | '-' :: rest => (true, rest)
  | '+' :: rest => (false, rest)
  | cs => (false, cs)

/-- The fraction at the start of a text. -/
def takeFraction : List Char → Option (List Char) × List Char
  | '.' :: rest => (some (rest.takeWhile Char.isDigit), rest.dropWhile Char.isDigit)
  | cs => (none, cs)

/-- The exponent at the start of a text. -/
def takeExponent : List Char → Option (Bool × List Char) × List Char
  | c :: rest =>
    if c = 'e' ∨ c = 'E' then
      let (negative, rest) := takeSign rest
      (some (negative, rest.takeWhile Char.isDigit), rest.dropWhile Char.isDigit)
    else (none, c :: rest)
  | [] => (none, [])

/-- The decimal at the start of a text, and what follows it. -/
def Written.scan (cs : List Char) : Written × List Char :=
  let (fraction, rest) := takeFraction (cs.dropWhile Char.isDigit)
  let (exponent, rest) := takeExponent rest
  (⟨cs.takeWhile Char.isDigit, fraction, exponent⟩, rest)

/-- An exponent mark is followed by digits. -/
def Written.exponentOk (w : Written) : Bool :=
  match w.exponent with
  | some (_, ds) => !ds.isEmpty
  | none => true

/-- The power of ten in the exponent. -/
def Written.power (w : Written) : Int :=
  match w.exponent with
  | some (true, ds) => -(ofDigits ds : Int)
  | some (false, ds) => ofDigits ds
  | none => 0

/-- The double nearest to a written decimal; infinite when it is too large. -/
def Written.value (w : Written) (negative : Bool) : Float :=
  let fraction := w.fraction.getD []
  let digits := ofDigits (w.whole ++ fraction)
  let power := w.power - fraction.length
  let magnitude := Float.ofScientific digits (power < 0) power.natAbs
  if negative then -magnitude else magnitude

/-- Reads a whole text as a finite number: a sign, digits with an optional point anywhere among
them, and an exponent. -/
def read? (cs : List Char) : Option Float :=
  let (negative, cs) := takeSign cs
  let (w, rest) := Written.scan cs
  let hasDigits := !(w.whole.isEmpty && (w.fraction.getD []).isEmpty)
  let x := w.value negative
  if hasDigits && w.exponentOk && rest.isEmpty && x.isFinite then some x else none

end FeatureTrials.Decimal

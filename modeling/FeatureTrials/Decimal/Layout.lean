import FeatureTrials.Decimal.Shortest

/-!
# Laying out a decimal

A double is shown by its shortest digits. What remains to be decided is a `Layout`: where the
exponent form begins, whether whole numbers keep a fraction, and how a tie between two shortest
decimals goes. Two layouts are in use: `Layout.data` for numbers inside JSON text and
`Layout.display` for numbers inside messages.
-/

namespace FeatureTrials.Decimal

/-- The decisions of a number format. -/
structure Layout where
  /-- which of two equally short and equally close decimals is shown -/
  tie : Tie
  /-- the decimal exponents of the first digit that are written without an exponent part -/
  positional : Int → Bool
  /-- whole numbers are written with a fraction, `50.0` -/
  pointZero : Bool

/-- JSON text: `0.00001`, `50.0`, `1e-7`, `1e+16`. -/
def Layout.data : Layout := ⟨.toEven, fun e => -5 ≤ e && e ≤ 15, true⟩

/-- Messages: never an exponent, and whole numbers without a fraction. -/
def Layout.display : Layout := ⟨.up, fun _ => true, false⟩

/-- A run of zeros. -/
def zeros (n : Nat) : List Char := List.replicate n '0'

/-- Digits around the point: behind their zeros, on both sides of the point, or after it. -/
def Layout.point (layout : Layout) (ds : List Char) (exponent : Int) : List Char :=
  let first := exponent + ds.length - 1
  if 0 ≤ exponent then
    ds ++ zeros exponent.toNat ++ if layout.pointZero then ['.', '0'] else []
  else if 0 ≤ first then
    ds.take (first.toNat + 1) ++ '.' :: ds.drop (first.toNat + 1)
  else
    '0' :: '.' :: zeros (-first - 1).toNat ++ ds

/-- One digit, the rest behind a point, and the exponent with its sign. -/
def scientific (ds : List Char) (exponent : Int) : List Char :=
  let first := exponent + ds.length - 1
  let fraction := match ds.drop 1 with
    | [] => []
    | rest => '.' :: rest
  let sign := if first < 0 then '-' else '+'
  ds.take 1 ++ fraction ++ 'e' :: sign :: Nat.toDigits 10 first.natAbs

/-- The text of a positive decimal. -/
def Layout.decimal (layout : Layout) (d : Digits) : List Char :=
  let ds := Nat.toDigits 10 d.digits
  if layout.positional (d.exponent + ds.length - 1) then
    layout.point ds d.exponent
  else
    scientific ds d.exponent

/-- The text of a magnitude. -/
def Layout.magnitude (layout : Layout) (x : Magnitude) : List Char :=
  if x.mantissa = 0 then layout.point ['0'] 0 else layout.decimal (x.shortest layout.tie)

/-- The text of a double. -/
def Layout.text (layout : Layout) (x : Float) : String :=
  if x.isNaN then "NaN"
  else
    let sign := if isNegative x then ['-'] else []
    let body := if x.isInf then ['i', 'n', 'f'] else layout.magnitude (.ofBits x.toBits)
    String.ofList (sign ++ body)

/-- A number inside a message. -/
def display (x : Float) : String := Layout.display.text x

/-- A number the way users write it: whole numbers as integers as long as those are exact, so that
zero has one text whatever its sign. -/
def plain (x : Float) : String :=
  match toSafeInt x with
  | some n => if ofInt n == x then toString n else display x
  | none => display x

end FeatureTrials.Decimal

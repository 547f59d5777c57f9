/-!
# Doubles as exact numbers

The bits of a finite double name an exact number, `mantissa * 2 ^ exponent` with a sign. Everything
that must be exact about doubles (their shortest decimal text, the integer they truncate to) is
computed on that number in `Nat` and `Int` arithmetic.
-/

namespace FeatureTrials.Decimal

/-- The magnitude `mantissa * 2 ^ exponent` of a finite double. -/
structure Magnitude where
  /-- the significant bits, with the implicit one of normal numbers written out -/
  mantissa : Nat
  /-- the power of two the mantissa is scaled by -/
  exponent : Int
  /-- the next smaller double is only half as far away as the next larger one -/
  narrowBelow : Bool
  deriving DecidableEq

/-- The magnitude written in the bits of a finite double; the sign bit is ignored. -/
def Magnitude.ofBits (bits : UInt64) : Magnitude :=
  let biased := ((bits >>> 52) &&& 0x7FF).toNat
  let fraction := (bits &&& 0xFFFFFFFFFFFFF).toNat
  if biased = 0 then
    ⟨fraction, -1074, false⟩
  else
    ⟨0x10000000000000 + fraction, (biased : Int) - 1075, fraction = 0 && biased > 1⟩

/-- The integer part of a magnitude. -/
def Magnitude.floor (x : Magnitude) : Nat :=
  x.mantissa <<< x.exponent.toNat >>> (-x.exponent).toNat

/-- The sign bit, which zeros have too. -/
def isNegative (x : Float) : Bool :=
  x.toBits >>> 63 = 1

/-- The integer a finite double truncates to, toward zero. -/
def truncate (x : Float) : Int :=
  let whole := (Magnitude.ofBits x.toBits).floor
  if isNegative x then -(whole : Int) else whole

/-- The largest magnitude below which doubles tell all integers apart, `2 ^ 53 - 1`. -/
def safeIntegerBound : Float := 9007199254740991.0

/-- The integer a double truncates to, as long as integers of that size are exact. -/
def toSafeInt (x : Float) : Option Int :=
  if x.abs ≤ safeIntegerBound then some (truncate x) else none

/-- The double nearest to a natural number. -/
def ofNat (n : Nat) : Float := Float.ofNat n

/-- The double nearest to an integer. -/
def ofInt (n : Int) : Float := Float.ofInt n

end FeatureTrials.Decimal

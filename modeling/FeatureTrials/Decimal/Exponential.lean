import FeatureTrials.Decimal.Binary

/-!
# The exponential function

`exp x` is the double nearest to `e ^ x`, computed on exact numbers like everything that must be
exact about doubles: `x` in fixed-point arithmetic, of which a multiple of `log 2` is split off as a
power of two, and the exponential of the rest by its series.
-/

namespace FeatureTrials.Decimal

/-- One, with 128 binary places. -/
def fixedOne : Nat := 0x100000000000000000000000000000000

/-- `log 2`, with 128 binary places. -/
def fixedLogTwo : Nat := 235865763225513294137944142764154484399

/-- A finite double with 128 binary places, toward zero. -/
def toFixed (x : Float) : Int :=
  let magnitude := Magnitude.ofBits x.toBits
  let whole := { magnitude with exponent := magnitude.exponent + 128 }.floor
  if isNegative x then -(whole : Int) else whole

/-- `e ^ x` for a fixed-point number from zero to `log 2`, by the first 32 terms of the series. -/
def fixedExp (x : Nat) : Nat :=
  -- 1 + x / 1 * (1 + x / 2 * (1 + x / 3 * …)), where the terms left out are below the last place
  (List.range 32).foldr (fun n sum => fixedOne + ((x * sum) >>> 128) / (n + 1)) fixedOne

/-- The double nearest to `mantissa * 2 ^ power`, for a fixed-point mantissa from one to two. -/
def ofFixed (mantissa : Nat) (power : Int) : Float :=
  -- numbers below the normal ones have fewer bits
  let dropped := 76 + (-1022 - power).toNat
  let rounded := (mantissa + Nat.pow 2 (dropped - 1)) >>> dropped
  -- the leading bit of the mantissa, and a carry in rounding, count the exponent up by one
  let bits := ((power + 1022).toNat <<< 52) + rounded
  Float.ofBits (min bits 0x7FF0000000000000).toUInt64

/-- The exponential function. -/
def exp (x : Float) : Float :=
  if x.isNaN then x
  else
    let fixed := toFixed x
    -- beyond these powers every result is zero or infinite
    let power := max (-1100) (min 1100 (fixed / fixedLogTwo))
    ofFixed (fixedExp (fixed % fixedLogTwo).toNat) power

example : exp 0.0 = 1.0 := by decide +kernel

example : exp (-0.5) = 0.6065306597126334 := by decide +kernel

end FeatureTrials.Decimal

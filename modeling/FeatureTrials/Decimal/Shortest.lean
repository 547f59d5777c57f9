import FeatureTrials.Decimal.Binary

/-!
# The shortest decimal of a double

A decimal reads back as a double when it lies in the interval of numbers that round to it, ends
included exactly for an even mantissa. The shortest decimal is found grid by grid: for one, two, …
digits only the two neighbours of the exact value on that grid can read back, the first grid with a
hit wins, and of two hits the closer one. An exact tie is the caller's choice.
-/

namespace FeatureTrials.Decimal

/-- A positive decimal `digits * 10 ^ exponent`. -/
structure Digits where
  digits : Nat
  exponent : Int
  deriving DecidableEq, Repr

/-- Which of two equally close decimals is taken. -/
inductive Tie where
  /-- the one with an even last digit -/
  | toEven
  /-- the larger one -/
  | up
  deriving DecidableEq

/-- A grid of decimals, the multiples of a power of ten, next to a magnitude: all three numbers are
in the same unit, the largest in which they and the ends of the interval are whole. -/
structure Grid where
  /-- the width of the grid -/
  step : Nat
  /-- the magnitude -/
  value : Nat
  /-- the lower end of the numbers that round to the magnitude -/
  low : Nat
  /-- the upper end -/
  high : Nat
  /-- the ends themselves round to the magnitude -/
  closed : Bool

/-- The multiples of `10 ^ power` next to a magnitude. -/
def Magnitude.grid (x : Magnitude) (power : Int) : Grid :=
  let quarter := x.exponent - 2
  let unit := Nat.pow 10 (-power).toNat <<< quarter.toNat
  { step := Nat.pow 10 power.toNat <<< (-quarter).toNat
    value := 4 * x.mantissa * unit
    low := (4 * x.mantissa - if x.narrowBelow then 1 else 2) * unit
    high := (4 * x.mantissa + 2) * unit
    closed := x.mantissa % 2 = 0 }

/-- A multiple of the grid's step rounds to the magnitude. -/
def Grid.readsBack (g : Grid) (n : Nat) : Bool :=
  let point := n * g.step
  if g.closed then g.low ≤ point && point ≤ g.high else g.low < point && point < g.high

/-- The multiple of the step that reads back, the closer one if both neighbours do. -/
def Grid.nearest? (tie : Tie) (g : Grid) : Option Nat :=
  let below := g.value / g.step
  match g.readsBack below, g.readsBack (below + 1) with
  | true, true =>
    match compare (2 * g.value) ((2 * below + 1) * g.step) with
    | .lt => some below
    | .gt => some (below + 1)
    | .eq => match tie with
      | .up => some (below + 1)
      | .toEven => some (below + below % 2)
  | true, false => some below
  | false, true => some (below + 1)
  | false, false => none

/-- The least power of ten above a magnitude. -/
def Magnitude.scale (x : Magnitude) : Int :=
  -- 30103 / 100000 is the logarithm of two, so the first guess is at most two too small
  let guess := Int.fdiv ((x.mantissa.log2 + x.exponent) * 30103) 100000
  let above (k : Int) : Bool := (x.grid k).value < (x.grid k).step
  if above guess then guess else if above (guess + 1) then guess + 1 else guess + 2

/-- Moves trailing zeros of the digits into the exponent. -/
def Digits.strip (d : Digits) : Nat → Digits
  | 0 => d
  | fuel + 1 =>
    if d.digits ≠ 0 ∧ d.digits % 10 = 0 then
      Digits.strip ⟨d.digits / 10, d.exponent + 1⟩ fuel
    else d

/-- The exact decimal value of a magnitude. -/
def Magnitude.exact (x : Magnitude) : Digits :=
  ⟨(x.mantissa <<< x.exponent.toNat) * Nat.pow 5 (-x.exponent).toNat, min x.exponent 0⟩

/-- The shortest decimal that reads back as a positive magnitude. Seventeen digits always suffice;
the exact value stands behind the search for completeness. -/
def Magnitude.shortest (tie : Tie) (x : Magnitude) : Digits :=
  let scale := x.scale
  let found := (List.range 17).findSome? fun (n : Nat) =>
    let power := scale - (n + 1 : Nat)
    ((x.grid power).nearest? tie).map (⟨·, power⟩)
  (found.getD x.exact).strip 800

end FeatureTrials.Decimal

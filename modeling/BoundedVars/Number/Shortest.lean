import BoundedVars.Number.Double

/-!
# The shortest decimal that reads back

Every decimal fraction in a certain interval around a double rounds to that double; the ends
belong to the interval exactly when the significand is even.  `Double.shortest` looks for the
coarsest grid `10 ^ k` with a point in the interval.  If some point of a grid lies in it, so does
one of the two grid points next to the double, so only these two are tried, in exact arithmetic;
of two hits the nearer one counts, and of two equally near the even one.
-/

namespace BoundedVars.Double

/-- A finite positive double seen on the grid of multiples of `10 ^ k`: all quantities are
multiplied out to integers, with the grid points at the multiples of `unit`. -/
structure Grid where
  value : Nat
  lower : Nat
  upper : Nat
  unit : Nat
  closed : Bool

/-- The grid `10 ^ k` around `significand · 2 ^ exponent`.  The interval reaches half way to the
two neighbours, of which the lower one is nearer at the powers of two. -/
def grid (significand : Nat) (exponent k : Int) : Grid :=
  let below := if significand = power 2 52 ∧ minExponent < exponent then 1 else 2
  let scale := power 2 (exponent - 2) * power 10 (-k)
  { value := 4 * significand * scale
    lower := (4 * significand - below) * scale
    upper := (4 * significand + 2) * scale
    unit := power 10 k * power 2 (2 - exponent)
    closed := significand % 2 == 0 }

/-- A multiple of the unit lies in the interval. -/
def Grid.holds (g : Grid) (multiple : Nat) : Bool :=
  let point := multiple * g.unit
  if g.closed then g.lower ≤ point && point ≤ g.upper else g.lower < point && point < g.upper

/-- The grid point in the interval that is nearest to the value. -/
def Grid.nearest? (g : Grid) : Option Nat :=
  let floor := g.value / g.unit
  let toFloor := g.value - floor * g.unit
  let toNext := (floor + 1) * g.unit - g.value
  match g.holds floor, g.holds (floor + 1) with
  | true, true =>
    some (if toFloor < toNext then floor else if toNext < toFloor then floor + 1
      else floor + floor % 2)
  | true, false => some floor
  | false, true => some (floor + 1)
  | false, false => none

/-- The digits and the power of ten of the shortest decimal for `significand · 2 ^ exponent`,
the significand positive.  The search starts above the number and goes down the powers of ten. -/
def shortest (significand : Nat) (exponent : Int) : Nat × Int :=
  let top := ((significand.log2 : Int) + exponent) * 30103 / 100000 + 2
  let powers := (List.range 24).map fun (i : Nat) => top - i
  let hit := powers.findSome? fun k =>
    ((grid significand exponent k).nearest?).map fun digits => (digits, k)
  hit.getD (significand, exponent)

end BoundedVars.Double

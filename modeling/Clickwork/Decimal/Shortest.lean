import Clickwork.Decimal.Binary

/-!
# The shortest decimal that reads back

A float stands for every real number that rounds to it: an interval around `mantissa · 2 ^
exponent` whose ends belong to it iff the mantissa is even. `shortest` finds the decimal
`digits · 10 ^ place` of that interval with the fewest digits, and of those the nearest to the
float, a tie going to the even digit.

The search goes through the decimal grids from coarse to fine and takes the first one with a point
in the interval. Only the two neighbours of the float on a grid need be tried.
-/

namespace Clickwork.Decimal

/-- **The interval of reals that round to a float**, each given by its multiple of `1 / unit`: the
float is `middle`, the ends are `low` and `high`, and `closed` says whether they belong to it. -/
structure Neighbourhood where
  low : Nat
  middle : Nat
  high : Nat
  unit : Nat
  closed : Bool

namespace Neighbourhood

/-- The neighbourhood of `mantissa · 2 ^ exponent`. Its ends lie half a step away, in quarters of
`2 ^ exponent`; below a power of two the floats lie twice as dense, so there the lower end is
nearer. -/
def around (mantissa : Nat) (exponent : Int) : Neighbourhood :=
  let below := if mantissa = twoTo 52 ∧ -1074 < exponent then 1 else 2
  let factor := if 2 ≤ exponent then twoTo (exponent - 2).toNat else 1
  { low := (4 * mantissa - below) * factor
    middle := 4 * mantissa * factor
    high := (4 * mantissa + 2) * factor
    unit := if 2 ≤ exponent then 1 else twoTo (2 - exponent).toNat
    closed := mantissa % 2 == 0 }

/-- Whether `digits · 10 ^ place` lies in the neighbourhood. -/
def holds (n : Neighbourhood) (digits : Nat) (place : Int) : Bool :=
  let value := digits * n.unit * tenTo place.toNat
  let scale := tenTo (-place).toNat
  if n.closed then n.low * scale ≤ value && value ≤ n.high * scale
  else n.low * scale < value && value < n.high * scale

/-- The greatest grid point `digits · 10 ^ place` that is not above the middle. -/
def floor (n : Neighbourhood) (place : Int) : Nat :=
  n.middle * tenTo (-place).toNat / (n.unit * tenTo place.toNat)

/-- The grid point nearest to the middle among the neighbours that lie in the interval; of two
that are equally near, the even one. -/
def onGrid? (n : Neighbourhood) (place : Int) : Option Nat :=
  let down := n.floor place
  let step := n.unit * tenTo place.toNat
  let rest := n.middle * tenTo (-place).toNat % step
  -- both neighbours can lie in the interval only if it is wider than a step of the grid
  match n.holds down place, n.holds (down + 1) place with
  | true, true =>
    if 2 * rest < step ∨ (2 * rest = step ∧ down % 2 = 0) then some down else some (down + 1)
  | true, false => some down
  | false, true => some (down + 1)
  | false, false => none

/-- The first grid at or below `place` with a point in the interval, among `grids + 1` grids. -/
def search (n : Neighbourhood) (place : Int) : Nat → Nat × Int
  | 0 => (n.floor place, place)
  | grids + 1 =>
    match n.onGrid? place with
    | some digits => (digits, place)
    | none => n.search (place - 1) grids

end Neighbourhood

/-- A place whose grid is coarser than `mantissa · 2 ^ exponent`, and at most two grids away from
the first that is not: three tenths are just below the decimal logarithm of two. -/
def coarsePlace (mantissa : Nat) (exponent : Int) : Int :=
  (Nat.log2 mantissa + 1 + exponent) * 30103 / 100000 + 1

/-- **The shortest decimal** `digits · 10 ^ place` that reads back as `mantissa · 2 ^ exponent`.
Seventeen digits always suffice, so the search never leaves the grids it is given. -/
def shortest (mantissa : Nat) (exponent : Int) : Nat × Int :=
  (Neighbourhood.around mantissa exponent).search (coarsePlace mantissa exponent) 24

end Clickwork.Decimal

import Clickwork.Decimal.Binary

/-!
# Decimal numbers as floats

`nearest` gives the float nearest to a decimal `± digits · 10 ^ place`. Numbers far outside the
range of floats are settled by their order of magnitude alone, which keeps the exact arithmetic
small: they become infinite or zero, with their sign.
-/

namespace Clickwork.Decimal

/-- The positive float nearest to `digits · 10 ^ place`. -/
def nearestPositive (digits : Nat) (place : Int) : Float :=
  let magnitude := (Nat.toDigits 10 digits).length + place
  if digits = 0 ∨ magnitude < -400 then 0.0
  else if 400 < magnitude then 1.0 / 0.0
  else Float.ofScientific digits (place < 0) place.natAbs

/-- **The float nearest to a decimal**; a negative zero keeps its sign. -/
def nearest (negative : Bool) (digits : Nat) (place : Int) : Float :=
  if negative then -nearestPositive digits place else nearestPositive digits place

end Clickwork.Decimal

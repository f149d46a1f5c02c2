/-!
# Floating-point numbers as exact fractions

A finite 64-bit float is `± mantissa · 2 ^ exponent` with a natural `mantissa`. `Parts.ofFloat`
takes a float apart through its bits, so that everything about its decimal text and its integer
part is exact arithmetic on naturals.
-/

namespace Clickwork.Decimal

/-- A power of two. -/
def twoTo (n : Nat) : Nat :=
  Nat.pow 2 n

/-- A power of ten. -/
def tenTo (n : Nat) : Nat :=
  Nat.pow 10 n

/-- **What a float stands for.** -/
inductive Parts where
  | nan
  | infinite (negative : Bool)
  | finite (negative : Bool) (mantissa : Nat) (exponent : Int)
  deriving DecidableEq, Repr

namespace Parts

/-- The parts of the float with the given 64 bits: sign, eleven bits of exponent, 52 of mantissa.
A zero exponent field marks the subnormal numbers, which lack the leading bit. -/
def ofBits (bits : Nat) : Parts :=
  let negative := bits / twoTo 63 % 2 == 1
  let field : Nat := bits / twoTo 52 % twoTo 11
  let fraction : Nat := bits % twoTo 52
  if field = 2047 then if fraction = 0 then infinite negative else nan
  else if field = 0 then finite negative fraction (-1074)
  else finite negative (twoTo 52 + fraction) ((field : Int) - 1075)

/-- The parts of a float. -/
def ofFloat (x : Float) : Parts :=
  ofBits x.toBits.toNat

end Parts

/-- The integer part of `mantissa · 2 ^ exponent`. -/
def integerPart (mantissa : Nat) (exponent : Int) : Nat :=
  if 0 ≤ exponent then mantissa * twoTo exponent.toNat else mantissa / twoTo (-exponent).toNat

/-- Whether the float is zero, of either sign. -/
def isZero (x : Float) : Bool :=
  match Parts.ofFloat x with
  | .finite _ 0 _ => true
  | _ => false

end Clickwork.Decimal

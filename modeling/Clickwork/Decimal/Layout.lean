import Clickwork.Decimal.Shortest

/-!
# Decimal text of a float

How the digits found by `Clickwork.Decimal.shortest` are laid out. A `Layout` records the
decisions: which numbers are written positionally, how wide an exponent is, and what the values
without digits are called. Two layouts are in use: one for JSON texts and one for messages.
-/

namespace Clickwork.Decimal

/-- **The decisions of a decimal format.** -/
structure Layout where
  /-- The least decimal exponent that is written positionally. -/
  positionalFrom : Int := -4
  /-- The least decimal exponent above those that is written with an exponent again. -/
  positionalBelow : Int := 16
  /-- The least number of digits of a written exponent. -/
  exponentWidth : Nat := 2
  /-- What the value that is no number is called. -/
  nan : String
  /-- What positive infinity is called. -/
  infinity : String

/-- The decimal digits of a natural number. -/
def digitsOf (n : Nat) : List Char :=
  Nat.toDigits 10 n

namespace Layout

/-- The digits with a point put after `point` of them, filled with zeros where there are none. -/
def positional (digits : List Char) (point : Int) : List Char :=
  if point ≤ 0 then '0' :: '.' :: List.replicate (-point).toNat '0' ++ digits
  else if digits.length ≤ point.toNat then
    digits ++ List.replicate (point.toNat - digits.length) '0' ++ ['.', '0']
  else digits.take point.toNat ++ '.' :: digits.drop point.toNat

/-- The digits with a point after the first and a written exponent. -/
def scientific (layout : Layout) (digits : List Char) (exponent : Int) : List Char :=
  let point := match digits with
    | first :: rest@(_ :: _) => first :: '.' :: rest
    | _ => digits
  let size := digitsOf exponent.natAbs
  let sign := if exponent < 0 then '-' else '+'
  point ++ 'e' :: sign :: List.replicate (layout.exponentWidth - size.length) '0' ++ size

/-- The text of `mantissa · 2 ^ exponent`. -/
def magnitude (layout : Layout) (mantissa : Nat) (exponent : Int) : List Char :=
  if mantissa = 0 then ['0', '.', '0']
  else
    let (digits, place) := shortest mantissa exponent
    let digits := digitsOf digits
    -- one more than the exponent of the first digit
    let point := digits.length + place
    if layout.positionalFrom < point ∧ point ≤ layout.positionalBelow then positional digits point
    else layout.scientific digits (point - 1)

/-- **The text of a float in a layout.** -/
def text (layout : Layout) (x : Float) : String :=
  match Parts.ofFloat x with
  | .nan => layout.nan
  | .infinite false => layout.infinity
  | .infinite true => "-" ++ layout.infinity
  | .finite negative mantissa exponent =>
    let sign := if negative then ['-'] else []
    String.ofList (sign ++ layout.magnitude mantissa exponent)

end Layout

/-- The layout of messages. -/
def plain : Layout where
  nan := "nan"
  infinity := "inf"

/-- The layout of JSON texts. -/
def json : Layout where
  nan := "NaN"
  infinity := "Infinity"

end Clickwork.Decimal

import Clickwork.Decimal.Layout
import Clickwork.Json.Token
import Clickwork.Text.Integer

/-!
# Limits of a JSON reader

A reader may refuse texts that are too large for it, although nothing is wrong with them: integers
with too many digits, and containers nested too deep. `Limits` says what is too large. A limit that
is not given is none, so `Limits.none` refuses nothing.
-/

namespace Clickwork.Json

/-- **What a reader finds too large.** -/
structure Limits where
  /-- The greatest number of digits of an integer. -/
  digits : Option Nat
  /-- The greatest number of containers that are open at once. -/
  depth : Option Nat
  deriving DecidableEq, Repr

/-- **How a text goes beyond the limits of a reader.** -/
inductive Overrun where
  /-- An integer with this many digits. -/
  | digits (limit count : Nat)
  /-- A container of this kind inside as many others as may be open. -/
  | depth (kind : Kind)
  deriving DecidableEq, Repr

/-- The message of an overrun. -/
def Overrun.message : Overrun → String
  | .digits limit count => Text.tooManyDigits limit count
  | .depth kind =>
    let container := if kind = .arr then "array" else "object"
    s!"maximum recursion depth exceeded while decoding a JSON {container} from a unicode string"

namespace Limits

/-- A reader that refuses nothing for its size. -/
def none : Limits where
  digits := .none
  depth := .none

/-- The limits that hold unless others are asked for. -/
def standard : Limits where
  digits := some Text.maxDigits
  depth := some 990

/-- Whether a count is beyond a limit. -/
def exceeded (limit : Option Nat) (count : Nat) : Bool :=
  limit.any (· < count)

/-- The number of decimal digits of an integer. -/
def digitCount (n : Int) : Nat :=
  (Decimal.digitsOf n.natAbs).length

/-- **How a token goes beyond the limits**, if it does, inside `depth` open containers. -/
def overrun? (limits : Limits) (depth : Nat) : Token → Option Overrun
  | .scalar (.int n) =>
    limits.digits.bind fun limit =>
      if limit < digitCount n then some (.digits limit (digitCount n)) else .none
  | .openArr => if exceeded limits.depth (depth + 1) then some (.depth .arr) else .none
  | .openObj => if exceeded limits.depth (depth + 1) then some (.depth .obj) else .none
  | _ => .none

end Limits

end Clickwork.Json

import Clickwork.Json.Text
import Clickwork.Text.Integer

/-!
# Values that stand for integers

Where an integer is required, an integer is taken as it is, a truth value counts as zero or one, a
float loses its fraction, and a text is read as a numeral. Everything else is refused, with a
`NumeralFault` that says why.
-/

namespace Clickwork

/-- **Why a value stands for no integer.** -/
inductive NumeralFault where
  | notNumeral (text : String)
  /-- A numeral with this many digits, more than are converted. -/
  | tooLong (count : Nat)
  | nan
  | infinite
  | kind (k : Json.Kind)
  deriving DecidableEq, Repr

/-- How much of a quoted text a message shows. -/
def NumeralFault.shownLength : Nat := 200

/-- The message of a fault. A text that is no numeral is shown in quotes, cut after `shownLength`
characters, so the closing quote of a long one is missing. -/
def NumeralFault.message : NumeralFault → String
  | .notNumeral text =>
    let shown := String.ofList ((Text.quoted text).toList.take shownLength)
    s!"invalid literal for int() with base 10: {shown}"
  | .tooLong count => Text.tooManyDigits Text.maxDigits count
  | .nan => "cannot convert float NaN to integer"
  | .infinite => "cannot convert float infinity to integer"
  | .kind k =>
    s!"int() argument must be a string, a bytes-like object or a real number, not '{k.name}'"

namespace Json

/-- **The integer a value stands for.** -/
def toInteger : Json → Except NumeralFault Int
  | .bool b => .ok (if b then 1 else 0)
  | .int n => .ok n
  | .float x =>
    match Decimal.Parts.ofFloat x with
    | .nan => .error .nan
    | .infinite _ => .error .infinite
    | .finite negative mantissa exponent =>
      let n := Decimal.integerPart mantissa exponent
      .ok (if negative then -n else n)
  | .str s =>
    match Text.integer s with
    | .ok n => .ok n
    | .error .malformed => .error (.notNumeral s)
    | .error (.tooLong count) => .error (.tooLong count)
  | v => .error (.kind v.kind)

end Json

end Clickwork

import Clickwork.Text.Blank
import Clickwork.Text.Digit

/-!
# Integer numerals

`integer` reads a decimal numeral: blanks around it, at most one sign, then digits of any script
with single underscores between them. A numeral of more than `maxDigits` digits is not converted,
and this is found out as soon as its digits end, before anything is known about what follows them.
-/

namespace Clickwork.Text

/-- The greatest number of digits of a numeral that is converted. -/
def maxDigits : Nat := 4300

/-- The message about a numeral with more digits than are converted. -/
def tooManyDigits (limit count : Nat) : String :=
  s!"Exceeds the limit ({limit} digits) for integer string conversion: " ++
    s!"value has {count} digits; use sys.set_int_max_str_digits() to increase the limit"

/-- **Why a text denotes no integer.** -/
inductive NumeralFlaw where
  | malformed
  /-- The numeral has this many digits, more than `maxDigits`. -/
  | tooLong (count : Nat)
  deriving DecidableEq, Repr

/-! ### Runs of digits -/

/-- Whether the character is a digit of some script. -/
def isDigit (c : Char) : Bool :=
  (digit? c).isSome

/-- Whether the characters go on a run of digits. An underscore must stand between two digits. -/
def continuesDigits : List Char → Bool
  | [] => true
  -- an underscore at the end, or one after another, reaches the last case and is no digit there
  | '_' :: c :: rest => isDigit c && continuesDigits rest
  | c :: rest => isDigit c && continuesDigits rest

/-- Whether the characters are digits with single underscores between them. -/
def isDigits : List Char → Bool
  | [] => false
  | c :: rest => isDigit c && continuesDigits rest

/-- The number that digits denote. -/
def valueOfDigits (digits : List Nat) : Nat :=
  digits.foldl (fun acc d => acc * 10 + d) 0

/-! ### Numerals -/

/-- An unsigned numeral, with nothing but blanks after it. -/
def natural (cs : List Char) : Except NumeralFlaw Nat :=
  let run := cs.takeWhile fun c => c == '_' || isDigit c
  let digits := run.filterMap digit?
  if !isDigits run then .error .malformed
  else if maxDigits < digits.length then .error (.tooLong digits.length)
  else if (cs.drop run.length).all isBlank then .ok (valueOfDigits digits)
  else .error .malformed

/-- **The integer a text denotes**, if it is a numeral. -/
def integer (s : String) : Except NumeralFlaw Int :=
  match s.toList.dropWhile isBlank with
  | '-' :: cs => (natural cs).map fun n => -Int.ofNat n
  | '+' :: cs => (natural cs).map Int.ofNat
  | cs => (natural cs).map Int.ofNat

end Clickwork.Text

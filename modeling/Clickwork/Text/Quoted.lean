import Clickwork.Text.Hexadecimal
import Clickwork.Text.Printable

/-!
# Quoted text

`quoted` shows a text inside quotes, the way messages name a piece of user input. The quote is the
single one, unless the text holds single quotes and no double one. Inside, a backslash, the quote
in use, a line feed, a carriage return and a tab have two-character escapes, and every other
character that is not printable is written by its code point in two, four or eight hexadecimal
digits.
-/

namespace Clickwork.Text

/-- The quote put around `cs`. -/
def quoteFor (cs : List Char) : Char :=
  if cs.contains '\x27' && !cs.contains '"' then '"' else '\x27'

/-- The written form of one character between two `quote`s. -/
def escapeQuoted (quote c : Char) : List Char :=
  if c = quote ∨ c = '\\' then ['\\', c]
  else if c = '\n' then ['\\', 'n']
  else if c = '\r' then ['\\', 'r']
  else if c = '\t' then ['\\', 't']
  else if isPrintable c then [c]
  else if c.toNat < 0x100 then '\\' :: 'x' :: hexDigits 2 c.toNat
  else if c.toNat < 0x10000 then '\\' :: 'u' :: hexDigits 4 c.toNat
  else '\\' :: 'U' :: hexDigits 8 c.toNat

/-- **A text inside quotes**, with escapes for what may not be shown. -/
def quoted (s : String) : String :=
  let quote := quoteFor s.toList
  String.ofList (quote :: s.toList.flatMap (escapeQuoted quote) ++ [quote])

end Clickwork.Text

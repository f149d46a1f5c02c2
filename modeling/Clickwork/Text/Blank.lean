import Clickwork.Text.Span

/-!
# Blank characters

The characters with the Unicode property White_Space. They may surround a numeral
(`Clickwork.Text.Integer`). The blanks between the tokens of a JSON text are fewer, see
`Clickwork.Json.Token`.
-/

namespace Clickwork.Text

/-- The code points of White_Space. -/
def blanks : List Span :=
  [(0x9, 0xD), (0x20, 0x20), (0x85, 0x85), (0xA0, 0xA0), (0x1680, 0x1680), (0x2000, 0x200A),
   (0x2028, 0x2029), (0x202F, 0x202F), (0x205F, 0x205F), (0x3000, 0x3000)]

/-- Whether `c` is white space. -/
def isBlank (c : Char) : Bool :=
  Span.cover blanks c

end Clickwork.Text

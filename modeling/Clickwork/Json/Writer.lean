import Clickwork.Decimal.Layout
import Clickwork.Json.Basic
import Clickwork.Text.Hexadecimal

/-!
# JSON texts

`Json.write` gives the JSON text of a value in ASCII: fields in their order, a comma and a space
between members, a colon and a space after a name, and every character outside the printable ASCII
range escaped. A character beyond the basic plane is written as the two escapes of its surrogate
pair.
-/

namespace Clickwork.Json

/-! ### Characters -/

/-- The escape of one 16-bit unit. -/
def escapeUnit (n : Nat) : List Char :=
  '\\' :: 'u' :: Text.hexDigits 4 n

/-- **The written form of one character of a string.** -/
def escape (c : Char) : List Char :=
  if c = '"' then ['\\', '"']
  else if c = '\\' then ['\\', '\\']
  else if c = '\n' then ['\\', 'n']
  else if c = '\r' then ['\\', 'r']
  else if c = '\t' then ['\\', 't']
  else if c = '\x0c' then ['\\', 'f']
  else if c = '\x08' then ['\\', 'b']
  else if 0x20 ≤ c.toNat ∧ c.toNat < 0x7F then [c]
  else if c.toNat < 0x10000 then escapeUnit c.toNat
  else
    escapeUnit (0xD800 + (c.toNat - 0x10000) / 0x400) ++
      escapeUnit (0xDC00 + (c.toNat - 0x10000) % 0x400)

/-- A string between its quotes. -/
def writeString (s : String) : List Char :=
  '"' :: s.toList.flatMap escape ++ ['"']

/-! ### Values -/

/-- The digits of an integer with its sign. -/
def writeInt (n : Int) : List Char :=
  if n < 0 then '-' :: Decimal.digitsOf n.natAbs else Decimal.digitsOf n.natAbs

mutual

/-- **The JSON text of a value**, as a list of characters. -/
def write : Json → List Char
  | .null => ['n', 'u', 'l', 'l']
  | .bool true => ['t', 'r', 'u', 'e']
  | .bool false => ['f', 'a', 'l', 's', 'e']
  | .int n => writeInt n
  | .float x => (Decimal.json.text x).toList
  | .str s => writeString s
  | .arr items => '[' :: writeItems items ++ [']']
  | .obj fields => '{' :: writeFields fields ++ ['}']

/-- The items of an array, separated. -/
def writeItems : List Json → List Char
  | [] => []
  | [v] => write v
  | v :: rest => write v ++ ',' :: ' ' :: writeItems rest

/-- The fields of an object, separated. -/
def writeFields : List (String × Json) → List Char
  | [] => []
  | [(name, v)] => writeString name ++ ':' :: ' ' :: write v
  | (name, v) :: rest => writeString name ++ ':' :: ' ' :: write v ++ ',' :: ' ' :: writeFields rest

end

/-- **The JSON text of a value.** -/
def text (v : Json) : String :=
  String.ofList v.write

end Clickwork.Json

import Clickwork.Json.Basic

/-!
# The tokens of a JSON text

A JSON text is first cut into lexemes. A lexeme that can be read is a `Token`; one that cannot is
kept as a `Lexeme.broken` string or as `Lexeme.stray` characters, and ends the list: whether and
how it is reported depends on what stands before it (`Clickwork.Json.Reader`).

A string is cut into pieces first, and `Piece.spell` joins the escapes of surrogate pairs.
-/

namespace Clickwork.Json

/-- A lexical unit of a JSON text. -/
inductive Token where
  | openArr | closeArr | openObj | closeObj | comma | colon
  /-- A value that is no container. -/
  | scalar (v : Json)
  /-- A string, as a value or as the name of a field. -/
  | str (s : String)

/-- What can be wrong in a JSON text. -/
inductive Flaw where
  | byteOrderMark | noValue | noName | noColon | noComma | extra
  | unterminated | control | badEscape | badUnit
  deriving DecidableEq, Repr

/-- The wording of a flaw. -/
def Flaw.wording : Flaw → String
  | .byteOrderMark => "Unexpected UTF-8 BOM (decode using utf-8-sig)"
  | .noValue => "Expecting value"
  | .noName => "Expecting property name enclosed in double quotes"
  | .noColon => "Expecting ':' delimiter"
  | .noComma => "Expecting ',' delimiter"
  | .extra => "Extra data"
  | .unterminated => "Unterminated string starting at"
  | .control => "Invalid control character at"
  | .badEscape => "Invalid \\escape"
  | .badUnit => "Invalid \\uXXXX escape"

/-- **What stands at a place of a text.** -/
inductive Lexeme where
  | token (t : Token)
  /-- A string that cannot be read: its flaw, and how many characters are left from there on. -/
  | broken (flaw : Flaw) (left : Nat)
  /-- A character that begins no token. -/
  | stray

/-! ### Strings -/

/-- A piece of a string: a character as it stands, or one 16-bit unit given by an escape. -/
inductive Piece where
  | char (c : Char)
  | unit (n : Nat)

namespace Piece

/-- The first half of a surrogate pair. -/
def isHigh (n : Nat) : Bool := 0xD800 ≤ n && n < 0xDC00

/-- The second half of a surrogate pair. -/
def isLow (n : Nat) : Bool := 0xDC00 ≤ n && n < 0xE000

/-- The character of a unit on its own. Half a pair stands for no character and is replaced. -/
def single (n : Nat) : Char :=
  if isHigh n || isLow n then '\uFFFD' else Char.ofNat n

/-- The character of a surrogate pair. -/
def pair (high low : Nat) : Char :=
  Char.ofNat (0x10000 + (high - 0xD800) * 0x400 + (low - 0xDC00))

/-- The characters that the pieces spell after a first half `high` that waits for its second. -/
def spellAfter : Option Nat → List Piece → List Char
  | high, [] => (high.map single).toList
  | high, .char c :: rest => (high.map single).toList ++ c :: spellAfter none rest
  | none, .unit n :: rest =>
    if isHigh n then spellAfter (some n) rest else single n :: spellAfter none rest
  | some high, .unit n :: rest =>
    if isLow n then pair high n :: spellAfter none rest
    else if isHigh n then single high :: spellAfter (some n) rest
    else single high :: single n :: spellAfter none rest

/-- **The characters that the pieces spell.** Two adjacent escapes that form a surrogate pair spell
one character. -/
def spell : List Piece → List Char :=
  spellAfter none

end Piece

end Clickwork.Json

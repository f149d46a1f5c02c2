import Clickwork.Decimal.Layout
import Clickwork.Json.Basic
import Clickwork.Text.Quoted

/-!
# Values shown in messages

Two texts of a value for people to read, different from its JSON text (`Clickwork.Json.Writer`):

* `Json.literal` shows a value so that its kind can be told, with texts in quotes;
* `Json.plain` shows a text as it is and any other value by its literal.
-/

namespace Clickwork.Json

/-- Puts `", "` between the parts. -/
def commaSeparated (parts : List String) : String :=
  ", ".intercalate parts

mutual

/-- **A value with its kind visible**: texts are quoted, containers bracketed. -/
def literal : Json → String
  | .null => "None"
  | .bool true => "True"
  | .bool false => "False"
  | .int n => toString n
  | .float x => Decimal.plain.text x
  | .str s => Text.quoted s
  | .arr items => "[" ++ commaSeparated (literalItems items) ++ "]"
  | .obj fields => "\x7b" ++ commaSeparated (literalFields fields) ++ "\x7d"

/-- The literals of the items of an array. -/
def literalItems : List Json → List String
  | [] => []
  | v :: rest => literal v :: literalItems rest

/-- The literals of the fields of an object, each after its quoted name. -/
def literalFields : List (String × Json) → List String
  | [] => []
  | (name, v) :: rest => (Text.quoted name ++ ": " ++ literal v) :: literalFields rest

end

/-- **A value as running text**: a text is shown as it is. -/
def plain : Json → String
  | .str s => s
  | v => v.literal

/-- A field that may be missing or vacant, as running text. -/
def plainOrEmpty (v : Option Json) : String :=
  match v.bind present? with
  | some v => v.plain
  | none => ""

end Clickwork.Json

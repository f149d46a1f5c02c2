import Clickwork.Decimal.Binary
import Clickwork.Registry.Entries

/-!
# JSON values

Property values, message payloads and stored records are JSON values. Integers of any size and
floats are kept apart, since their texts differ, and an object keeps its fields in the order in
which their names first appeared.

* `Json` — the values, with `Json.kind` and the lookup `Json.field?`;
* `Json.isVacant` — the values that count as absent where a field is required;
* `Json.same` — equality of values, by which `==` is meant.
-/

namespace Clickwork

/-- **A JSON value.** -/
inductive Json where
  | null
  | bool (b : Bool)
  | int (n : Int)
  | float (x : Float)
  | str (s : String)
  | arr (items : List Json)
  | obj (fields : List (String × Json))
  deriving Inhabited

namespace Json

/-! ### Kinds -/

/-- The kind of a value, as messages name it. -/
inductive Kind where
  | null | bool | int | float | str | arr | obj
  deriving DecidableEq, Repr

/-- The word for a kind in a message. -/
def Kind.name : Kind → String
  | .null => "NoneType"
  | .bool => "bool"
  | .int => "int"
  | .float => "float"
  | .str => "str"
  | .arr => "list"
  | .obj => "dict"

/-- The kind of a value. -/
def kind : Json → Kind
  | .null => .null
  | .bool _ => .bool
  | .int _ => .int
  | .float _ => .float
  | .str _ => .str
  | .arr _ => .arr
  | .obj _ => .obj

/-- Whether the value counts as absent: nothing, no, zero, or empty. -/
def isVacant : Json → Bool
  | .null => true
  | .bool b => !b
  | .int n => n == 0
  | .float x => Decimal.isZero x
  | .str s => s.isEmpty
  | .arr items => items.isEmpty
  | .obj fields => fields.isEmpty

/-- The value, unless it counts as absent. -/
def present? (v : Json) : Option Json :=
  if v.isVacant then none else some v

/-! ### Equality

Floats are compared by their bits, so a value is always equal to itself. -/

mutual

/-- Whether two values are the same. -/
def same : Json → Json → Bool
  | .null, .null => true
  | .bool a, .bool b => a == b
  | .int a, .int b => a == b
  | .float a, .float b => a.toBits == b.toBits
  | .str a, .str b => a == b
  | .arr a, .arr b => sameItems a b
  | .obj a, .obj b => sameFields a b
  | _, _ => false

/-- Whether two lists hold the same values. -/
def sameItems : List Json → List Json → Bool
  | [], [] => true
  | v :: vs, w :: ws => same v w && sameItems vs ws
  | _, _ => false

/-- Whether two field lists hold the same values under the same names in the same order. -/
def sameFields : List (String × Json) → List (String × Json) → Bool
  | [], [] => true
  | (n, v) :: vs, (m, w) :: ws => n == m && same v w && sameFields vs ws
  | _, _ => false

end

instance : BEq Json := ⟨same⟩

/-! ### Fields -/

/-- The value of a field of an object; other values have no fields. -/
def field? (name : String) : Json → Option Json
  | .obj fields => Entries.find? name fields
  | _ => none

end Json

end Clickwork

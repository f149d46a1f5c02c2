import Clickwork.Failure
import Clickwork.Targets.Rules

/-!
# Target tables

A target table says what every instance of a group is set to when one of them is clicked:
`rows[i][j]` is the value of instance `j` after a click on instance `i`. The clicked instance takes
the primary value, the others what the rules give them.
-/

namespace Clickwork

/-- **What a click on each instance does to all of them.** -/
structure TargetTable where
  property : String
  rows : List (List String)
  deriving DecidableEq, Repr

namespace TargetTable

/-- The element at an index, which counts from the end if it is negative. -/
def at? {α : Type} (xs : List α) (index : Int) : Option α :=
  if 0 ≤ index then xs[index.toNat]?
  else if 0 ≤ xs.length + index then xs[(xs.length + index).toNat]?
  else none

/-- **What a click on an instance does**: index and new value for each instance, the clicked one
first. A negative index names a row from the end and is no index of an instance, so the row's own
entry is then listed twice. -/
def effects (t : TargetTable) (index : Int) : Except Failure (List (Int × String)) :=
  match at? t.rows index with
  | none => .error (.pastTable index)
  | some row =>
    match at? row index with
    | none => .error (.pastTable index)
    | some own =>
      .ok ((index, own) ::
        (row.zipIdx.map fun (value, j) => ((j : Int), value)).filter fun e => e.1 != index)

/-- The row of a click on instance `i` among siblings with the given targets. -/
def row (primary : Setting) (siblings : List String) (i : Nat) : List String :=
  siblings.set i primary.value

/-- **Compiles the table of a group** from the values captured before any change and the values
shown now. -/
def compile (rules : List Rule) (primary : Setting) (captured shown : List String)
    (resetToken : String) : Except Failure TargetTable :=
  if shown.length ≠ captured.length then
    .error (.lengthMismatch shown.length captured.length)
  else
    let siblings := List.zipWith (RuleSet.build rules primary resetToken).target shown captured
    .ok
      { property := primary.property
        rows := (List.range captured.length).map (row primary siblings) }

end TargetTable

end Clickwork

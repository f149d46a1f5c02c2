import Clickwork.Reaction
import Clickwork.Targets.Table

/-!
# Slots and reactions

For each instance of a group there is a slot for the variable that holds its state. A slot may be
without a variable, when none could be created, and its variable may be unbound, when the instance
refused it. The reactions of a group put a target table into effect through the slots that have a
variable.
-/

namespace Clickwork

/-- **The place of an instance's state variable.** -/
inductive Slot where
  | vacant
  | unbound (target : String)
  | bound (target : String)
  deriving DecidableEq, Repr

namespace Slot

/-- The variable of a slot. -/
def target? : Slot → Option String
  | vacant => none
  | unbound target | bound target => some target

/-- Whether the instance shows the variable of its slot. -/
def isBound : Slot → Bool
  | bound _ => true
  | _ => false

end Slot

namespace Reaction

/-- The assignments that put effects into effect: those on a vacant slot are left out. -/
def assignments (slots : List Slot) :
    List (Int × String) → Except Failure (List Assignment)
  | [] => .ok []
  | (j, value) :: rest =>
    match TargetTable.at? slots j with
    | none => .error .pastList
    | some slot => do
      let others ← assignments slots rest
      return ((slot.target?.map fun target => ⟨target, value⟩).toList ++ others)

/-- The reaction of instance `i`. -/
def ofTable (table : TargetTable) (slots : List Slot) (i : Nat) : Except Failure Reaction := do
  let effects ← table.effects i
  return { actions := ← assignments slots effects }

/-- **The reactions of a group**, one for each of its `count` instances. Without a table, or with
nothing but vacant slots, they do nothing. -/
def build (table : Option TargetTable) (slots : Option (List Slot)) (count : Nat) :
    Except Failure (List Reaction) :=
  match table, slots with
  | some table, some slots =>
    if slots.all (· == .vacant) then .ok (List.replicate count {})
    else
      -- the first instance without a row fails, so none after it is looked at
      (List.range (min count (table.rows.length + 1))).mapM (ofTable table slots)
  | _, _ => .ok (List.replicate count {})

end Reaction

end Clickwork

import Clickwork.Group
import Clickwork.Program.Basic
import Clickwork.Text.Case

/-!
# Resolving property names

The user writes property names in any case. `Resolution.property` finds the declared name of the
variant property that is meant, if it applies to the whole group: every variant set among the
instances has to declare it, and an instance of a standalone component rules it out. Instances whose
component is gone have no say.
-/

namespace Clickwork

/-- The first variant property that a set declares under the given name, in whatever case. -/
def VariantSet.declared? (set : VariantSet) (candidate : String) : Option String :=
  (set.definitions.entries.find? fun (name, definition) =>
    definition.isVariant && Text.lower name == Text.lower candidate).map Prod.fst

namespace Resolution

variable {σ : Type}

/-- Goes on with the instances, given the name found so far and the sets that were asked. -/
def propertyAmong (candidate : String) (found : Option String) (asked : List String) :
    List Instance → Program σ (Option String)
  | [] => return found
  | i :: rest => do
    match ← Program.ask (.mainComponent i.id) with
    | none => propertyAmong candidate found asked rest
    | some component =>
      match component.set with
      | none => return none
      | some set =>
        if set.id ∈ asked then propertyAmong candidate found asked rest
        else
          match set.declared? candidate with
          | none => return none
          | some name => propertyAmong candidate (found.or (some name)) (set.id :: asked) rest

/-- **The declared name of a variant property** that applies to all the instances. -/
def property (candidate : String) (instances : List Instance) : Program σ (Option String) :=
  if candidate.isEmpty then return none else propertyAmong candidate none [] instances

end Resolution

end Clickwork

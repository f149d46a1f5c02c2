import Clickwork.Interaction.Basic
import Clickwork.Registry.Basic
import Clickwork.Setting

/-!
# Rules read against a primary setting

Of the rules of an interaction only those take effect whose condition and action speak of the
primary property. `RuleSet.build` indexes their outcomes by the value of the condition, a later rule
in place of an earlier one, and notes the outcome for the primary value itself: it serves every
sibling that no rule speaks of.
-/

namespace Clickwork

/-- **What a rule does to a sibling.** -/
inductive Outcome where
  /-- Gives it its captured value back. -/
  | reset
  /-- Sets it to the value of a setting. -/
  | set (setting : Setting)
  deriving DecidableEq, Repr

namespace Outcome

/-- The value a sibling takes by an outcome, from the value it was captured with. -/
def apply (captured : String) : Outcome → String
  | reset => captured
  | set setting => setting.value

/-- Reads the action of a rule: the reset token, or a setting of the primary property. -/
def parse? (action property resetToken : String) : Option Outcome :=
  if action = resetToken then some reset
  else ((Setting.parse? action).filter (·.concerns property)).map set

end Outcome

namespace Rule

/-- The value that a rule asks for and what it does, if the rule takes effect on the property. -/
def effect? (property resetToken : String) (r : Rule) : Option (String × Outcome) :=
  ((Setting.parse? r.condition).filter (·.concerns property)).bind fun condition =>
    (Outcome.parse? r.action property resetToken).map fun outcome => (condition.value, outcome)

end Rule

/-- **The rules that take effect**, indexed. -/
structure RuleSet where
  /-- The outcome for each value that a rule asks for. -/
  byCondition : Registry String Outcome := ∅
  /-- The outcome for the primary value, for siblings that no rule speaks of. -/
  fallback : Option Outcome := none

namespace RuleSet

/-- Adds a rule, if it takes effect. -/
def add (primary : Setting) (resetToken : String) (rules : RuleSet) (r : Rule) : RuleSet :=
  match r.effect? primary.property resetToken with
  | none => rules
  | some (value, outcome) =>
    { byCondition := rules.byCondition.insert value outcome
      fallback := if value = primary.value then some outcome else rules.fallback }

/-- **Indexes the rules of an interaction.** -/
def build (rules : List Rule) (primary : Setting) (resetToken : String) : RuleSet :=
  rules.foldl (add primary resetToken) {}

/-- **The value a sibling takes**, from the value it shows and the one it was captured with. -/
def target (rules : RuleSet) (shown captured : String) : String :=
  match (rules.byCondition.find? shown).or rules.fallback with
  | some outcome => outcome.apply captured
  | none => captured

end RuleSet

end Clickwork

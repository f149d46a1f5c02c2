import Clickwork.Failure
import Clickwork.Group

/-!
# The context of a session

A session remembers the groups of the last analysis, and the name of what was selected then. Two
rules guard it. Only the analysis that started last may commit its result, which is told by a token;
and at most one interaction is authored at a time.
-/

namespace Clickwork

/-- **What a session knows between two messages.** -/
structure Context where
  groups : List Group := []
  /-- The name of the selected instance, once there was an analysis. -/
  selectedName : Option String := none
  /-- The token of the analysis that started last. -/
  token : Int := 0
  /-- Whether an interaction is being authored. -/
  busy : Bool := false

namespace Context

/-- Starts an analysis. Those that started earlier become stale. -/
def beginAnalysis (c : Context) : Context :=
  { c with token := c.token + 1 }

/-- Whether an analysis is the one that started last. -/
def isCurrent (c : Context) (token : Int) : Bool :=
  token == c.token

/-- **Takes over the result of an analysis**, unless it is stale. -/
def commit (c : Context) (token : Int) (selectedName : String) (groups : List Group) :
    Option Context :=
  if c.isCurrent token then some { c with selectedName := some selectedName, groups } else none

/-- **The group of an id**, the first if there are several. -/
def group (c : Context) (id : String) : Except Failure Group :=
  match c.groups.find? (·.id == id) with
  | some g => .ok g
  | none => .error (.unknownGroup id)

/-- **Takes the authoring guard**, which only one can hold. -/
def acquire (c : Context) : Except Failure Context :=
  if c.busy then .error .busy else .ok { c with busy := true }

/-- Gives the authoring guard back. -/
def release (c : Context) : Context :=
  { c with busy := false }

end Context

end Clickwork

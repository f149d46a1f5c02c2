import Clickwork.Json.Limits

/-!
# Configuration

The names under which a session keeps its things, the size of the panel that shows them, and the
limits of what it reads.
-/

namespace Clickwork

/-- **The configuration of a session.** -/
structure Config where
  /-- The collection that holds all managed variables. -/
  collection : String := "state-machine"
  /-- What the storage keys of interactions begin with. -/
  storagePrefix : String := "interaction_"
  /-- The action of a rule that gives an instance its captured value back. -/
  resetToken : String := "RESET_TO_INITIAL"
  /-- The width and height of the panel. -/
  panelWidth : Int := 800
  panelHeight : Int := 600
  /-- How large a message or record may be to be read. -/
  limits : Json.Limits := .standard
  deriving DecidableEq, Repr, Inhabited

/-- The storage key of a group's interaction. -/
def Config.storageKey (c : Config) (group : String) : String :=
  c.storagePrefix ++ group

end Clickwork

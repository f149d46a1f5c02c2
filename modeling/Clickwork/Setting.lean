import Clickwork.Text.Case

/-!
# Settings

A setting names a property and a value for it. Its text is `property=value`, split at the first
equals sign, so the value may hold further ones (`Setting.parse?_toText`). Property names are
compared without regard to case, values exactly.
-/

namespace Clickwork

/-- **A property with a value for it.** -/
structure Setting where
  property : String
  value : String
  deriving DecidableEq, Repr

namespace Setting

/-- **Reads `property=value`**, split at the first equals sign. A text without one is no setting. -/
def parse? (text : String) : Option Setting :=
  match text.toList.dropWhile (· != '=') with
  | [] => none
  | _ :: value => some ⟨String.ofList (text.toList.takeWhile (· != '=')), String.ofList value⟩

/-- The text of a setting. -/
def toText (s : Setting) : String :=
  s.property ++ "=" ++ s.value

/-- Whether the setting is about the given property, in whatever case it is written. -/
def concerns (s : Setting) (property : String) : Bool :=
  Text.lower s.property == Text.lower property

/-- A setting whose property has no equals sign reads back from its text. -/
theorem parse?_toText (s : Setting) (h : '=' ∉ s.property.toList) :
    parse? s.toText = some s := by
  have hne : ∀ c ∈ s.property.toList, (c != '=') = true := fun c hc => by
    simp only [bne_iff_ne, ne_eq]
    exact fun heq => h (heq ▸ hc)
  have hdrop : s.toText.toList.dropWhile (· != '=') = '=' :: s.value.toList := by
    simp [toText, List.dropWhile_append_of_pos hne]
  have htake : s.toText.toList.takeWhile (· != '=') = s.property.toList := by
    simp [toText, List.takeWhile_append_of_pos hne]
  simp [parse?, hdrop, htake]

end Setting

end Clickwork

/-!
# Spans of code points

Character classes beyond ASCII are given as lists of spans: closed intervals of code points.
-/

namespace Clickwork.Text

/-- A closed interval of code points, first and last. -/
abbrev Span := Nat × Nat

namespace Span

/-- Whether the code point `n` lies in the span. -/
def holds (s : Span) (n : Nat) : Bool :=
  s.1 ≤ n && n ≤ s.2

/-- Whether one of the spans holds the character. -/
def cover (spans : List Span) (c : Char) : Bool :=
  spans.any (·.holds c.toNat)

end Span

end Clickwork.Text

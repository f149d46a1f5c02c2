import Clickwork.Text.Case.Table

/-!
# Lower case

`lower` is the full lower-casing of a text. Almost every character maps on its own; two do not:

* the dotted capital I (U+0130) becomes two characters, `i` and a combining dot above;
* a capital sigma (U+03A3) becomes the final form `ς` at the end of a word and `σ` elsewhere. It
  ends a word when a cased character stands before it and none stands after it, where the
  characters of `ignoredSpans` are passed over on both sides.

Property names are compared through `lower`, see `Clickwork.Setting.concerns`.
-/

namespace Clickwork.Text

/-- The one-character lower-case form of `c`, or `c` itself when it has none. -/
def lowerChar (c : Char) : Char :=
  if c.toNat < 0x80 then c.toLower
  else
    match capitals.find? (·.holds c.toNat) with
    | some run => run.apply c.toNat
    | none => c

/-- Whether the first character that is not passed over is cased. -/
def meetsCased (cs : List Char) : Bool :=
  match cs.dropWhile (Span.cover ignoredSpans) with
  | c :: _ => Span.cover casedSpans c
  | [] => false

/-- Lower-cases `cs`, where `before` holds the characters in front of it, nearest first. -/
def lowerAfter (before : List Char) : List Char → List Char
  | [] => []
  | c :: rest =>
    let lowered :=
      if c = '\u0130' then ['i', '\u0307']
      -- the one character whose form depends on its neighbours
      else if c = '\u03A3' then
        [if meetsCased before && !meetsCased rest then '\u03C2' else '\u03C3']
      else [lowerChar c]
    lowered ++ lowerAfter (c :: before) rest

/-- **The lower-case form of a text.** -/
def lower (s : String) : String :=
  String.ofList (lowerAfter [] s.toList)

end Clickwork.Text

import Clickwork.Decimal.Scan
import Clickwork.Json.Token
import Clickwork.Text.Hexadecimal

/-!
# Scanning tokens

`scan` reads the token at the head of a text. Nothing here counts positions: every function looks
only at the text in front of it, and the place of a flaw is given by the number of characters left
from there to the end.

The grammar is the usual one with `NaN`, `Infinity` and `-Infinity` added, and a number ends where
no further character can belong to it. Each function leaves a rest shorter than what it was given
(`length_scan`), so a text has finitely many tokens.
-/

namespace Clickwork.Json

/-! ### Strings -/

/-- The character that a one-letter escape stands for. -/
def letterEscape? : Char → Option Char
  | '"' => some '"'
  | '\\' => some '\\'
  | '/' => some '/'
  | 'b' => some '\x08'
  | 'f' => some '\x0c'
  | 'n' => some '\n'
  | 'r' => some '\r'
  | 't' => some '\t'
  | _ => none

/-- **Reads a string up to its closing quote**: the pieces, and the text after the quote. A unit
escape needs four hexadecimal digits and a character after them, whichever it is. -/
def scanString : List Char → Except (Flaw × Option Nat) (List Piece × List Char)
  | [] => .error (.unterminated, none)
  | '"' :: rest => .ok ([], rest)
  -- a backslash at the end of the text leaves the string open
  | ['\\'] => .error (.unterminated, none)
  | '\\' :: 'u' :: rest =>
    match rest with
    | a :: b :: c :: d :: more =>
      if more.isEmpty then .error (.badUnit, some (rest.length + 1))
      else
        match Text.hexValue4? a b c d with
        | some n => (scanString more).map fun (pieces, after) => (.unit n :: pieces, after)
        | none => .error (.badUnit, some (rest.length + 1))
    | _ => .error (.badUnit, some (rest.length + 1))
  | '\\' :: c :: rest =>
    match letterEscape? c with
    | some d => (scanString rest).map fun (pieces, after) => (.char d :: pieces, after)
    | none => .error (.badEscape, some (rest.length + 2))
  | c :: rest =>
    if c.toNat < 0x20 then .error (.control, some (rest.length + 1))
    else (scanString rest).map fun (pieces, after) => (.char c :: pieces, after)

theorem scanned_of_map {r : Except (Flaw × Option Nat) (List Piece × List Char)} {piece : Piece}
    {pieces : List Piece} {rest : List Char}
    (h : r.map (fun (pieces, after) => (piece :: pieces, after)) = .ok (pieces, rest)) :
    ∃ others, r = .ok (others, rest) := by
  cases r with
  | error e => simp [Except.map] at h
  | ok r =>
    simp only [Except.map, Except.ok.injEq, Prod.mk.injEq] at h
    exact ⟨r.1, by rw [← h.2]⟩

/-- A string takes up at least its closing quote. -/
theorem length_scanString {cs rest : List Char} {pieces : List Piece}
    (h : scanString cs = .ok (pieces, rest)) : rest.length < cs.length := by
  fun_induction scanString cs generalizing pieces with
  | case1 | case3 | case4 | case6 | case7 | case9 | case10 => simp at h
  | case2 => simp_all
  | case5 | case8 | case11 =>
    rename_i ih
    obtain ⟨_, hr⟩ := scanned_of_map h
    have := ih hr
    simp only [List.length_cons]
    omega

/-! ### Numbers -/

/-- The digits of a number. -/
def isDigit (c : Char) : Bool :=
  '0' ≤ c && c ≤ '9'

/-- The natural number that ASCII digits denote. -/
def natOf (digits : List Char) : Nat :=
  digits.foldl (fun acc c => acc * 10 + (c.toNat - 0x30)) 0

/-- Splits off the leading digits. -/
def splitDigits (cs : List Char) : List Char × List Char :=
  (cs.takeWhile isDigit, cs.dropWhile isDigit)

/-- The digits before the point: a zero alone, or digits that do not begin with one. -/
def scanWhole : List Char → Option (List Char × List Char)
  | [] => none
  | c :: rest =>
    if c = '0' then some (['0'], rest)
    else if isDigit c then some (splitDigits (c :: rest))
    else none

/-- The digits after a point, if a point and a digit come next. -/
def scanFraction : List Char → Option (List Char × List Char)
  | '.' :: rest =>
    match splitDigits rest with
    | ([], _) => none
    | digits => some digits
  | _ => none

/-- Splits off a sign; the flag says whether it is a minus. -/
def splitSign : List Char → Bool × List Char
  | '-' :: rest => (true, rest)
  | '+' :: rest => (false, rest)
  | cs => (false, cs)

/-- A signed natural number. -/
def signed (negative : Bool) (n : Nat) : Int :=
  if negative then -n else n

/-- The value of an exponent, if one comes next. -/
def scanExponent : List Char → Option (Int × List Char)
  | [] => none
  | e :: rest =>
    if e = 'e' ∨ e = 'E' then
      match splitDigits (splitSign rest).2 with
      | ([], _) => none
      | (digits, more) => some (signed (splitSign rest).1 (natOf digits), more)
    else none

/-- A number without its sign. With neither fraction nor exponent it is an integer. -/
def scanMagnitude (negative : Bool) (cs : List Char) : Option (Json × List Char) := do
  let (whole, rest) ← scanWhole cs
  match scanFraction rest, scanExponent ((scanFraction rest).elim rest Prod.snd) with
  | none, none =>
    return (.int (signed negative (natOf whole)), rest)
  | none, some (exponent, rest) =>
    return (.float (Decimal.nearest negative (natOf whole) exponent), rest)
  | some (fraction, rest), none =>
    return (.float (Decimal.nearest negative (natOf (whole ++ fraction)) (-fraction.length)), rest)
  | some (fraction, _), some (exponent, rest) =>
    return (.float (Decimal.nearest negative (natOf (whole ++ fraction))
      (exponent - fraction.length)), rest)

theorem length_splitDigits (cs : List Char) : (splitDigits cs).2.length ≤ cs.length :=
  (List.dropWhile_sublist isDigit).length_le

theorem length_scanWhole {cs rest digits : List Char} (h : scanWhole cs = some (digits, rest)) :
    rest.length < cs.length := by
  cases cs with
  | nil => simp [scanWhole] at h
  | cons c more =>
    simp only [scanWhole] at h
    split at h
    · simp_all
    · split at h
      · rename_i hd
        simp only [Option.some.injEq] at h
        have hrest : rest = more.dropWhile isDigit := by
          simpa [splitDigits, hd] using (congrArg Prod.snd h).symm
        rw [hrest, List.length_cons]
        exact Nat.lt_succ_of_le (List.dropWhile_sublist isDigit).length_le
      · simp at h

theorem length_scanFraction {cs rest digits : List Char}
    (h : scanFraction cs = some (digits, rest)) : rest.length ≤ cs.length := by
  unfold scanFraction at h
  split at h
  · rename_i more
    have hle := length_splitDigits more
    split at h
    · simp at h
    · simp only [Option.some.injEq] at h
      rw [h] at hle
      exact Nat.le_succ_of_le hle
  · simp at h

theorem length_splitSign (cs : List Char) : (splitSign cs).2.length ≤ cs.length := by
  unfold splitSign
  split <;> simp

theorem length_scanExponent {cs rest : List Char} {n : Int}
    (h : scanExponent cs = some (n, rest)) : rest.length ≤ cs.length := by
  unfold scanExponent at h
  split at h
  · simp at h
  · rename_i e more
    have hsign := length_splitSign more
    have hdigits := length_splitDigits (splitSign more).2
    split at h
    · split at h
      · simp at h
      · rename_i heq
        simp only [Option.some.injEq, Prod.mk.injEq] at h
        rw [heq, h.2] at hdigits
        exact Nat.le_succ_of_le (Nat.le_trans hdigits hsign)
    · simp at h

theorem length_scanMagnitude {negative : Bool} {cs rest : List Char} {v : Json}
    (h : scanMagnitude negative cs = some (v, rest)) : rest.length < cs.length := by
  simp only [scanMagnitude, Option.bind_eq_bind, Option.bind_eq_some_iff] at h
  obtain ⟨⟨whole, more⟩, hwhole, h⟩ := h
  have hlt := length_scanWhole hwhole
  split at h
  · simp only [Option.pure_def, Option.some.injEq, Prod.mk.injEq] at h
    rw [← h.2]; exact hlt
  · rename_i hfraction hexponent
    simp only [Option.pure_def, Option.some.injEq, Prod.mk.injEq] at h
    rw [hfraction] at hexponent
    have := length_scanExponent hexponent
    rw [← h.2]; exact Nat.lt_of_le_of_lt this hlt
  · rename_i hfraction _
    simp only [Option.pure_def, Option.some.injEq, Prod.mk.injEq] at h
    have := length_scanFraction hfraction
    rw [← h.2]; exact Nat.lt_of_le_of_lt this hlt
  · rename_i hfraction hexponent
    simp only [Option.pure_def, Option.some.injEq, Prod.mk.injEq] at h
    rw [hfraction] at hexponent
    have hf := length_scanFraction hfraction
    have he := length_scanExponent hexponent
    rw [← h.2]; exact Nat.lt_of_le_of_lt (Nat.le_trans he hf) hlt

/-! ### Tokens -/

/-- The text after a word, if the text begins with it. -/
def dropWord : List Char → List Char → Option (List Char)
  | [], cs => some cs
  | _ :: _, [] => none
  | w :: ws, c :: cs => if w = c then dropWord ws cs else none

/-- The words that are values, and their values. -/
def words : List (List Char × Json) :=
  [("null".toList, .null), ("true".toList, .bool true), ("false".toList, .bool false),
   ("NaN".toList, .float (0.0 / 0.0)), ("Infinity".toList, .float (1.0 / 0.0)),
   ("-Infinity".toList, .float (-1.0 / 0.0))]

/-- A value that is one of `words`. -/
def scanWord (cs : List Char) : Option (Json × List Char) :=
  words.findSome? fun (word, v) => (dropWord word cs).map fun rest => (v, rest)

/-- A value that is a word or a number. -/
def scanScalar (cs : List Char) : Option (Json × List Char) :=
  (scanWord cs).or <|
    match cs with
    | '-' :: rest => scanMagnitude true rest
    | _ => scanMagnitude false cs

/-- The tokens of one character. -/
def punctuation? : Char → Option Token
  | '[' => some .openArr
  | ']' => some .closeArr
  | '{' => some .openObj
  | '}' => some .closeObj
  | ',' => some .comma
  | ':' => some .colon
  | _ => none

/-- **The token at the head of a text** whose first character is `c`, and the text after it. -/
def scan (c : Char) (rest : List Char) : Except Lexeme (Token × List Char) :=
  if c = '"' then
    match scanString rest with
    | .ok (pieces, more) => .ok (.str (String.ofList (Piece.spell pieces)), more)
    -- an open string is reported at its opening quote
    | .error (flaw, left) => .error (.broken flaw (left.getD (rest.length + 1)))
  else
    match punctuation? c with
    | some token => .ok (token, rest)
    | none =>
      match scanScalar (c :: rest) with
      | some (v, more) => .ok (.scalar v, more)
      | none => .error .stray

theorem length_dropWord {word cs rest : List Char} (h : dropWord word cs = some rest) :
    cs.length = word.length + rest.length := by
  induction word generalizing cs with
  | nil => simp_all [dropWord]
  | cons w ws ih =>
    cases cs with
    | nil => simp [dropWord] at h
    | cons c cs =>
      simp only [dropWord] at h
      split at h
      · have := ih h
        simp only [List.length_cons]
        omega
      · simp at h

theorem length_scanWord {cs rest : List Char} {v : Json} (h : scanWord cs = some (v, rest)) :
    rest.length < cs.length := by
  obtain ⟨⟨word, w⟩, hmem, hdrop⟩ := List.exists_of_findSome?_eq_some h
  obtain ⟨more, hmore, heq⟩ := Option.map_eq_some_iff.1 hdrop
  have hlength := length_dropWord hmore
  have hword : ∀ entry ∈ words, 0 < entry.1.length := by
    simp [words]
  have hpos : 0 < word.length := hword _ hmem
  simp only [Prod.mk.injEq] at heq
  rw [← heq.2]
  omega

theorem length_scanScalar {cs rest : List Char} {v : Json} (h : scanScalar cs = some (v, rest)) :
    rest.length < cs.length := by
  rcases Option.or_eq_some_iff.1 h with hword | ⟨_, hnumber⟩
  · exact length_scanWord hword
  · split at hnumber
    · exact Nat.lt_succ_of_lt (length_scanMagnitude hnumber)
    · exact length_scanMagnitude hnumber

/-- A token takes up at least one character. -/
theorem length_scan {c : Char} {rest more : List Char} {token : Token}
    (h : scan c rest = .ok (token, more)) : more.length ≤ rest.length := by
  unfold scan at h
  split at h
  · split at h
    · rename_i hstring
      simp only [Except.ok.injEq, Prod.mk.injEq] at h
      exact h.2 ▸ Nat.le_of_lt (length_scanString hstring)
    · simp at h
  · split at h
    · simp_all
    · split at h
      · rename_i hscalar
        simp only [Except.ok.injEq, Prod.mk.injEq] at h
        exact h.2 ▸ Nat.le_of_lt_succ (length_scanScalar hscalar)
      · simp at h

end Clickwork.Json

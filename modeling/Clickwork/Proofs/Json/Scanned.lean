import Clickwork.Json.Scan
import Clickwork.Json.Writer
import Mathlib.Tactic.SplitIfs

/-!
# Scanning what was written

The scanner finds the strings and numbers that the writer put down, whatever follows a string
(`scan_writeString`), and whatever follows an integer as long as the number does not go on there
(`scan_writeInt`).

A string is scanned character by character: the written form of each is cut into pieces that spell
the character again (`scanString_escape`, `spell_flatMap_piecesOf`).
-/

namespace Clickwork

/-! ### Hexadecimal escapes -/

namespace Text

/-- Four hexadecimal digits are read back. -/
theorem hexValue4?_digits {n : Nat} (hn : n < 0x10000) :
    hexValue4? (hexDigit (n / 16 / 16 / 16 % 16)) (hexDigit (n / 16 / 16 % 16))
      (hexDigit (n / 16 % 16)) (hexDigit (n % 16)) = some n := by
  have h_digit (k : Nat) : hexValue? (hexDigit (k % 16)) = some (k % 16) :=
    hexValue?_hexDigit _ (Nat.mod_lt _ (by decide))
  simp only [hexValue4?, h_digit, Option.bind_eq_bind, Option.bind_some, Option.pure_def,
    Option.some.injEq]
  omega

end Text

namespace Json

/-! ### Strings -/

/-- The two halves of a character beyond the basic plane. -/
def halves (c : Char) : Nat × Nat :=
  (0xD800 + (c.toNat - 0x10000) / 0x400, 0xDC00 + (c.toNat - 0x10000) % 0x400)

/-- **The pieces of the written form of a character.** -/
def piecesOf (c : Char) : List Piece :=
  if 0x20 ≤ c.toNat ∧ c.toNat < 0x7F ∨ c ∈ ['\n', '\r', '\t', '\x0c', '\x08'] then [.char c]
  else if c.toNat < 0x10000 then [.unit c.toNat]
  else [.unit (halves c).1, .unit (halves c).2]

/-- Puts pieces in front of a scanned string. -/
def prepend (pieces : List Piece) :
    List Piece × List Char → List Piece × List Char :=
  fun r => (pieces ++ r.1, r.2)

/-- A unit escape is scanned, unless it ends the text. -/
theorem scanString_escapeUnit {n : Nat} (hn : n < 0x10000) {rest : List Char} (h : rest ≠ []) :
    scanString (escapeUnit n ++ rest) = (scanString rest).map (prepend [.unit n]) := by
  have h_more : rest.isEmpty = false := by simpa using h
  simp only [escapeUnit, Text.hexDigits, List.nil_append, List.cons_append]
  rw [scanString]
  simp only [h_more, Text.hexValue4?_digits hn]
  rfl

/-- A letter escape is scanned. -/
theorem scanString_letter {c d : Char} (hu : c ≠ 'u') (h : letterEscape? c = some d)
    (rest : List Char) :
    scanString ('\\' :: c :: rest) = (scanString rest).map (prepend [.char d]) := by
  rw [scanString]
  · simp only [h]
    rfl
  · exact hu

/-- A character that needs no escape is scanned. -/
theorem scanString_plain {c : Char} (h_quote : c ≠ '"') (h_escape : c ≠ '\\')
    (h_control : 0x20 ≤ c.toNat) (rest : List Char) :
    scanString (c :: rest) = (scanString rest).map (prepend [.char c]) := by
  rw [scanString]
  · rw [if_neg (by omega)]
    rfl
  all_goals intros; simp_all

/-- Characters beyond the basic plane have halves of the two kinds. -/
theorem halves_of_le {c : Char} (h : 0x10000 ≤ c.toNat) :
    0xD800 ≤ (halves c).1 ∧ (halves c).1 < 0xDC00 ∧ 0xDC00 ≤ (halves c).2 ∧
      (halves c).2 < 0xE000 ∧
      0x10000 + ((halves c).1 - 0xD800) * 0x400 + ((halves c).2 - 0xDC00) = c.toNat := by
  have h_bound : c.toNat < 0x110000 := by
    rcases c.valid with h_valid | ⟨-, h_valid⟩
    · exact Nat.lt_trans h_valid (by decide)
    · exact h_valid
  simp only [halves]
  omega

/-- **The written form of a character is cut into its pieces.** -/
theorem scanString_escape (c : Char) {rest : List Char} (h : rest ≠ []) :
    scanString (escape c ++ rest) = (scanString rest).map (prepend (piecesOf c)) := by
  unfold escape
  split_ifs with h1 h2 h3 h4 h5 h6 h7 h8 h9
  · subst h1
    exact scanString_letter (by decide) rfl rest
  · subst h2
    exact scanString_letter (by decide) rfl rest
  · subst h3
    exact scanString_letter (by decide) rfl rest
  · subst h4
    exact scanString_letter (by decide) rfl rest
  · subst h5
    exact scanString_letter (by decide) rfl rest
  · subst h6
    exact scanString_letter (by decide) rfl rest
  · subst h7
    exact scanString_letter (by decide) rfl rest
  · -- a printable character stands for itself
    have h_pieces : piecesOf c = [.char c] := if_pos (.inl h8)
    rw [h_pieces]
    exact scanString_plain h1 h2 h8.1 rest
  · have h_pieces : piecesOf c = [.unit c.toNat] := by
      simp only [piecesOf]
      rw [if_neg (by simp_all), if_pos h9]
    rw [h_pieces]
    exact scanString_escapeUnit h9 h
  · -- beyond the basic plane there are two escapes, one for each half
    have h_pieces : piecesOf c = [.unit (halves c).1] ++ [.unit (halves c).2] := by
      simp only [piecesOf]
      rw [if_neg (by simp_all), if_neg h9]
      rfl
    obtain ⟨h_high, h_high', h_low, h_low', -⟩ := halves_of_le (Nat.le_of_not_lt h9)
    rw [h_pieces, List.append_assoc]
    refine (scanString_escapeUnit (by simp only [halves] at h_high'; omega)
      (by simp [escapeUnit])).trans ?_
    rw [scanString_escapeUnit (by simp only [halves] at h_low'; omega) h]
    cases scanString rest <;> rfl

/-- **A written string is scanned** up to its closing quote. -/
theorem scanString_flatMap_escape (cs rest : List Char) :
    scanString (cs.flatMap escape ++ '"' :: rest) = .ok (cs.flatMap piecesOf, rest) := by
  induction cs with
  | nil => rfl
  | cons c cs ih =>
    rw [List.flatMap_cons, List.append_assoc, scanString_escape c (by simp), ih]
    rfl

/-- A unit that is no half of a pair spells its character. -/
theorem Piece.single_toNat (c : Char) : Piece.isHigh c.toNat = false ∧ Piece.single c.toNat = c := by
  have h_valid := c.valid
  have h_high : Piece.isHigh c.toNat = false := by
    simp only [Piece.isHigh, Bool.and_eq_false_iff, decide_eq_false_iff_not]
    rcases h_valid with h | ⟨h, -⟩ <;> simp only [Char.toNat] <;> omega
  have h_low : Piece.isLow c.toNat = false := by
    simp only [Piece.isLow, Bool.and_eq_false_iff, decide_eq_false_iff_not]
    rcases h_valid with h | ⟨h, -⟩ <;> simp only [Char.toNat] <;> omega
  exact ⟨h_high, by simp [Piece.single, h_high, h_low]⟩

/-- **The pieces of a character spell it.** -/
theorem spellAfter_piecesOf (c : Char) (rest : List Piece) :
    Piece.spellAfter none (piecesOf c ++ rest) = c :: Piece.spellAfter none rest := by
  unfold piecesOf
  split_ifs with h_char h_basic
  · rfl
  · obtain ⟨h_high, h_single⟩ := Piece.single_toNat c
    simp [Piece.spellAfter, h_high, h_single]
  · obtain ⟨h_high, h_high', h_low, h_low', h_pair⟩ := halves_of_le (Nat.le_of_not_lt h_basic)
    have h_first : Piece.isHigh (halves c).1 = true := by simp [Piece.isHigh, h_high, h_high']
    have h_second : Piece.isLow (halves c).2 = true := by simp [Piece.isLow, h_low, h_low']
    simp only [List.cons_append, List.nil_append, Piece.spellAfter, h_first, h_second, if_true,
      Piece.pair, h_pair, Char.ofNat_toNat]

theorem spell_flatMap_piecesOf (cs : List Char) : Piece.spell (cs.flatMap piecesOf) = cs := by
  induction cs with
  | nil => rfl
  | cons c cs ih =>
    rw [List.flatMap_cons, Piece.spell, spellAfter_piecesOf]
    exact congrArg (c :: ·) ih

/-- **A written string is the token of the string.** -/
theorem scan_writeString (s : String) (rest : List Char) :
    scan '"' (s.toList.flatMap escape ++ '"' :: rest) = .ok (.str s, rest) := by
  simp only [scan, if_true, scanString_flatMap_escape, spell_flatMap_piecesOf, String.ofList_toList]

/-! ### Integers -/

/-- A number cannot go on with the next character, if there is one. -/
def Delimits (rest : List Char) : Prop :=
  ∀ c ∈ rest.head?, c = ',' ∨ c = ']' ∨ c = '}'

theorem delimits_nil : Delimits [] := by
  simp [Delimits]

/-- The characters of a number are digits. -/
theorem isDigit_of_mem_digitsOf {n : Nat} {c : Char} (hc : c ∈ Decimal.digitsOf n) :
    isDigit c = true := by
  have h_digit := Nat.isDigit_of_mem_toDigits (by decide) (by decide) hc
  simpa [isDigit, Char.isDigit, Char.le_def] using h_digit

/-- The digits of a number denote it. -/
theorem natOf_digitsOf (n : Nat) : natOf (Decimal.digitsOf n) = n := by
  have h := Nat.ofDigitChars_ten_toDigits (n := n)
  rw [Nat.ofDigitChars_eq_foldl] at h
  simpa [natOf, Decimal.digitsOf, Nat.mul_comm] using h

/-- The digits of a number begin with a zero only if it is zero. -/
theorem digitsOf_eq_cons (n : Nat) :
    n = 0 ∧ Decimal.digitsOf n = ['0'] ∨
      ∃ c rest, Decimal.digitsOf n = c :: rest ∧ c ≠ '0' ∧ isDigit c = true := by
  induction n using Nat.strongRecOn with
  | ind n ih =>
    -- the digits of a tenth stand in front of the last digit
    rcases Nat.eq_zero_or_pos n with rfl | h_pos
    · exact .inl ⟨rfl, Nat.toDigits_zero 10⟩
    · refine .inr ?_
      have h_mem (c : Char) (rest : List Char) (h : Decimal.digitsOf n = c :: rest) :
          isDigit c = true :=
        isDigit_of_mem_digitsOf (n := n) (by rw [h]; exact List.mem_cons_self)
      by_cases h_small : n < 10
      · have h_digits : Decimal.digitsOf n = [n.digitChar] := Nat.toDigits_of_lt_base h_small
        refine ⟨_, _, h_digits, ?_, h_mem _ _ h_digits⟩
        rw [Ne, Nat.digitChar_eq_zero]
        omega
      · have h_digits : Decimal.digitsOf n = Decimal.digitsOf (n / 10) ++ [(n % 10).digitChar] :=
          Nat.toDigits_of_base_le (by decide) (by omega)
        obtain ⟨h_zero, -⟩ | ⟨c, rest, h_rest, h_ne, -⟩ := ih (n / 10) (by omega)
        · omega
        · have h_cons : Decimal.digitsOf n = c :: (rest ++ [(n % 10).digitChar]) := by
            rw [h_digits, h_rest]
            rfl
          exact ⟨c, _, h_cons, h_ne, h_mem _ _ h_cons⟩

/-- Digits are split off up to a delimiter. -/
theorem splitDigits_append {digits rest : List Char} (h_digits : ∀ c ∈ digits, isDigit c = true)
    (h : Delimits rest) : splitDigits (digits ++ rest) = (digits, rest) := by
  have h_rest : rest.takeWhile isDigit = [] ∧ rest.dropWhile isDigit = rest := by
    cases rest with
    | nil => exact ⟨rfl, rfl⟩
    | cons c rest =>
      have h_stop : isDigit c = false := by
        rcases h c rfl with rfl | rfl | rfl <;> decide
      simp [h_stop]
  rw [splitDigits, List.takeWhile_append_of_pos h_digits, List.dropWhile_append_of_pos h_digits,
    h_rest.1, h_rest.2, List.append_nil]

/-- **The digits of a number are scanned** up to a delimiter. -/
theorem scanMagnitude_digitsOf (negative : Bool) (n : Nat) {rest : List Char} (h : Delimits rest) :
    scanMagnitude negative (Decimal.digitsOf n ++ rest) =
      some (.int (signed negative n), rest) := by
  have h_whole : scanWhole (Decimal.digitsOf n ++ rest) = some (Decimal.digitsOf n, rest) := by
    obtain ⟨rfl, h_digits⟩ | ⟨c, more, h_digits, h_ne, h_digit⟩ := digitsOf_eq_cons n
    · rw [h_digits]
      rfl
    · have h_split := splitDigits_append (fun c hc => isDigit_of_mem_digitsOf (n := n) hc) h
      rw [h_digits, List.cons_append] at h_split ⊢
      rw [scanWhole, if_neg h_ne, if_pos h_digit, h_split]
  have h_fraction : scanFraction rest = none := by
    cases rest with
    | nil => rfl
    | cons c rest => rcases h c rfl with rfl | rfl | rfl <;> rfl
  have h_exponent : scanExponent rest = none := by
    cases rest with
    | nil => rfl
    | cons c rest => rcases h c rfl with rfl | rfl | rfl <;> rfl
  simp [scanMagnitude, h_whole, h_fraction, h_exponent, natOf_digitsOf]

/-- A digit begins none of the words. -/
theorem scanWord_of_isDigit {c : Char} (h : isDigit c = true) (rest : List Char) :
    scanWord (c :: rest) = none := by
  have h_ne (d : Char) (hd : isDigit d = false) : d ≠ c := by
    rintro rfl
    simp [h] at hd
  simp [scanWord, words, dropWord, h_ne 'n' (by decide), h_ne 't' (by decide), h_ne 'f' (by decide),
    h_ne 'N' (by decide), h_ne 'I' (by decide), h_ne '-' (by decide)]

/-- A minus before a digit begins none of the words. -/
theorem scanWord_minus {c : Char} (h : isDigit c = true) (rest : List Char) :
    scanWord ('-' :: c :: rest) = none := by
  have h_ne : 'I' ≠ c := by
    rintro rfl
    simp [isDigit] at h
  simp [scanWord, words, dropWord, h_ne]

/-- **A written integer is the token of the integer**, up to a delimiter. -/
theorem scan_writeInt (n : Int) {rest : List Char} (h : Delimits rest) :
    ∃ c more, writeInt n ++ rest = c :: more ∧ (c = '-' ∨ isDigit c = true) ∧
      scan c more = .ok (.scalar (.int n), rest) := by
  have h_first : ∃ c more, Decimal.digitsOf n.natAbs = c :: more ∧ isDigit c = true := by
    obtain ⟨-, h_digits⟩ | ⟨c, more, h_digits, -, h_digit⟩ := digitsOf_eq_cons n.natAbs
    · exact ⟨_, _, h_digits, by decide⟩
    · exact ⟨c, more, h_digits, h_digit⟩
  obtain ⟨c, more, h_digits, h_digit⟩ := h_first
  -- the token begins with a sign or a digit, which is neither a quote nor punctuation nor a word
  by_cases h_negative : n < 0
  · have h_magnitude := scanMagnitude_digitsOf true n.natAbs h
    refine ⟨'-', Decimal.digitsOf n.natAbs ++ rest, by simp [writeInt, h_negative], .inl rfl, ?_⟩
    rw [h_digits, List.cons_append] at h_magnitude ⊢
    have h_value : signed true n.natAbs = n := by
      simp only [signed, if_true]
      omega
    have h_punctuation : punctuation? '-' = none := rfl
    simp only [scan, h_punctuation, scanScalar, scanWord_minus h_digit, h_magnitude, h_value,
      Option.none_or, Char.reduceEq, if_false]
  · have h_magnitude := scanMagnitude_digitsOf false n.natAbs h
    refine ⟨c, more ++ rest, by simp [writeInt, h_negative, h_digits], .inr h_digit, ?_⟩
    rw [h_digits, List.cons_append] at h_magnitude
    have h_value : signed false n.natAbs = n := by
      simp only [signed, Bool.false_eq_true, if_false]
      omega
    have h_ne (d : Char) (hd : isDigit d = false) : c ≠ d := by
      rintro rfl
      simp [h_digit] at hd
    have h_punctuation : punctuation? c = none := by
      unfold punctuation?
      split <;> first | rfl | exact absurd h_digit (by decide)
    have h_scalar : scanScalar (c :: (more ++ rest)) = some (.int n, rest) := by
      rw [scanScalar, scanWord_of_isDigit h_digit, Option.none_or, h_magnitude, h_value]
      rintro rest' h_cons
      exact h_ne '-' (by decide) (List.cons.inj h_cons).1
    simp only [scan, if_neg (h_ne '"' (by decide)), h_punctuation, h_scalar]

end Json

end Clickwork

import Clickwork.Json.Limits
import Clickwork.Json.Scan

/-!
# Reading JSON texts

`Json.read` reads a JSON text. A machine with a stack of open containers takes one token at a time
(`State.step?`); its state says what may come next. When the next lexeme does not fit, the state
also decides which flaw is reported and where (`State.flawAt`): a string that cannot be read is
reported for what is wrong inside it only where a string was allowed.

A token that fits may still be too large for the reader (`Limits.overrun?`). So a text is refused
for one of two reasons, a `Fault` or an `Overrun`, whichever is met first. A `Fault` gives a flaw
with its place, counted in characters from the start of the text and in lines and columns.
-/

namespace Clickwork.Json

/-! ### The lexemes of a text -/

/-- The blanks between tokens. -/
def isSeparator (c : Char) : Bool :=
  c == ' ' || c == '\t' || c == '\n' || c == '\r'

/-- A lexeme with the rest of the text from its first character on. -/
structure Placed where
  rest : List Char
  lexeme : Lexeme

/-- The number of characters left from the first one of a lexeme on. -/
def Placed.left (l : Placed) : Nat :=
  l.rest.length

/-- **The lexemes of a text**, up to the first that is no token. -/
def lexemes (cs : List Char) : List Placed :=
  match _ : cs.dropWhile isSeparator with
  | [] => []
  | c :: rest =>
    match _ : scan c rest with
    | .ok (token, more) => ⟨c :: rest, .token token⟩ :: lexemes more
    | .error lexeme => [⟨c :: rest, lexeme⟩]
termination_by cs.length
decreasing_by
  have hdrop := (List.dropWhile_sublist isSeparator (l := cs)).length_le
  have hmore := length_scan ‹scan c rest = .ok (token, more)›
  rw [‹cs.dropWhile isSeparator = c :: rest›, List.length_cons] at hdrop
  omega

/-! ### The machine -/

/-- An open container: the part of it that has been read. -/
inductive Frame where
  /-- An array with the items read, last first. -/
  | items (done : List Json)
  /-- An object whose next value goes under `name`. -/
  | fields (done : List (String × Json)) (name : String)

/-- **What may come next.** Each state but the last has the open containers, innermost first. -/
inductive State where
  | value (outer : List Frame)
  /-- After `[`: a value or the closing bracket. -/
  | firstItem (outer : List Frame)
  /-- After `{`: a name or the closing brace. -/
  | firstName (outer : List Frame)
  /-- After a comma in an object: the next name. -/
  | nextName (done : List (String × Json)) (outer : List Frame)
  | colon (done : List (String × Json)) (name : String) (outer : List Frame)
  /-- After an item; the items are last first. -/
  | afterItem (done : List Json) (outer : List Frame)
  | afterField (done : List (String × Json)) (outer : List Frame)
  | finished (v : Json)

namespace State

/-- The state after a complete value. A repeated name of an object keeps its first place and takes
the last value. -/
def complete (v : Json) : List Frame → State
  | [] => finished v
  | .items done :: outer => afterItem (v :: done) outer
  | .fields done name :: outer => afterField (Entries.put name v done) outer

/-- The state after the first token of a value. -/
def begin? (outer : List Frame) : Token → Option State
  | .scalar v => some (complete v outer)
  | .str s => some (complete (.str s) outer)
  | .openArr => some (firstItem outer)
  | .openObj => some (firstName outer)
  | _ => none

/-- **Takes one token**, if it fits. -/
def step? : State → Token → Option State
  | value outer, t => begin? outer t
  -- only right after the opening bracket may the closing one take the place of an item
  | firstItem outer, .closeArr => some (complete (.arr []) outer)
  | firstItem outer, t => begin? (.items [] :: outer) t
  | firstName outer, .closeObj => some (complete (.obj []) outer)
  | firstName outer, .str s => some (colon [] s outer)
  | nextName done outer, .str s => some (colon done s outer)
  | colon done name outer, .colon => some (value (.fields done name :: outer))
  | afterItem done outer, .comma => some (value (.items done :: outer))
  | afterItem done outer, .closeArr => some (complete (.arr done.reverse) outer)
  | afterField done outer, .comma => some (nextName done outer)
  | afterField done outer, .closeObj => some (complete (.obj done) outer)
  | _, _ => none

/-- How many containers are open. -/
def depth : State → Nat
  | value outer => outer.length
  | firstItem outer | firstName outer | nextName _ outer | colon _ _ outer | afterItem _ outer
  | afterField _ outer => outer.length + 1
  | finished _ => 0

/-- What is reported when nothing that fits comes next. -/
def flaw : State → Flaw
  | value _ | firstItem _ => .noValue
  | firstName _ | nextName .. => .noName
  | colon .. => .noColon
  | afterItem .. | afterField .. => .noComma
  | finished _ => .extra

/-- Whether a string may come next. -/
def allowsString : State → Bool
  | value _ | firstItem _ | firstName _ | nextName .. => true
  | _ => false

/-- The flaw of a lexeme that does not fit, and the characters left from its place on. -/
def flawAt (s : State) (l : Placed) : Flaw × Nat :=
  match l.lexeme with
  | .broken flaw left => if s.allowsString then (flaw, left) else (s.flaw, l.left)
  | _ => (s.flaw, l.left)

end State

/-- **Why the machine does not go on.** -/
inductive Halt where
  /-- A flaw, and the characters left from its place on. -/
  | flaw (flaw : Flaw) (left : Nat)
  | overrun (o : Overrun)
  deriving DecidableEq, Repr

namespace State

/-- Halts at a lexeme that does not fit. -/
def halt (s : State) (l : Placed) : Halt :=
  .flaw (s.flawAt l).1 (s.flawAt l).2

/-- Takes all lexemes. At the end of the text a value must be complete. -/
def run (limits : Limits) (s : State) : List Placed → Except Halt Json
  | [] =>
    match s with
    | finished v => .ok v
    | _ => .error (.flaw s.flaw 0)
  | l :: rest =>
    match l.lexeme with
    | .token t =>
      match s.step? t with
      | some next =>
        -- only a token that fits is looked at for its size
        match limits.overrun? s.depth t with
        | some o => .error (.overrun o)
        | none => next.run limits rest
      | none => .error (s.halt l)
    | _ => .error (s.halt l)

end State

/-! ### Faults -/

/-- **A flaw of a text with its place**: the offset counts the characters before it, and the column
counts from one after the last line feed before it. -/
structure Fault where
  flaw : Flaw
  line : Nat
  column : Nat
  offset : Nat
  deriving DecidableEq, Repr

namespace Fault

/-- The fault at an offset of a text. -/
def locate (flaw : Flaw) (cs : List Char) (offset : Nat) : Fault :=
  let before := cs.take offset
  { flaw, offset
    line := before.count '\n' + 1
    column := (before.reverse.takeWhile (· != '\n')).length + 1 }

/-- The message of a fault. -/
def message (f : Fault) : String :=
  s!"{f.flaw.wording}: line {f.line} column {f.column} (char {f.offset})"

end Fault

/-- **Why a text is refused.** -/
inductive Refusal where
  | flawed (fault : Fault)
  | overrun (o : Overrun)
  deriving DecidableEq, Repr

/-- The refusal of a text at which the machine halts. -/
def Refusal.ofHalt (cs : List Char) : Halt → Refusal
  | .flaw flaw left => .flawed (.locate flaw cs (cs.length - left))
  | .overrun o => .overrun o

/-- **Reads a JSON text** within limits. A byte order mark in front is not accepted. -/
def read (limits : Limits) (text : String) : Except Refusal Json :=
  let cs := text.toList
  match cs with
  | '\uFEFF' :: _ => .error (.flawed (.locate .byteOrderMark cs 0))
  | _ => ((State.value []).run limits (lexemes cs)).mapError (Refusal.ofHalt cs)

end Clickwork.Json

import Clickwork.Json.Reader
import Clickwork.Proofs.Json.Scanned
import Clickwork.Proofs.Registry

/-!
# Reading what was written

A value without floats that a reader could have returned is read back from its text
(`Json.read_text`). What a reader returns has objects with distinct names and keeps within the
reader's limits (`Json.sound_of_read`), so these are the only conditions.

Both are shown for the machine that takes one token at a time. Writing and taking the tokens of a
value leads from a state in which a value may begin to the state after the value
(`State.run_write`); and each token keeps the parts that have been read sound (`State.Sound.step`).
-/

namespace Clickwork.Json

/-! ### Properties of all parts -/

mutual

/-- **Every part of a value has a property**, which may depend on the number of containers around
the part. -/
def Every (p : Nat → Json → Prop) (depth : Nat) : Json → Prop
  | .arr items => p depth (.arr items) ∧ EveryItem p (depth + 1) items
  | .obj fields => p depth (.obj fields) ∧ EveryField p (depth + 1) fields
  | v => p depth v

/-- Every part of the items has the property. -/
def EveryItem (p : Nat → Json → Prop) (depth : Nat) : List Json → Prop
  | [] => True
  | v :: rest => Every p depth v ∧ EveryItem p depth rest

/-- Every part of the values of fields has the property. -/
def EveryField (p : Nat → Json → Prop) (depth : Nat) : List (String × Json) → Prop
  | [] => True
  | (_, v) :: rest => Every p depth v ∧ EveryField p depth rest

end

section Parts

variable {p q : Nat → Json → Prop} {depth : Nat}

/-- A part is one of its parts. -/
theorem Every.self {v : Json} (h : v.Every p depth) : p depth v := by
  cases v with
  | arr items => exact h.1
  | obj fields => exact h.1
  | null | bool | int | float | str => exact h

mutual

theorem Every.and : ∀ {v : Json} {depth : Nat}, v.Every p depth → v.Every q depth →
    v.Every (fun d w => p d w ∧ q d w) depth
  | .arr _, _, hp, hq => ⟨⟨hp.1, hq.1⟩, EveryItem.and hp.2 hq.2⟩
  | .obj _, _, hp, hq => ⟨⟨hp.1, hq.1⟩, EveryField.and hp.2 hq.2⟩
  | .null, _, hp, hq | .bool _, _, hp, hq | .int _, _, hp, hq | .float _, _, hp, hq
  | .str _, _, hp, hq => ⟨hp, hq⟩

theorem EveryItem.and : ∀ {items : List Json} {depth : Nat}, EveryItem p depth items →
    EveryItem q depth items → EveryItem (fun d w => p d w ∧ q d w) depth items
  | [], _, _, _ => trivial
  | _ :: _, _, hp, hq => ⟨hp.1.and hq.1, EveryItem.and hp.2 hq.2⟩

theorem EveryField.and : ∀ {fields : List (String × Json)} {depth : Nat},
    EveryField p depth fields → EveryField q depth fields →
      EveryField (fun d w => p d w ∧ q d w) depth fields
  | [], _, _, _ => trivial
  | _ :: _, _, hp, hq => ⟨hp.1.and hq.1, EveryField.and hp.2 hq.2⟩

end

theorem everyItem_iff {items : List Json} :
    EveryItem p depth items ↔ ∀ v ∈ items, v.Every p depth := by
  induction items with
  | nil => simp [EveryItem]
  | cons v rest ih => simp [EveryItem, ih]

theorem everyField_iff {fields : List (String × Json)} :
    EveryField p depth fields ↔ ∀ e ∈ fields, e.2.Every p depth := by
  induction fields with
  | nil => simp [EveryField]
  | cons e rest ih => simp [EveryField, ih]

/-- The value of a field is a part. -/
theorem Every.field? {v w : Json} {name : String} (h : v.Every p depth)
    (hw : v.field? name = some w) : w.Every p (depth + 1) := by
  cases v with
  | obj fields => exact everyField_iff.mp h.2 _ (Entries.mem_of_find? hw)
  | null | bool | int | float | str | arr => cases hw

end Parts

/-! ### Values that can be read back -/

/-- **A value without floats**, whose texts need not be exact. -/
def FloatFree (v : Json) : Prop :=
  v.Every (fun _ w => w.kind ≠ .float) 0

/-- The fields of an object have distinct names. -/
def DistinctNames : Json → Prop
  | .obj fields => (fields.map Prod.fst).Nodup
  | _ => True

namespace Limits

/-- There is room for one more container inside `depth` of them. -/
def HasRoom (limits : Limits) (depth : Nat) : Prop :=
  exceeded limits.depth (depth + 1) = false

/-- The number has no more digits than are read. -/
def TakesInteger (limits : Limits) (n : Int) : Prop :=
  exceeded limits.digits (digitCount n) = false

/-- A part of a value keeps within the limits. -/
def Admits (limits : Limits) (depth : Nat) : Json → Prop
  | .int n => limits.TakesInteger n
  | .arr _ | .obj _ => limits.HasRoom depth
  | _ => True

end Limits

/-- **A value that a reader can return**, inside `depth` containers: the names in its objects are
distinct, and it keeps within the limits. -/
def SoundAt (limits : Limits) (depth : Nat) (v : Json) : Prop :=
  v.Every (fun d w => w.DistinctNames ∧ limits.Admits d w) depth

/-- **A value that a reader can return.** -/
abbrev Sound (limits : Limits) (v : Json) : Prop :=
  v.SoundAt limits 0

/-! ### One token -/

/-- A blank before a token is passed over. -/
theorem lexemes_space (rest : List Char) : lexemes (' ' :: rest) = lexemes rest := by
  rw [lexemes, lexemes]
  rfl

theorem lexemes_nil : lexemes [] = [] := by
  rw [lexemes]
  rfl

/-- The first token of a text. -/
theorem lexemes_cons {c : Char} {rest more : List Char} {t : Token} (h_sep : isSeparator c = false)
    (h_scan : scan c rest = .ok (t, more)) :
    lexemes (c :: rest) = ⟨c :: rest, .token t⟩ :: lexemes more := by
  have h_drop : (c :: rest).dropWhile isSeparator = c :: rest := by simp [h_sep]
  rw [lexemes]
  split
  · rename_i h_nil
    simp [h_drop] at h_nil
  · rename_i c' rest' h_cons
    rw [h_drop] at h_cons
    obtain ⟨rfl, rfl⟩ := List.cons.inj h_cons
    split
    · rename_i h_scan'
      cases h_scan.symm.trans h_scan'
      rfl
    · rename_i h_scan'
      cases h_scan.symm.trans h_scan'

namespace State

variable {limits : Limits} {outer : List Frame} {s next : State}

/-- **A token that fits is taken.** -/
theorem run_token {c : Char} {rest more : List Char} {t : Token} (h_sep : isSeparator c = false)
    (h_scan : scan c rest = .ok (t, more)) (h_step : s.step? t = some next)
    (h_limits : limits.overrun? s.depth t = none) :
    s.run limits (lexemes (c :: rest)) = next.run limits (lexemes more) := by
  rw [lexemes_cons h_sep h_scan, run]
  simp only [h_step, h_limits]

/-- A token of one character that fits is taken. -/
theorem run_punctuation {c : Char} {t : Token} (rest : List Char) (h_quote : c ≠ '"')
    (h_sep : isSeparator c = false) (h_token : punctuation? c = some t)
    (h_step : s.step? t = some next) (h_limits : limits.overrun? s.depth t = none) :
    s.run limits (lexemes (c :: rest)) = next.run limits (lexemes rest) := by
  have h_scan : scan c rest = .ok (t, rest) := by
    simp only [scan, if_neg h_quote, h_token]
  exact run_token h_sep h_scan h_step h_limits

/-- A string that fits is taken. -/
theorem run_string (text : String) (rest : List Char) (h_step : s.step? (.str text) = some next) :
    s.run limits (lexemes (writeString text ++ rest)) = next.run limits (lexemes rest) := by
  have h_eq : writeString text ++ rest = '"' :: (text.toList.flatMap escape ++ '"' :: rest) := by
    simp [writeString]
  rw [h_eq]
  exact run_token rfl (scan_writeString text rest) h_step rfl

/-! ### Where a value may begin -/

/-- **A value may begin**, inside the given containers. -/
inductive Opens : State → List Frame → Prop where
  | value (outer : List Frame) : Opens (.value outer) outer
  | first (outer : List Frame) : Opens (.firstItem outer) (.items [] :: outer)

theorem Opens.step? (h : Opens s outer) {t : Token} (h_begin : begin? outer t = some next) :
    s.step? t = some next := by
  cases h with
  | value => exact h_begin
  | first =>
    cases t with
    | closeArr => cases h_begin
    | openArr | openObj | closeObj | comma | colon | scalar | str => exact h_begin

theorem Opens.depth (h : Opens s outer) : s.depth = outer.length := by
  cases h <;> rfl

/-- **The name of a field may come next**, after the given fields. -/
inductive Awaits : State → List (String × Json) → List Frame → Prop where
  | first (outer : List Frame) : Awaits (.firstName outer) [] outer
  | next (done : List (String × Json)) (outer : List Frame) : Awaits (.nextName done outer) done outer

theorem Awaits.step? {done : List (String × Json)} (h : Awaits s done outer) (name : String) :
    s.step? (.str name) = some (.colon done name outer) := by
  cases h <;> rfl

/-! ### Taking what was written -/

/-- A part that is read back: it is no float, and a reader can return it. -/
def Exact (limits : Limits) (depth : Nat) (v : Json) : Prop :=
  v.kind ≠ .float ∧ v.DistinctNames ∧ limits.Admits depth v

theorem overrun?_openArr {depth : Nat} (h : limits.HasRoom depth) :
    limits.overrun? depth .openArr = none := by
  simp only [Limits.overrun?]
  rw [if_neg (by rw [h]; decide)]

theorem overrun?_openObj {depth : Nat} (h : limits.HasRoom depth) :
    limits.overrun? depth .openObj = none := by
  simp only [Limits.overrun?]
  rw [if_neg (by rw [h]; decide)]

theorem overrun?_int {n : Int} (h : limits.TakesInteger n) (depth : Nat) :
    limits.overrun? depth (.scalar (.int n)) = none := by
  simp only [Limits.TakesInteger, Limits.exceeded] at h
  cases h_digits : limits.digits with
  | none => simp [Limits.overrun?, h_digits]
  | some limit =>
    rw [h_digits] at h
    simp only [Option.any_some, decide_eq_false_iff_not] at h
    simp [Limits.overrun?, h_digits, h]

/-- A word is scanned, whatever follows. -/
theorem scan_word (rest : List Char) :
    scan 'n' ('u' :: 'l' :: 'l' :: rest) = .ok (.scalar .null, rest) ∧
      scan 't' ('r' :: 'u' :: 'e' :: rest) = .ok (.scalar (.bool true), rest) ∧
      scan 'f' ('a' :: 'l' :: 's' :: 'e' :: rest) = .ok (.scalar (.bool false), rest) := by
  refine ⟨?_, ?_, ?_⟩ <;> simp [scan, punctuation?, scanScalar, scanWord, words, dropWord]

theorem not_mem_of_nodup {e : String × Json} {es done : List (String × Json)}
    (h : ((done ++ e :: es).map Prod.fst).Nodup) : e.1 ∉ done.map Prod.fst := by
  rw [List.map_append, List.map_cons, List.nodup_append] at h
  exact fun h_mem => h.2.2 _ h_mem _ List.mem_cons_self rfl

/-- A field with a new name comes last. -/
theorem put_of_not_mem {name : String} {done : List (String × Json)}
    (h : name ∉ done.map Prod.fst) (v : Json) :
    Entries.put name v done = done ++ [(name, v)] := by
  induction done with
  | nil => rfl
  | cons e rest ih =>
    obtain ⟨h_ne, h_rest⟩ := not_or.mp (fun h_or => h (List.mem_cons.mpr h_or))
    simp only [Entries.put, if_neg (Ne.symm h_ne), ih h_rest, List.cons_append]

mutual

/-- **A written value is taken**: the machine comes to the state after the value, as long as the
text after it does not belong to it. -/
theorem run_write : ∀ (v : Json) (outer : List Frame) {s : State} {rest : List Char},
    v.Every (Exact limits) outer.length → Delimits rest → Opens s outer →
    s.run limits (lexemes (v.write ++ rest)) = (complete v outer).run limits (lexemes rest)
  | .null, _, _, rest, _, _, h_opens =>
    run_token rfl (scan_word rest).1 (h_opens.step? rfl) rfl
  | .bool true, _, _, rest, _, _, h_opens =>
    run_token rfl (scan_word rest).2.1 (h_opens.step? rfl) rfl
  | .bool false, _, _, rest, _, _, h_opens =>
    run_token rfl (scan_word rest).2.2 (h_opens.step? rfl) rfl
  | .int n, _, _, _, h, h_rest, h_opens => by
    -- what follows is no digit, so the token ends where the integer does
    obtain ⟨c, more, h_eq, h_first, h_scan⟩ := scan_writeInt n h_rest
    have h_sep : isSeparator c = false := by
      rcases h_first with rfl | h_digit
      · rfl
      · simp only [isSeparator, Bool.or_eq_false_iff, beq_eq_false_iff_ne]
        refine ⟨⟨⟨?_, ?_⟩, ?_⟩, ?_⟩ <;> rintro rfl <;> simp [isDigit] at h_digit
    rw [write, h_eq]
    exact run_token h_sep h_scan (h_opens.step? rfl) (overrun?_int h.self.2.2 _)
  | .float _, _, _, _, h, _, _ => absurd rfl h.self.1
  | .str text, _, _, rest, _, _, h_opens => run_string text rest (h_opens.step? rfl)
  | .arr items, outer, s, rest, h, _, h_opens => by
    have h_room : limits.overrun? s.depth .openArr = none :=
      overrun?_openArr (by rw [h_opens.depth]; exact h.self.2.2)
    have h_eq : (arr items).write ++ rest = '[' :: (writeItems items ++ ']' :: rest) := by
      simp [write]
    -- an empty array is closed where its first item would stand
    rw [h_eq, run_punctuation _ (by decide) rfl rfl (h_opens.step? rfl) h_room]
    cases items with
    | nil => exact run_punctuation rest (by decide) rfl rfl rfl rfl
    | cons v vs => exact run_writeItems (v :: vs) [] (by simp) h.2 (.first outer)
  | .obj fields, outer, s, rest, h, _, h_opens => by
    have h_room : limits.overrun? s.depth .openObj = none :=
      overrun?_openObj (by rw [h_opens.depth]; exact h.self.2.2)
    have h_eq : (obj fields).write ++ rest = '{' :: (writeFields fields ++ '}' :: rest) := by
      simp [write]
    rw [h_eq, run_punctuation _ (by decide) rfl rfl (h_opens.step? rfl) h_room]
    cases fields with
    | nil => exact run_punctuation rest (by decide) rfl rfl rfl rfl
    | cons e es => exact run_writeFields (e :: es) [] (by simp) h.2 h.self.2.1 (.first outer)

/-- **Written items are taken**, up to the closing bracket. -/
theorem run_writeItems : ∀ (items done : List Json) {s : State} {outer : List Frame}
    {rest : List Char}, items ≠ [] → EveryItem (Exact limits) (outer.length + 1) items →
    Opens s (.items done :: outer) →
    s.run limits (lexemes (writeItems items ++ ']' :: rest)) =
      (complete (.arr (done.reverse ++ items)) outer).run limits (lexemes rest)
  | [], _, _, _, _, h_some, _, _ => absurd rfl h_some
  | [v], done, _, outer, rest, _, h, h_opens => by
    rw [writeItems, run_write v (.items done :: outer) h.1 (by simp [Delimits]) h_opens,
      run_punctuation rest (by decide) rfl rfl rfl rfl, List.reverse_cons]
  | v :: w :: vs, done, _, outer, rest, _, h, h_opens => by
    have h_eq : writeItems (v :: w :: vs) ++ ']' :: rest =
        v.write ++ ',' :: ' ' :: (writeItems (w :: vs) ++ ']' :: rest) := by
      simp [writeItems]
    rw [h_eq, run_write v (.items done :: outer) h.1 (by simp [Delimits]) h_opens,
      run_punctuation _ (by decide) rfl rfl rfl rfl, lexemes_space,
      run_writeItems (w :: vs) (v :: done) (by simp) h.2 (.value _), List.reverse_cons, List.append_assoc]
    rfl

/-- **Written fields are taken**, up to the closing bracket. -/
theorem run_writeFields : ∀ (fields done : List (String × Json)) {s : State}
    {outer : List Frame} {rest : List Char}, fields ≠ [] →
    EveryField (Exact limits) (outer.length + 1) fields →
    ((done ++ fields).map Prod.fst).Nodup → Awaits s done outer →
    s.run limits (lexemes (writeFields fields ++ '}' :: rest)) =
      (complete (.obj (done ++ fields)) outer).run limits (lexemes rest)
  | [], _, _, _, _, h_some, _, _, _ => absurd rfl h_some
  | [(name, v)], done, _, outer, rest, _, h, h_nodup, h_awaits => by
    -- no field before has the name, so the field is put behind them
    have h_put : Entries.put name v done = done ++ [(name, v)] :=
      put_of_not_mem (not_mem_of_nodup h_nodup) v
    have h_eq : writeFields [(name, v)] ++ '}' :: rest =
        writeString name ++ ':' :: ' ' :: (v.write ++ '}' :: rest) := by
      simp [writeFields]
    rw [h_eq, run_string name _ (h_awaits.step? name), run_punctuation _ (by decide) rfl rfl rfl rfl,
      lexemes_space, run_write v (.fields done name :: outer) h.1 (by simp [Delimits]) (.value _),
      complete, h_put,
      run_punctuation rest (by decide) rfl rfl rfl rfl]
  | (name, v) :: e :: es, done, _, outer, rest, _, h, h_nodup, h_awaits => by
    have h_put : Entries.put name v done = done ++ [(name, v)] :=
      put_of_not_mem (not_mem_of_nodup h_nodup) v
    have h_eq : writeFields ((name, v) :: e :: es) ++ '}' :: rest =
        writeString name ++ ':' :: ' ' ::
          (v.write ++ ',' :: ' ' :: (writeFields (e :: es) ++ '}' :: rest)) := by
      simp [writeFields]
    rw [h_eq, run_string name _ (h_awaits.step? name), run_punctuation _ (by decide) rfl rfl rfl rfl,
      lexemes_space, run_write v (.fields done name :: outer) h.1 (by simp [Delimits]) (.value _),
      complete, h_put,
      run_punctuation _ (by decide) rfl rfl rfl rfl, lexemes_space,
      run_writeFields (e :: es) (done ++ [(name, v)]) (by simp) h.2 (by simpa using h_nodup)
        (.next _ _)]
    simp

end

end State

/-- The text of a value does not begin with a byte order mark. -/
theorem write_ne_mark (v : Json) (h : v.kind ≠ .float) (rest : List Char) :
    v.write ≠ '\uFEFF' :: rest := by
  cases v with
  | null => simp [write]
  | bool b => cases b <;> simp [write]
  | int n =>
    obtain ⟨c, more, h_eq, h_first, -⟩ := scan_writeInt n delimits_nil
    rw [List.append_nil] at h_eq
    rw [write, h_eq]
    rintro h_cons
    obtain ⟨rfl, -⟩ := List.cons.inj h_cons
    rcases h_first with h_minus | h_digit
    · exact absurd h_minus (by decide)
    · simp [isDigit] at h_digit
  | float => exact absurd rfl h
  | str => simp [write, writeString]
  | arr => simp [write]
  | obj => simp [write]

/-- **What was written is read back**: a value without floats that the reader can return is read
from its text. -/
theorem read_text {limits : Limits} {v : Json} (h_free : v.FloatFree) (h_sound : v.Sound limits) :
    Json.read limits v.text = .ok v := by
  have h_exact : v.Every (State.Exact limits) ([] : List Frame).length := h_free.and h_sound
  have h_run : (State.value []).run limits (lexemes v.write) = .ok v := by
    have h_taken := State.run_write v [] h_exact delimits_nil (.value [])
    rwa [List.append_nil, lexemes_nil] at h_taken
  rw [Json.read, text, String.toList_ofList]
  split
  · rename_i h_mark
    exact absurd h_mark (write_ne_mark v h_free.self _)
  · rw [h_run]
    rfl

/-! ### What is read -/

/-- **A token that is no container.** -/
def Token.Flat (t : Token) : Prop :=
  ∀ v, t = .scalar v → v.kind ≠ .arr ∧ v.kind ≠ .obj

namespace Frame

/-- What has been read of an open container is sound, inside `depth` others. -/
def Sound (limits : Limits) (depth : Nat) : Frame → Prop
  | .items done => limits.HasRoom depth ∧ ∀ v ∈ done, v.SoundAt limits (depth + 1)
  | .fields done _ => limits.HasRoom depth ∧ (done.map Prod.fst).Nodup ∧
      ∀ e ∈ done, e.2.SoundAt limits (depth + 1)

/-- All open containers are sound. -/
def AllSound (limits : Limits) : List Frame → Prop
  | [] => True
  | frame :: outer => frame.Sound limits outer.length ∧ AllSound limits outer

end Frame

namespace State

/-- **What has been read is sound.** -/
def Sound (limits : Limits) : State → Prop
  | .value outer => Frame.AllSound limits outer
  | .firstItem outer | .firstName outer => limits.HasRoom outer.length ∧ Frame.AllSound limits outer
  | .nextName done outer | .afterField done outer =>
    (Frame.fields done "").Sound limits outer.length ∧ Frame.AllSound limits outer
  | .colon done name outer =>
    (Frame.fields done name).Sound limits outer.length ∧ Frame.AllSound limits outer
  | .afterItem done outer =>
    (Frame.items done).Sound limits outer.length ∧ Frame.AllSound limits outer
  | .finished v => v.Sound limits

variable {limits : Limits} {outer : List Frame} {s next : State}

/-- A field that is put among sound ones leaves them sound. -/
theorem sound_put {done : List (String × Json)} {depth : Nat} {name : String} {v : Json}
    (h : (Frame.fields done name).Sound limits depth) (hv : v.SoundAt limits (depth + 1)) :
    (Frame.fields (Entries.put name v done) "").Sound limits depth := by
  obtain ⟨h_room, h_nodup, h_done⟩ := h
  have h_nodup' := Entries.nodup_put (k := name) (v := v) h_nodup
  refine ⟨h_room, h_nodup', fun e he => ?_⟩
  have h_find := Entries.find?_of_mem h_nodup' he
  rw [Entries.find?_put] at h_find
  split at h_find
  · cases h_find
    exact hv
  · exact h_done _ (Entries.mem_of_find? h_find)

/-- **After a sound value everything read is sound.** -/
theorem Sound.complete {v : Json} (hv : v.SoundAt limits outer.length)
    (h_outer : Frame.AllSound limits outer) : (State.complete v outer).Sound limits := by
  cases outer with
  | nil => exact hv
  | cons frame outer =>
    cases frame with
    | items done =>
      obtain ⟨⟨h_room, h_done⟩, h_rest⟩ := h_outer
      refine ⟨⟨h_room, fun w hw => ?_⟩, h_rest⟩
      rcases List.mem_cons.mp hw with rfl | hw
      · exact hv
      · exact h_done w hw
    | fields done name => exact ⟨sound_put h_outer.1 hv, h_outer.2⟩

/-- A token that keeps within the limits, as a value or as the opening of one. -/
theorem admits_of_overrun? {depth : Nat} {t : Token} (h : limits.overrun? depth t = none) :
    (∀ n, t = .scalar (.int n) → limits.TakesInteger n) ∧
      (t = .openArr ∨ t = .openObj → limits.HasRoom depth) := by
  refine ⟨?_, ?_⟩
  · rintro n rfl
    cases h_digits : limits.digits with
    | none => simp [Limits.TakesInteger, Limits.exceeded, h_digits]
    | some limit => simpa [Limits.overrun?, Limits.TakesInteger, Limits.exceeded, h_digits] using h
  · rintro (rfl | rfl) <;> simpa [Limits.overrun?, Limits.HasRoom] using h

/-- The first token of a value keeps everything read sound. -/
theorem Sound.begin? {t : Token} (h_outer : Frame.AllSound limits outer)
    (h_begin : State.begin? outer t = some next) (h_limits : limits.overrun? outer.length t = none)
    (h_flat : t.Flat) : next.Sound limits := by
  obtain ⟨h_integer, h_room⟩ := admits_of_overrun? h_limits
  cases t with
  | scalar v =>
    cases h_begin
    refine Sound.complete ?_ h_outer
    cases v with
    | arr => exact absurd rfl (h_flat _ rfl).1
    | obj => exact absurd rfl (h_flat _ rfl).2
    | int n => exact ⟨trivial, h_integer n rfl⟩
    | null | bool | float | str => exact ⟨trivial, trivial⟩
  | str text =>
    cases h_begin
    exact Sound.complete ⟨trivial, trivial⟩ h_outer
  | openArr =>
    cases h_begin
    exact ⟨h_room (.inl rfl), h_outer⟩
  | openObj =>
    cases h_begin
    exact ⟨h_room (.inr rfl), h_outer⟩
  | closeArr | closeObj | comma | colon => cases h_begin

/-- **Each token keeps everything read sound.** -/
theorem Sound.step {t : Token} (h : s.Sound limits) (h_step : s.step? t = some next)
    (h_limits : limits.overrun? s.depth t = none) (h_flat : t.Flat) : next.Sound limits := by
  unfold step? at h_step
  split at h_step
  · exact Sound.begin? h h_step h_limits h_flat
  · cases h_step
    exact Sound.complete ⟨⟨trivial, h.1⟩, trivial⟩ h.2
  · have h_outer : Frame.AllSound limits (.items [] :: _) := ⟨⟨h.1, by simp⟩, h.2⟩
    exact Sound.begin? h_outer h_step h_limits h_flat
  · cases h_step
    exact Sound.complete ⟨⟨List.nodup_nil, h.1⟩, trivial⟩ h.2
  · cases h_step
    exact ⟨⟨h.1, List.nodup_nil, by simp⟩, h.2⟩
  · cases h_step
    exact h
  · cases h_step
    exact h
  · cases h_step
    exact h
  · cases h_step
    obtain ⟨⟨h_room, h_done⟩, h_outer⟩ := h
    exact Sound.complete ⟨⟨trivial, h_room⟩,
      everyItem_iff.mpr fun v hv => h_done v (List.mem_reverse.mp hv)⟩ h_outer
  · cases h_step
    exact h
  · cases h_step
    obtain ⟨⟨h_room, h_nodup, h_done⟩, h_outer⟩ := h
    exact Sound.complete ⟨⟨h_nodup, h_room⟩, everyField_iff.mpr h_done⟩ h_outer
  · cases h_step

/-- **What is read of sound parts is sound.** -/
theorem Sound.run {ls : List Placed} (h : s.Sound limits)
    (h_flat : ∀ l ∈ ls, ∀ t, l.lexeme = .token t → t.Flat) {v : Json}
    (h_run : s.run limits ls = .ok v) : v.Sound limits := by
  induction ls generalizing s with
  | nil =>
    unfold State.run at h_run
    split at h_run
    · cases h_run
      exact h
    · cases h_run
  | cons l rest ih =>
    unfold State.run at h_run
    split at h_run
    · rename_i t h_token
      split at h_run
      · rename_i next h_step
        split at h_run
        · cases h_run
        · rename_i h_limits
          exact ih (h.step h_step h_limits (h_flat l List.mem_cons_self t h_token))
            (fun l' hl' => h_flat l' (List.mem_cons_of_mem _ hl')) h_run
      · cases h_run
    · cases h_run

end State

/-! ### The tokens of a text -/

theorem scanMagnitude_flat {negative : Bool} {cs more : List Char} {v : Json}
    (h : scanMagnitude negative cs = some (v, more)) : v.kind ≠ .arr ∧ v.kind ≠ .obj := by
  simp only [scanMagnitude, Option.bind_eq_bind, Option.bind_eq_some_iff] at h
  obtain ⟨⟨whole, rest⟩, -, h⟩ := h
  split at h <;> cases h <;> exact ⟨by simp [kind], by simp [kind]⟩

/-- A scanned token is no container. -/
theorem scan_flat {c : Char} {rest more : List Char} {t : Token}
    (h : scan c rest = .ok (t, more)) : t.Flat := by
  rintro v rfl
  unfold scan at h
  split at h
  · split at h <;> cases h
  split at h
  · rename_i h_punctuation
    cases h
    unfold punctuation? at h_punctuation
    split at h_punctuation <;> cases h_punctuation
  split at h
  · rename_i h_scalar
    cases h
    rcases Option.or_eq_some_iff.mp h_scalar with h_word | ⟨-, h_number⟩
    · obtain ⟨⟨word, w⟩, h_mem, h_drop⟩ := List.exists_of_findSome?_eq_some h_word
      obtain ⟨more', -, h_eq⟩ := Option.map_eq_some_iff.mp h_drop
      have h_words : ∀ entry ∈ words, entry.2.kind ≠ .arr ∧ entry.2.kind ≠ .obj := by
        simp [words, kind]
      cases h_eq
      exact h_words _ h_mem
    · split at h_number
      · exact scanMagnitude_flat h_number
      · exact scanMagnitude_flat h_number
  · cases h

theorem lexemes_flat (cs : List Char) :
    ∀ l ∈ lexemes cs, ∀ t, l.lexeme = .token t → t.Flat := by
  fun_induction lexemes cs with
  | case1 => simp
  | case2 cs c rest h_drop t more h_scan ih =>
    rintro l hl t' ht'
    rcases List.mem_cons.mp hl with rfl | hl
    · cases ht'
      exact scan_flat h_scan
    · exact ih l hl t' ht'
  | case3 cs c rest h_drop lexeme h_scan =>
    rintro l hl t ht
    obtain rfl := List.mem_singleton.mp hl
    -- what ends the tokens of a text is none of them
    subst ht
    unfold scan at h_scan
    split at h_scan
    · split at h_scan <;> cases h_scan
    split at h_scan
    · cases h_scan
    split at h_scan <;> cases h_scan

/-- **What is read is sound.** -/
theorem sound_of_read {limits : Limits} {text : String} {v : Json}
    (h : Json.read limits text = .ok v) : v.Sound limits := by
  unfold Json.read at h
  dsimp only at h
  split at h
  · cases h
  · cases h_run : (State.value []).run limits (lexemes text.toList) with
    | error e =>
      rw [h_run] at h
      cases h
    | ok w =>
      rw [h_run] at h
      cases h
      exact State.Sound.run (s := .value []) trivial (lexemes_flat _) h_run

end Clickwork.Json

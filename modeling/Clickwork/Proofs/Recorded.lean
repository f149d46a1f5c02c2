import Clickwork.Proofs.Json.ReadBack
import Clickwork.Proofs.Records
import Mathlib.Algebra.Group.Nat.Defs

/-!
# Interactions that read back

The stored text of an interaction is read back as the interaction (`Records.parse_text`) if it is
storable (`Interaction.Storable`): what must be there is there, and what it carries along for
whoever wrote it can be written and read.

An interaction that was read from a payload is storable if the payload is (`storable_of_ofJson`),
and so are the interactions nested in it, as long as their actions say something
(`Storable.nested`): a nested action may be empty, the primary action of an interaction may not.
-/

namespace Clickwork

/-! ### Depth -/

namespace Json

mutual

/-- A property of all parts does not get lost further out. -/
theorem Every.outward {p q : Nat → Json → Prop} : ∀ {v : Json} {depth depth' : Nat},
    (∀ k w, p (depth + k) w → q (depth' + k) w) → v.Every p depth → v.Every q depth'
  | .arr _, _, _, h_imp, h => ⟨h_imp 0 _ h.1, EveryItem.outward
      (fun k w hw => by rw [Nat.add_assoc] at hw ⊢; exact h_imp (1 + k) w hw) h.2⟩
  | .obj _, _, _, h_imp, h => ⟨h_imp 0 _ h.1, EveryField.outward
      (fun k w hw => by rw [Nat.add_assoc] at hw ⊢; exact h_imp (1 + k) w hw) h.2⟩
  | .null, _, _, h_imp, h | .bool _, _, _, h_imp, h | .int _, _, _, h_imp, h
  | .float _, _, _, h_imp, h | .str _, _, _, h_imp, h => h_imp 0 _ h

theorem EveryItem.outward {p q : Nat → Json → Prop} : ∀ {items : List Json} {depth depth' : Nat},
    (∀ k w, p (depth + k) w → q (depth' + k) w) → EveryItem p depth items →
      EveryItem q depth' items
  | [], _, _, _, _ => trivial
  | _ :: _, _, _, h_imp, h => ⟨h.1.outward h_imp, EveryItem.outward h_imp h.2⟩

theorem EveryField.outward {p q : Nat → Json → Prop} :
    ∀ {fields : List (String × Json)} {depth depth' : Nat},
    (∀ k w, p (depth + k) w → q (depth' + k) w) → EveryField p depth fields →
      EveryField q depth' fields
  | [], _, _, _, _ => trivial
  | _ :: _, _, _, h_imp, h => ⟨h.1.outward h_imp, EveryField.outward h_imp h.2⟩

end

/-- **A value that is read back** inside `depth` containers. -/
def ExactAt (limits : Limits) (depth : Nat) (v : Json) : Prop :=
  v.Every (State.Exact limits) depth

/-- Where there is room inside some containers there is room inside fewer. -/
theorem Limits.HasRoom.outward {limits : Limits} {depth depth' : Nat} (h : limits.HasRoom depth)
    (h_le : depth' ≤ depth) : limits.HasRoom depth' := by
  unfold HasRoom exceeded at *
  cases h_depth : limits.depth with
  | none => rfl
  | some limit =>
    simp only [h_depth, Option.any_some, decide_eq_false_iff_not, Nat.not_lt] at h ⊢
    exact Nat.le_trans (Nat.succ_le_succ h_le) h

theorem Limits.Admits.outward {limits : Limits} {depth depth' : Nat} {v : Json}
    (h : limits.Admits depth v) (h_le : depth' ≤ depth) : limits.Admits depth' v := by
  cases v with
  | int => exact h
  | arr | obj => exact Limits.HasRoom.outward h h_le
  | null | bool | float | str => trivial

/-- A value that a reader can return can be returned further out. -/
theorem SoundAt.outward {limits : Limits} {depth depth' : Nat} {v : Json}
    (h : v.SoundAt limits depth) (h_le : depth' ≤ depth) : v.SoundAt limits depth' :=
  Every.outward (fun _ _ hw => ⟨hw.1, hw.2.outward (Nat.add_le_add_right h_le _)⟩) h

/-- **What a reader can return is read back** if it has no floats. -/
theorem exactAt_of_sound {limits : Limits} {v : Json} (h_free : v.FloatFree)
    (h_sound : v.Sound limits) : v.ExactAt limits 0 :=
  Every.outward (fun _ _ hw => ⟨hw.1, hw.2⟩) (Every.and h_free h_sound)

theorem ExactAt.floatFree {limits : Limits} {v : Json} (h : v.ExactAt limits 0) : v.FloatFree :=
  Every.outward (fun _ _ hw => hw.1) h

theorem ExactAt.sound {limits : Limits} {v : Json} (h : v.ExactAt limits 0) : v.Sound limits :=
  Every.outward (fun _ _ hw => ⟨hw.2.1, hw.2.2⟩) h

/-- A text is read back. -/
theorem exactAt_str (limits : Limits) (depth : Nat) (text : String) :
    (Json.str text).ExactAt limits depth :=
  ⟨nofun, trivial, trivial⟩

/-- The items of a list are read back inside it. -/
theorem ExactAt.item {limits : Limits} {depth : Nat} {items : List Json} {v : Json}
    (h : (Json.arr items).ExactAt limits depth) (hv : v ∈ items) :
    v.ExactAt limits (depth + 1) :=
  everyItem_iff.mp h.2 v hv

/-- The text of a value that is there and no float is not empty. -/
theorem plain_ne_empty {v : Json} (h_free : v.kind ≠ .float) (h_present : v.isVacant = false) :
    v.plain ≠ "" := by
  cases v with
  | null => cases h_present
  | bool b =>
    cases b with
    | false => cases h_present
    | true => decide
  | int n =>
    intro h_empty
    have h_repr : n.repr = "" := h_empty
    rw [Int.repr_eq_if] at h_repr
    split at h_repr
    · have h_length := congrArg String.length h_repr
      simp at h_length
    · have h_list := congrArg String.toList h_repr
      simp [Nat.repr] at h_list
  | float => exact absurd rfl h_free
  | str s =>
    rintro rfl
    cases h_present
  | arr items =>
    intro h_empty
    have h_length := congrArg String.length h_empty
    simp [plain, literal] at h_length
  | obj fields =>
    intro h_empty
    have h_length := congrArg String.length h_empty
    simp [plain, literal] at h_length

@[simp] theorem plainOrEmpty_str (text : String) : plainOrEmpty (some (.str text)) = text := by
  by_cases h_empty : text = "" <;>
    simp [plainOrEmpty, present?, isVacant, plain, h_empty]

theorem present?_str {text : String} (h : text ≠ "") : (Json.str text).present? = some (.str text) := by
  simp [present?, isVacant, h]

end Json

/-! ### Rules and nested actions -/

/-- **A rule that reads back**: its id is not too long, and what it carries along is no `null` and
reads back inside a record. -/
structure Rule.Storable (limits : Json.Limits) (r : Rule) : Prop where
  id : limits.TakesInteger r.id
  target : ∀ t, r.target = some t → t.kind ≠ .null ∧ t.ExactAt limits 3

namespace Rule

variable {limits : Json.Limits} {r : Rule}

/-- **A rule reads back**, unless it carries `null` along. -/
theorem ofJson_toJson (h : ∀ t, r.target = some t → t.kind ≠ .null) :
    Rule.ofJson r.toJson = .ok r := by
  obtain ⟨id, condition, action, target⟩ := r
  cases target with
  | none => simp [toJson, ofJson, Json.field?, Entries.find?, Json.toInteger]
  | some t =>
    have h_null : t ≠ .null := fun h_eq => h t rfl (by rw [h_eq]; rfl)
    simp [toJson, ofJson, Json.field?, Entries.find?, Json.toInteger, h_null]

theorem Storable.exactAt (h : r.Storable limits) (h_room : limits.HasRoom 2) :
    r.toJson.ExactAt limits 2 := by
  obtain ⟨id, condition, action, target⟩ := r
  have h_id : (Json.int id).ExactAt limits 3 := ⟨nofun, trivial, h.id⟩
  cases target with
  | none =>
    exact ⟨⟨nofun, by simp [Json.DistinctNames], h_room⟩, h_id, Json.exactAt_str ..,
      Json.exactAt_str .., trivial⟩
  | some t =>
    exact ⟨⟨nofun, by simp [Json.DistinctNames], h_room⟩, h_id, Json.exactAt_str ..,
      Json.exactAt_str .., (h.target t rfl).2, trivial⟩

end Rule

namespace NestedAction

variable {limits : Json.Limits} {a : NestedAction}

/-- **A nested action reads back** if it has a target. -/
theorem ofJson_toJson (h : a.target ≠ "") : NestedAction.ofJson a.toJson = .ok a := by
  simp [toJson, ofJson, Json.field?, Entries.find?, Json.present?_str h, Json.plain]

theorem exactAt_toJson (a : NestedAction) (h_room : limits.HasRoom 2) :
    a.toJson.ExactAt limits 2 :=
  ⟨⟨nofun, by simp [Json.DistinctNames], h_room⟩, Json.exactAt_str .., Json.exactAt_str .., trivial⟩

end NestedAction

/-! ### Interactions -/

namespace Interaction

variable {limits : Json.Limits} {i : Interaction}

/-- **An interaction that reads back**: it has an id, a group and a primary action, its rules read
back, and its nested actions have targets. -/
structure Storable (limits : Json.Limits) (i : Interaction) : Prop where
  room : limits.HasRoom 2
  id : i.id ≠ ""
  group : i.group ≠ ""
  primaryAction : i.primaryAction ≠ ""
  rules : ∀ r ∈ i.rules, r.Storable limits
  targets : ∀ a ∈ i.nestedActions, a.target ≠ ""

/-- What is written of each element is read back. -/
theorem mapM_map {α β ε : Type} {write : α → β} {read : β → Except ε α} {xs : List α}
    (h : ∀ x ∈ xs, read (write x) = .ok x) : (xs.map write).mapM read = .ok xs := by
  induction xs with
  | nil => rfl
  | cons x xs ih =>
    rw [List.map_cons, List.mapM_cons, h x List.mem_cons_self,
      ih fun y hy => h y (List.mem_cons_of_mem _ hy)]
    rfl

/-- The objects of a written list are its elements. -/
theorem objects_of_field {data : Json} {name : String} {items : List Json}
    (h_field : data.field? name = some (.arr items)) (h_items : ∀ v ∈ items, v.kind = .obj) :
    objects data name = .ok items := by
  have h_filter : items.filter (fun item => item.kind = .obj) = items :=
    List.filter_eq_self.mpr fun v hv => decide_eq_true (h_items v hv)
  cases items with
  | nil => simp [objects, h_field, Json.present?, Json.isVacant]
  | cons v rest => simpa [objects, h_field, Json.present?, Json.isVacant] using h_filter

theorem objects_of_absent {data : Json} {name : String} (h : data.field? name = none) :
    objects data name = .ok [] := by
  simp [objects, h]

theorem required_of_field {data : Json} {name text : String}
    (h_field : data.field? name = some (.str text)) (h_text : text ≠ "") :
    required data name = .ok text := by
  simp [required, h_field, Json.present?_str h_text, Json.plain]

/-- **An interaction is read from its JSON form.** -/
theorem ofJson_toJson (h : i.Storable limits) : ofJson i.toJson = .ok i := by
  have h_rules : (i.rules.map Rule.toJson).mapM Rule.ofJson = .ok i.rules :=
    mapM_map fun r hr => Rule.ofJson_toJson fun t ht => ((h.rules r hr).target t ht).1
  have h_nested : (i.nestedActions.map NestedAction.toJson).mapM NestedAction.ofJson =
      .ok i.nestedActions :=
    mapM_map fun a ha => NestedAction.ofJson_toJson (h.targets a ha)
  have h_id : required i.toJson "id" = .ok i.id := required_of_field rfl h.id
  have h_group : required i.toJson "component" = .ok i.group := required_of_field rfl h.group
  have h_primary : required i.toJson "primaryAction" = .ok i.primaryAction :=
    required_of_field rfl h.primaryAction
  have h_objects : objects i.toJson "conditionalRules" = .ok (i.rules.map Rule.toJson) :=
    objects_of_field rfl (by simp [Rule.toJson, Json.kind])
  have h_actions : objects i.toJson "nestedActions" =
      .ok (i.nestedActions.map NestedAction.toJson) := by
    cases h_empty : i.nestedActions with
    | nil => exact objects_of_absent (by simp [toJson, Json.field?, Entries.find?, h_empty])
    | cons a rest =>
      refine objects_of_field ?_ (by simp [NestedAction.toJson, Json.kind])
      simp [toJson, Json.field?, Entries.find?, h_empty]
  unfold ofJson
  simp only [h_id, h_group, h_primary, h_objects, h_actions, Except.bind, bind, pure, Except.pure]
  rw [h_rules, h_nested]
  rfl

theorem exactAt_toJson (h_room : limits.HasRoom 2) (h_rules : ∀ r ∈ i.rules, r.Storable limits) :
    i.toJson.ExactAt limits 0 := by
  have h_room₁ : limits.HasRoom 1 := h_room.outward (by decide)
  have h_list : (Json.arr (i.rules.map Rule.toJson)).ExactAt limits 1 := by
    refine ⟨⟨nofun, trivial, h_room₁⟩, Json.everyItem_iff.mpr fun v hv => ?_⟩
    obtain ⟨r, hr, rfl⟩ := List.mem_map.mp hv
    exact (h_rules r hr).exactAt h_room
  have h_nested : (Json.arr (i.nestedActions.map NestedAction.toJson)).ExactAt limits 1 := by
    refine ⟨⟨nofun, trivial, h_room₁⟩, Json.everyItem_iff.mpr fun v hv => ?_⟩
    obtain ⟨a, -, rfl⟩ := List.mem_map.mp hv
    exact a.exactAt_toJson h_room
  unfold toJson
  split
  · exact ⟨⟨nofun, by simp [Json.DistinctNames], h_room.outward (by decide)⟩, Json.exactAt_str ..,
      Json.exactAt_str .., Json.exactAt_str .., h_list, trivial⟩
  · exact ⟨⟨nofun, by simp [Json.DistinctNames], h_room.outward (by decide)⟩, Json.exactAt_str ..,
      Json.exactAt_str .., Json.exactAt_str .., h_list, h_nested, trivial⟩

theorem Storable.exactAt (h : i.Storable limits) : i.toJson.ExactAt limits 0 :=
  exactAt_toJson h.room h.rules

end Interaction

namespace Records

variable {limits : Json.Limits} {i : Interaction}

/-- The text of an interaction is read as its JSON form. -/
theorem parse_eq_ofJson (h_exact : i.toJson.ExactAt limits 0) :
    parse limits i.text = Interaction.ofJson i.toJson := by
  rw [parse, Interaction.text, Json.read_text h_exact.floatFree h_exact.sound]

/-- **The stored text of an interaction reads back.** -/
theorem parse_text (h : i.Storable limits) : parse limits i.text = .ok i :=
  (parse_eq_ofJson h.exactAt).trans (Interaction.ofJson_toJson h)

/-- **The text of an interaction without a primary action** is not read. -/
theorem parse_text_of_empty (h_room : limits.HasRoom 2) (h_rules : ∀ r ∈ i.rules, r.Storable limits)
    (h_id : i.id ≠ "") (h_group : i.group ≠ "") (h_empty : i.primaryAction = "") :
    parse limits i.text = .error (.protocol (.missingField "primaryAction")) := by
  have h_read : Interaction.required i.toJson "id" = .ok i.id :=
    Interaction.required_of_field rfl h_id
  have h_read' : Interaction.required i.toJson "component" = .ok i.group :=
    Interaction.required_of_field rfl h_group
  have h_missing : Interaction.required i.toJson "primaryAction" =
      .error (.protocol (.missingField "primaryAction")) := by
    have h_field : i.toJson.field? "primaryAction" = some (.str i.primaryAction) := rfl
    rw [Interaction.required, h_field, h_empty]
    rfl
  rw [parse_eq_ofJson (Interaction.exactAt_toJson h_room h_rules), Interaction.ofJson, h_read,
    h_read', h_missing]
  rfl

end Records

/-- An empty text is no JSON text. -/
theorem Records.parse_empty (limits : Json.Limits) :
    ∃ fault, Records.parse limits "" = .error (.unreadable fault) := by
  simp only [Records.parse, Json.read, String.toList_empty, Json.lexemes_nil]
  exact ⟨_, rfl⟩

/-- An empty text holds no interaction. -/
theorem Records.ne_empty_of_parse {limits : Json.Limits} {text : String} {i : Interaction}
    (h : Records.parse limits text = .ok i) : text ≠ "" := by
  rintro rfl
  obtain ⟨fault, h_error⟩ := Records.parse_empty limits
  cases h_error.symm.trans h

/-! ### What was read from a payload -/

namespace Text

/-- Digits denote a number that has no more digits. -/
theorem valueOfDigits_lt {digits : List Nat} (h : ∀ d ∈ digits, d < 10) :
    valueOfDigits digits < 10 ^ digits.length := by
  have h_from (acc : Nat) : digits.foldl (fun acc d => acc * 10 + d) acc <
      (acc + 1) * 10 ^ digits.length := by
    induction digits generalizing acc with
    | nil => simp
    | cons d digits ih =>
      have h_digit := h d List.mem_cons_self
      calc (d :: digits).foldl (fun acc d => acc * 10 + d) acc
        _ < (acc * 10 + d + 1) * 10 ^ digits.length :=
          ih (fun e he => h e (List.mem_cons_of_mem _ he)) _
        _ ≤ ((acc + 1) * 10) * 10 ^ digits.length := Nat.mul_le_mul_right _ (by omega)
        _ = (acc + 1) * 10 ^ (d :: digits).length := by
          rw [List.length_cons, Nat.pow_succ, Nat.mul_assoc, Nat.mul_comm 10]
  simpa [valueOfDigits] using h_from 0

theorem length_digitsOf_natural {cs : List Char} {n : Nat} (h : natural cs = .ok n) :
    (Decimal.digitsOf n).length ≤ maxDigits := by
  unfold natural at h
  dsimp only at h
  split at h
  · cases h
  · split at h
    · cases h
    · split at h
      · obtain rfl := Except.ok.inj h
        rw [Decimal.digitsOf, Nat.length_toDigits_le_iff (by decide) (by decide)]
        refine Nat.lt_of_lt_of_le (valueOfDigits_lt fun d hd => ?_)
          (Nat.pow_le_pow_right (by decide) (Nat.not_lt.mp ‹_›))
        obtain ⟨c, -, hc⟩ := List.mem_filterMap.mp hd
        exact digit?_lt_ten hc
      · cases h

/-- **A numeral that is converted** denotes a number that is not too long. -/
theorem digitCount_integer {s : String} {n : Int} (h : integer s = .ok n) :
    Json.Limits.digitCount n ≤ maxDigits := by
  have h_map {cs : List Char} {f : Nat → Int} (hf : ∀ n, (f n).natAbs = n)
      (h : (natural cs).map f = .ok n) : Json.Limits.digitCount n ≤ maxDigits := by
    cases h_natural : natural cs with
    | error e => rw [h_natural] at h; cases h
    | ok k =>
      rw [h_natural] at h
      obtain rfl := Except.ok.inj h
      rw [Json.Limits.digitCount, hf]
      exact length_digitsOf_natural h_natural
  unfold integer at h
  split at h
  · exact h_map (fun n => by simp) h
  · exact h_map (fun n => by simp) h
  · exact h_map (fun n => by simp) h

end Text

namespace Json

variable {limits : Limits}

/-- **The limits leave room for a record**, and for the numerals that are converted. -/
structure Limits.Ample (limits : Limits) : Prop where
  room : limits.HasRoom 2
  digits : exceeded limits.digits Text.maxDigits = false

theorem Limits.ample_standard : Limits.standard.Ample :=
  ⟨rfl, rfl⟩

theorem Limits.Ample.takesInteger (h : limits.Ample) {n : Int}
    (h_le : digitCount n ≤ Text.maxDigits) : limits.TakesInteger n := by
  have h_digits := h.digits
  unfold TakesInteger exceeded at *
  cases h_limit : limits.digits with
  | none => rfl
  | some limit =>
    simp only [h_limit, Option.any_some, decide_eq_false_iff_not, Nat.not_lt] at h_digits ⊢
    exact Nat.le_trans h_le h_digits

/-- What a field holds is read back inside the object. -/
theorem ExactAt.present? {depth : Nat} {v w : Json} {name : String} (h : v.ExactAt limits depth)
    (hw : (v.field? name).bind Json.present? = some w) :
    w.ExactAt limits (depth + 1) ∧ w.isVacant = false := by
  obtain ⟨u, hu, h_present⟩ := Option.bind_eq_some_iff.mp hw
  unfold Json.present? at h_present
  split at h_present
  · cases h_present
  · cases h_present
    exact ⟨h.field? hu, Bool.of_not_eq_true ‹_›⟩

end Json

namespace Interaction

variable {limits : Json.Limits} {i : Interaction} {data : Json}

/-- A required text is not empty. -/
theorem required_ne_empty {name text : String} (h_exact : data.ExactAt limits 0)
    (h : required data name = .ok text) : text ≠ "" := by
  unfold required at h
  split at h
  · cases h
  · cases h
    obtain ⟨h_value, h_present⟩ := h_exact.present? ‹_›
    exact Json.plain_ne_empty h_value.self.1 h_present

/-- The objects of a list are read back inside it. -/
theorem exactAt_of_mem_objects {name : String} {items : List Json} {v : Json}
    (h_exact : data.ExactAt limits 0) (h : objects data name = .ok items) (hv : v ∈ items) :
    v.ExactAt limits 2 := by
  unfold objects at h
  split at h
  · cases h
    cases hv
  · cases h
    exact (h_exact.present? ‹_›).1.item (List.mem_of_mem_filter hv)
  · cases h

end Interaction

/-- **A rule that was read is storable.** -/
theorem Rule.storable_of_ofJson {limits : Json.Limits} {r : Rule} {data : Json}
    (h_ample : limits.Ample) (h_exact : data.ExactAt limits 2) (h : Rule.ofJson data = .ok r) :
    r.Storable limits := by
  unfold Rule.ofJson at h
  split at h
  · cases h
  · rename_i id h_id
    cases h
    constructor
    · show limits.TakesInteger id
      -- an id is an integer within the limits, or was converted to one
      cases h_field : data.field? "id" with
      | none =>
        rw [h_field] at h_id
        obtain rfl : 0 = id := Except.ok.inj h_id
        exact h_ample.takesInteger (by decide)
      | some v =>
        have h_value : v.ExactAt limits 3 := h_exact.field? h_field
        rw [h_field] at h_id
        cases v with
        | null | arr | obj => cases h_id
        | float => exact absurd rfl h_value.self.1
        | bool b =>
          obtain rfl := Except.ok.inj h_id
          exact h_ample.takesInteger (by cases b <;> decide)
        | int n =>
          obtain rfl := Except.ok.inj h_id
          exact h_value.self.2.2
        | str text =>
          simp only [Option.getD_some, Json.toInteger] at h_id
          split at h_id
          · obtain rfl := Except.ok.inj h_id
            exact h_ample.takesInteger (Text.digitCount_integer ‹_›)
          · cases h_id
          · cases h_id
    · intro t ht
      simp only at ht
      split at ht
      · cases ht
      · rename_i h_null
        refine ⟨fun h_kind => h_null ?_, h_exact.field? ht⟩
        cases t with
        | null => exact ht
        | bool | int | float | str | arr | obj => cases h_kind

/-- A nested action that was read has a target. -/
theorem NestedAction.target_ne_empty {limits : Json.Limits} {a : NestedAction} {data : Json}
    (h_exact : data.ExactAt limits 2) (h : NestedAction.ofJson data = .ok a) : a.target ≠ "" := by
  have h_field (name : String) {target : Json}
      (h_target : (data.field? name).bind Json.present? = some target) : target.plain ≠ "" :=
    Json.plain_ne_empty (h_exact.present? h_target).1.self.1 (h_exact.present? h_target).2
  unfold NestedAction.ofJson at h
  dsimp only at h
  split at h
  · cases h
  · rename_i target h_target
    cases h
    cases h_first : data.field? "targetGroupId" with
    | none => exact h_field "componentId" (by simpa [h_first] using h_target)
    | some v =>
      exact h_field "targetGroupId" (by simpa [h_first] using h_target)

namespace Interaction

/-- If a sequence comes to something, so do its parts. -/
theorem bind_ok {α β ε : Type} {x : Except ε α} {f : α → Except ε β} {b : β}
    (h : x >>= f = .ok b) : ∃ a, x = .ok a ∧ f a = .ok b := by
  cases x with
  | error e => cases h
  | ok a => exact ⟨a, rfl, h⟩

/-- If a sequence fails, so does one of its parts. -/
theorem bind_error {α β ε : Type} {x : Except ε α} {f : α → Except ε β} {e : ε}
    (h : x >>= f = .error e) : x = .error e ∨ ∃ a, x = .ok a ∧ f a = .error e := by
  cases x with
  | error e' => exact .inl (congrArg _ (Except.error.inj h))
  | ok a => exact .inr ⟨a, rfl, h⟩

/-- **What was read from a payload is there.** -/
theorem of_ofJson {data : Json} {i : Interaction} (h : ofJson data = .ok i) :
    required data "id" = .ok i.id ∧ required data "component" = .ok i.group ∧
      required data "primaryAction" = .ok i.primaryAction ∧
      (∃ rules, objects data "conditionalRules" = .ok rules ∧
        rules.mapM Rule.ofJson = .ok i.rules) ∧
      ∃ actions, objects data "nestedActions" = .ok actions ∧
        actions.mapM NestedAction.ofJson = .ok i.nestedActions := by
  unfold ofJson at h
  dsimp only at h
  split at h
  · obtain ⟨id, h_id, h⟩ := bind_ok h
    obtain ⟨group, h_group, h⟩ := bind_ok h
    obtain ⟨primary, h_primary, h⟩ := bind_ok h
    obtain ⟨rules, h_rules, h⟩ := bind_ok h
    obtain ⟨actions, h_actions, h⟩ := bind_ok h
    obtain ⟨rs, h_read, h⟩ := bind_ok h
    obtain ⟨as, h_read', h⟩ := bind_ok h
    obtain rfl := Except.ok.inj h
    exact ⟨h_id, h_group, h_primary, ⟨rules, h_rules, h_read⟩, actions, h_actions, h_read'⟩
  · cases h

end Interaction

/-- **An interaction that was read from a payload is storable.** -/
theorem Interaction.storable_of_ofJson {limits : Json.Limits} {i : Interaction} {data : Json}
    (h_ample : limits.Ample) (h_exact : data.ExactAt limits 0)
    (h : Interaction.ofJson data = .ok i) : i.Storable limits := by
  obtain ⟨h_id, h_group, h_primary, ⟨rules, h_rules, h_read⟩, actions, h_actions, h_read'⟩ :=
    of_ofJson h
  refine ⟨h_ample.room, required_ne_empty h_exact h_id, required_ne_empty h_exact h_group,
    required_ne_empty h_exact h_primary, fun r hr => ?_, fun a ha => ?_⟩
  · obtain ⟨v, hv, h_rule⟩ := Except.of_mem_mapM h_read r hr
    exact Rule.storable_of_ofJson h_ample (exactAt_of_mem_objects h_exact h_rules hv) h_rule
  · obtain ⟨v, hv, h_action⟩ := Except.of_mem_mapM h_read' a ha
    exact NestedAction.target_ne_empty (exactAt_of_mem_objects h_exact h_actions hv) h_action

/-- **A nested interaction is storable**, if its action says something. -/
theorem Interaction.Storable.nested {limits : Json.Limits} {i : Interaction} {a : NestedAction}
    (h : i.Storable limits) (ha : a ∈ i.nestedActions) (h_action : a.action ≠ "") :
    (i.nested a).Storable limits where
  room := h.room
  id := by
    intro h_empty
    have h_length := congrArg String.length h_empty
    simp [Interaction.nested] at h_length
    exact absurd h_length.1.2 (by decide)
  group := h.targets a ha
  primaryAction := h_action
  rules := nofun
  targets := nofun

/-! ### Looking up -/

/-- **The interaction that is stored for a group.** A text that holds none is passed over, unless it
makes the look-up fail. -/
def Host.recorded (config : Config) (h : Host) (group : String) :
    Except Failure (Option Interaction) :=
  match (h.storage.texts.find? (config.storageKey group)).filter (!·.isEmpty) with
  | none => .ok none
  | some text =>
    match Records.parse config.limits text with
    | .ok i => .ok (some i)
    | .error e => if Records.discards e then .ok none else .error e

theorem Host.recorded_of_absent {config : Config} {h : Host} {group : String}
    (h_none : h.storage.texts.find? (config.storageKey group) = none) :
    h.recorded config group = .ok none := by
  simp [recorded, h_none]

/-- What a stored text reads as is found in the storage. -/
theorem Host.recorded_of_parse {config : Config} {h : Host} {group text : String} {i : Interaction}
    (h_text : h.storage.texts.find? (config.storageKey group) = some text)
    (h_parse : Records.parse config.limits text = .ok i) :
    h.recorded config group = .ok (some i) := by
  have h_there : text.isEmpty = false := Bool.eq_false_iff.mpr fun h_empty =>
    Records.ne_empty_of_parse h_parse (String.isEmpty_iff.mp h_empty)
  simp [recorded, h_text, Option.filter, h_there, h_parse]

/-- A stored text is passed over if nothing can be made of it. -/
theorem Host.recorded_of_discards {config : Config} {h : Host} {group text : String} {e : Failure}
    (h_text : h.storage.texts.find? (config.storageKey group) = some text)
    (h_parse : Records.parse config.limits text = .error e) (h_discards : Records.discards e = true) :
    h.recorded config group = .ok none := by
  simp only [recorded, h_text, Option.filter]
  split
  · rfl
  · rename_i h_some
    split at h_some
    · obtain rfl := Option.some.inj h_some
      simp [h_parse, h_discards]
    · cases h_some

/-- A stored text that is not passed over makes the look-up fail. -/
theorem Host.recorded_of_blocks {config : Config} {h : Host} {group text : String} {e : Failure}
    (h_text : h.storage.texts.find? (config.storageKey group) = some text)
    (h_parse : Records.parse config.limits text = .error e)
    (h_blocks : ¬Records.discards e = true) : h.recorded config group = .error e := by
  have h_there : text.isEmpty = false := by
    refine Bool.eq_false_iff.mpr fun h_empty => h_blocks ?_
    obtain ⟨fault, h_error⟩ := Records.parse_empty config.limits
    rw [String.isEmpty_iff.mp h_empty, h_error] at h_parse
    rw [← Except.error.inj h_parse]
    rfl
  simp [recorded, h_text, Option.filter, h_there, h_parse, h_blocks]

/-- What is found in the storage was read from the text that is stored. -/
theorem Host.stored_of_recorded {config : Config} {h : Host} {group : String} {i : Interaction}
    (h_found : h.recorded config group = .ok (some i)) : ∃ text,
      h.storage.texts.find? (config.storageKey group) = some text ∧
        Records.parse config.limits text = .ok i := by
  unfold recorded at h_found
  split at h_found
  · cases h_found
  · rename_i text h_text
    refine ⟨text, (Option.filter_eq_some_iff.mp h_text).1, ?_⟩
    split at h_found
    · cases h_found
      assumption
    · split at h_found <;> cases h_found

namespace Session

/-- **The interaction on record for a group**: the one in memory, or else the stored one. -/
def recorded (s : Session) (h : Host) (group : String) : Except Failure (Option Interaction) :=
  match s.records.find? group with
  | some i => .ok (some i)
  | none => h.recorded s.config group

/-- **The memory after a look-up**, which has the record that was found. -/
def recalling (s : Session) (h : Host) (group : String) : Session :=
  match s.recorded h group with
  | .ok (some i) => if s.records.contains group then s
    else { s with records := s.records.insert group i }
  | _ => s

variable {s : Session} {h h' : Host} {group : String}

theorem recorded_of_find? {i : Interaction} (hi : s.records.find? group = some i) :
    s.recorded h group = .ok (some i) := by
  rw [recorded, hi]

theorem recorded_of_absent (h_none : s.records.find? group = none) :
    s.recorded h group = h.recorded s.config group := by
  rw [recorded, h_none]

theorem recorded_congr {s' : Session} {h' : Host} (h_config : s'.config = s.config)
    (h_record : s'.records.find? group = s.records.find? group)
    (h_text : h'.storage.texts.find? (s.config.storageKey group) =
      h.storage.texts.find? (s.config.storageKey group)) :
    s'.recorded h' group = s.recorded h group := by
  simp only [recorded, Host.recorded, h_config, h_record, h_text]

theorem config_recalling (s : Session) (h : Host) (group : String) :
    (s.recalling h group).config = s.config := by
  unfold recalling
  split
  · split <;> rfl
  · rfl

theorem context_recalling (s : Session) (h : Host) (group : String) :
    (s.recalling h group).context = s.context := by
  unfold recalling
  split
  · split <;> rfl
  · rfl

/-- **What a look-up adds to the memory** is what it finds in the storage. -/
theorem recalling_cases (s : Session) (h : Host) (group : String) : s.recalling h group = s ∨
    ∃ i, s.records.find? group = none ∧ h.recorded s.config group = .ok (some i) ∧
      s.recalling h group = { s with records := s.records.insert group i } := by
  unfold recalling
  split
  · rename_i i h_found
    split
    · exact .inl rfl
    · rename_i h_absent
      have h_none : s.records.find? group = none := Option.not_isSome_iff_eq_none.mp h_absent
      rw [recorded_of_absent h_none] at h_found
      exact .inr ⟨i, h_none, h_found, rfl⟩
  · exact .inl rfl

/-- What is on record for a group is the same after a look-up. -/
theorem recorded_recalling (s : Session) (h : Host) (group group' : String) :
    (s.recalling h group).recorded h group' = s.recorded h group' := by
  rcases s.recalling_cases h group with h_same | ⟨i, h_absent, h_found, h_memory⟩
  · rw [h_same]
  · rw [h_memory]
    by_cases h_group : group = group'
    · subst h_group
      rw [recorded_of_absent h_absent, h_found]
      exact recorded_of_find? (Registry.find?_insert_self _ _ _)
    · unfold recorded
      rw [Registry.find?_insert_of_ne _ _ h_group]

end Session

namespace Records

open Program (Ends)

variable {s : Session} {h : Host}

/-- The stored text of a group is found. -/
theorem stored?_finds (hs : h.Stores) (group : String) :
    (stored? group).Ends s h fun r s' h' =>
      r = .ok ((h.storage.texts.find? (s.config.storageKey group)).filter (!·.isEmpty)) ∧
        s' = s ∧ h'.scene = h.scene ∧ h'.storage = h.storage := by
  have h_scene := h.scene_perform_of_storage (c := .storageGet (s.config.storageKey group)) rfl
  have h_storage := h.storage_perform_storageGet (s.config.storageKey group)
  rw [stored?]
  refine Ends.bind_eq (Session.outcome_readConfig _ _) ?_
  refine Ends.bind_eq (Program.outcome_tryAsk _ _ _) ?_
  rw [Host.perform_storageGet hs]
  exact ⟨rfl, rfl, h_scene, h_storage⟩

/-- A look-up adds to the memory what it finds. -/
theorem loaded_recalling (s : Session) (h : Host) (group : String) :
    Loaded group h s (s.recalling h group) := by
  rcases s.recalling_cases h group with h_same | ⟨i, h_absent, h_found, h_memory⟩
  · rw [h_same]
    exact .refl _ _ _
  · refine ⟨.inr ⟨h_absent, i, h_memory⟩, fun _ h_none => ?_, fun _ j hj => ?_⟩
    · cases (Host.recorded_of_absent h_none).symm.trans h_found
    · rw [h_memory] at hj
      obtain rfl := Option.some.inj ((Registry.find?_insert_self _ _ _).symm.trans hj)
      exact Host.stored_of_recorded h_found

/-- **What is on record after the record of a group is looked up** was on record before. -/
theorem Loaded.recorded {group group' : String} {h' : Host} {s' : Session}
    (h_loaded : Loaded group h s s') (h_storage : h'.storage = h.storage) {r : Interaction}
    (h_found : s'.recorded h' group' = .ok (some r)) : s.recorded h group' = .ok (some r) := by
  by_cases h_group : group' = group
  · subst h_group
    cases h_record : s.records.find? group' with
    | some i => rwa [Session.recorded_of_find? (h_loaded.find?_kept h_record),
        ← Session.recorded_of_find? (h := h) h_record] at h_found
    | none =>
      rw [Session.recorded_of_absent h_record]
      cases h_record' : s'.records.find? group' with
      | some i =>
        obtain ⟨text, h_text, h_parse⟩ := h_loaded.origin h_record i h_record'
        rw [Session.recorded_of_find? h_record'] at h_found
        rw [Host.recorded_of_parse h_text h_parse, h_found]
      | none =>
        rw [Session.recorded_of_absent h_record', h_loaded.config] at h_found
        unfold Host.recorded at h_found ⊢
        rwa [h_storage] at h_found
  · refine (Session.recorded_congr h_loaded.config ?_ (by rw [h_storage])).symm.trans h_found
    rcases h_loaded.memory with rfl | ⟨-, i, rfl⟩
    · rfl
    · exact Registry.find?_insert_of_ne _ _ (Ne.symm h_group)

/-- **Looking up the record of a group**, on a host whose storage works. -/
theorem get_recalls (hs : h.Stores) (group : String) :
    (get group).Ends s h fun r s' h' => r = s.recorded h group ∧ s' = s.recalling h group ∧
      h'.scene = h.scene ∧ h'.storage = h.storage := by
  rw [get]
  refine Ends.bind_eq (Program.outcome_read _ _) ?_
  rcases h_record : s.records.find? group with _ | record
  swap
  · refine ⟨(Session.recorded_of_find? h_record).symm, ?_, rfl, rfl⟩
    rw [Session.recalling, Session.recorded_of_find? h_record]
    exact (if_pos (by rw [Registry.contains, h_record]; rfl)).symm
  have h_recorded := Session.recorded_of_absent (h := h) h_record
  refine (stored?_finds hs group).bind ?_ fun e s' h' _ h_failed => by cases h_failed.1
  rintro text s' h' - ⟨h_text, rfl, h_scene, h_storage⟩
  rw [Host.recorded, ← Except.ok.inj h_text] at h_recorded
  cases text with
  | none => exact ⟨h_recorded.symm, by rw [Session.recalling, h_recorded]; rfl, h_scene, h_storage⟩
  | some text =>
    refine Ends.bind_eq (Session.outcome_readConfig _ _) ?_
    cases h_parse : parse s'.config.limits text with
    | error e =>
      simp only [h_parse] at h_recorded
      by_cases h_discards : discards e = true
      · simp only [h_discards, if_true] at h_recorded ⊢
        refine Ends.bind_eq (Program.outcome_log _ _ _ _ _) ?_
        exact ⟨h_recorded.symm, by rw [Session.recalling, h_recorded]; rfl, h_scene, h_storage⟩
      · simp only [h_discards] at h_recorded ⊢
        exact ⟨h_recorded.symm, by rw [Session.recalling, h_recorded]; rfl, h_scene, h_storage⟩
    | ok i =>
      simp only [h_parse] at h_recorded
      refine Ends.bind_eq (outcome_keep _ _ _ _) ?_
      refine ⟨h_recorded.symm, ?_, h_scene, h_storage⟩
      rw [Session.recalling, h_recorded]
      exact (if_neg (by rw [Registry.contains, h_record]; exact Bool.false_ne_true)).symm

/-- What was found is told by its id. -/
theorem exists_of_id {r : Except Failure (Option Interaction)} {id : String}
    (h_id : r.toOption.join.map (·.id) = some id) : ∃ i, r = .ok (some i) ∧ i.id = id := by
  obtain ⟨i, h_some, h_same⟩ := Option.map_eq_some_iff.mp h_id
  match r, h_some with
  | .ok (some _), rfl => exact ⟨_, rfl, h_same⟩

/-- **Putting an interaction on record** in place of what is found on record for its group. -/
theorem put_replaces (hr : h.Reliable) (hs : h.Stores) (i : Interaction) :
    (put i).Ends s h fun r s' h' =>
      (∃ e, s.recorded h i.group = .error e ∧ r = .error e ∧ s' = s ∧ h'.scene = h.scene ∧
        h'.storage = h.storage) ∨
      ∃ previous, s.recorded h i.group = .ok previous ∧ r = .ok () ∧
        Replaced (retiring previous i) i (s.recalling h i.group) s' h h' := by
  rw [put_eq]
  refine (get_recalls hs i.group).bind ?_ ?_
  · rintro previous s₁ h₁ h_later ⟨h_found, rfl, h_scene, h_storage⟩
    refine (replace_ends (h_later.reliable hr) previous i).mono ?_
    rintro r s' h' - ⟨h_ok, h_replaced⟩
    refine .inr ⟨previous, h_found.symm, h_ok, h_replaced.memory, h_scene ▸ h_replaced.scene,
      fun hs => h_replaced.stored (h_later.stores hs), fun group h_ne h_kept => ?_,
      fun hs => h_replaced.gone (h_later.stores hs)⟩
    rw [← h_storage]
    exact h_replaced.kept group h_ne h_kept
  · rintro e s₁ h₁ - ⟨h_found, rfl, h_scene, h_storage⟩
    refine .inl ⟨e, h_found.symm, rfl, ?_, h_scene, h_storage⟩
    rw [Session.recalling, ← h_found]

/-! ### Other groups -/

section Other

variable {group : String} {ids : List String} {i : Interaction} {s' : Session} {h' : Host}

/-- **What is on record for another group stays on record** if it belongs to nothing that is
retired. -/
theorem Replaced.recorded_kept (h_replaced : Replaced ids i s s' h h')
    (h_other : group ≠ i.group) (h_kept : ¬Drops ids s group) :
    s'.recorded h' group = s.recorded h group :=
  Session.recorded_congr h_replaced.config (h_replaced.find?_kept h_other h_kept)
    (h_replaced.kept group h_other h_kept)

/-- **Nothing is on record for another group** whose record belongs to something that is retired. -/
theorem Replaced.recorded_gone (h_replaced : Replaced ids i s s' h h') (hs : h.Stores)
    (h_other : group ≠ i.group) (h_drops : Drops ids s group) :
    s'.recorded h' group = .ok none := by
  rw [Session.recorded_of_absent (h_replaced.find?_gone h_other h_drops)]
  refine Host.recorded_of_absent ?_
  rw [h_replaced.config]
  exact h_replaced.gone hs group h_other h_drops

section

variable {q : Interaction} (h_replaced : Replaced ids q s s' h h')
include h_replaced

/-- **What is on record when an interaction was put on record** is that interaction, or was on
record before. -/
theorem Replaced.of_recorded (hs : h.Stores) {r : Interaction}
    (h_found : s'.recorded h' group = .ok (some r)) :
    r = q ∨ s.recorded h group = .ok (some r) := by
  by_cases h_group : group = q.group
  · rw [h_group, Session.recorded_of_find? h_replaced.find?_self] at h_found
    exact .inl (Option.some.inj (Except.ok.inj h_found)).symm
  by_cases h_drops : Drops ids s group
  · rw [h_replaced.recorded_gone hs h_group h_drops] at h_found
    cases h_found
  · exact .inr ((h_replaced.recorded_kept h_group h_drops).symm.trans h_found)

/-- **What is stored then** is the text of that interaction, or was stored before for a group that
nothing was dropped of. -/
theorem Replaced.of_text (hs : h.Stores) {text : String}
    (h_text : h'.storage.texts.find? (s.config.storageKey group) = some text) :
    group = q.group ∧ text = q.text ∨ group ≠ q.group ∧ ¬Drops ids s group ∧
      h.storage.texts.find? (s.config.storageKey group) = some text := by
  by_cases h_group : group = q.group
  · rw [h_group, h_replaced.stored hs] at h_text
    exact .inl ⟨h_group, (Option.some.inj h_text).symm⟩
  by_cases h_drops : Drops ids s group
  · rw [h_replaced.gone hs group h_group h_drops] at h_text
    cases h_text
  · exact .inr ⟨h_group, h_drops, (h_replaced.kept group h_group h_drops).symm.trans h_text⟩

end

end Other

end Records

end Clickwork

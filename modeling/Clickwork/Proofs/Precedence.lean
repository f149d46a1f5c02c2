import Clickwork.Proofs.Targets
import Mathlib.Data.List.TakeWhile

/-!
# Which rule decides

What a target table holds, said of the rules as they are written. A rule takes effect if its
condition sets the primary property to some value and its action is the reset token or sets the
primary property, too (`Rule.Effective`). Of the rules that take effect and ask for a value, the
last one decides (`RuleSet.Decides`). So a sibling takes what is given by the rule that decides for
the value it shows; without one, by the rule that decides for the primary value; and without that,
what it was captured with (`RuleSet.Takes`).

`TargetTable.compile_decided` says that a compiled table holds exactly these values, and the primary
value on its diagonal; that it depends on no other rules than those that take effect; and that lists
of different lengths are refused.

The index that compiling makes is told by `RuleSet.lastOutcome`. The two meet in
`RuleSet.lastOutcome_eq_some_iff`, an induction on the rules from the last one.
-/

namespace Clickwork

/-! ### Settings as they are written -/

namespace Setting

/-- **A text sets a property to a value**: the property stands before the first equals sign, in
whatever case, and the value after it. -/
def Written (text property value : String) : Prop :=
  ∃ name, '=' ∉ name.toList ∧ Text.lower name = Text.lower property ∧
    text = name ++ "=" ++ value

/-- A text that reads as a setting is the text of that setting. -/
theorem eq_toText_of_parse? {text : String} {s : Setting} (h : parse? text = some s) :
    '=' ∉ s.property.toList ∧ text = s.toText := by
  have h_split : text.toList.takeWhile (· != '=') ++ text.toList.dropWhile (· != '=') =
      text.toList := List.takeWhile_append_dropWhile
  have h_first := List.head?_dropWhile_not (· != '=') text.toList
  unfold parse? at h
  split at h
  · cases h
  · rename_i c value h_drop
    obtain rfl := Option.some.inj h
    rw [h_drop] at h_split h_first
    obtain rfl : c = '=' := by simpa using h_first
    refine ⟨fun h_mem => ?_, ?_⟩
    · rw [String.toList_ofList] at h_mem
      simpa using List.mem_takeWhile_imp h_mem
    · refine String.toList_inj.mp ?_
      simpa [toText] using h_split.symm

theorem written_iff {text property value : String} :
    Written text property value ↔
      ∃ s, parse? text = some s ∧ s.concerns property = true ∧ s.value = value := by
  constructor
  · rintro ⟨name, h_name, h_lower, rfl⟩
    refine ⟨⟨name, value⟩, parse?_toText ⟨name, value⟩ h_name, ?_, rfl⟩
    simpa [concerns] using h_lower
  · rintro ⟨s, h_parse, h_concerns, rfl⟩
    obtain ⟨h_name, rfl⟩ := eq_toText_of_parse? h_parse
    exact ⟨s.property, h_name, by simpa [concerns] using h_concerns, rfl⟩

end Setting

/-! ### Rules that take effect -/

namespace Rule

section

variable (r : Rule) (property resetToken : String)

/-- The rule asks for a value of the property. -/
def Asks (value : String) : Prop :=
  Setting.Written r.condition property value

/-- **What a rule gives** to a sibling that was captured with a value: this value again, or the one
that its action sets the property to. -/
inductive Gives (captured : String) : String → Prop where
  | reset (h : r.action = resetToken) : Gives captured captured
  | set {value : String} (h : r.action ≠ resetToken)
      (h_written : Setting.Written r.action property value) : Gives captured value

/-- **The rule takes effect** on the property. -/
def Effective : Prop :=
  (∃ value, r.Asks property value) ∧
    (r.action = resetToken ∨ ∃ value, Setting.Written r.action property value)

end

variable {r : Rule} {property resetToken : String}

theorem effect?_eq_some_iff {value : String} {outcome : Outcome} :
    r.effect? property resetToken = some (value, outcome) ↔
      r.Asks property value ∧ Outcome.parse? r.action property resetToken = some outcome := by
  simp only [effect?, Asks, Setting.written_iff, Option.bind_eq_some_iff,
    Option.filter_eq_some_iff, Option.map_eq_some_iff, Prod.mk.injEq]
  constructor
  · rintro ⟨s, ⟨h_parse, h_concerns⟩, outcome', h_action, rfl, rfl⟩
    exact ⟨⟨s, h_parse, h_concerns, rfl⟩, h_action⟩
  · rintro ⟨⟨s, h_parse, h_concerns, rfl⟩, h_action⟩
    exact ⟨s, ⟨h_parse, h_concerns⟩, outcome, h_action, rfl, rfl⟩

/-- What a rule gives is what its outcome makes of the captured value. -/
theorem gives_iff {captured value : String} :
    r.Gives property resetToken captured value ↔
      ∃ outcome, Outcome.parse? r.action property resetToken = some outcome ∧
        outcome.apply captured = value := by
  by_cases h_reset : r.action = resetToken
  · simp only [Outcome.parse?, if_pos h_reset, Option.some.injEq, exists_eq_left',
      Outcome.apply]
    constructor
    · rintro (_ | ⟨h, _⟩)
      · rfl
      · exact absurd h_reset h
    · rintro rfl
      exact .reset h_reset
  · simp only [Outcome.parse?, if_neg h_reset, Option.map_eq_some_iff, Option.filter_eq_some_iff]
    constructor
    · rintro (h | ⟨_, h_written⟩)
      · exact absurd h h_reset
      · obtain ⟨s, h_parse, h_concerns, rfl⟩ := Setting.written_iff.mp h_written
        exact ⟨.set s, ⟨s, ⟨h_parse, h_concerns⟩, rfl⟩, rfl⟩
    · rintro ⟨_, ⟨s, ⟨h_parse, h_concerns⟩, rfl⟩, rfl⟩
      exact .set h_reset (Setting.written_iff.mpr ⟨s, h_parse, h_concerns, rfl⟩)

theorem effective_iff :
    r.Effective property resetToken ↔ (r.effect? property resetToken).isSome = true := by
  -- an action without an outcome neither is the reset token nor sets the property
  have h_action : (r.action = resetToken ∨ ∃ value, Setting.Written r.action property value) ↔
      ∃ outcome, Outcome.parse? r.action property resetToken = some outcome := by
    constructor
    · rintro (h_reset | ⟨value, h_written⟩)
      · exact ⟨.reset, if_pos h_reset⟩
      · by_cases h_reset : r.action = resetToken
        · exact ⟨.reset, if_pos h_reset⟩
        · have h_gives : r.Gives property resetToken "" value := .set h_reset h_written
          exact (gives_iff.mp h_gives).imp fun _ h => h.1
    · rintro ⟨outcome, h_outcome⟩
      obtain ⟨value, h_gives⟩ : ∃ value, r.Gives property resetToken "" value :=
        ⟨_, gives_iff.mpr ⟨outcome, h_outcome, rfl⟩⟩
      rcases h_gives with h_reset | ⟨_, h_written⟩
      · exact .inl h_reset
      · exact .inr ⟨value, h_written⟩
  rw [Effective, h_action, Option.isSome_iff_exists]
  constructor
  · rintro ⟨⟨value, h_asks⟩, outcome, h_outcome⟩
    exact ⟨(value, outcome), effect?_eq_some_iff.mpr ⟨h_asks, h_outcome⟩⟩
  · rintro ⟨⟨value, outcome⟩, h_effect⟩
    obtain ⟨h_asks, h_outcome⟩ := effect?_eq_some_iff.mp h_effect
    exact ⟨⟨value, h_asks⟩, outcome, h_outcome⟩

instance : Decidable (r.Effective property resetToken) :=
  decidable_of_iff _ effective_iff.symm

/-- A rule that takes effect and asks for a value has an outcome for it. -/
theorem effective_and_asks_iff {value : String} :
    r.Effective property resetToken ∧ r.Asks property value ↔
      ∃ outcome, r.effect? property resetToken = some (value, outcome) := by
  rw [effective_iff, Option.isSome_iff_exists]
  constructor
  · rintro ⟨⟨⟨value', outcome⟩, h_effect⟩, h_asks⟩
    exact ⟨outcome, effect?_eq_some_iff.mpr ⟨h_asks, (effect?_eq_some_iff.mp h_effect).2⟩⟩
  · rintro ⟨outcome, h_effect⟩
    exact ⟨⟨_, h_effect⟩, (effect?_eq_some_iff.mp h_effect).1⟩

end Rule

/-! ### The rule that decides -/

namespace RuleSet

section

variable (rules : List Rule) (property resetToken value : String)

/-- **The last rule that takes effect and asks for a value.** -/
def Decides (r : Rule) : Prop :=
  ∃ earlier later, rules = earlier ++ r :: later ∧
    (r.Effective property resetToken ∧ r.Asks property value) ∧
    ∀ r' ∈ later, ¬(r'.Effective property resetToken ∧ r'.Asks property value)

/-- No rule that takes effect asks for a value. -/
def Undecided : Prop :=
  ∀ r ∈ rules, ¬(r.Effective property resetToken ∧ r.Asks property value)

end

/-- **The value a sibling takes**, from the value it shows and the one it was captured with. -/
inductive Takes (rules : List Rule) (primary : Setting) (resetToken shown captured : String) :
    String → Prop where
  | asked {r : Rule} {value : String} (h : Decides rules primary.property resetToken shown r)
      (h_gives : r.Gives primary.property resetToken captured value) :
      Takes rules primary resetToken shown captured value
  | fallback {r : Rule} {value : String}
      (h_shown : Undecided rules primary.property resetToken shown)
      (h : Decides rules primary.property resetToken primary.value r)
      (h_gives : r.Gives primary.property resetToken captured value) :
      Takes rules primary resetToken shown captured value
  | captured (h_shown : Undecided rules primary.property resetToken shown)
      (h_primary : Undecided rules primary.property resetToken primary.value) :
      Takes rules primary resetToken shown captured captured

variable {rules : List Rule} {primary : Setting} {resetToken value : String}

/-- With one more rule, that one decides if it asks for the value, or else the one that did. -/
theorem decides_concat {r last : Rule} :
    Decides (rules ++ [last]) primary.property resetToken value r ↔
      (last.Effective primary.property resetToken ∧ last.Asks primary.property value) ∧ r = last ∨
      ¬(last.Effective primary.property resetToken ∧ last.Asks primary.property value) ∧
        Decides rules primary.property resetToken value r := by
  constructor
  · rintro ⟨earlier, later, h_eq, h_asks, h_later⟩
    rcases List.eq_nil_or_concat' later with rfl | ⟨later, last', rfl⟩
    · obtain ⟨rfl, h_last⟩ := List.append_inj' h_eq rfl
      obtain rfl : last = r := by simpa using h_last
      exact .inl ⟨h_asks, rfl⟩
    · rw [← List.cons_append, ← List.append_assoc] at h_eq
      obtain ⟨rfl, h_last⟩ := List.append_inj' h_eq rfl
      obtain rfl : last = last' := by simpa using h_last
      exact .inr ⟨h_later last (by simp), earlier, later, rfl, h_asks,
        fun r' h_mem => h_later r' (List.mem_append_left _ h_mem)⟩
  · rintro (⟨h_asks, rfl⟩ | ⟨h_silent, earlier, later, rfl, h_asks, h_later⟩)
    · exact ⟨rules, [], rfl, h_asks, nofun⟩
    · refine ⟨earlier, later ++ [last], by simp, h_asks, fun r' h_mem => ?_⟩
      rcases List.mem_append.mp h_mem with h_mem | h_mem
      · exact h_later r' h_mem
      · obtain rfl := List.mem_singleton.mp h_mem
        exact h_silent

/-- **The last outcome for a value is that of the rule that decides.** -/
theorem lastOutcome_eq_some_iff {outcome : Outcome} :
    lastOutcome rules primary resetToken value = some outcome ↔
      ∃ r, Decides rules primary.property resetToken value r ∧
        Outcome.parse? r.action primary.property resetToken = some outcome := by
  induction rules using List.reverseRecOn with
  | nil =>
    constructor
    · exact nofun
    · rintro ⟨r, ⟨earlier, later, h_eq, -⟩, -⟩
      simp at h_eq
  | append_singleton rules last ih =>
    by_cases h_asks :
        last.Effective primary.property resetToken ∧ last.Asks primary.property value
    · -- the last rule asks for the value
      obtain ⟨outcome', h_effect⟩ := Rule.effective_and_asks_iff.mp h_asks
      have h_action := (Rule.effect?_eq_some_iff.mp h_effect).2
      rw [lastOutcome_append, h_effect]
      simp only [if_true, decides_concat, h_asks, not_true, false_and, or_false, true_and,
        exists_eq_left, h_action]
    · -- it does not, so what was decided stays
      have h_same : lastOutcome (rules ++ [last]) primary resetToken value =
          lastOutcome rules primary resetToken value := by
        rw [lastOutcome_append]
        rcases h_effect : last.effect? primary.property resetToken with _ | ⟨value', outcome'⟩
        · rfl
        · refine if_neg fun h_value => h_asks ?_
          subst h_value
          exact Rule.effective_and_asks_iff.mpr ⟨outcome', h_effect⟩
      rw [h_same, ih]
      simp only [decides_concat, h_asks, not_false_eq_true, true_and, false_and, false_or]

theorem lastOutcome_eq_none_iff :
    lastOutcome rules primary resetToken value = none ↔
      Undecided rules primary.property resetToken value := by
  unfold lastOutcome Undecided
  rw [Option.map_eq_none_iff, List.getLast?_eq_none_iff, List.filter_eq_nil_iff]
  simp only [Rule.effective_and_asks_iff, List.mem_filterMap, decide_eq_true_eq]
  constructor
  · rintro h r h_mem ⟨outcome, h_effect⟩
    exact h (value, outcome) ⟨r, h_mem, h_effect⟩ rfl
  · rintro h ⟨value', outcome⟩ ⟨r, h_mem, h_effect⟩ rfl
    exact h r h_mem ⟨outcome, h_effect⟩

/-- **The index gives a sibling what the rules say.** -/
theorem takes_iff {shown captured target : String} :
    Takes rules primary resetToken shown captured target ↔
      (build rules primary resetToken).target shown captured = target := by
  -- the three ways to take a target are the three places the index looks at, in the same order
  rw [target_eq_elim]
  constructor
  · rintro (⟨h_decides, h_gives⟩ | ⟨h_shown, h_decides, h_gives⟩ | ⟨h_shown, h_primary⟩)
    · obtain ⟨outcome, h_outcome, rfl⟩ := Rule.gives_iff.mp h_gives
      rw [lastOutcome_eq_some_iff.mpr ⟨_, h_decides, h_outcome⟩]
      rfl
    · obtain ⟨outcome, h_outcome, rfl⟩ := Rule.gives_iff.mp h_gives
      rw [lastOutcome_eq_none_iff.mpr h_shown,
        lastOutcome_eq_some_iff.mpr ⟨_, h_decides, h_outcome⟩]
      rfl
    · rw [lastOutcome_eq_none_iff.mpr h_shown, lastOutcome_eq_none_iff.mpr h_primary]
      rfl
  · rintro rfl
    cases h_shown : lastOutcome rules primary resetToken shown with
    | some outcome =>
      obtain ⟨r, h_decides, h_outcome⟩ := lastOutcome_eq_some_iff.mp h_shown
      exact .asked h_decides (Rule.gives_iff.mpr ⟨outcome, h_outcome, rfl⟩)
    | none =>
      cases h_primary : lastOutcome rules primary resetToken primary.value with
      | some outcome =>
        obtain ⟨r, h_decides, h_outcome⟩ := lastOutcome_eq_some_iff.mp h_primary
        exact .fallback (lastOutcome_eq_none_iff.mp h_shown) h_decides
          (Rule.gives_iff.mpr ⟨outcome, h_outcome, rfl⟩)
      | none =>
        exact .captured (lastOutcome_eq_none_iff.mp h_shown)
          (lastOutcome_eq_none_iff.mp h_primary)

/-- A rule that takes no effect leaves the index alone. -/
theorem build_filter (rules : List Rule) (primary : Setting) (resetToken : String) :
    build (rules.filter fun r => decide (r.Effective primary.property resetToken)) primary
      resetToken = build rules primary resetToken := by
  unfold build
  rw [List.foldl_filter]
  congr 1
  funext index r
  split
  · rfl
  · rename_i h_inert
    rw [decide_eq_true_eq, Rule.effective_iff, Bool.not_eq_true, Option.isSome_eq_false_iff,
      Option.isNone_iff_eq_none] at h_inert
    rw [add, h_inert]

end RuleSet

/-! ### Tables -/

namespace TargetTable

/-- **What a table is compiled to.** From as many shown values as captured ones, it is a square
table of the primary property: a clicked instance takes the primary value, and any other what the
last rules give it. Rules that take no effect make no difference. Lists of different lengths are
refused. -/
theorem compile_decided (rules : List Rule) (primary : Setting) (captured shown : List String)
    (resetToken : String) :
    (shown.length = captured.length → ∃ rows,
      compile rules primary captured shown resetToken = .ok ⟨primary.property, rows⟩ ∧
      rows.length = captured.length ∧ (∀ row ∈ rows, row.length = captured.length) ∧
      ∀ (i j : Nat) (row : List String) (s c target : String), rows[i]? = some row →
        shown[j]? = some s → captured[j]? = some c →
          (row[j]? = some target ↔
            if i = j then target = primary.value
            else RuleSet.Takes rules primary resetToken s c target)) ∧
    (shown.length ≠ captured.length →
      compile rules primary captured shown resetToken =
        .error (.lengthMismatch shown.length captured.length)) ∧
    ∀ rules' : List Rule,
      rules'.filter (fun r => decide (r.Effective primary.property resetToken)) =
          rules.filter (fun r => decide (r.Effective primary.property resetToken)) →
        compile rules' primary captured shown resetToken =
          compile rules primary captured shown resetToken := by
  refine ⟨fun h_length => ?_, fun h_length => if_pos h_length, fun rules' h_same => ?_⟩
  · obtain ⟨siblings, h_siblings⟩ : ∃ siblings, siblings =
        List.zipWith (RuleSet.build rules primary resetToken).target shown captured := ⟨_, rfl⟩
    have h_count : siblings.length = captured.length := by
      rw [h_siblings, List.length_zipWith, h_length, Nat.min_self]
    refine ⟨(List.range captured.length).map (row primary siblings), ?_, by simp, ?_, ?_⟩
    · rw [compile, if_neg (not_not.mpr h_length), h_siblings]
    · intro r h_mem
      obtain ⟨i, -, rfl⟩ := List.mem_map.mp h_mem
      rw [length_row, h_count]
    · intro i j r s c target hr hs hc
      obtain ⟨i', hi', rfl⟩ : ∃ i', (List.range captured.length)[i]? = some i' ∧
          row primary siblings i' = r := by
        rwa [List.getElem?_map, Option.map_eq_some_iff] at hr
      obtain rfl : i = i' := by
        obtain ⟨h_lt, h_get⟩ := List.getElem?_eq_some_iff.mp hi'
        simpa using h_get
      have hj : j < siblings.length := by
        rw [h_count]
        exact (List.getElem?_eq_some_iff.mp hc).1
      have h_sibling : siblings[j]? =
          some ((RuleSet.build rules primary resetToken).target s c) := by
        rw [h_siblings, List.getElem?_zipWith, hs, hc]
      rw [getElem?_row primary siblings hj]
      by_cases h_ij : i = j
      · simp only [h_ij, if_true, Option.some.injEq, eq_comm]
      · rw [if_neg h_ij, if_neg h_ij, h_sibling, RuleSet.takes_iff, Option.some.injEq]
  · have h_build := RuleSet.build_filter rules' primary resetToken
    rw [h_same, RuleSet.build_filter] at h_build
    rw [compile, compile, h_build]

/-- Rules for tabs, the third and the fourth of which take no effect. -/
def tabRules : List Rule :=
  [{ id := 0, condition := "State=Off", action := "State=Dim" },
   { id := 1, condition := "state=On", action := "STATE=Off=1" },
   { id := 2, condition := "Title=Off", action := "State=Gone" },
   { id := 3, condition := "State=Off", action := "Title=Gone" },
   { id := 4, condition := "State=Off", action := "RESET_TO_INITIAL" }]

/-- Three tabs that were captured otherwise than they are shown: the second takes what it was
captured with, by the last rule for what it shows, and the third falls back to the rule for the
primary value. -/
theorem compile_decided_on_tabs :
    RuleSet.Takes tabRules ⟨"State", "On"⟩ "RESET_TO_INITIAL" "Off" "Hover" "Hover" ∧
    RuleSet.Takes tabRules ⟨"State", "On"⟩ "RESET_TO_INITIAL" "Plain" "Plain" "Off=1" ∧
    compile (tabRules.eraseIdx 3) ⟨"State", "On"⟩ ["Off", "Hover", "Plain"]
        ["On", "Off", "Plain"] "RESET_TO_INITIAL" =
      compile tabRules ⟨"State", "On"⟩ ["Off", "Hover", "Plain"] ["On", "Off", "Plain"]
        "RESET_TO_INITIAL" ∧
    compile tabRules ⟨"State", "On"⟩ ["Off"] [] "RESET_TO_INITIAL" =
      .error (.lengthMismatch 0 1) := by
  obtain ⟨h_table, -, h_same⟩ := compile_decided tabRules ⟨"State", "On"⟩
    ["Off", "Hover", "Plain"] ["On", "Off", "Plain"] "RESET_TO_INITIAL"
  obtain ⟨rows, h_rows, -, -, h_entry⟩ := h_table rfl
  have h_compiled : compile tabRules ⟨"State", "On"⟩ ["Off", "Hover", "Plain"]
      ["On", "Off", "Plain"] "RESET_TO_INITIAL" =
        .ok ⟨"State", [["On", "Hover", "Off=1"], ["Off=1", "On", "Off=1"],
          ["Off=1", "Hover", "On"]]⟩ := by
    decide +kernel
  obtain rfl : _ = rows := congrArg TargetTable.rows (Except.ok.inj (h_compiled.symm.trans h_rows))
  have h_inert : ¬(Rule.mk 3 "State=Off" "Title=Gone" none).Effective "State"
      "RESET_TO_INITIAL" := by
    decide +kernel
  refine ⟨?_, ?_, h_same _ (by simp [tabRules, List.filter_cons, h_inert]), ?_⟩
  · exact (h_entry 0 1 _ "Off" "Hover" "Hover" rfl rfl rfl).mp rfl
  · exact (h_entry 0 2 _ "Plain" "Plain" "Off=1" rfl rfl rfl).mp rfl
  · exact (compile_decided tabRules ⟨"State", "On"⟩ ["Off"] [] "RESET_TO_INITIAL").2.1 (by decide)

end TargetTable

end Clickwork

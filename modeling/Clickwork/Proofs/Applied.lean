import Clickwork.Proofs.Conduct

/-!
# Nested actions that are carried out

An interaction that is carried out alone sees one context all the while, so each of its nested
actions finds the group that it would have found at first. If there is a result, it tells of the
wiring of every nested action whose target is another group of the context
(`Authoring.carryOut_applies`).
-/

namespace Clickwork

open Program

/-! ### What wiring tells of -/

/-- What came to a result came to one of its first part before. -/
theorem Program.exists_of_outcome_bind {σ α β : Type} {s : σ} {h : Host} {p : Program σ α}
    {f : α → Program σ β} {b : β} (hb : ((p >>= f).outcome s h).1 = .ok b) :
    ∃ a s' h', p.outcome s h = (.ok a, s', h') ∧ ((f a).outcome s' h').1 = .ok b := by
  rw [outcome_bind] at hb
  rcases h_first : p.outcome s h with ⟨e | a, s', h'⟩ <;> rw [h_first] at hb
  · cases hb
  · exact ⟨a, s', h', rfl, hb⟩

/-- A wiring tells of which interaction and group it is. -/
theorem Wiring.complete_names {i : Interaction} {g : Group} {property : Option String}
    {prepared : Option (TargetTable × List Slot)} {s : Session} {h : Host} {x : Wiring}
    (hx : ((complete i g property prepared).outcome s h).1 = .ok x) :
    x.interaction = i.id ∧ x.group = g.id := by
  obtain ⟨reactions, s₁, h₁, -, hx⟩ := exists_of_outcome_bind hx
  obtain ⟨installed, s₂, h₂, -, hx⟩ := exists_of_outcome_bind hx
  obtain rfl := Except.ok.inj hx
  exact ⟨rfl, rfl⟩

theorem Wiring.apply_names {collection : String} {i : Interaction} {g : Group} {config : Config}
    {s : Session} {h : Host} {x : Wiring}
    (hx : ((Wiring.apply collection i g config).outcome s h).1 = .ok x) :
    x.interaction = i.id ∧ x.group = g.id := by
  rw [apply_eq_complete] at hx
  -- whatever was prepared, wiring ends with completing it
  cases h_primary : Setting.parse? i.primaryAction with
  | none =>
    simp only [h_primary, pure_bind] at hx
    obtain ⟨-, s₁, h₁, -, hx⟩ := exists_of_outcome_bind hx
    exact complete_names hx
  | some primary =>
    simp only [h_primary, pure_bind] at hx
    obtain ⟨property, s₁, h₁, -, hx⟩ := exists_of_outcome_bind hx
    cases property with
    | none =>
      obtain ⟨-, s₂, h₂, -, hx⟩ := exists_of_outcome_bind hx
      exact complete_names hx
    | some property =>
      obtain ⟨prepared, s₂, h₂, -, hx⟩ := exists_of_outcome_bind hx
      exact complete_names hx

namespace Authoring

variable {collection : String} {i : Interaction} {g : Group} {s : Session} {h : Host}

theorem wire_names {x : Wiring} (hx : ((wire collection i g).outcome s h).1 = .ok x) :
    x.interaction = i.id ∧ x.group = g.id := by
  obtain ⟨-, s₁, h₁, -, hx⟩ := exists_of_outcome_bind hx
  obtain ⟨-, s₂, h₂, -, hx⟩ := exists_of_outcome_bind hx
  obtain ⟨config, s₃, h₃, -, hx⟩ := exists_of_outcome_bind hx
  exact Wiring.apply_names hx

/-! ### One context -/

/-- The context stays while an interaction is carried out. -/
theorem context_outcome {α : Type} {p : Program Session α} (hp : p.Obeys (.recording False))
    (s : Session) (h : Host) : (p.outcome s h).2.1.context = s.context := by
  have h_same : (p.outcome s h).2.1.withoutRecords = s.withoutRecords := hp.outcome s h
  exact (congrArg Session.context h_same :)

theorem wire_obeys (collection : String) (i : Interaction) (g : Group) :
    (wire collection i g).Obeys (.recording False) :=
  Discipline.records_recording.wire_holds (D := .recording False)
    (fun c _ => Discipline.permits_recording c) collection i g

theorem wireNested_obeys (collection : String) (i : Interaction) (g : Group)
    (action : NestedAction) : (wireNested collection i g action).Obeys (.recording False) :=
  wireNested_holds (D := .recording False) (Discipline.sees_recording _)
    fun target _ _ => wire_obeys collection _ target

/-! ### Nested actions -/

/-- **Every nested action is carried out** whose target is another group of the context. -/
def Applies (a : Authoring) (c : Context) : Prop :=
  ∀ action ∈ a.interaction.nestedActions, ∀ target, c.group action.target = .ok target →
    target.id ≠ a.group.id → ∃ x ∈ a.nested,
      x.interaction = (a.interaction.nested action).id ∧ x.group = target.id

theorem wireNested_applies {action : NestedAction} {r : Option Wiring}
    (hr : ((wireNested collection i g action).outcome s h).1 = .ok r) {target : Group}
    (h_target : s.context.group action.target = .ok target) (h_ne : target.id ≠ g.id) :
    ∃ x, r = some x ∧ x.interaction = (i.nested action).id ∧ x.group = target.id := by
  have h_ran : (wireNested collection i g action).outcome s h =
      (some <$> wire collection (i.nested action) target).outcome s h := by
    rw [wireNested, Program.outcome_bind_ok (Session.outcome_readContext s h), h_target]
    simp only [h_ne, if_false]
  rw [h_ran, Program.outcome_map] at hr
  cases h_wired : ((wire collection (i.nested action) target).outcome s h).1 with
  | error e =>
    rw [h_wired] at hr
    cases hr
  | ok x =>
    rw [h_wired] at hr
    obtain rfl := Except.ok.inj hr
    exact ⟨x, rfl, wire_names h_wired⟩

theorem mapM_wireNested_applies {actions : List NestedAction} {rs : List (Option Wiring)}
    (hrs : ((actions.mapM (wireNested collection i g)).outcome s h).1 = .ok rs) :
    ∀ action ∈ actions, ∀ target, s.context.group action.target = .ok target →
      target.id ≠ g.id → ∃ x, some x ∈ rs ∧ x.interaction = (i.nested action).id ∧
        x.group = target.id := by
  induction actions generalizing s h rs with
  | nil => intro action h_mem; cases h_mem
  | cons first actions ih =>
    rw [List.mapM_cons] at hrs
    have h_context := context_outcome (wireNested_obeys collection i g first) s h
    obtain ⟨r, s₁, h₁, h_first, hrs⟩ := exists_of_outcome_bind hrs
    obtain ⟨rest, s₂, h₂, h_rest, hrs⟩ := exists_of_outcome_bind hrs
    obtain rfl := Except.ok.inj hrs
    rw [h_first] at h_context
    intro action h_mem target h_target h_ne
    rcases List.mem_cons.mp h_mem with rfl | h_mem
    · obtain ⟨x, rfl, h_names⟩ := wireNested_applies (by rw [h_first]) h_target h_ne
      exact ⟨x, List.mem_cons_self, h_names⟩
    · obtain ⟨x, hx, h_names⟩ := ih (s := s₁) (by rw [h_rest]) action h_mem target
        (h_context ▸ h_target) h_ne
      exact ⟨x, List.mem_cons_of_mem _ hx, h_names⟩

theorem wireAll_applies {a : Authoring} (ha : ((wireAll collection i g).outcome s h).1 = .ok a) :
    a.interaction = i ∧ a.Applies s.context := by
  have h_context := context_outcome (wire_obeys collection i g) s h
  obtain ⟨main, s₁, h₁, h_main, ha⟩ := exists_of_outcome_bind ha
  obtain ⟨rs, s₂, h₂, h_nested, ha⟩ := exists_of_outcome_bind ha
  obtain rfl := Except.ok.inj ha
  rw [h_main] at h_context
  refine ⟨rfl, fun action h_mem target h_target h_ne => ?_⟩
  obtain ⟨x, hx, h_names⟩ := mapM_wireNested_applies (s := s₁) (by rw [h_nested]) action h_mem
    target (h_context ▸ h_target) h_ne
  exact ⟨x, List.mem_filterMap.mpr ⟨_, hx, rfl⟩, h_names⟩

/-- **A run alone carries out every nested action** whose target is another group of the context. -/
theorem carryOut_applies {a : Authoring} (ha : ((carryOut i).outcome s h).1 = .ok a) :
    a.interaction = i ∧ a.Applies s.context := by
  have h_proceed {group : Group} (ha : ((proceed i group).outcome s h).1 = .ok a) :
      a.interaction = i ∧ a.Applies s.context := by
    obtain ⟨config, s₁, h₁, h_config, ha⟩ := exists_of_outcome_bind ha
    cases h_config
    have h_context := context_outcome (p := Wiring.ensureCollection s.config.collection)
      (Wiring.ensureCollection_holds (D := .recording False) (Discipline.permits_recording _)
        (Discipline.permits_recording _)) s h
    obtain ⟨collection, s₂, h₂, h_ensured, ha⟩ := exists_of_outcome_bind ha
    rw [h_ensured] at h_context
    obtain ⟨h_interaction, h_applies⟩ := wireAll_applies ha
    exact ⟨h_interaction, h_context ▸ h_applies⟩
  obtain ⟨group, -, ha⟩ := of_carryOut ha
  exact h_proceed ha

end Authoring

end Clickwork

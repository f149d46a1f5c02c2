import Clickwork.Proofs.Accepted
import Clickwork.Proofs.Dispatch
import Clickwork.Proofs.Recorded

/-!
# An interaction carried out part by part

On a host whose storage works, carrying an interaction out wires its parts one after the other, the
interaction itself first and then those nested in it whose groups are known, unless the record of one
of the groups cannot be read (`Authoring.carryOut_traces`). The parts and what they come to are the trace of the run
(`Authoring.Trace`); what wiring one part comes to is told by `Authoring.Wires`.

What a run does to a group is told by the last part on it: the parts before keep something, that
part brings something about, and the parts after it keep that (`Trace.split`, `Trace.keeps`). A part
retires whatever is on record for its own group (`Session.Retires`), and with it everything that
belongs to that, wherever it is. What does not belong to it is kept: records
(`Wires.recorded_kept`), variables (`Wires.find?_kept`) and reactions (`Wires.reactions_kept`).
-/

namespace Clickwork

open Program (Ends)
open Records (Drops Replaced ownedBy retiring)

/-! ### Parts -/

/-- A group that is known is there. -/
theorem Context.exists_of_isOk {c : Context} {id : String} (h_known : (c.group id).isOk = true) :
    ∃ g, c.group id = .ok g := by
  cases h_group : c.group id with
  | ok g => exact ⟨g, rfl⟩
  | error e => cases h_group ▸ h_known

namespace Interaction

variable {i : Interaction} {c : Context} {action : NestedAction}

/-- The interactions nested in one by some actions, as far as their groups are known in a context
and not the interaction's own. -/
def nestedIn (i : Interaction) (c : Context) (actions : List NestedAction) : List Interaction :=
  ((actions.filter (·.target ≠ i.group)).map i.nested).filter fun part =>
    (c.group part.group).isOk

/-- **The parts that are carried out** in a context: those whose groups are known. -/
def partsIn (i : Interaction) (c : Context) : List Interaction :=
  i.parts.filter fun part => (c.group part.group).isOk

theorem nestedIn_cons (i : Interaction) (c : Context) (action : NestedAction)
    (actions : List NestedAction) :
    i.nestedIn c (action :: actions) = i.nestedIn c [action] ++ i.nestedIn c actions := by
  rw [nestedIn, ← List.singleton_append, List.filter_append, List.map_append, List.filter_append]
  rfl

theorem nestedIn_of_known (h_other : action.target ≠ i.group)
    (h_known : (c.group action.target).isOk = true) :
    i.nestedIn c [action] = [i.nested action] := by
  simp [nestedIn, nested, h_other, h_known]

theorem nestedIn_of_own (h_own : action.target = i.group) : i.nestedIn c [action] = [] := by
  simp [nestedIn, h_own]

theorem nestedIn_of_unknown (h_unknown : (c.group action.target).isOk = false) :
    i.nestedIn c [action] = [] := by
  by_cases h_own : action.target = i.group <;> simp [nestedIn, nested, h_own, h_unknown]

theorem partsIn_eq (h_known : (c.group i.group).isOk = true) :
    i.partsIn c = [i] ++ i.nestedIn c i.nestedActions := by
  rw [partsIn, parts, List.filter_cons, if_pos h_known]
  rfl

end Interaction

namespace Session

/-- **The host works for the session**: it does not fail but at bindings, and the collection of
managed variables is there. -/
structure Works (collection : String) (s : Session) (h : Host) : Prop where
  reliable : h.Reliable
  stores : h.Stores
  built : h.scene.Built
  collection : h.scene.collections.find? s.config.collection = some collection

/-- **What is retired when a part is put on record**: its own id, and that of what is on record for
its group. -/
def Retires (s : Session) (h : Host) (part : Interaction) (id : String) : Prop :=
  id = part.id ∨ ∃ previous, s.recorded h part.group = .ok (some previous) ∧ id = previous.id

end Session

/-! ### Reactions of retired interactions -/

namespace Scene

variable {s : Scene} {name node : String}

/-- A node that accepts to be cleared is cleared, or left as it is. -/
theorem reactions_retired (h_accepts : s.rejectingReactions = []) (interaction : String) :
    (s.retired name interaction).reactions node = s.reactions node ∨
      (s.retired name interaction).reactions node = [] := by
  unfold retired
  split
  · exact .inl rfl
  · rw [reactions_detach _ _ (by simp [discard, h_accepts]), reactions_discard]
    split
    · exact .inr rfl
    · exact .inl rfl

theorem reactions_retiredAll (h_accepts : s.rejectingReactions = []) (ids : List String) :
    (ids.foldl (retired name) s).reactions node = s.reactions node ∨
      (ids.foldl (retired name) s).reactions node = [] := by
  induction ids generalizing s with
  | nil => exact .inl rfl
  | cons id ids ih =>
    have h_accepts' := (rejectingReactions_retired name s id).trans h_accepts
    rcases ih h_accepts' with h_same | h_clear
    · rcases reactions_retired h_accepts id with h_same' | h_clear'
      · exact .inl (h_same.trans h_same')
      · exact .inr (h_same.trans h_clear')
    · exact .inr h_clear

/-- **A node keeps its reactions** if it sets no variable of the retired interactions. -/
theorem reactions_retiredAll_of_sets (h_accepts : s.rejectingReactions = []) {ids : List String}
    (h_sets : ∀ target, s.Sets node target → ∃ v, s.variableTable.find? target = some v ∧
      ∀ id ∈ ids, ownedBy id v.name = false) :
    (ids.foldl (retired name) s).reactions node = s.reactions node := by
  induction ids generalizing s with
  | nil => rfl
  | cons id ids ih =>
    have h_first : (s.retired name id).reactions node = s.reactions node := by
      unfold retired
      split
      · rfl
      rw [reactions_detach _ _ (by simp [discard, h_accepts]), reactions_discard]
      refine if_neg fun h_any => ?_
      obtain ⟨r, hr, target, h_target, h_owned⟩ := setsAny_eq_true_iff.mp h_any
      obtain ⟨v, hv, h_free⟩ := h_sets target ⟨r, hr, h_target⟩
      obtain ⟨v', hv', -, h_owner⟩ := mem_owned.mp h_owned
      obtain rfl := Option.some.inj (hv.symm.trans hv')
      cases (h_free id List.mem_cons_self).symm.trans h_owner
    refine (ih ((rejectingReactions_retired name s id).trans h_accepts) ?_).trans h_first
    intro target h_target
    obtain ⟨v, hv, h_free⟩ := h_sets target ((Sets.congr h_first).mp h_target)
    refine ⟨v, find?_retired.mpr ⟨hv, fun _ => h_free id List.mem_cons_self⟩, ?_⟩
    exact fun id' h_mem => h_free id' (List.mem_cons_of_mem _ h_mem)

end Scene

namespace Authoring

variable {collection : String} {part : Interaction} {g : Group} {x : Wiring} {s s' : Session}
  {h h' : Host}

/-! ### One part -/

/-- **A part of an interaction is wired**: it takes the place of what is on record for its group,
which is then equipped. -/
inductive Wires (collection : String) (part : Interaction) (g : Group) (x : Wiring) (s : Session)
    (h : Host) (s' : Session) (h' : Host) : Prop where
  | intro (previous : Option Interaction) (h₁ : Host)
      (h_found : s.recorded h part.group = .ok previous)
      (h_later : h.Later h₁)
      (h_replaced : Replaced (retiring previous part) part (s.recalling h part.group) s' h h₁)
      (h_later' : h₁.Later h')
      (h_performed : Wiring.Performed collection part g s.config h₁ x h'.scene)
      (h_wired : Wiring.Wired collection part g h₁.scene h'.scene)
      (h_storage : h'.storage = h₁.storage)

/-- **Wiring a part** fails only if the record of its group cannot be read. -/
theorem wire_wires (h_works : s.Works collection h) (part : Interaction) (g : Group) :
    (wire collection part g).Ends s h fun r s' h' =>
      (∃ x, r = .ok x ∧ Wires collection part g x s h s' h') ∨
        ∃ e, r = .error e ∧ s.recorded h part.group = .error e := by
  rw [wire_eq]
  refine (Records.put_replaces h_works.reliable h_works.stores part).bind ?_ ?_
  · rintro u s₁ h₁ h_later (⟨e, -, h_error, -⟩ | ⟨previous, h_found, -, h_replaced⟩)
    · cases h_error
    have h_config : s₁.config = s.config :=
      h_replaced.config.trans (Session.config_recalling _ _ _)
    have h_there : collection ∈ h₁.scene.collections.values := by
      refine Registry.mem_values_iff.mpr ⟨s.config.collection, ?_⟩
      rw [h_replaced.collections]
      exact h_works.collection
    refine (equip_ends (h_later.reliable h_works.reliable) (h_later.built h_works.built) h_there
      part g).mono ?_
    rintro r s₂ h₂ h_later' ⟨rfl, h_storage, x, rfl, h_performed, h_wired⟩
    exact .inl ⟨x, rfl, previous, h₁, h_found, h_later, h_replaced, h_later', h_config ▸ h_performed,
      h_wired, h_storage⟩
  · rintro e s₁ h₁ - (⟨_, h_unread, h_error, -⟩ | ⟨_, -, h_ok, -⟩)
    · obtain rfl := Except.error.inj h_error
      exact .inr ⟨e, rfl, h_unread⟩
    · cases h_ok

/-- What is retired are the ids that the part retires. -/
theorem mem_retiring_iff {previous : Option Interaction}
    (h_found : s.recorded h part.group = .ok previous) {id : String} :
    id ∈ retiring previous part ↔ s.Retires h part id := by
  simp [Records.mem_retiring, Session.Retires, h_found]

namespace Wires

theorem later (h_wires : Wires collection part g x s h s' h') : h.Later h' := by
  obtain ⟨_, _, -, h_later, -, h_later', -⟩ := h_wires
  exact h_later.trans h_later'

theorem config (h_wires : Wires collection part g x s h s' h') : s'.config = s.config := by
  obtain ⟨_, _, -, -, h_replaced, -⟩ := h_wires
  exact h_replaced.config.trans (Session.config_recalling _ _ _)

theorem context (h_wires : Wires collection part g x s h s' h') : s'.context = s.context := by
  obtain ⟨_, _, -, -, h_replaced, -⟩ := h_wires
  exact h_replaced.context.trans (Session.context_recalling _ _ _)

theorem works (h_wires : Wires collection part g x s h s' h') (h_works : s.Works collection h) :
    s'.Works collection h' := by
  refine ⟨h_wires.later.reliable h_works.reliable, h_wires.later.stores h_works.stores,
    h_wires.later.built h_works.built, ?_⟩
  rw [h_wires.config]
  obtain ⟨_, _, -, -, h_replaced, -, -, h_wired, -⟩ := h_wires
  rw [h_wired.extended.collections, h_replaced.collections]
  exact h_works.collection

/-! #### Records -/

/-- The part is on record for its group. -/
theorem recorded_self (h_wires : Wires collection part g x s h s' h') :
    s'.recorded h' part.group = .ok (some part) := by
  obtain ⟨_, _, -, -, h_replaced, -⟩ := h_wires
  exact Session.recorded_of_find? h_replaced.find?_self

/-- **What is on record for another group stays on record** if it belongs to nothing that is
retired. -/
theorem recorded_kept (h_wires : Wires collection part g x s h s' h') {group : String}
    (h_other : group ≠ part.group) {p : Interaction} (h_found : s.recorded h group = .ok (some p))
    (h_free : ∀ id, s.Retires h part id → ownedBy id p.id = false) :
    s'.recorded h' group = .ok (some p) := by
  obtain ⟨previous, h₁, h_previous, -, h_replaced, -, -, -, h_storage⟩ := h_wires
  have h_kept : ¬Drops (retiring previous part) (s.recalling h part.group) group := by
    rintro ⟨record, h_record, h_owned⟩
    obtain ⟨id, h_mem, h_owner⟩ := List.any_eq_true.mp h_owned
    have h_same := Session.recorded_of_find? (h := h) h_record
    rw [Session.recorded_recalling, h_found] at h_same
    obtain rfl := Option.some.inj (Except.ok.inj h_same)
    cases (h_free id ((mem_retiring_iff h_previous).mp h_mem)).symm.trans h_owner
  have h_same := h_replaced.recorded_kept h_other h_kept
  rw [Session.recorded_recalling, h_found] at h_same
  rw [← h_same]
  exact Session.recorded_congr rfl rfl (by rw [h_storage])

/-- **Another group's record is kept or dropped.** -/
theorem recorded_other (h_wires : Wires collection part g x s h s' h') (hs : h.Stores)
    {group : String} (h_other : group ≠ part.group) :
    s'.recorded h' group = s.recorded h group ∨ s'.recorded h' group = .ok none := by
  obtain ⟨previous, h₁, -, -, h_replaced, -, -, -, h_storage⟩ := h_wires
  have h_same : s'.recorded h' group = s'.recorded h₁ group :=
    Session.recorded_congr rfl rfl (by rw [h_storage])
  rw [h_same]
  by_cases h_drops : Drops (retiring previous part) (s.recalling h part.group) group
  · exact .inr (h_replaced.recorded_gone hs h_other h_drops)
  · refine .inl ((h_replaced.recorded_kept h_other h_drops).trans ?_)
    exact Session.recorded_recalling _ _ _ _

/-- A record that cannot be read afterwards could not be read before. -/
theorem recorded_error (h_wires : Wires collection part g x s h s' h') (hs : h.Stores)
    {group : String} {e : Failure} (h_unread : s'.recorded h' group = .error e) :
    s.recorded h group = .error e := by
  by_cases h_own : group = part.group
  · rw [h_own, h_wires.recorded_self] at h_unread
    cases h_unread
  · rcases h_wires.recorded_other hs h_own with h_same | h_none
    · exact h_same.symm.trans h_unread
    · cases h_none.symm.trans h_unread

/-! #### Variables and reactions -/

/-- **A variable is kept** that belongs to nothing that is retired. -/
theorem find?_kept (h_wires : Wires collection part g x s h s' h') {id : String}
    {v : Scene.Variable} (hv : h.scene.variableTable.find? id = some v)
    (h_free : ∀ interaction, s.Retires h part interaction → ownedBy interaction v.name = false) :
    h'.scene.variableTable.find? id = some v := by
  obtain ⟨previous, h₁, h_previous, -, h_replaced, -, -, h_wired, -⟩ := h_wires
  refine h_wired.extended.old id v ?_
  rw [h_replaced.scene]
  refine Scene.find?_retiredAll.mpr ⟨hv, fun _ interaction h_mem => ?_⟩
  exact h_free interaction ((mem_retiring_iff h_previous).mp h_mem)

/-- **A node of another group keeps its reactions** if all that it sets belongs to nothing that is
retired. -/
theorem reactions_kept (h_wires : Wires collection part g x s h s' h')
    (h_accepts : h.scene.rejectingReactions = []) {node : String}
    (h_other : node ∉ g.instances.map (·.id))
    (h_sets : ∀ target, h.scene.Sets node target → ∃ v,
      h.scene.variableTable.find? target = some v ∧
        ∀ interaction, s.Retires h part interaction → ownedBy interaction v.name = false) :
    h'.scene.reactions node = h.scene.reactions node := by
  obtain ⟨previous, h₁, h_previous, -, h_replaced, -, -, h_wired, -⟩ := h_wires
  have h_frame : h'.scene.reactions node = h₁.scene.reactions node := by
    rw [Scene.reactions, Scene.reactions, h_wired.frame node h_other]
  rw [h_frame, h_replaced.scene]
  refine Scene.reactions_retiredAll_of_sets h_accepts fun target h_target => ?_
  obtain ⟨v, hv, h_free⟩ := h_sets target h_target
  exact ⟨v, hv, fun id h_mem => h_free id ((mem_retiring_iff h_previous).mp h_mem)⟩

end Wires

/-! ### All parts -/

/-- **The trace of a run**: parts that are wired one after the other, and what each comes to. -/
inductive Trace (collection : String) :
    List Interaction → List Wiring → Session → Host → Session → Host → Prop where
  | nil {s : Session} {h : Host} : Trace collection [] [] s h s h
  | cons {part : Interaction} {parts : List Interaction} {g : Group} {x : Wiring}
      {xs : List Wiring} {s s₁ s' : Session} {h h₁ h' : Host}
      (h_group : s.context.group part.group = .ok g)
      (h_wires : Wires collection part g x s h s₁ h₁)
      (h_rest : Trace collection parts xs s₁ h₁ s' h') :
      Trace collection (part :: parts) (x :: xs) s h s' h'

namespace Trace

variable {parts before after : List Interaction} {xs : List Wiring}

theorem later (h_trace : Trace collection parts xs s h s' h') : h.Later h' := by
  induction h_trace with
  | nil => exact .refl _
  | cons _ h_wires _ ih => exact h_wires.later.trans ih

theorem context (h_trace : Trace collection parts xs s h s' h') : s'.context = s.context := by
  induction h_trace with
  | nil => rfl
  | cons _ h_wires _ ih => exact ih.trans h_wires.context

theorem config (h_trace : Trace collection parts xs s h s' h') : s'.config = s.config := by
  induction h_trace with
  | nil => rfl
  | cons _ h_wires _ ih => exact ih.trans h_wires.config

theorem works (h_trace : Trace collection parts xs s h s' h') (h_works : s.Works collection h) :
    s'.Works collection h' := by
  induction h_trace with
  | nil => exact h_works
  | cons _ h_wires _ ih => exact ih (h_wires.works h_works)

/-- **What every part of a run keeps** holds at its end. -/
theorem keeps {I : Session → Host → Prop} (h_trace : Trace collection parts xs s h s' h')
    (h_works : s.Works collection h) (hI : I s h)
    (h_part : ∀ {part g x s₁ h₁ s₂ h₂}, part ∈ parts → s₁.context = s.context →
      s₁.Works collection h₁ → s.context.group part.group = .ok g →
        Wires collection part g x s₁ h₁ s₂ h₂ → I s₁ h₁ → I s₂ h₂) : I s' h' := by
  induction h_trace with
  | nil => exact hI
  | cons h_group h_wires _ ih =>
    refine ih (h_wires.works h_works) (h_part List.mem_cons_self rfl h_works h_group h_wires hI) ?_
    intro part g x s₁ h₁ s₂ h₂ h_mem h_context h_works₁ h_group₁
    rw [h_wires.context] at h_context h_group₁
    exact h_part (List.mem_cons_of_mem _ h_mem) h_context h_works₁ h_group₁

theorem recorded_error (h_trace : Trace collection parts xs s h s' h') (hs : h.Stores)
    {group : String} {e : Failure} (h_unread : s'.recorded h' group = .error e) :
    s.recorded h group = .error e := by
  induction h_trace with
  | nil => exact h_unread
  | cons _ h_wires _ ih =>
    exact h_wires.recorded_error hs (ih (h_wires.later.stores hs) h_unread)

theorem append {parts' : List Interaction} {ys : List Wiring} {s₁ : Session} {h₁ : Host}
    (h_trace : Trace collection parts xs s h s₁ h₁) (h_rest : Trace collection parts' ys s₁ h₁ s' h') :
    Trace collection (parts ++ parts') (xs ++ ys) s h s' h' := by
  induction h_trace with
  | nil => exact h_rest
  | cons h_group h_wires _ ih => exact .cons h_group h_wires (ih h_rest)

/-- **A run is split at one of its parts.** -/
theorem split (h_trace : Trace collection (before ++ part :: after) xs s h s' h') :
    ∃ ws x ys g s₁ h₁ s₂ h₂, xs = ws ++ x :: ys ∧ ws.length = before.length ∧
      Trace collection before ws s h s₁ h₁ ∧ s.context.group part.group = .ok g ∧
        Wires collection part g x s₁ h₁ s₂ h₂ ∧ Trace collection after ys s₂ h₂ s' h' := by
  induction before generalizing xs s h with
  | nil =>
    cases h_trace with
    | @cons _ _ g x ys _ s₂ _ _ h₂ _ h_group h_wires h_rest =>
      exact ⟨[], x, ys, g, s, h, s₂, h₂, rfl, rfl, .nil, h_group, h_wires, h_rest⟩
  | cons first before ih =>
    cases h_trace with
    | @cons _ _ g₀ w _ _ _ _ _ _ _ h_group₀ h_wires₀ h_rest₀ =>
      obtain ⟨ws, x, ys, g, s₁, h₁, s₂, h₂, rfl, h_length, h_before, h_group, h_wires, h_after⟩ :=
        ih h_rest₀
      rw [h_wires₀.context] at h_group
      exact ⟨w :: ws, x, ys, g, s₁, h₁, s₂, h₂, rfl, congrArg (· + 1) h_length,
        .cons h_group₀ h_wires₀ h_before, h_group, h_wires, h_after⟩

end Trace

/-- A nested action is carried out unless its target is unknown or the authored group itself. -/
theorem wireNested_traces (h_works : s.Works collection h) {i : Interaction}
    (h_id : g.id = i.group) (action : NestedAction) :
    (wireNested collection i g action).Ends s h fun r s' h' =>
      (∃ w, r = .ok w ∧ Trace collection (i.nestedIn s.context [action]) w.toList s h s' h') ∨
        ∃ e, r = .error e ∧
          ∃ part ∈ i.nestedIn s.context [action], s.recorded h part.group = .error e := by
  refine wireNested_ends (fun e h_target => ?_) (fun target h_target h_own => ?_)
    fun target h_target h_other => ?_
  · rw [Interaction.nestedIn_of_unknown (h_target ▸ rfl)]
    exact .inl ⟨none, rfl, .nil⟩
  · have h_same : target.id = action.target := (Context.group_eq_ok h_target).2
    rw [Interaction.nestedIn_of_own (h_same.symm.trans (h_own.trans h_id))]
    exact .inl ⟨none, rfl, .nil⟩
  · have h_same : target.id = action.target := (Context.group_eq_ok h_target).2
    rw [Interaction.nestedIn_of_known (h_same ▸ h_id ▸ h_other) (h_target ▸ rfl)]
    refine (wire_wires h_works (i.nested action) target).mono ?_
    rintro r s' h' - (⟨x, rfl, h_wires⟩ | ⟨e, rfl, h_unread⟩)
    · exact .inl ⟨some x, rfl, .cons h_target h_wires .nil⟩
    · exact .inr ⟨e, rfl, _, List.mem_singleton_self _, h_unread⟩

/-- **Nested actions are carried out** one after the other, which fails only if the record of one of
their groups cannot be read. -/
theorem nested_traces (h_works : s.Works collection h) {i : Interaction} (h_id : g.id = i.group)
    (actions : List NestedAction) :
    (actions.mapM (wireNested collection i g)).Ends s h fun r s' h' =>
      (∃ ws, r = .ok ws ∧
        Trace collection (i.nestedIn s.context actions) (ws.filterMap id) s h s' h') ∨
        ∃ e, r = .error e ∧
          ∃ part ∈ i.nestedIn s.context actions, s.recorded h part.group = .error e := by
  induction actions generalizing s h with
  | nil => exact .inl ⟨[], rfl, .nil⟩
  | cons action actions ih =>
    rw [List.mapM_cons, Interaction.nestedIn_cons]
    refine (wireNested_traces h_works h_id action).bind ?_ ?_
    · rintro w s₁ h₁ - (⟨_, h_ok, h_first⟩ | ⟨_, h_error, -⟩)
      swap
      · cases h_error
      obtain rfl := Except.ok.inj h_ok
      refine (ih (h_first.works h_works)).bind ?_ ?_
      · rintro rest s₂ h₂ - (⟨_, h_ok, h_rest⟩ | ⟨_, h_error, -⟩)
        · obtain rfl := Except.ok.inj h_ok
          -- the rest of the trace is told in the context after the first part, which is the same
          have h_all := h_first.append h_rest
          rw [h_first.context] at h_all
          exact .inl ⟨w :: rest, rfl, by cases w <;> exact h_all⟩
        · cases h_error
      · rintro e s₂ h₂ - (⟨_, h_ok, -⟩ | ⟨_, h_error, part, h_mem, h_unread⟩)
        · cases h_ok
        · obtain rfl := Except.error.inj h_error
          rw [h_first.context] at h_mem
          exact .inr ⟨e, rfl, part, List.mem_append_right _ h_mem,
            h_first.recorded_error h_works.stores h_unread⟩
    · rintro e s₁ h₁ - (⟨_, h_ok, -⟩ | ⟨_, h_error, part, h_mem, h_unread⟩)
      · cases h_ok
      · obtain rfl := Except.error.inj h_error
        exact .inr ⟨e, rfl, part, List.mem_append_left _ h_mem, h_unread⟩

/-- **Carrying an interaction out** wires its parts on known groups, one after the other. It fails if
its group is not known or its primary action is no setting, and otherwise only if the record of the
group of a part cannot be read. -/
theorem carryOut_traces (hr : h.Reliable) (hs : h.Stores) (hb : h.scene.Built) (i : Interaction) :
    (carryOut i).Ends s h fun r s' h' =>
      (∃ a, r = .ok a ∧ ∃ collection h₀, Prepared s h h₀ ∧ s.Works collection h₀ ∧
        Trace collection (i.partsIn s.context) a.wirings s h₀ s' h') ∨
      ∃ e, r = .error e ∧ (s.context.group i.group = .error e ∨
        Setting.parse? i.primaryAction = none ∨
          ∃ part ∈ i.partsIn s.context, s.recorded h part.group = .error e) := by
  refine carryOut_ends_of_proceed (fun e h_error => ?_) fun g h_admitted =>
    proceed_ends_of_wireAll hr fun collection h₀ h_prepared h_collection => ?_
  · exact .inr ⟨e, rfl, (Session.of_admitted_eq_error h_error).imp id .inl⟩
  have h_group := (Session.admitted_eq_ok_iff.mp h_admitted).1
  have h_id : g.id = i.group := (Context.group_eq_ok h_group).2
  have h_works : s.Works collection h₀ := ⟨h_prepared.later.reliable hr,
    h_prepared.later.stores hs, h_prepared.later.built hb, h_collection⟩
  -- creating the collection leaves the storage alone, so what is on record reads as before
  have h_same (group : String) : s.recorded h₀ group = s.recorded h group :=
    Session.recorded_congr rfl rfl (by rw [h_prepared.storage])
  rw [Interaction.partsIn_eq (h_group ▸ rfl)]
  refine (wire_wires h_works i g).bind ?_ ?_
  · rintro main s₁ h₁ - (⟨_, h_ok, h_main⟩ | ⟨_, h_error, -⟩)
    swap
    · cases h_error
    obtain rfl := Except.ok.inj h_ok
    have h_main : Trace collection [i] [main] s h₀ s₁ h₁ := .cons h_group h_main .nil
    refine (nested_traces (h_main.works h_works) h_id i.nestedActions).bind ?_ ?_
    · rintro ws s₂ h₂ - (⟨_, h_ok, h_nested⟩ | ⟨_, h_error, -⟩)
      · obtain rfl := Except.ok.inj h_ok
        rw [h_main.context] at h_nested
        exact .inl ⟨_, rfl, collection, h₀, h_prepared, h_works, h_main.append h_nested⟩
      · cases h_error
    · rintro e s₂ h₂ - (⟨_, h_ok, -⟩ | ⟨_, h_error, part, h_mem, h_unread⟩)
      · cases h_ok
      · obtain rfl := Except.error.inj h_error
        rw [h_main.context] at h_mem
        exact .inr ⟨e, rfl, .inr (.inr ⟨part, List.mem_append_right _ h_mem,
          (h_same _).symm.trans (h_main.recorded_error h_works.stores h_unread)⟩)⟩
  · rintro e s₁ h₁ - (⟨_, h_ok, -⟩ | ⟨_, h_error, h_unread⟩)
    · cases h_ok
    · obtain rfl := Except.error.inj h_error
      exact .inr ⟨e, rfl, .inr (.inr ⟨i, List.mem_append_left _ (List.mem_singleton_self _),
        (h_same _).symm.trans h_unread⟩)⟩

end Authoring

/-! ### Accepted interactions -/

namespace Session.Accepts

variable {s : Session} {h : Host} {w : World Unit} {inbound : Inbound} {i : Interaction}
  {a : Authoring}

/-- The group of an accepted interaction is known. -/
theorem known (h_accepts : s.Accepts h inbound i a) :
    (s.context.group i.group).isOk = true := by
  obtain ⟨g, h_admitted, -⟩ := Authoring.of_carryOut h_accepts.carried
  have h_group : s.context.group i.group = .ok g := (admitted_eq_ok_iff.mp h_admitted).1
  rw [h_group]
  rfl

/-- **An interaction that is carried out begins with its own part.** -/
theorem partsIn_eq (h_accepts : s.Accepts h inbound i a) :
    i.partsIn s.context = i :: i.nestedIn s.context i.nestedActions :=
  Interaction.partsIn_eq h_accepts.known

/-- **What a world comes to when an interaction is accepted** is told by its parts. -/
theorem traces (hw : w.Sound) (h_stores : w.host.Stores)
    (h_handler : w.current.handlers.find? "create-interaction" = some .author)
    (h_accepts : w.current.Accepts w.host inbound i a) :
    ∃ collection h₀ s', Authoring.Prepared w.current.enter w.host h₀ ∧
      w.current.enter.Works collection h₀ ∧
        Authoring.Trace collection (i.partsIn w.current.context) a.wirings w.current.enter h₀ s'
          (w.advance (.message inbound)).host ∧
            s'.Alike (w.advance (.message inbound)).current := by
  have h_carried := Authoring.carryOut_traces (s := w.current.enter) hw.reliable h_stores hw.built i
  rw [Program.Ends, h_accepts.carried] at h_carried
  obtain ⟨_, h_ok, collection, h₀, h_prepared, h_works, h_trace⟩ | ⟨_, h_error, -⟩ := h_carried
  swap
  · cases h_error
  obtain rfl := Except.ok.inj h_ok
  obtain ⟨h_host, outbox, h_memory⟩ := World.advance_accepted h_handler h_accepts
  refine ⟨collection, h₀, _, h_prepared, h_works, h_host ▸ h_trace, ?_⟩
  rw [h_memory]
  exact ⟨rfl, rfl, rfl, rfl⟩

end Session.Accepts

end Clickwork

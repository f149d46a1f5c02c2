import Clickwork.Proofs.Accepted
import Clickwork.Proofs.Tied

/-!
# State variables begin with the instances' own values

Wiring a group creates a state variable for each instance, with what the instance shows at that
time. As long as records are not forgotten on demand, that is what the instance shows while it is
not bound, and never what an earlier click left in a variable (`World.originals_after`): whatever
the instance was bound to belonged to the interaction on record for its group
(`Session.Tied`), which gave way just before.

Forgetting the records on demand breaks this (`World.residue_after_forgetting`): the instances stay
bound to variables of an interaction that nothing remembers, and the next interaction captures what
the last click left in them.
-/

namespace Clickwork

open Program (Ends)

/-! ### Seeds -/

namespace Scene

/-- The variable is there and holds the text. -/
def Holds (t : Scene) (id text : String) : Prop :=
  ∃ v, t.variableTable.find? id = some v ∧ v.value = .str text

/-- The variable holds the text as long as it is there, and its id is not given out again. -/
structure HoldsOn (t : Scene) (id text : String) : Prop where
  value : ∀ v, t.variableTable.find? id = some v → v.value = .str text
  issued : ∀ n, t.nextId ≤ n → id ≠ variableId n

theorem Holds.on {t : Scene} (ht : t.WellFormed) {id text : String} (h : t.Holds id text) :
    t.HoldsOn id text := by
  obtain ⟨v, hv, h_value⟩ := h
  refine ⟨fun v' hv' => ?_, fun n hn h_id => ?_⟩
  · rw [← Option.some.inj (hv.symm.trans hv'), h_value]
  · rw [h_id, ht.find?_variableId hn] at hv
    cases hv

/-- Retiring interactions and wiring another one give no variable another value. -/
theorem HoldsOn.wired {t t₁ t' : Scene} {name collection id text : String} {ids : List String}
    {i : Interaction} {g : Group} (h : t.HoldsOn id text)
    (h_retired : t₁ = ids.foldl (Scene.retired name) t)
    (h_wired : Wiring.Wired collection i g t₁ t') : t'.HoldsOn id text := by
  have h_next : t₁.nextId = t.nextId := by rw [h_retired, nextId_retiredAll]
  have h_le := h_wired.extended.next_le
  refine ⟨fun v hv => ?_, fun n hn => h.issued n (by omega)⟩
  rcases h_wired.extended.new id v hv with hv₁ | ⟨-, -, -, n, hn, -, h_id⟩
  · rw [h_retired] at hv₁
    exact h.value v (find?_retiredAll.mp hv₁).1
  · exact (h.issued n (by omega) h_id).elim

end Scene

namespace Wiring

/-- **A wiring seeds its group**: if the primary property was resolved, each instance has a slot
with a variable, which holds in the given sense what the instance shows while it is not bound. -/
def Seeds (w : Wiring) (g : Group) (t : Scene) (holds : String → String → Prop) : Prop :=
  ∀ property, w.property = some property → ∃ slots, w.slots = some slots ∧
    List.Forall₂ (fun (i : Instance) slot => ∃ id, slot.target? = some id ∧
      holds id (t.ownValue i.id property)) g.instances slots

theorem Seeds.mono {w : Wiring} {g : Group} {t t' : Scene} {holds holds' : String → String → Prop}
    (h : w.Seeds g t holds) (h_kept : Scene.Kept t t')
    (h_imp : ∀ id text, holds id text → holds' id text) : w.Seeds g t' holds' := by
  intro property h_property
  obtain ⟨slots, h_slots, h_all⟩ := h property h_property
  refine ⟨slots, h_slots, h_all.imp ?_⟩
  rintro i slot ⟨id, h_target, h_holds⟩
  rw [h_kept.ownValue]
  exact ⟨id, h_target, h_imp _ _ h_holds⟩

/-- **Wiring a group whose instances are unbound seeds it** with the instances' own values. -/
theorem Performed.seeds {collection : String} {i : Interaction} {g : Group} {config : Config}
    {h : Host} {w : Wiring} {t : Scene} (h_performed : Performed collection i g config h w t)
    (hb : h.scene.Built) (h_kept : Scene.Kept h.scene t) (h_plain : h.scene.Plain)
    (h_unbound : ∀ node ∈ g.instances.map (·.id), ∀ n, h.scene.nodes.find? node = some n →
      n.bindings = ∅) : w.group = g.id ∧ w.Seeds g t t.Holds := by
  cases h_performed with
  | inert _ h_wiring =>
    -- no property was resolved
    rw [h_wiring]
    exact ⟨rfl, fun property h_property => by cases h_property⟩
  | @resolved primary property rs installed _ _ h_wiring h_scene =>
    obtain ⟨-, h_fresh, h_nodes⟩ := extended_marked hb collection i
    obtain ⟨n, h_n⟩ : ∃ n, n = (marked collection i h).scene.nextId := ⟨_, rfl⟩
    rw [h_wiring]
    refine ⟨rfl, fun property' h_property => ?_⟩
    obtain rfl : property = property' := Option.some.inj h_property
    refine ⟨_, rfl, List.forall₂_iff_get.mpr ?_⟩
    have h_targets := map_target?_slotsOf (plan collection i primary property)
      (marked collection i h) g
    have h_length := congrArg List.length h_targets
    simp only [List.length_map, Scene.length_idsFrom] at h_length
    refine ⟨h_length.symm, fun k hk hk' => ?_⟩
    -- the variable of the `k`-th slot is the one of the `k`-th placement
    have h_target := congrArg (·[k]?) h_targets
    simp only [List.getElem?_map, Scene.getElem?_idsFrom hk, ← h_n,
      List.getElem?_eq_getElem hk', Option.map_some, Option.some.injEq] at h_target
    have h_placement : (placements (plan collection i primary property) (marked collection i h)
        g.instances)[k]? = some (placement (plan collection i primary property)
          (marked collection i h) g.instances[k] k) := by
      rw [getElem?_placements, List.getElem?_eq_getElem hk, Option.map_some]
    have h_variable := Scene.find?_settleAll collection property h_fresh h_placement
    have h_table : t.variableTable = (Scene.settleAll collection property
        (marked collection i h).scene (placements (plan collection i primary property)
          (marked collection i h) g.instances)).variableTable := by
      rw [h_scene, variableTable_wired]
      rfl
    rw [← h_n, ← h_table] at h_variable
    -- it was created with what the unbound instance showed
    have h_own : (marked collection i h).scene.captured property g.instances[k].id =
        t.ownValue g.instances[k].id property := by
      rw [Scene.captured_of_unbound, h_kept.ownValue, Scene.ownValue, h_nodes, Scene.ownValue]
      · intro node n property value hn
        exact h_plain node n property value (h_nodes ▸ hn)
      · intro n hn
        rw [h_unbound _ (List.mem_map_of_mem (List.getElem_mem hk)) n (h_nodes ▸ hn)]
        rfl
    exact ⟨Scene.variableId (n + k), h_target, _, h_variable, congrArg Json.str h_own⟩

end Wiring

/-! ### Authoring -/

namespace Authoring

open Records (retiring)

variable {c : Context} {collection : String} {ws : List Wiring} {s : Session} {h : Host}

/-- **While an interaction is authored**, the wirings made so far have seeded their groups. Those of
the last one are all there; nested interactions may have retired others. -/
structure Seeding (c : Context) (collection : String) (ws : List Wiring) (s : Session) (h : Host) :
    Prop where
  reliable : h.Reliable
  built : h.scene.Built
  plain : h.scene.Plain
  tied : s.Tied h.scene
  context : s.context = c
  collection : h.scene.collections.find? s.config.collection = some collection
  seeds : ∀ w ∈ ws, ∃ g, c.group w.group = .ok g ∧ w.Seeds g h.scene h.scene.HoldsOn
  last : ∀ w, ws.getLast? = some w →
    ∃ g, c.group w.group = .ok g ∧ w.Seeds g h.scene h.scene.Holds

/-- **Wiring a part of an interaction seeds its group**, and spoils no other seeds. -/
theorem Seeding.wire (h_seeding : Seeding c collection ws s h) {part : Interaction} {g : Group}
    (h_group : c.group part.group = .ok g) :
    (wire collection part g).Ends s h fun r s' h' =>
      ∀ w, r = .ok w → Seeding c collection (ws ++ [w]) s' h' := by
  have hr := h_seeding.reliable
  have hb := h_seeding.built
  refine (wire_ends hr hb h_seeding.collection part g).mono ?_
  rintro r s' h' - (⟨⟨e, rfl⟩, -⟩ | ⟨w, s₁, h₁, rfl, h_loaded, h_later, h_later', h_replaced,
    h_performed, h_wired, -⟩) w' h_ok
  · cases h_ok
  · obtain rfl : w = w' := Except.ok.inj h_ok
    -- the record that was looked up ties bindings as the session did
    have h_tied₁ : s₁.Tied h.scene := Session.Stable.tied.act
      (a := .load part.group) (fun _ h_load => by cases h_load) hr hb (.refl h)
      (.load h_loaded rfl rfl) h_seeding.tied
    have h_config : s'.config = s.config := h_replaced.config.trans h_loaded.config
    have h_context : s'.context = c :=
      (h_replaced.context.trans h_loaded.context).trans h_seeding.context
    have h_group₁ : s₁.context.group part.group = .ok g := by
      rw [h_loaded.context, h_seeding.context]
      exact h_group
    have h_collection₁ : h₁.scene.collections.find? s.config.collection = some collection := by
      rw [h_replaced.collections]
      exact h_seeding.collection
    have hr₁ := h_later.reliable hr
    have hb₁ := h_later.built hb
    have h_kept := h_later.kept.trans h_later'.kept
    obtain ⟨h_name, h_seeds⟩ := h_performed.seeds hb₁ h_later'.kept
      (h_later.kept.plain h_seeding.plain) fun node h_mem n hn =>
        h_tied₁.bindings_eq_empty hb₁ h_later h_group₁ h_replaced h_mem hn
    have h_wiring : ∃ g, c.group w.group = .ok g ∧ w.Seeds g h'.scene h'.scene.Holds := by
      refine ⟨g, ?_, h_seeds⟩
      rw [h_name, (Context.group_eq_ok h_group).2]
      exact h_group
    refine ⟨h_later'.reliable hr₁, h_later'.built hb₁, h_kept.plain h_seeding.plain, ?_, h_context,
      ?_, fun w' h_mem => ?_, fun w' h_last => ?_⟩
    · refine h_tied₁.wire hb₁ h_later h_later'.kept h_group₁ ?_ h_replaced h_wired
      rw [h_loaded.config]
      exact h_seeding.collection
    · rw [h_config, h_wired.extended.collections]
      exact h_collection₁
    · rcases List.mem_append.mp h_mem with h_mem | h_mem
      · obtain ⟨g', h_group', h_seeds'⟩ := h_seeding.seeds w' h_mem
        exact ⟨g', h_group', h_seeds'.mono h_kept fun id text h_holds =>
          h_holds.wired h_replaced.scene h_wired⟩
      · obtain ⟨g', h_group', h_seeds'⟩ := h_wiring
        rw [List.mem_singleton.mp h_mem]
        exact ⟨g', h_group', h_seeds'.mono (.refl _) fun id text h_holds =>
          h_holds.on (h_later'.built hb₁).wellFormed⟩
    · rw [List.getLast?_concat] at h_last
      rw [← Option.some.inj h_last]
      exact h_wiring

/-- A nested action seeds its group, if it is carried out. -/
theorem Seeding.nestedAction (h_seeding : Seeding c collection ws s h) (i : Interaction) (g : Group)
    (action : NestedAction) : (wireNested collection i g action).Ends s h fun r s' h' =>
      ∀ w, r = .ok w → Seeding c collection (ws ++ w.toList) s' h' := by
  have h_skip : ∀ w, Except.ok none = (.ok w : Except Failure (Option Wiring)) →
      Seeding c collection (ws ++ w.toList) s h := by
    intro w h_ok
    rw [← Except.ok.inj h_ok]
    simpa using h_seeding
  refine wireNested_ends (fun _ _ => h_skip) (fun _ _ _ => h_skip) fun target h_target _ => ?_
  refine (h_seeding.wire (h_seeding.context ▸ h_target)).mono ?_
  rintro (e | w) s' h' - h_wired w' h_ok
  · cases h_ok
  · obtain rfl := Except.ok.inj h_ok
    exact h_wired w rfl

/-- **Nested actions seed their groups**, those that are carried out. -/
theorem Seeding.nested (h_seeding : Seeding c collection ws s h) (i : Interaction) (g : Group)
    (actions : List NestedAction) :
    (actions.mapM (wireNested collection i g)).Ends s h fun r s' h' =>
      ∀ nested, r = .ok nested → Seeding c collection (ws ++ nested.filterMap id) s' h' := by
  induction actions generalizing ws s h with
  | nil =>
    rintro nested h_ok
    obtain rfl := Except.ok.inj h_ok
    simpa using h_seeding
  | cons action actions ih =>
    -- the first action is carried out or passed over, and the others go on from there
    rw [List.mapM_cons]
    refine (h_seeding.nestedAction i g action).bind ?_ fun _ _ _ _ _ _ => nofun
    rintro w s' h' - h_wired
    refine (ih (h_wired w rfl)).bind ?_ fun _ _ _ _ _ _ => nofun
    rintro rest s'' h'' - h_rest nested h_ok
    obtain rfl := Except.ok.inj h_ok
    have h_all := h_rest rest rfl
    rw [List.append_assoc] at h_all
    cases w <;> exact h_all

/-- **Carrying an interaction out seeds the groups** that it wires. -/
theorem carryOut_seeds (hr : h.Reliable) (hb : h.scene.Built) (h_plain : h.scene.Plain)
    (h_tied : s.Tied h.scene) (i : Interaction) :
    (carryOut i).Ends s h fun r s' h' => ∀ a, r = .ok a →
      ∃ collection, Seeding s.context collection a.wirings s' h' := by
  refine carryOut_ends_of_proceed (fun _ _ _ => nofun) fun g h_admitted =>
    proceed_ends_of_wireAll hr fun collection h₁ h_prepared h_collection => ?_
  have h_group := (Session.admitted_eq_ok_iff.mp h_admitted).1
  have h_tied₁ : s.Tied h₁.scene :=
    Session.Stable.tied.steps hr hb (h_prepared.steps (fun _ => nofun) .refl) h_tied
  have h_seeding : Seeding s.context collection [] s h₁ :=
    ⟨h_prepared.later.reliable hr, h_prepared.later.built hb, h_prepared.later.kept.plain h_plain,
      h_tied₁, rfl, h_collection, fun w h_mem => (List.not_mem_nil h_mem).elim, by simp⟩
  refine (h_seeding.wire h_group).bind ?_ fun _ _ _ _ _ _ => nofun
  rintro main s₂ h₂ - h_main
  refine ((h_main main rfl).nested i g i.nestedActions).bind ?_ fun _ _ _ _ _ _ => nofun
  rintro nested s₃ h₃ - h_nested a h_ok
  obtain rfl := Except.ok.inj h_ok
  exact ⟨collection, h_nested nested rfl⟩

end Authoring

/-! ### Histories -/

namespace World

/-- **State variables begin with the instances' own values.** Let a session begin on a scene that
can be built, whose static values are texts and where no property is bound. After any messages that
do not ask to forget the stored records, any selections and clicks, and any failures of storage
calls and bindings, let an interaction be accepted. Every group that was wired for it is seeded: the
state variable of each instance holds what the instance shows while it is not bound. The variables
of the group wired last are all there; a nested interaction may have retired others meanwhile. -/
theorem originals_after (w w₁ : World Unit) (moves : List Move) (config : Config)
    (listeners : List String) (h_start : w.current = Session.start config listeners)
    (h_built : w.host.scene.Built) (h_reliable : w.host.Reliable) (h_plain : w.host.scene.Plain)
    (h_unbound : ∀ node n, w.host.scene.nodes.find? node = some n → n.bindings = ∅)
    (h_mild : ∀ m ∈ moves, m.Mild) (h_retains : ∀ m ∈ moves, m.Retains config)
    (h_reached : w.after moves = w₁) (inbound : Inbound) (i : Interaction) (a : Authoring)
    (h_accepts : w₁.current.Accepts w₁.host inbound i a) :
    let t := (w₁.advance (.message inbound)).host.scene
    (w₁.advance (.message inbound)).current.lastAuthoring = some a ∧
      (∀ wiring ∈ a.wirings, ∃ g, w₁.current.context.group wiring.group = .ok g ∧
        wiring.Seeds g t t.HoldsOn) ∧
      ∀ wiring, a.wirings.getLast? = some wiring →
        ∃ g, w₁.current.context.group wiring.group = .ok g ∧ wiring.Seeds g t t.Holds := by
  intro t
  have h_initial : w.current.Configured config ∧
      w.current.Tied w.host.scene ∧ w.host.scene.Plain := by
    rw [h_start]
    refine ⟨⟨rfl, rfl⟩, .of_unbound (fun g hg => ?_) h_unbound, h_plain⟩
    cases hg
  have h_stable : Session.Stable (fun a => ∀ group, a ≠ .purge group) fun s h =>
      s.Tied h.scene ∧ h.scene.Plain :=
    Session.Stable.tied.and ⟨fun _ h_plain => h_plain,
      fun _ _ _ h_later _ h_plain => h_later.kept.plain h_plain⟩
  have h_moves : ∀ m ∈ moves, m.Keeps fun s h =>
      s.Configured config ∧ s.Tied h.scene ∧ h.scene.Plain := by
    intro m hm
    have h_keeps := fun h_calm : m.Calm => (h_retains m hm).keeps h_calm h_stable
      fun s h t h_used hI => ⟨hI.1.used h_used, h_used.kept.plain hI.2⟩
    cases m with
    | failOn | outage => exact ⟨h_mild _ hm, fun w _ hI => hI⟩
    | message | notice | select | click | restart => exact h_keeps trivial
  obtain ⟨h_sound, ⟨-, h_handlers⟩, h_tied, h_plain₁⟩ :=
    World.after_keeps h_moves ⟨h_reliable, h_built⟩ h_initial
  rw [h_reached] at h_sound h_handlers h_tied h_plain₁
  have h_handler : w₁.current.handlers.find? "create-interaction" = some .author := by
    rw [h_handlers]
    rfl
  -- the guard that is held while the interaction is carried out does not matter
  have h_alike : w₁.current.Alike w₁.current.enter := ⟨rfl, rfl, rfl, rfl⟩
  have h_tied' : w₁.current.enter.Tied w₁.host.scene :=
    Session.Stable.tied.quiet (h := w₁.host) h_alike h_tied
  have h_seeds := Authoring.carryOut_seeds h_sound.reliable h_sound.built h_plain₁ h_tied' i
  obtain ⟨collection, h_seeding⟩ := h_seeds a h_accepts.carried
  obtain ⟨h_host, outbox, h_current⟩ := World.advance_accepted h_handler h_accepts
  have h_scene : t = ((Authoring.carryOut i).outcome w₁.current.enter w₁.host).2.2.scene :=
    congrArg Host.scene h_host
  rw [h_scene, h_current]
  exact ⟨rfl, h_seeding.seeds, h_seeding.last⟩

/-- The tabs are authored with the badges, a tab is clicked, and the tabs are authored once more:
the tab that shows `On` begins with `Off` again. -/
theorem originals_after_click :
    ∃ w₁ a, panel.after [.notice, .message (.authoring (.switchingOn "tabs" 1 ["badges"])),
        .click "tab-1"] = w₁ ∧
      w₁.current.Accepts w₁.host (.authoring (.switchingOn "tabs" 2 []))
        (.switchingOn "tabs" 2 []) a ∧
      let t := (w₁.advance (.message (.authoring (.switchingOn "tabs" 2 [])))).host.scene
      (w₁.advance (.message (.authoring (.switchingOn "tabs" 2 [])))).current.lastAuthoring =
          some a ∧
        (∀ wiring ∈ a.wirings, ∃ g, w₁.current.context.group wiring.group = .ok g ∧
          wiring.Seeds g t t.HoldsOn) ∧
        ∀ wiring, a.wirings.getLast? = some wiring →
          ∃ g, w₁.current.context.group wiring.group = .ok g ∧ wiring.Seeds g t t.Holds := by
  obtain ⟨w₁, h_reached⟩ : ∃ w₁, panel.after [.notice,
    .message (.authoring (.switchingOn "tabs" 1 ["badges"])), .click "tab-1"] = w₁ := ⟨_, rfl⟩
  obtain ⟨a, h_accepts⟩ : ∃ a, w₁.current.Accepts w₁.host
      (.authoring (.switchingOn "tabs" 2 [])) (.switchingOn "tabs" 2 []) a := by
    refine accepts_authoring ?_ rfl ?_ <;> rw [← h_reached] <;> decide +kernel
  have h_values : ∀ e ∈ Scene.panel.nodes.entries, ∀ v ∈ e.2.properties.entries,
      v.2.kind = .str := by
    decide +kernel
  refine ⟨w₁, a, h_reached, h_accepts, ?_⟩
  refine originals_after panel w₁ _ {} [] rfl Scene.built_panel sound_panel.reliable ?_ ?_ ?_ ?_
    h_reached _ _ a h_accepts
  · intro node n property value hn h_value
    have h_kind := h_values _ (Registry.find?_eq_some_iff.mp hn) _
      (Registry.find?_eq_some_iff.mp h_value)
    cases value with
    | str text => exact ⟨text, rfl⟩
    | _ => cases h_kind
  · exact Scene.unbound_of_entries (by decide +kernel)
  · intro m hm
    simp only [List.mem_cons, List.not_mem_nil, or_false] at hm
    rcases hm with rfl | rfl | rfl <;> trivial
  · intro m hm
    simp only [List.mem_cons, List.not_mem_nil, or_false] at hm
    rcases hm with rfl | rfl | rfl
    · trivial
    · exact Move.retains_authoring _ _
    · trivial

/-- **Forgetting the records leaves residue.** The tabs are authored, a tab is clicked, the stored
records are forgotten, and the tabs are authored under another id. The tab is still bound to the
first interaction's variable, and the new variable begins with what the click left in it. -/
theorem residue_after_forgetting :
    ∃ w₁ a, panel.after [.notice, .message (.authoring (.switchingOn "tabs" 1 [])),
        .click "tab-1", .message (.envelope { type := "cleanup-stored-data" })] = w₁ ∧
      w₁.current.Accepts w₁.host (.authoring (.switchingOn "tabs" 2 []))
        (.switchingOn "tabs" 2 []) a ∧
      let t := (w₁.advance (.message (.authoring (.switchingOn "tabs" 2 [])))).host.scene
      ∃ g, w₁.current.context.group a.main.group = .ok g ∧ ¬a.main.Seeds g t t.HoldsOn := by
  obtain ⟨w₁, h_reached⟩ : ∃ w₁, panel.after [.notice,
    .message (.authoring (.switchingOn "tabs" 1 [])), .click "tab-1",
    .message (.envelope { type := "cleanup-stored-data" })] = w₁ := ⟨_, rfl⟩
  obtain ⟨a, h_accepts⟩ : ∃ a, w₁.current.Accepts w₁.host
      (.authoring (.switchingOn "tabs" 2 [])) (.switchingOn "tabs" 2 []) a := by
    refine accepts_authoring ?_ rfl ?_ <;> rw [← h_reached] <;> decide +kernel
  have h_main : ((Authoring.carryOut (.switchingOn "tabs" 2 [])).outcome w₁.current.enter
      w₁.host).1.toOption.map (fun a => (a.main.group, a.main.property,
        (a.main.slots.map fun slots => slots.map Slot.target?))) =
      some ("tabs", some "State", some [some "VariableID:6", some "VariableID:7"]) := by
    rw [← h_reached]
    decide +kernel
  have h_instances : (w₁.current.context.group "tabs").toOption.map
      (fun g => g.instances.map (·.id)) = some ["tab-1", "tab-2"] := by
    rw [← h_reached]
    decide +kernel
  obtain ⟨t, h_t⟩ : ∃ t, (w₁.advance (.message (.authoring
    (.switchingOn "tabs" 2 [])))).host.scene = t := ⟨_, rfl⟩
  have h_left : (t.variableTable.find? "VariableID:6").map (fun v => v.value.shown) =
      some "On" := by
    rw [← h_t, ← h_reached]
    decide +kernel
  have h_own : t.ownValue "tab-1" "State" = "Off" := by
    rw [← h_t, ← h_reached]
    decide +kernel
  rw [h_accepts.carried] at h_main
  simp only [Except.toOption, Option.map_some, Option.some.injEq, Prod.mk.injEq] at h_main
  obtain ⟨h_group, h_property, h_slots⟩ := h_main
  refine ⟨w₁, a, h_reached, h_accepts, ?_⟩
  simp only [h_t, h_group]
  cases h_tabs : w₁.current.context.group "tabs" with
  | error e =>
    rw [h_tabs] at h_instances
    cases h_instances
  | ok g =>
    simp only [h_tabs, Except.toOption, Option.map_some, Option.some.injEq] at h_instances
    refine ⟨g, rfl, fun h_seeds => ?_⟩
    obtain ⟨slots, h_some, h_all⟩ := h_seeds "State" h_property
    rw [h_some, Option.map_some, Option.some.injEq] at h_slots
    -- the first tab's new variable would hold what the tab shows while it is not bound
    generalize g.instances = instances at h_instances h_all
    rcases instances with _ | ⟨tab, rest⟩
    · cases h_instances
    rcases h_all with _ | ⟨⟨id, h_target, h_holds⟩, -⟩
    rw [List.map_cons, List.cons.injEq] at h_slots h_instances
    obtain rfl : id = "VariableID:6" := Option.some.inj (h_target.symm.trans h_slots.1)
    rw [h_instances.1, h_own] at h_holds
    obtain ⟨v, hv, h_shown⟩ := Option.map_eq_some_iff.mp h_left
    rw [h_holds.value v hv] at h_shown
    exact absurd h_shown (by decide)

end World

end Clickwork

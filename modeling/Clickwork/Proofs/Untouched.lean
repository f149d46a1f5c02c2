import Clickwork.Proofs.Separate

/-!
# Authoring leaves other groups untouched

Authoring one of separate groups leaves another group and its interaction untouched
(`Session.Untouched`), unless that interaction is nested in the one that gives way or in the new
one: the record in memory and in the storage, the variables with their values, and the instances
with their bindings and reactions. `World.untouched_after` says so for all that can be reached by
authoring from a scene without managed variables.

The reason is that no variable of the other interaction belongs to an interaction that is retired
(`Interaction.MadeFor.apart`), so retiring finds neither a variable nor an instance to change.
-/

namespace Clickwork

open Interaction (MadeFor)
open Records (Drops Replaced mem_retiring ownedBy retiring)

namespace Session

variable {s s' : Session} {h h' : Host}

/-! ### What is left untouched -/

/-- **A group and its interaction are left untouched**: the records, the variables of the
interaction with their values, and the instances with their bindings and reactions. -/
structure Untouched (g : Group) (r : Interaction) (s : Session) (h : Host) (s' : Session)
    (h' : Host) : Prop where
  record : s'.records.find? g.id = s.records.find? g.id
  stored : h'.storage.texts.find? (s'.config.storageKey g.id) =
    h.storage.texts.find? (s.config.storageKey g.id)
  owned : ∀ id v, Wiring.Names r v.name →
    (h'.scene.variableTable.find? id = some v ↔ h.scene.variableTable.find? id = some v)
  instances : ∀ i ∈ g.instances, h'.scene.nodes.find? i.id = h.scene.nodes.find? i.id

section Untouched

variable {g : Group} {r : Interaction}

theorem Untouched.refl (g : Group) (r : Interaction) (s : Session) (h : Host) :
    Untouched g r s h s h :=
  ⟨rfl, rfl, fun _ _ _ => .rfl, fun _ _ => rfl⟩

theorem Untouched.trans {s₁ s₂ s₃ : Session} {h₁ h₂ h₃ : Host} (hu : Untouched g r s₁ h₁ s₂ h₂)
    (hu' : Untouched g r s₂ h₂ s₃ h₃) : Untouched g r s₁ h₁ s₃ h₃ where
  record := hu'.record.trans hu.record
  stored := hu'.stored.trans hu.stored
  owned := fun id v h_name => (hu'.owned id v h_name).trans (hu.owned id v h_name)
  instances := fun i hi => (hu'.instances i hi).trans (hu.instances i hi)

/-- A change that leaves the records, the stored texts, the nodes and the variables alone. -/
theorem Untouched.of_eq (h_records : s'.records = s.records) (h_config : s'.config = s.config)
    (h_storage : h'.storage = h.storage) (h_nodes : h'.scene.nodes = h.scene.nodes)
    (h_variables : h'.scene.variableTable = h.scene.variableTable) : Untouched g r s h s' h' where
  record := by rw [h_records]
  stored := by rw [h_config, h_storage]
  owned := fun id v _ => by rw [h_variables]
  instances := fun i _ => by rw [h_nodes]

/-- **No variable of an interaction on another group is retired**, unless the interaction belongs to
one that is retired. -/
theorem Separate.not_ownedBy (hs : s.Separate h) {i : Interaction} {g' : Group}
    (h_made : MadeFor i.group i.id) (h_group' : s.context.group i.group = .ok g')
    (h_other : g.id ≠ i.group) (h_record : s.records.find? g.id = some r) {name : String}
    (h_name : Wiring.Names r name) {interaction : String}
    (h_mem : interaction ∈ retiring (s.records.find? i.group) i)
    (h_apart : ownedBy interaction r.id = false) : ownedBy interaction name = false := by
  have h_made' : MadeFor i.group interaction := by
    rcases mem_retiring.mp h_mem with rfl | ⟨p, h_previous, rfl⟩
    · exact h_made
    · exact (hs.made i.group p h_previous).1
  obtain ⟨h_made_r, h_plain⟩ := hs.made g.id r h_record
  -- else the interaction would belong to the retired one, by what their ids are made of
  rw [← Bool.not_eq_true]
  intro h_owned
  have h_nested := h_made_r.apart h_made' h_other h_plain (hs.underscore_not_mem h_group') h_name
    h_owned
  rw [h_apart] at h_nested
  cases h_nested

/-- **Retiring leaves the instances of a group alone** if it leaves the variables of the group's
interaction alone: they are bound to no other managed variables, and set no others. -/
theorem Separate.find?_retiredAll (hs : s.Separate h) {ids : List String}
    (h_group : s.context.group g.id = .ok g) (h_record : s.records.find? g.id = some r)
    (h_names : ∀ name, Wiring.Names r name → ∀ id ∈ ids, ownedBy id name = false) {j : Instance}
    (hj : j ∈ g.instances) :
    (ids.foldl (Scene.retired s.config.collection) h.scene).nodes.find? j.id =
      h.scene.nodes.find? j.id := by
  refine Scene.nodes_retiredAll fun interaction h_mem => ⟨?_, ?_⟩
  · intro n property target v hn h_bound hv h_managed
    obtain ⟨r', h_record', h_name⟩ :=
      hs.bindings g.id g h_group j hj n property target v hn h_bound hv h_managed
    obtain rfl := Option.some.inj (h_record.symm.trans h_record')
    exact h_names v.name h_name interaction h_mem
  · intro target v h_sets hv h_managed
    obtain ⟨v', hv', h_name⟩ := hs.reactions g.id g r h_group h_record j hj target h_sets
    obtain rfl := Option.some.inj (hv.symm.trans hv')
    exact h_names v.name h_name interaction h_mem

/-- **Wiring an interaction onto one group leaves another untouched**, unless the other's
interaction belongs to the one that gives way or to the new one. -/
theorem Separate.untouched (hs : s.Separate h) {i : Interaction} {g' : Group} {collection : String}
    {h₁ : Host} (h_made : MadeFor i.group i.id) (h_group' : s.context.group i.group = .ok g')
    (h_group : s.context.group g.id = .ok g) (h_other : g.id ≠ i.group)
    (h_record : s.records.find? g.id = some r)
    (h_apart : ∀ interaction ∈ retiring (s.records.find? i.group) i,
      ownedBy interaction r.id = false)
    (h_replaced : Replaced (retiring (s.records.find? i.group) i) i s s' h h₁)
    (h_wired : Wiring.Wired collection i g' h₁.scene h'.scene)
    (h_storage : h'.storage = h₁.storage) : Untouched g r s h s' h' := by
  have h_names : ∀ name, Wiring.Names r name →
      ∀ interaction ∈ retiring (s.records.find? i.group) i, ownedBy interaction name = false :=
    fun name h_name interaction h_mem => hs.not_ownedBy h_made h_group' h_other h_record h_name
      h_mem (h_apart interaction h_mem)
  have h_kept : ¬Drops (retiring (s.records.find? i.group) i) s g.id := by
    rintro ⟨r', h_record', h_any⟩
    obtain rfl := Option.some.inj (h_record.symm.trans h_record')
    obtain ⟨interaction, h_mem, h_nested⟩ := List.any_eq_true.mp h_any
    rw [h_apart interaction h_mem] at h_nested
    cases h_nested
  refine ⟨h_replaced.find?_kept h_other h_kept, ?_, fun id v h_name => ⟨fun hv => ?_, fun hv => ?_⟩,
    fun j hj => ?_⟩
  · rw [h_replaced.config, h_storage]
    exact h_replaced.kept g.id h_other h_kept
  · rcases h_wired.extended.new id v hv with hv | ⟨-, -, h_new, -⟩
    · rw [h_replaced.scene] at hv
      exact (Scene.find?_retiredAll.mp hv).1
    · -- a new variable belongs to the new interaction, and this one does not
      have h_left := h_names v.name h_name i.id (mem_retiring.mpr (Or.inl rfl))
      rw [h_new.ownedBy] at h_left
      cases h_left
  · refine h_wired.extended.old id v ?_
    rw [h_replaced.scene]
    exact Scene.find?_retiredAll.mpr ⟨hv, fun _ => h_names v.name h_name⟩
  · rw [h_wired.frame j.id (hs.not_mem_instances h_group h_group' h_other hj), h_replaced.scene]
    exact hs.find?_retiredAll h_group h_record h_names hj

/-! ### While an interaction is authored -/

/-- **Another group while an interaction is authored**: its interaction is on record, does not
belong to the one on record for the authored group, and is untouched so far. -/
structure Aside (i : Interaction) (g : Group) (r : Interaction) (s₀ : Session) (h₀ : Host)
    (s : Session) (h : Host) : Prop where
  separate : s.Separate h
  group : s.context.group g.id = .ok g
  record : s.records.find? g.id = some r
  apart : ∀ p, s.records.find? i.group = some p → ownedBy p.id r.id = false
  untouched : Untouched g r s₀ h₀ s h

/-- **The acts of authoring an interaction without nested actions.** -/
def AuthorsOne (i : Interaction) : Act → Prop
  | .load _ | .create => True
  | .wire i' part => i' = i ∧ part = i
  | _ => False

theorem Stable.aside {i : Interaction} {t : Int}
    (h_id : i.id = Interaction.freshId i.group (.int t)) (h_other : g.id ≠ i.group)
    (h_new : ownedBy i.id r.id = false) (s₀ : Session) (h₀ : Host) :
    Stable (AuthorsOne i) (Aside i g r s₀ h₀) where
  quiet := by
    intro s s' h h_alike hs
    have h_context : s'.context.group g.id = s.context.group g.id := by
      rw [Context.group, h_alike.groups, Context.group]
    refine ⟨Stable.separate.quiet h_alike hs.separate, h_context.trans hs.group, ?_, ?_, ?_⟩
    · rw [h_alike.records]
      exact hs.record
    · rw [h_alike.records]
      exact hs.apart
    · exact hs.untouched.trans (.of_eq h_alike.records h_alike.config rfl rfl rfl)
  act := by
    rintro a s s' h h' h_may hr hb h_later h_step hs
    have h_authors : Authors a := by
      cases a with
      | load | create => trivial
      | wire i' part =>
        obtain ⟨rfl, rfl⟩ := h_may
        exact ⟨List.mem_cons_self, t, h_id⟩
      | analyse | sweep | purge | close => exact h_may.elim
    have h_separate := Stable.separate.act h_authors hr hb h_later h_step hs.separate
    cases h_step with
    | load h_loaded h_scene h_storage =>
      -- memory and storage agree, so nothing is loaded
      obtain rfl := hs.separate.consistent.of_loaded h_loaded
      refine ⟨h_separate, hs.group, hs.record, hs.apart, hs.untouched.trans ?_⟩
      exact .of_eq rfl rfl h_storage (by rw [h_scene]) (by rw [h_scene])
    | create h_absent h_scene h_storage =>
      refine ⟨h_separate, hs.group, hs.record, hs.apart, hs.untouched.trans ?_⟩
      exact .of_eq rfl rfl h_storage (by rw [h_scene]; rfl) (by rw [h_scene]; rfl)
    | wire i' part g' collection h_authored h_group h_collection h_between h_replaced h_wired
        h_storage =>
      obtain ⟨rfl, rfl⟩ := h_may
      have h_plain := hs.separate.underscore_not_mem h_group
      have h_made := Interaction.madeFor_of_mem_parts List.mem_cons_self h_id h_plain
      have h_apart : ∀ interaction ∈ retiring (s.records.find? part.group) part,
          ownedBy interaction r.id = false := by
        intro interaction h_mem
        rcases mem_retiring.mp h_mem with rfl | ⟨p, h_previous, rfl⟩
        · exact h_new
        · exact hs.apart p h_previous
      have h_untouched := hs.separate.untouched h_made h_group hs.group h_other hs.record h_apart
        h_replaced h_wired h_storage
      refine ⟨h_separate, h_replaced.context ▸ hs.group, h_untouched.record.trans hs.record, ?_,
        hs.untouched.trans h_untouched⟩
      -- the record of the authored group is the new interaction from now on
      intro p h_record
      rw [← Option.some.inj (h_replaced.find?_self.symm.trans h_record)]
      exact h_new
    | analyse | sweep | purge | close => exact h_may.elim

end Untouched

/-! ### Histories of authoring -/

/-- What an analysis does. -/
theorem analyses_of_does {data : Json} {a : Act} (h_does : Handler.analyse.Does data a) :
    Analyses a := by
  cases a with
  | load | create | analyse => trivial
  | wire => cases h_does.1
  | sweep | purge | close => cases h_does

end Session

/-- **A move before anything is authored**: an analysis, a selection or a click. -/
def Move.Opens (config : Config) : Move → Prop
  | .message inbound => ∀ e, inbound.toEnvelope config.limits = .ok e → e.type = "init"
  | .notice | .select _ | .click _ => True
  | _ => False

/-- **A move of authoring**: a click, or an interaction whose id was made from its group's id and a
time. -/
def Move.Authors (config : Config) : Move → Prop
  | .message inbound => ∀ e, inbound.toEnvelope config.limits = .ok e →
      e.type = "create-interaction" ∧ ∀ i, Interaction.ofJson e.data = .ok i →
        ∃ t : Int, i.id = Interaction.freshId i.group (.int t)
  | .click _ => True
  | _ => False

theorem Move.Opens.keeps {config : Config} {m : Move} (hm : m.Opens config) :
    m.Keeps fun s h => s.Configured config ∧ s.Blank h := by
  have h_stable := (Session.Stable.configured _ config).and Session.Stable.blank
  cases m with
  | message inbound =>
    refine .message h_stable ?_
    rintro s h ⟨⟨rfl, h_handlers⟩, -⟩ a ⟨e, handler, h_decoded, h_handler, h_does⟩
    rw [h_handlers, hm e h_decoded] at h_handler
    obtain rfl : Handler.analyse = handler := Option.some.inj h_handler
    exact Session.analyses_of_does h_does
  | notice => exact .notice h_stable fun a h_does => Session.analyses_of_does h_does
  | select ids => exact .select (fun _ _ _ h_used hI => ⟨hI.1, hI.2.used h_used⟩) ids
  | click node => exact .click (fun _ _ _ h_used hI => ⟨hI.1, hI.2.used h_used⟩) node
  | restart | failOn | outage => exact hm.elim

theorem Move.Authors.keeps {config : Config} {m : Move} (hm : m.Authors config) :
    m.Keeps fun s h => s.Configured config ∧ s.Separate h := by
  have h_stable := (Session.Stable.configured _ config).and Session.Stable.separate
  cases m with
  | message inbound =>
    refine .message h_stable ?_
    rintro s h ⟨⟨rfl, h_handlers⟩, -⟩ a ⟨e, handler, h_decoded, h_handler, h_does⟩
    obtain ⟨h_type, h_ids⟩ := hm e h_decoded
    rw [h_handlers, h_type] at h_handler
    obtain rfl : Handler.author = handler := Option.some.inj h_handler
    cases a with
    | load | create => trivial
    | wire i part => exact ⟨h_does.2.2, h_ids i h_does.2.1⟩
    | analyse | sweep | purge | close => cases h_does
  | click node => exact .click (fun _ _ _ h_used hI => ⟨hI.1, hI.2.used h_used⟩) node
  | notice | select | restart | failOn | outage => exact hm.elim

/-- **Authoring one group leaves unrelated groups untouched.** A session begins on a scene that can
be built and has no managed variables, with an empty storage that works; after analyses (the
opening) the ids of groups have no underscores. Then interactions are authored, nested actions
included, whose ids are made from their groups' ids and times, with clicks in between.

Let one more interaction be authored so, without nested actions. It leaves untouched every group
other than its own whose interaction is nested neither in the one that gives way nor in the new
one. -/
theorem World.untouched_after (w w₁ : World Unit) (opening authoring : List Move) (config : Config)
    (listeners : List String) (h_start : w.current = Session.start config listeners)
    (h_built : w.host.scene.Built) (h_reliable : w.host.Reliable) (h_stores : w.host.Stores)
    (h_accepts : w.host.scene.rejectingReactions = [])
    (h_empty : ∀ key, w.host.storage.texts.find? key = none)
    (h_clean : ∀ id v, w.host.scene.variableTable.find? id = some v →
      w.host.scene.collections.find? config.collection ≠ some v.collection)
    (h_opening : ∀ m ∈ opening, m.Opens config)
    (h_plain : ∀ g ∈ (w.after opening).current.context.groups, '_' ∉ g.id.toList)
    (h_authoring : ∀ m ∈ authoring, m.Authors config)
    (h_reached : w.after (opening ++ authoring) = w₁)
    (inbound : Inbound) (e : Envelope) (i : Interaction) (t : Int)
    (h_decoded : inbound.toEnvelope config.limits = .ok e) (h_type : e.type = "create-interaction")
    (h_data : Interaction.ofJson e.data = .ok i)
    (h_id : i.id = Interaction.freshId i.group (.int t)) (h_single : i.nestedActions = [])
    (g : Group) (r : Interaction) (h_group : w₁.current.context.group g.id = .ok g)
    (h_other : g.id ≠ i.group) (h_record : w₁.current.records.find? g.id = some r)
    (h_superseded : ∀ p, w₁.current.records.find? i.group = some p → ownedBy p.id r.id = false)
    (h_new : ownedBy i.id r.id = false) :
    Session.Untouched g r w₁.current w₁.host (w₁.advance (.message inbound)).current
      (w₁.advance (.message inbound)).host := by
  have h_blank : w.current.Configured config ∧ w.current.Blank w.host := by
    rw [h_start]
    refine ⟨⟨rfl, rfl⟩, ⟨h_stores, h_accepts, fun g hg => ?_, fun group _ => h_empty _⟩, ?_,
      fun _ => rfl⟩
    · cases hg
    · exact fun id v hv h_managed => (h_clean id v hv h_managed).elim
  -- the opening leaves things blank, so groups are separate, and authoring keeps them so
  obtain ⟨h_sound, h_configured, h_blank⟩ :=
    World.after_keeps (fun m hm => (h_opening m hm).keeps) ⟨h_reliable, h_built⟩ h_blank
  have h_separate := Session.Separate.of_blank h_blank h_plain
  obtain ⟨h_sound₁, h_configured₁, h_separate₁⟩ :=
    World.after_keeps (fun m hm => (h_authoring m hm).keeps) h_sound ⟨h_configured, h_separate⟩
  have h_same : (w.after opening).after authoring = w₁ := by
    rw [← h_reached, World.after, World.after, World.after, List.foldl_append]
  rw [h_same] at h_sound₁ h_configured₁ h_separate₁
  have h_aside : Session.Aside i g r w₁.current w₁.host w₁.current w₁.host :=
    ⟨h_separate₁, h_group, h_record, h_superseded, .refl _ _ _ _⟩
  have h_stable := Session.Stable.aside (r := r) h_id h_other h_new w₁.current w₁.host
  have h_keeps : (Move.message inbound).Keeps fun s h =>
      s.Configured config ∧ Session.Aside i g r w₁.current w₁.host s h := by
    refine .message ((Session.Stable.configured _ config).and h_stable) ?_
    rintro s h ⟨⟨rfl, h_handlers⟩, -⟩ a ⟨e', handler, h_decoded', h_handler, h_does⟩
    obtain rfl := Except.ok.inj (h_decoded.symm.trans h_decoded')
    rw [h_handlers, h_type] at h_handler
    obtain rfl : Handler.author = handler := Option.some.inj h_handler
    cases a with
    | load | create => trivial
    | wire i' part =>
      -- without nested actions the interaction is its only part
      obtain ⟨-, h_data', h_part⟩ := h_does
      obtain rfl := Except.ok.inj (h_data.symm.trans h_data')
      rw [Interaction.parts, h_single] at h_part
      exact ⟨rfl, List.mem_singleton.mp h_part⟩
    | analyse | sweep | purge | close => cases h_does
  exact (h_keeps.2 w₁ h_sound₁ ⟨h_configured₁, h_aside⟩).2.untouched

/-- The tabs are authored with the badges, then the badges by themselves, and the tabs once more. -/
theorem World.untouched_after_reauthoring :
    ∃ (w₁ : World Unit) (g : Group) (r : Interaction),
      World.panel.after ([.notice] ++ [.message (.authoring (.switchingOn "tabs" 1 ["badges"])),
        .message (.authoring (.switchingOn "badges" 2 [])), .click "badge-1"]) = w₁ ∧
      w₁.current.context.group "badges" = .ok g ∧
      w₁.current.records.find? "badges" = some r ∧
      Session.Untouched g r w₁.current w₁.host
        (w₁.advance (.message (.authoring (.switchingOn "tabs" 3 [])))).current
        (w₁.advance (.message (.authoring (.switchingOn "tabs" 3 [])))).host := by
  obtain ⟨w₁, h_reached⟩ : ∃ w₁, World.panel.after ([.notice] ++
      [.message (.authoring (.switchingOn "tabs" 1 ["badges"])),
        .message (.authoring (.switchingOn "badges" 2 [])), .click "badge-1"]) = w₁ := ⟨_, rfl⟩
  have h_tabs : (w₁.current.records.find? "tabs").map (·.id) = some "tabs_1" := by
    rw [← h_reached]
    decide +kernel
  have h_badges : (w₁.current.records.find? "badges").map (·.id) = some "badges_2" := by
    rw [← h_reached]
    decide +kernel
  have h_known : (w₁.current.context.groups.find? (·.id == "badges")).isSome = true := by
    rw [← h_reached]
    decide +kernel
  obtain ⟨r, h_record, h_id⟩ := Option.map_eq_some_iff.mp h_badges
  obtain ⟨g, h_find⟩ := Option.isSome_iff_exists.mp h_known
  have h_group : w₁.current.context.group "badges" = .ok g := by rw [Context.group, h_find]
  have h_name : g.id = "badges" := (Context.group_eq_ok h_group).2
  refine ⟨w₁, g, r, h_reached, h_group, h_record, ?_⟩
  refine World.untouched_after World.panel w₁ _ _ {} [] rfl Scene.built_panel
    World.sound_panel.reliable ⟨rfl, fun _ _ => rfl⟩ (by decide +kernel) (fun _ => rfl)
    (fun id v hv => ?_) (fun m hm => ?_) (by decide +kernel) (fun m hm => ?_) h_reached _
    { type := "create-interaction", data := (Interaction.switchingOn "tabs" 3 []).toJson }
    (.switchingOn "tabs" 3 []) 3 rfl rfl rfl rfl rfl g r ?_ ?_ ?_ (fun p hp => ?_) ?_
  · cases hv
  · rw [List.mem_singleton.mp hm]
    trivial
  · simp only [List.mem_cons, List.not_mem_nil, or_false] at hm
    rcases hm with rfl | rfl | rfl
    · rintro e h_decoded
      cases h_decoded
      exact ⟨rfl, fun i hi => ⟨1, by rw [← Except.ok.inj hi]; rfl⟩⟩
    · rintro e h_decoded
      cases h_decoded
      exact ⟨rfl, fun i hi => ⟨2, by rw [← Except.ok.inj hi]; rfl⟩⟩
    · trivial
  · rw [h_name]
    exact h_group
  · rw [h_name]
    decide
  · rw [h_name]
    exact h_record
  · have h_previous : p.id = "tabs_1" := by
      change w₁.current.records.find? "tabs" = some p at hp
      rw [hp] at h_tabs
      exact Option.some.inj h_tabs
    rw [h_previous, h_id]
    decide
  · rw [h_id]
    decide

end Clickwork

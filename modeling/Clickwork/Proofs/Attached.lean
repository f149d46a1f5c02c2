import Clickwork.Proofs.History

/-!
# No reaction is left dangling

A scene whose reactions set existing variables only stays so, whatever the panel sends and the user
does, through any number of sessions (`World.attached_after`). Storage calls and bindings may fail;
a node must not refuse to be cleared.

Variables go in two ways. Retiring an interaction clears every reaction that set one of its
variables (`Attached.retired`), and sweeping removes variables that nothing sets
(`Attached.discard_unset`). Wiring gives instances reactions that set new variables
(`Attached.wired`).
-/

namespace Clickwork

open Records (retiring)

namespace Scene

section

variable {s t : Scene}

/-- **Removing variables that no reaction sets leaves nothing dangling.** -/
theorem Attached.discard_unset (hs : s.Attached) {ids : List String}
    (h_unset : ∀ id ∈ ids, ∀ node, ¬s.Sets node id) : (s.discard ids).Attached := by
  intro node target h_sets
  have h_before := (Sets.congr (reactions_discard s ids node)).mp h_sets
  obtain ⟨v, hv⟩ := hs node target h_before
  refine ⟨v, ?_⟩
  rw [find?_discard, if_neg fun h_mem => h_unset target h_mem node h_before]
  exact hv

/-- **Wiring an interaction onto a group leaves nothing dangling**: instances of the group set new
variables, and other nodes set what they did. -/
theorem Attached.wired (hs : s.Attached) (h_accepts : s.rejectingReactions = [])
    {collection : String} {i : Interaction} {g : Group}
    (h_wired : Wiring.Wired collection i g s t) : t.Attached := by
  intro node target h_sets
  by_cases h_mem : node ∈ g.instances.map (·.id)
  · -- every instance was left with a reaction of the interaction
    exact (h_wired.reactions node h_mem (by simp [h_accepts]) target h_sets).2
  · have h_same : t.reactions node = s.reactions node := by
      rw [reactions, reactions, h_wired.frame node h_mem]
    obtain ⟨v, hv⟩ := hs node target ((Sets.congr h_same).mp h_sets)
    exact ⟨v, h_wired.extended.old target v hv⟩

/-- Only nodes and variables matter. -/
theorem Attached.of_eq (hs : s.Attached) (h_nodes : t.nodes = s.nodes)
    (h_variables : t.variableTable = s.variableTable) : t.Attached := by
  intro node target h_sets
  have h_same : t.reactions node = s.reactions node := by
    rw [reactions, reactions, h_nodes]
  rw [h_variables]
  exact hs node target ((Sets.congr h_same).mp h_sets)

theorem Attached.used (hs : s.Attached) (h_used : s.Used t) : t.Attached := by
  intro node target h_sets
  obtain ⟨v, hv⟩ := hs node target ((h_used.sets node target).mp h_sets)
  obtain ⟨w, hw, -⟩ := h_used.symm.find? hv
  exact ⟨w, hw⟩

end

end Scene

/-- **Every act leaves an attached scene attached.** -/
theorem Session.Stable.attached (may : Act → Prop) :
    Stable may fun _ h => h.scene.Attached ∧ h.scene.rejectingReactions = [] where
  quiet := fun _ hI => hI
  act := by
    rintro a s s' h h' - - - h_later h_step ⟨h_attached, h_accepts⟩
    refine ⟨?_, h_later.kept.rejectingReactions.trans h_accepts⟩
    cases h_step with
    -- records are no concern of the scene
    | load _ h_scene | purge h_scene =>
      rw [h_scene]
      exact h_attached
    | create _ h_scene | close h_scene =>
      rw [h_scene]
      exact h_attached.of_eq rfl rfl
    | analyse => exact h_attached
    | sweep h_scene h_unset =>
      rw [h_scene]
      exact h_attached.discard_unset h_unset
    | wire i part g collection _ _ _ h_between h_replaced h_wired =>
      -- what gives way is retired before the new interaction is wired
      have h_retired := h_attached.retiredAll h_accepts s.config.collection
      refine Scene.Attached.wired ?_ (h_between.kept.rejectingReactions.trans h_accepts) h_wired
      rw [h_replaced.scene]
      exact h_retired _

/-- **No reaction is left dangling.** Let every variable that some reaction sets be there, on a
scene that can be built and whose nodes accept reactions. Then so it is after any history: any
messages, selections and clicks, in any number of sessions with any memory, with any failures of
storage calls and bindings. -/
theorem World.attached_after (w : World Unit) (moves : List Move) (h_built : w.host.scene.Built)
    (h_reliable : w.host.Reliable) (h_accepts : w.host.scene.rejectingReactions = [])
    (h_attached : w.host.scene.Attached) (h_mild : ∀ m ∈ moves, m.Mild) :
    (w.after moves).host.scene.Attached := by
  have h_used : ∀ (s : Session) (h : Host) (t : Scene), h.scene.Used t →
      h.scene.Attached ∧ h.scene.rejectingReactions = [] →
      t.Attached ∧ t.rejectingReactions = [] :=
    fun _ _ _ h_used hI => ⟨hI.1.used h_used, h_used.kept.rejectingReactions.trans hI.2⟩
  refine (World.after_keeps (I := fun _ h => h.scene.Attached ∧ h.scene.rejectingReactions = [])
    (fun m hm => ?_) ⟨h_reliable, h_built⟩ ⟨h_attached, h_accepts⟩).2.1
  cases m with
  | message inbound => exact .message (.attached fun _ => True) fun _ _ _ _ _ => trivial
  | notice => exact .notice (.attached fun _ => True) fun _ _ => trivial
  | select ids => exact .select h_used ids
  | click node => exact .click h_used node
  | restart | failOn | outage => exact ⟨h_mild _ hm, fun _ _ hI => hI⟩

theorem Scene.attached_panel : panel.Attached := by
  intro node target h_sets
  have h_unused : Records.inUse panel.allReactions = [] := by decide +kernel
  have h_mem := Records.mem_inUse.mpr ⟨node, h_sets⟩
  rw [h_unused] at h_mem
  cases h_mem

/-- The storage refuses to store, a nested interaction gives way, and a second session begins. -/
theorem World.attached_after_restart :
    (World.panel.after [.notice, .failOn .storageSet none,
      .message (.authoring (.switchingOn "tabs" 1 ["badges"])), .click "tab-1",
      .message (.authoring (.switchingOn "badges" 2 [])), .restart (.start {} []), .notice,
      .message (.authoring (.switchingOn "tabs" 3 []))]).host.scene.Attached := by
  refine World.attached_after World.panel _ Scene.built_panel World.sound_panel.reliable
    (by decide +kernel) Scene.attached_panel fun m hm => ?_
  simp only [List.mem_cons, List.not_mem_nil, or_false] at hm
  rcases hm with rfl | rfl | rfl | rfl | rfl | rfl | rfl | rfl
  · trivial
  · exact Or.inl rfl
  all_goals trivial

end Clickwork

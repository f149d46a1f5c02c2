import Clickwork.Proofs.Authoring
import Clickwork.Proofs.Discovery
import Clickwork.Session.Analysis

/-!
# What a session does

Whatever a session does to its records, its groups and the host on a reliable host, it does in acts
(`Session.Act`), and `Session.Step` says what an act comes to. Between two acts only the rest of its
memory changes (`Session.Alike`).

An invariant of sessions is proved for the acts that are permitted (`Session.Stable`) and holds
after any number of them (`Stable.steps`). Which acts the handling of a message consists of is told
in `Clickwork.Proofs.Dispatch`.
-/

namespace Clickwork.Session

open Records (Loaded Replaced retiring)

/-! ### Acts -/

/-- **The same configuration, handlers, records and groups.** -/
structure Alike (s s' : Session) : Prop where
  config : s'.config = s.config
  handlers : s'.handlers = s.handlers
  records : s'.records = s.records
  groups : s'.context.groups = s.context.groups

/-- **Something a session does.** -/
inductive Act where
  /-- Looks for the record of a group. -/
  | load (group : String)
  /-- Creates the collection of managed variables. -/
  | create
  /-- Takes over the groups that an analysis found. -/
  | analyse
  /-- Puts a part of an authored interaction on record and wires it onto its group. -/
  | wire (i part : Interaction)
  /-- Removes managed variables that no reaction sets. -/
  | sweep
  /-- Forgets the record of a group. -/
  | purge (group : String)
  /-- Closes the panel. -/
  | close

/-- **What an act comes to.** -/
inductive Step : Act → Session → Host → Session → Host → Prop where
  | load {group : String} {s s' : Session} {h h' : Host} (h_loaded : Loaded group h s s')
      (h_scene : h'.scene = h.scene) (h_storage : h'.storage = h.storage) :
      Step (.load group) s h s' h'
  | create {s : Session} {h h' : Host}
      (h_absent : h.scene.collections.find? s.config.collection = none)
      (h_scene : h'.scene = (h.scene.createCollection s.config.collection).2)
      (h_storage : h'.storage = h.storage) : Step .create s h s h'
  | analyse {s : Session} {h : Host} {context : Context}
      (h_families : Discovery.Families h.scene context.groups) :
      Step .analyse s h { s with context } h
  | wire (i part : Interaction) (g : Group) (collection : String) {s s' : Session} {h h₁ h' : Host}
      (h_authored : ∃ g, s.context.group i.group = .ok g)
      (h_group : s.context.group part.group = .ok g)
      (h_collection : h.scene.collections.find? s.config.collection = some collection)
      (h_between : h.Later h₁)
      (h_replaced : Replaced (retiring (s.records.find? part.group) part) part s s' h h₁)
      (h_wired : Wiring.Wired collection part g h₁.scene h'.scene)
      (h_storage : h'.storage = h₁.storage)
      (h_performed : ∃ w, Wiring.Performed collection part g s'.config h₁ w h'.scene) :
      Step (.wire i part) s h s' h'
  | sweep {ids : List String} {s : Session} {h h' : Host}
      (h_scene : h'.scene = h.scene.discard ids)
      (h_unset : ∀ id ∈ ids, ∀ node, ¬h.scene.Sets node id)
      (h_storage : h'.storage = h.storage) : Step .sweep s h s h'
  | purge {group : String} {s : Session} {h h' : Host} (h_scene : h'.scene = h.scene)
      (h_kept : ∀ key, key ≠ s.config.storageKey group →
        h'.storage.texts.find? key = h.storage.texts.find? key) :
      Step (.purge group) s h { s with records := s.records.erase group } h'
  | close {s : Session} {h h' : Host} (h_scene : h'.scene = h.scene.close)
      (h_storage : h'.storage = h.storage) : Step .close s h s h'

/-- **Any number of permitted acts**, with changes in between that do not matter. -/
inductive Steps (may : Act → Prop) (s : Session) (h : Host) : Session → Host → Prop where
  | refl : Steps may s h s h
  | quiet {s₁ s₂ : Session} {h₁ : Host} (h_steps : Steps may s h s₁ h₁) (h_alike : s₁.Alike s₂) :
      Steps may s h s₂ h₁
  | act {a : Act} {s₁ s₂ : Session} {h₁ h₂ : Host} (h_steps : Steps may s h s₁ h₁)
      (h_later : h₁.Later h₂) (h_may : may a) (h_step : Step a s₁ h₁ s₂ h₂) : Steps may s h s₂ h₂

section Steps

variable {may : Act → Prop} {s s' : Session} {h h' : Host}

theorem Steps.later (h_steps : Steps may s h s' h') : h.Later h' := by
  induction h_steps with
  | refl => exact .refl h
  | quiet _ _ ih => exact ih
  | act _ h_later _ _ ih => exact ih.trans h_later

/-! ### Invariants -/

/-- **An invariant that permitted acts keep**, and that nothing else in a session's memory
matters to. -/
structure Stable (may : Act → Prop) (I : Session → Host → Prop) : Prop where
  quiet : ∀ {s s' h}, s.Alike s' → I s h → I s' h
  act : ∀ {a s s' h h'}, may a → h.Reliable → h.scene.Built → h.Later h' → Step a s h s' h' →
    I s h → I s' h'

theorem Stable.mono {may' : Act → Prop} {I : Session → Host → Prop} (h_stable : Stable may I)
    (h_may : ∀ a, may' a → may a) : Stable may' I where
  quiet := h_stable.quiet
  act := fun ha => h_stable.act (h_may _ ha)

theorem Stable.and {I J : Session → Host → Prop} (hI : Stable may I) (hJ : Stable may J) :
    Stable may fun s h => I s h ∧ J s h where
  quiet := fun h_alike h_both => ⟨hI.quiet h_alike h_both.1, hJ.quiet h_alike h_both.2⟩
  act := fun ha hr hb h_later h_step h_both =>
    ⟨hI.act ha hr hb h_later h_step h_both.1, hJ.act ha hr hb h_later h_step h_both.2⟩

/-- **What permitted acts keep holds after any number of them.** -/
theorem Stable.steps {I : Session → Host → Prop} (h_stable : Stable may I) (hr : h.Reliable)
    (hb : h.scene.Built) (h_steps : Steps may s h s' h') (hI : I s h) : I s' h' := by
  induction h_steps with
  | refl => exact hI
  | quiet _ h_alike ih => exact h_stable.quiet h_alike ih
  | act h_before h_later h_may h_step ih =>
    have h_between := h_before.later
    exact h_stable.act h_may (h_between.reliable hr) (h_between.built hb) h_later h_step ih

end Steps

/-- The session has the given configuration and the standard handlers. -/
def Configured (config : Config) (s : Session) : Prop :=
  s.config = config ∧ s.handlers = Handler.standard

/-- The configuration and the handlers never change. -/
theorem Stable.configured (may : Act → Prop) (config : Config) :
    Stable may fun s _ => s.Configured config where
  quiet := fun h_alike hI => ⟨h_alike.config.trans hI.1, h_alike.handlers.trans hI.2⟩
  act := by
    rintro a s s' h h' - - - - h_step ⟨h_config, h_handlers⟩
    cases h_step with
    | load h_loaded =>
      rcases h_loaded.memory with rfl | ⟨-, i, rfl⟩ <;> exact ⟨h_config, h_handlers⟩
    | create | analyse | sweep | purge | close => exact ⟨h_config, h_handlers⟩
    | wire i part g collection _ _ _ _ h_replaced =>
      rw [h_replaced.memory]
      exact ⟨h_config, h_handlers⟩

end Clickwork.Session

import Clickwork.Proofs.Acts
import Clickwork.Proofs.Conduct
import Clickwork.Session.Dispatch

/-!
# What handling a message consists of

`Handler.Does` tells the acts that handling an envelope may consist of. On a reliable host the two
entry points of a session consist of such acts, whatever the panel sends and however the handling
ends:

* `Session.dispatch_steps` — for an inbound message;
* `Session.selectionChanged_steps` — for the notice of a new selection.
-/

namespace Clickwork

open Program (Ends Keeps)
open Session (Act Step Steps)

/-- **The interactions that authoring one puts on record**: itself, and those nested in it that are
on other groups. -/
def Interaction.parts (i : Interaction) : List Interaction :=
  i :: (i.nestedActions.filter (·.target ≠ i.group)).map i.nested

/-- **The acts that handling an envelope may consist of.** -/
def Handler.Does (handler : Handler) (data : Json) : Act → Prop
  | .load _ | .create => handler = .analyse ∨ handler = .author
  | .analyse => handler = .analyse
  | .wire i part => handler = .author ∧ Interaction.ofJson data = .ok i ∧ part ∈ i.parts
  | .sweep => handler = .sweep
  | .purge _ => handler = .purge
  | .close => handler = .cancel

/-- **The acts that handling an inbound message may consist of.** -/
def Session.Handling (s : Session) (inbound : Inbound) (a : Act) : Prop :=
  ∃ e handler, inbound.toEnvelope s.config.limits = .ok e ∧
    s.handlers.find? e.type = some handler ∧ handler.Does e.data a

/-- A group of the context is found under its id. -/
theorem Context.group_eq_ok {c : Context} {id : String} {g : Group} (h : c.group id = .ok g) :
    g ∈ c.groups ∧ g.id = id := by
  simp only [Context.group] at h
  split at h
  · rename_i h_find
    obtain rfl := Except.ok.inj h
    exact ⟨List.mem_of_find?_eq_some h_find, by simpa using List.find?_some h_find⟩
  · cases h

variable {may : Act → Prop} {s₀ s : Session} {h₀ h : Host}

/-! ### Steps that do not matter -/

namespace Session

theorem modify_keeps {f : Session → Session} (hf : ∀ s : Session, s.Alike (f s)) :
    Keeps (Steps may s₀ h₀) (Program.modify f) :=
  .modify fun s _ h_steps => h_steps.quiet (hf s)

theorem modifyContext_keeps {f : Context → Context} (hf : ∀ c, (f c).groups = c.groups) :
    Keeps (Steps may s₀ h₀) (modifyContext f) :=
  modify_keeps fun s => ⟨rfl, rfl, rfl, hf s.context⟩

theorem post_keeps (e : Envelope) : Keeps (Steps may s₀ h₀) (post e) :=
  modify_keeps fun _ => ⟨rfl, rfl, rfl, rfl⟩

theorem report_keeps (context : String) (e : Failure) :
    Keeps (Steps may s₀ h₀) (report context e) :=
  (Keeps.log _ _ _).bind fun _ => post_keeps _

theorem readContext_keeps : Keeps (Steps may s₀ h₀) readContext :=
  Keeps.read.bind fun _ => .pure _

theorem flush_keeps : Keeps (Steps may s₀ h₀) flush := by
  refine Keeps.read.bind fun _ => Keeps.bind (modify_keeps fun _ => ?_) fun _ => ?_
  · exact ⟨rfl, rfl, rfl, rfl⟩
  · exact .forM _ fun _ _ => .deliver _ _

/-- A question to the host. -/
theorem ask_keeps (hr : h₀.Reliable) {c : Call} (h_storage : c.method.isStorage = false)
    (h_bind : c.method ≠ .bindProperty) (h_same : ∀ h : Host, (h.answer c).2 = h) :
    Keeps (Steps may s₀ h₀) (Program.ask c) := by
  refine .ask fun s h h_steps => ?_
  rw [(h_steps.later.reliable hr).perform h_storage h_bind, h_same]
  exact h_steps

/-- A walk through the scene. -/
theorem instancesBelow_keeps (hr : h₀.Reliable) (ids : List String) :
    Keeps (Steps may s₀ h₀) (Program.instancesBelow ids) := by
  intro s h h_steps
  have hr' := h_steps.later.reliable hr
  -- a walk asks for nodes, which changes nothing on a reliable host
  have h_host : (Program.walked s h ids #[]).2.host = h := by
    refine Program.explore_host_induction (I := (· = h)) (fun h' id h_eq => ?_) _ _ _ rfl
    rw [h_eq, hr'.perform rfl (by simp [Call.method])]
    rfl
  rw [Ends, Program.instancesBelow, Program.outcome_walk, h_host, Program.outcome_lift]
  exact h_steps

end Session

/-! ### The collection and the records -/

/-- **The collection of a name** is there afterwards. -/
theorem Wiring.ensureCollection_ends {σ : Type} {s : σ} (hr : h.Reliable) (name : String) :
    (ensureCollection name : Program σ String).Ends s h fun r s' h' =>
      s' = s ∧ h'.storage = h.storage ∧
      (∃ id, r = .ok id ∧ h'.scene.collections.find? name = some id) ∧
      (h' = h ∨ h.scene.collections.find? name = none ∧
        h'.scene = (h.scene.createCollection name).2) := by
  rw [ensureCollection]
  refine Ends.bind_eq (Program.outcome_ask_of_reliable hr rfl (by simp [Call.method])) ?_
  cases h_find : h.scene.collections.find? name with
  | none =>
    refine Ends.of_eq (Program.outcome_ask_of_reliable hr rfl (by simp [Call.method])) ?_
    refine ⟨rfl, rfl, ⟨Scene.collectionId h.scene.nextId, ?_, ?_⟩, Or.inr ⟨rfl, rfl⟩⟩
    · simp only [Host.answer, Scene.createCollection_eq]
    · simp only [Host.answer, Scene.createCollection_eq, Registry.find?_insert_self]
  | some id => exact ⟨rfl, rfl, ⟨id, rfl, h_find⟩, Or.inl rfl⟩

/-- **The host after it was made sure that the collection of managed variables is there.** -/
structure Authoring.Prepared (s : Session) (h h' : Host) : Prop where
  later : h.Later h'
  storage : h'.storage = h.storage
  scene : h' = h ∨ h.scene.collections.find? s.config.collection = none ∧
    h'.scene = (h.scene.createCollection s.config.collection).2

/-- Creating the collection is an act, finding it is none. -/
theorem Authoring.Prepared.steps {h' : Host} (h_prepared : Prepared s h h') (h_may : may .create)
    (h_steps : Steps may s₀ h₀ s h) : Steps may s₀ h₀ s h' := by
  obtain ⟨h_later, h_storage, rfl | ⟨h_absent, h_scene⟩⟩ := h_prepared
  · exact h_steps
  · exact h_steps.act h_later h_may (.create h_absent h_scene h_storage)

/-- The collection of managed variables. -/
theorem ensureCollection_steps (hr : h₀.Reliable) (h_may : may .create)
    (h_steps : Steps may s₀ h₀ s h) :
    (Wiring.ensureCollection s.config.collection : Program Session String).Ends s h fun r s' h' =>
      s' = s ∧ Steps may s₀ h₀ s h' ∧
      ∃ id, r = .ok id ∧ h'.scene.collections.find? s.config.collection = some id := by
  refine (Wiring.ensureCollection_ends (h_steps.later.reliable hr) _).mono ?_
  rintro r s' h' h_later ⟨rfl, h_storage, h_found, h_scene⟩
  exact ⟨rfl, Authoring.Prepared.steps ⟨h_later, h_storage, h_scene⟩ h_may h_steps, h_found⟩

namespace Records

theorem get_keeps {group : String} (h_may : may (.load group)) :
    Keeps (Steps may s₀ h₀) (get group) := by
  intro s h h_steps
  refine (get_ends group).mono ?_
  rintro r s' h' h_later ⟨h_scene, h_storage, h_loaded, -⟩
  exact h_steps.act h_later h_may (.load h_loaded h_scene h_storage)

theorem existing_keeps (groups : List String) (h_may : ∀ group, may (.load group)) :
    Keeps (Steps may s₀ h₀) (existing groups) := by
  refine .foldlM _ _ fun found group _ => (get_keeps (h_may group)).bind fun record => ?_
  cases record <;> exact .pure _

theorem purge_keeps (groups : List String) (h_may : ∀ group, may (.purge group)) :
    Keeps (Steps may s₀ h₀) (purge groups) := by
  have h_one : ∀ group, Keeps (Steps may s₀ h₀) (do
      forget group
      let config ← Session.readConfig
      Program.ask (.storageDelete (config.storageKey group))) := by
    intro group s h h_steps
    refine Ends.bind_eq (outcome_forget _ _ _) (Ends.bind_eq (Session.outcome_readConfig _ _) ?_)
    rw [Ends, Program.outcome_ask]
    refine h_steps.act (.perform h _) (h_may group) (.purge ?_ fun key h_ne => ?_)
    · exact h.scene_perform_of_storage rfl
    · exact h.find?_perform_storageDelete_of_ne h_ne
  refine (Keeps.forM groups fun group _ => h_one group).attempt.bind fun result => ?_
  cases result with
  | ok u => exact .pure _
  | error e => exact .log _ _ _

end Records

/-! ### Analysing -/

namespace Analysis

theorem selectedInstance_keeps (hr : h₀.Reliable) : Keeps (Steps may s₀ h₀) selectedInstance := by
  refine (Session.ask_keeps hr rfl (by simp [Call.method]) fun _ => rfl).bind fun ids => ?_
  split
  · refine (Session.ask_keeps hr rfl (by simp [Call.method]) fun _ => rfl).bind fun node => ?_
    cases node with
    | none => exact .lift _
    | some node =>
      change Keeps _ (if node.isInstance then _ else _)
      split
      · exact .pure _
      · exact .lift _
  · exact .lift _

theorem nestedInstances_keeps (hr : h₀.Reliable) (container : String) :
    Keeps (Steps may s₀ h₀) (Discovery.nestedInstances container) := by
  refine (Session.ask_keeps hr rfl (by simp [Call.method]) fun _ => rfl).bind fun node => ?_
  cases node with
  | none => exact .pure _
  | some node => exact Session.instancesBelow_keeps hr node.children

/-- Groups of families may be taken over. -/
theorem commit_ends (h_may : may .analyse) (h_steps : Steps may s₀ h₀ s h) {groups : List Group}
    (h_families : Discovery.Families h.scene groups) (token : Int) (selectedName : String) :
    (commit token selectedName groups).Ends s h fun _ => Steps may s₀ h₀ := by
  refine Ends.bind_eq (Session.outcome_readContext _ _) ?_
  rw [Context.commit]
  split
  · -- the groups are taken over, unless the analysis is outdated
    rename_i context h_commit
    split at h_commit
    · obtain rfl := Option.some.inj h_commit
      exact h_steps.act (.refl h) h_may (.analyse h_families)
    · cases h_commit
  · exact Ends.bind_eq (Program.outcome_log _ _ _ _ _) h_steps

/-- **An analysis** looks for records, creates the collection and takes over groups of families. -/
theorem run_keeps (hr : h₀.Reliable) (h_load : ∀ group, may (.load group))
    (h_create : may .create) (h_analyse : may .analyse) (token : Int) :
    Keeps (Steps may s₀ h₀) (run token) := by
  refine (selectedInstance_keeps hr).bind fun selected => ?_
  refine (nestedInstances_keeps hr selected.id).bind fun nested => ?_
  -- what remains to be done, unless nothing is nested
  have h_unless : ∀ rest : Unit → Program Session Analysis, Keeps (Steps may s₀ h₀) (rest ()) →
      Keeps (Steps may s₀ h₀) (if nested.isEmpty then
        Program.lift (.error (.selection .nothingNested)) >>= rest else rest ()) := by
    intro rest h_rest
    split
    · exact (Keeps.lift _).bind fun _ => h_rest
    · exact h_rest
  refine h_unless _ fun s h h_steps => ?_
  refine (Discovery.groups_ends (h_steps.later.reliable hr) nested).bind ?_ ?_
  · rintro groups s h - ⟨rfl, rfl, _, h_ok, h_families⟩
    obtain rfl := Except.ok.inj h_ok
    refine Ends.bind_eq (Session.outcome_readConfig _ _) ?_
    refine (ensureCollection_steps hr h_create h_steps).bind ?_ ?_
    · rintro id s h' h_later ⟨rfl, h_steps', -⟩
      refine (Records.existing_keeps _ h_load s h' h_steps').bind ?_ ?_
      · -- what was found on the way keeps the components, and with them the families
        rintro existing s' h'' h_later' h_steps''
        have h_kept := (h_later.trans h_later').kept
        refine (commit_ends h_analyse h_steps'' (h_families.kept h_kept) token _).bind ?_ ?_
        · exact fun _ _ _ _ h_done => h_done
        · exact fun _ _ _ _ h_done => h_done
      · exact fun _ _ _ _ h_done => h_done
    · rintro e s h' - ⟨rfl, h_steps', -⟩
      exact h_steps'
  · rintro e s h - ⟨rfl, rfl, -⟩
    exact h_steps

end Analysis

theorem Session.analyse_keeps (hr : h₀.Reliable) (h_load : ∀ group, may (.load group))
    (h_create : may .create) (h_analyse : may .analyse) :
    Keeps (Steps may s₀ h₀) Session.analyse := by
  have h_begin : Keeps (Steps may s₀ h₀) Analysis.begin :=
    (modifyContext_keeps (f := Context.beginAnalysis) fun _ => rfl).bind fun _ =>
      readContext_keeps.bind fun _ => .pure _
  refine h_begin.bind fun token => ?_
  refine (Analysis.run_keeps hr h_load h_create h_analyse token).attempt.bind fun result => ?_
  cases result with
  | ok analysis =>
    change Keeps _ (if analysis.current then _ else _)
    split
    · exact post_keeps _
    · exact .pure _
  | error e =>
    refine readContext_keeps.bind fun context => ?_
    split
    · exact report_keeps _ _
    · exact .log _ _ _

/-! ### Authoring -/

namespace Authoring

open Wiring (ensureCollection)

/-- Midway through authoring an interaction, with the collection of managed variables: the authored
group is known. -/
def Midway (may : Act → Prop) (s₀ : Session) (h₀ : Host) (i : Interaction) (collection : String)
    (s : Session) (h : Host) : Prop :=
  Steps may s₀ h₀ s h ∧ h.scene.collections.find? s.config.collection = some collection ∧
    ∃ g, s.context.group i.group = .ok g

/-- **Wiring a part of an interaction onto its group.** -/
theorem wire_steps (hr : h₀.Reliable) (hb : h₀.scene.Built) {i part : Interaction} {g : Group}
    {collection : String} (h_load : may (.load part.group)) (h_wire : may (.wire i part))
    (h_group : s.context.group part.group = .ok g) (h_steps : Midway may s₀ h₀ i collection s h) :
    (wire collection part g).Ends s h fun _ => Midway may s₀ h₀ i collection := by
  obtain ⟨h_steps, h_collection, h_authored⟩ := h_steps
  have hr' := h_steps.later.reliable hr
  refine (wire_ends hr' (h_steps.later.built hb) h_collection part g).mono ?_
  rintro r s' h' h_later (⟨-, -, h_loaded, h_scene, h_storage⟩ |
    ⟨w, s₁, h₁, -, h_loaded, h_between, -, h_replaced, h_performed, h_wired, h_storage⟩)
  · refine ⟨h_steps.act h_later h_load (.load h_loaded h_scene h_storage), ?_, ?_⟩
    · rw [h_scene, h_loaded.config]
      exact h_collection
    · rw [h_loaded.context]
      exact h_authored
  · -- two acts: the record is looked up, and then the part is wired
    have h_before := h_steps.act (.refl h) h_load (.load h_loaded rfl rfl)
    rw [← h_loaded.config] at h_collection
    rw [← h_loaded.context] at h_group h_authored
    have h_wire_step := Step.wire i part g collection h_authored h_group h_collection h_between
      h_replaced h_wired h_storage ⟨w, h_performed⟩
    refine ⟨h_before.act h_later h_wire h_wire_step, ?_, ?_⟩
    · rw [h_wired.extended.collections, h_replaced.collections, h_replaced.config]
      exact h_collection
    · rw [h_replaced.context]
      exact h_authored

/-- **Carrying a nested action out.** -/
theorem wireNested_keeps (hr : h₀.Reliable) (hb : h₀.scene.Built) {i : Interaction} {g : Group}
    {collection : String} {action : NestedAction} (h_load : ∀ group, may (.load group))
    (h_wire : ∀ part ∈ i.parts, may (.wire i part)) (h_action : action ∈ i.nestedActions)
    (h_id : g.id = i.group) :
    Keeps (Midway may s₀ h₀ i collection) (wireNested collection i g action) := by
  intro s h h_steps
  refine wireNested_ends (fun _ _ => h_steps) (fun _ _ _ => h_steps) fun target h_target h_other => ?_
  -- an action on the authored group itself is passed over, so this one makes a part
  have h_part : i.nested action ∈ i.parts := by
    refine List.mem_cons_of_mem _ (List.mem_map_of_mem (List.mem_filter.mpr ⟨h_action, ?_⟩))
    rw [h_id, (Context.group_eq_ok h_target).2] at h_other
    exact decide_eq_true h_other
  exact wire_steps hr hb (h_load _) (h_wire _ h_part) h_target h_steps

/-- **What is left of carrying out an interaction** is to wire its parts once the collection is
there. -/
theorem proceed_ends_of_wireAll (hr : h.Reliable) {i : Interaction} {g : Group}
    {Q : Except Failure Authoring → Session → Host → Prop}
    (h_all : ∀ collection h', Prepared s h h' →
      h'.scene.collections.find? s.config.collection = some collection →
      (wireAll collection i g).Ends s h' Q) : (proceed i g).Ends s h Q := by
  refine Ends.bind_eq (Session.outcome_readConfig _ _) ?_
  refine (Wiring.ensureCollection_ends hr s.config.collection).bind ?_ ?_
  · rintro collection s h' h_later ⟨rfl, h_storage, ⟨id, h_id, h_collection⟩, h_scene⟩
    obtain rfl := Except.ok.inj h_id
    exact h_all collection h' ⟨h_later, h_storage, h_scene⟩ h_collection
  · rintro e s h' - ⟨-, -, ⟨id, h_id, -⟩, -⟩
    cases h_id

/-- **Authoring an interaction** creates the collection and wires the interaction and those nested
in it. -/
theorem carryOut_keeps (hr : h₀.Reliable) (hb : h₀.scene.Built) {i : Interaction}
    (h_load : ∀ group, may (.load group)) (h_create : may .create)
    (h_wire : ∀ part ∈ i.parts, may (.wire i part)) : Keeps (Steps may s₀ h₀) (carryOut i) := by
  intro s h h_steps
  refine carryOut_ends_of_proceed (fun _ _ => h_steps) fun g h_admitted =>
    proceed_ends_of_wireAll (h_steps.later.reliable hr) fun collection h h_prepared h_collection => ?_
  have h_group := (Session.admitted_eq_ok_iff.mp h_admitted).1
  -- the interaction itself is wired first, and then the nested ones in their order
  have h_main : i ∈ i.parts := List.mem_cons_self
  refine (wire_steps hr hb (h_load _) (h_wire i h_main) h_group
    ⟨h_prepared.steps h_create h_steps, h_collection, g, h_group⟩).bind ?_ ?_
  · rintro main s h - h_wired
    have h_nested : Keeps (Midway may s₀ h₀ i collection)
        (i.nestedActions.mapM (wireNested collection i g)) :=
      .mapM _ fun action h_action =>
        wireNested_keeps hr hb h_load h_wire h_action (Context.group_eq_ok h_group).2
    refine (h_nested s h h_wired).bind ?_ ?_
    · exact fun _ _ _ _ h_done => h_done.1
    · exact fun _ _ _ _ h_done => h_done.1
  · exact fun _ _ _ _ h_done => h_done.1

theorem run_keeps (hr : h₀.Reliable) (hb : h₀.scene.Built) {i : Interaction}
    (h_load : ∀ group, may (.load group)) (h_create : may .create)
    (h_wire : ∀ part ∈ i.parts, may (.wire i part)) : Keeps (Steps may s₀ h₀) (run i) := by
  intro s h h_steps
  rw [run, guarded]
  refine Ends.bind_eq (Session.outcome_readContext _ _) ?_
  rcases h_held : s.context.acquire with e | held
  · rw [Ends, Program.outcome_bind, Program.outcome_lift]
    exact h_steps
  -- holding and releasing the context leaves its groups alone
  have h_groups : held.groups = s.context.groups := by
    simp only [Context.acquire] at h_held
    split at h_held
    · cases h_held
    · rw [← Except.ok.inj h_held]
  refine Ends.bind_eq (Program.outcome_lift _ _ _) (Ends.bind_eq (Program.outcome_modify _ _ _) ?_)
  have h_rest : Keeps (Steps may s₀ h₀) (do
      let result ← (carryOut i).attempt
      Session.modifyContext Context.release
      Program.lift result) :=
    (carryOut_keeps hr hb h_load h_create h_wire).attempt.bind fun _ =>
      (Session.modifyContext_keeps (f := Context.release) fun _ => rfl).bind fun _ => .lift _
  exact h_rest _ h (h_steps.quiet ⟨rfl, rfl, rfl, h_groups⟩)

end Authoring

/-! ### Handlers -/

namespace Session

theorem author_keeps (hr : h₀.Reliable) (hb : h₀.scene.Built) {data : Json}
    (h_load : ∀ group, may (.load group)) (h_create : may .create)
    (h_wire : ∀ i, Interaction.ofJson data = .ok i → ∀ part ∈ i.parts, may (.wire i part)) :
    Keeps (Steps may s₀ h₀) (author data) := by
  have h_authoring : Keeps (Steps may s₀ h₀) (do
      Authoring.run (← Program.lift (Interaction.ofJson data))) := by
    intro s h h_steps
    cases h_data : Interaction.ofJson data with
    | error e => exact h_steps
    | ok i => exact Authoring.run_keeps hr hb h_load h_create (h_wire i h_data) s h h_steps
  refine h_authoring.attempt.bind fun result => ?_
  cases result with
  | error e => exact report_keeps _ _
  | ok result =>
    refine Keeps.bind (modify_keeps fun _ => ?_) fun _ => post_keeps _
    exact ⟨rfl, rfl, rfl, rfl⟩

theorem cleanUp_keeps (hr : h₀.Reliable) (h_sweep : may .sweep) :
    Keeps (Steps may s₀ h₀) cleanUp := by
  refine Keeps.bind (fun s h h_steps => ?_) fun _ => post_keeps _
  refine (Records.sweep_ends (h_steps.later.reliable hr)).mono ?_
  rintro r s' h' h_later ⟨-, rfl, h_storage, ids, h_scene, h_unset⟩
  exact h_steps.act h_later h_sweep (.sweep h_scene h_unset h_storage)

theorem cancel_keeps (hr : h₀.Reliable) (h_close : may .close) :
    Keeps (Steps may s₀ h₀) cancel := by
  refine Keeps.bind (modify_keeps fun _ => ?_) fun _ => .ask fun s h h_steps => ?_
  · exact ⟨rfl, rfl, rfl, rfl⟩
  · have h_later := Host.Later.perform h .close
    rw [(h_steps.later.reliable hr).perform rfl (by simp [Call.method])] at h_later ⊢
    exact h_steps.act h_later h_close (.close rfl rfl)

/-- **Handling an envelope** consists of the acts of its handler. -/
theorem serve_keeps (hr : h₀.Reliable) (hb : h₀.scene.Built) (e : Envelope) {handler : Handler}
    (h_may : ∀ a, handler.Does e.data a → may a) : Keeps (Steps may s₀ h₀) (serve e handler) := by
  cases handler with
  | analyse =>
    exact analyse_keeps hr (fun _ => h_may _ (Or.inl rfl)) (h_may _ (Or.inl rfl)) (h_may _ rfl)
  | author =>
    refine author_keeps hr hb (fun _ => h_may _ (Or.inr rfl)) (h_may _ (Or.inr rfl)) ?_
    exact fun i h_data part h_part => h_may _ ⟨rfl, h_data, h_part⟩
  | listComponents => exact readContext_keeps.bind fun _ => post_keeps _
  | sweep => exact cleanUp_keeps hr (h_may _ rfl)
  | purge =>
    refine readContext_keeps.bind fun context => ?_
    exact (Records.purge_keeps _ fun _ => h_may _ rfl).bind fun _ => post_keeps _
  | cancel => exact cancel_keeps hr (h_may _ rfl)
  | forward type => exact post_keeps _
  | fail text => exact Keeps.lift (.error (.raised text) : Except Failure Unit)

/-! ### Entry points -/

/-- **Handling an inbound message** consists of the acts that the message calls for. -/
theorem dispatch_steps (hr : h.Reliable) (hb : h.scene.Built) (s : Session) (inbound : Inbound) :
    (dispatch inbound).Ends s h fun _ => Steps (s.Handling inbound) s h := by
  have h_receive : (receive inbound).Ends s h fun _ => Steps (s.Handling inbound) s h := by
    rw [receive]
    refine Ends.bind_eq (Program.outcome_read _ _) ?_
    split
    · exact Ends.of_eq (Program.outcome_log _ _ _ _ _) .refl
    refine Ends.bind_eq (outcome_readConfig _ _) ?_
    rcases h_decoded : inbound.toEnvelope s.config.limits with e | e
    · rw [Ends, Program.outcome_bind, Program.outcome_lift]
      exact .refl
    refine Ends.bind_eq (Program.outcome_lift _ _ _) (Ends.bind_eq (Program.outcome_read _ _) ?_)
    cases h_handler : s.handlers.find? e.type with
    | none => exact Ends.of_eq (Program.outcome_log _ _ _ _ _) .refl
    | some handler =>
      have h_may : ∀ a, handler.Does e.data a → s.Handling inbound a :=
        fun a h_does => ⟨e, handler, h_decoded, h_handler, h_does⟩
      exact serve_keeps hr hb e h_may s h .refl
  -- a failure is reported, and what was posted is delivered
  refine (Ends.attempt (Q := fun _ => Steps (s.Handling inbound) s h) h_receive).bind ?_ ?_
  · rintro result s' h' - h_steps
    cases result with
    | error e => exact ((report_keeps _ _).bind fun _ => flush_keeps) s' h' h_steps
    | ok u => exact flush_keeps s' h' h_steps
  · exact fun _ _ _ _ h_steps => h_steps

/-- **The notice of a new selection** consists of the acts of an analysis. -/
theorem selectionChanged_steps (hr : h.Reliable) (s : Session) :
    selectionChanged.Ends s h fun _ => Steps (Handler.analyse.Does .null) s h := by
  rw [selectionChanged]
  refine Ends.bind_eq (Program.outcome_read _ _) ?_
  split
  · exact .refl
  · have h_analyse : Keeps (Steps (Handler.analyse.Does .null) s h) analyse :=
      analyse_keeps hr (fun _ => Or.inl rfl) (Or.inl rfl) rfl
    exact ((post_keeps _).bind fun _ => h_analyse.bind fun _ => flush_keeps) s h .refl

end Session

end Clickwork

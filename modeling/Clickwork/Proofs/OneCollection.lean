import Clickwork.Proofs.Effects
import Clickwork.Proofs.Handling
import Clickwork.Proofs.Interference

/-!
# One collection

A session finds its collection by name, and creates it if it is not there. The look-up and the
creation are two calls, and other tasks may run in between: if one of them creates the collection
meanwhile, it is created twice, and the first one is no longer found by its name.

`Moment.Gathers` is what a task does and what it relies on: a collection that is found stays the one
that is found, so it is created at most once, and every new variable is in it. This holds as long as
no task creates the collection while another one is held before creating it
(`World.one_collection`). Without that, variables are lost from sight (`World.collection_hidden`).
-/

namespace Clickwork

open Program

/-- Whether a call creates a collection of the given name. -/
def Call.creates (name : String) : Call → Bool
  | createCollection name' => name' == name
  | _ => false

namespace Moment

/-- The collection that is found under a name. -/
def found (name : String) (m : Moment Session) : Option String :=
  m.host.scene.collections.find? name

/-- **A later moment of a session that keeps its things in one collection.** -/
structure Gathers (name : String) (m m' : Moment Session) : Prop where
  precedes : m.Precedes m'
  config : m'.memory.config = m.memory.config
  spares : m.host.Spares .createCollection → m'.host.Spares .createCollection
  /-- A collection that is found stays the one that is found. -/
  kept : ∀ collection, m.found name = some collection → m'.found name = some collection
  /-- It is created once if it was not found before and is found now, and not otherwise. -/
  created : (m.since m').countP (·.creates name) + (m.found name).toList.length =
    (m'.found name).toList.length
  /-- New variables are in it. -/
  gathered : ∀ id v, m'.host.scene.variableTable.find? id = some v →
    (∃ v₀, m.host.scene.variableTable.find? id = some v₀ ∧ v₀.collection = v.collection) ∨
      m'.found name = some v.collection

variable {name : String} {m m₁ m₂ m₃ : Moment Session}

/-- What keeps the collections, and puts no variable into another one. -/
theorem Gathers.of_found {m' : Moment Session} (h_precedes : m.Precedes m')
    (h_config : m'.memory.config = m.memory.config)
    (h_spares : m.host.Spares .createCollection → m'.host.Spares .createCollection)
    (h_found : m'.found name = m.found name)
    (h_calls : ∀ c ∈ m.since m', c.creates name = false)
    (h_variables : ∀ id v, m'.host.scene.variableTable.find? id = some v →
      (∃ v₀, m.host.scene.variableTable.find? id = some v₀ ∧ v₀.collection = v.collection) ∨
        m.found name = some v.collection) : m.Gathers name m' where
  precedes := h_precedes
  config := h_config
  spares := h_spares
  kept := fun _ h_some => h_found.trans h_some
  created := by
    rw [h_found, List.countP_eq_zero.mpr fun c hc => by simp [h_calls c hc], Nat.zero_add]
  gathered := by
    rw [h_found]
    exact h_variables

/-- The same without any call. -/
theorem Gathers.quiet {m' : Moment Session} (h_calls : m'.calls = m.calls)
    (h_config : m'.memory.config = m.memory.config)
    (h_spares : m.host.Spares .createCollection → m'.host.Spares .createCollection)
    (h_found : m'.found name = m.found name)
    (h_variables : ∀ id v, m'.host.scene.variableTable.find? id = some v →
      ∃ v₀, m.host.scene.variableTable.find? id = some v₀ ∧ v₀.collection = v.collection) :
    m.Gathers name m' := by
  refine .of_found ⟨[], ?_⟩ h_config h_spares h_found (fun c hc => ?_)
    fun id v hv => .inl (h_variables id v hv)
  · rw [h_calls, List.append_nil]
  · rw [since_eq_nil h_calls] at hc
    cases hc

theorem Gathers.refl (name : String) (m : Moment Session) : m.Gathers name m :=
  .quiet rfl rfl (fun hs => hs) rfl fun _ v hv => ⟨v, hv, rfl⟩

theorem Gathers.trans (h : m₁.Gathers name m₂) (h' : m₂.Gathers name m₃) :
    m₁.Gathers name m₃ where
  precedes := h.precedes.trans h'.precedes
  config := h'.config.trans h.config
  spares := fun hs => h'.spares (h.spares hs)
  kept := fun collection h_some => h'.kept collection (h.kept collection h_some)
  created := by
    rw [since_append h.precedes h'.precedes, List.countP_append]
    have h_first := h.created
    have h_second := h'.created
    omega
  gathered := by
    intro id v hv
    rcases h'.gathered id v hv with ⟨v₁, hv₁, h_same⟩ | h_new
    · rcases h.gathered id v₁ hv₁ with ⟨v₀, hv₀, h_same'⟩ | h_new
      · exact .inl ⟨v₀, hv₀, h_same'.trans h_same⟩
      · exact .inr (h'.kept _ (h_same ▸ h_new))
    · exact .inr h_new

/-- Without a creation, what is found stays the same. -/
theorem Gathers.found_eq (h : m.Gathers name m₁)
    (h_calls : ∀ c ∈ m.since m₁, c.creates name = false) : m₁.found name = m.found name := by
  have h_created := h.created
  rw [List.countP_eq_zero.mpr fun c hc => by simp [h_calls c hc], Nat.zero_add] at h_created
  cases h_before : m.found name with
  | some collection => exact h.kept collection h_before
  | none =>
    rw [h_before] at h_created
    cases h_after : m₁.found name with
    | none => rfl
    | some collection =>
      rw [h_after] at h_created
      cases h_created

/-- What only changes the memory, and not the configuration. -/
theorem Gathers.withMemory {s : Session} (h_config : s.config = m.memory.config) :
    m.Gathers name (m.withMemory s) :=
  .quiet rfl h_config (fun hs => hs) rfl fun _ v hv => ⟨v, hv, rfl⟩

/-! ### Calls -/

theorem spares_perform (c : Call) :
    m.host.Spares .createCollection → (m.perform c).2.host.Spares .createCollection :=
  (Host.Later.perform m.host c).spares _

/-- Only a creation changes what is found. -/
theorem found_perform {c : Call} (hc : c.creates name = false) :
    (m.perform c).2.found name = m.found name := by
  have h_scene := m.host.scene_perform c
  unfold found Moment.perform
  dsimp only
  generalize (m.host.perform c).2.scene = s' at h_scene ⊢
  rcases h_scene with rfl | h_changes
  · rfl
  · cases h_changes with
    | setReactions | close | createVariable | setValue | bindProperty | removeVariable => rfl
    | createCollection =>
      rw [Scene.createCollection_eq]
      exact Registry.find?_insert_of_ne _ _ (beq_eq_false_iff_ne.mp hc)

/-- **A call that creates no collection**, and no variable outside the one that is found. -/
theorem Gathers.perform {c : Call} (hc : c.creates name = false)
    (h_variable : ∀ x collection type, c = .createVariable x collection type →
      m.found name = some collection) : m.Gathers name (m.perform c).2 := by
  refine .of_found (.perform m c) rfl (spares_perform c) (found_perform hc) ?_ ?_
  · rw [since_perform]
    exact fun c' hc' => List.mem_singleton.mp hc' ▸ hc
  · intro id v hv
    have h_scene := m.host.scene_perform c
    unfold Moment.perform at hv
    dsimp only at hv
    generalize (m.host.perform c).2.scene = s' at h_scene hv
    rcases h_scene with rfl | h_changes
    · exact .inl ⟨v, hv, rfl⟩
    · cases h_changes with
      | setReactions | close | createCollection | bindProperty => exact .inl ⟨v, hv, rfl⟩
      | createVariable h_known =>
        -- a new variable is in the collection that is found, as the call was allowed
        dsimp only at hv
        rw [Registry.find?_insert] at hv
        split at hv
        · obtain rfl := Option.some.inj hv
          exact .inr (h_variable _ _ _ rfl)
        · exact .inl ⟨v, hv, rfl⟩
      | setValue =>
        dsimp only at hv
        rw [Registry.find?_modify] at hv
        split at hv
        · obtain ⟨v₀, hv₀, rfl⟩ := Option.map_eq_some_iff.mp hv
          exact .inl ⟨v₀, hv₀, rfl⟩
        · exact .inl ⟨v, hv, rfl⟩
      | removeVariable =>
        dsimp only at hv
        rw [Registry.find?_erase] at hv
        split at hv
        · cases hv
        · exact .inl ⟨v, hv, rfl⟩

/-- **The creation of a collection that is not found.** -/
theorem Gathers.create (hs : m.host.Spares .createCollection) (h_absent : m.found name = none) :
    ∃ collection, (m.perform (.createCollection name)).1 = .ok collection ∧
      (m.perform (.createCollection name)).2.found name = some collection ∧
      m.Gathers name (m.perform (.createCollection name)).2 := by
  have h_perform : m.host.perform (.createCollection name) =
      (.ok (m.host.scene.createCollection name).1,
        { m.host with scene := (m.host.scene.createCollection name).2 }) :=
    Host.perform_of_spares hs
  have h_found : (m.perform (.createCollection name)).2.found name =
      some (m.host.scene.createCollection name).1 := by
    unfold found Moment.perform
    rw [h_perform]
    exact Registry.find?_insert_self m.host.scene.collections name _
  refine ⟨(m.host.scene.createCollection name).1, ?_, h_found, ?_⟩
  · exact congrArg Prod.fst h_perform
  · refine ⟨.perform m _, rfl, spares_perform _, ?_, ?_, ?_⟩
    · intro collection h_some
      rw [h_absent] at h_some
      cases h_some
    · rw [since_perform, h_found, h_absent]
      simp [Call.creates]
    · intro id v hv
      refine .inl ⟨v, ?_, rfl⟩
      unfold Moment.perform at hv
      rw [h_perform] at hv
      exact hv

end Moment

/-! ### Tasks -/

namespace Collecting

/-- **The terms on which tasks share a collection**: nobody creates it while one of them is held
before creating it. -/
def terms (name : String) : Terms Session where
  rely c m m' := m.Gathers name m' ∧ (c.creates name = true → m'.found name = m.found name)
  may _ _ := True
  step m m' := m.Gathers name m'
  rely_refl _ m := ⟨.refl name m, fun _ => rfl⟩
  rely_trans h h' := ⟨h.1.trans h'.1, fun hc => (h'.2 hc).trans (h.2 hc)⟩
  step_refl m := .refl name m
  step_trans h h' := h.trans h'
  step_node _ _ := .perform rfl fun _ _ _ h => nomatch h

/-- The session uses collections of the name, one of which may be known. -/
structure Knows (name : String) (known : Option String) (m : Moment Session) : Prop where
  config : m.memory.config.collection = name
  spares : m.host.Spares .createCollection
  found : ∀ collection ∈ known, m.found name = some collection

variable {name : String} {known : Option String} {m m' : Moment Session}

theorem Knows.gathers (h : Knows name known m) (h_later : m.Gathers name m') :
    Knows name known m' where
  config := by rw [h_later.config, h.config]
  spares := h_later.spares h.spares
  found := fun collection h_known => h_later.kept collection (h.found collection h_known)

/-- **The discipline of tasks that share a collection.** -/
def discipline (name : String) (known : Option String) : Discipline Session :=
  (terms name).keeping (Knows name known)

/-- A call is permitted if it creates no collection and no variable outside the known one. -/
theorem permits {c : Call} (hc : c.creates name = false)
    (h_variable : ∀ x collection type, c = .createVariable x collection type →
      known = some collection) : (discipline name known).Permits c := by
  refine Terms.permits fun m m' hI h_rely _ => ?_
  have hI' := hI.gathers h_rely.1
  have h_step : m'.Gathers name (m'.perform c).2 := .perform hc fun x collection type h_eq =>
    hI'.found collection (h_variable x collection type h_eq)
  exact ⟨h_step, hI'.gathers h_step⟩

/-- A call is permitted if it creates neither a collection nor a variable. -/
theorem permits_other {c : Call} (hc : c.method ≠ .createCollection ∧ c.method ≠ .createVariable) :
    (discipline name known).Permits c := by
  refine permits ?_ fun x collection type h_eq => absurd (congrArg Call.method h_eq) hc.2
  cases c with
  | createCollection => exact absurd rfl hc.1
  | _ => rfl

theorem modifies {f : Session → Session} (hf : ∀ s, (f s).config = s.config) :
    (discipline name known).Holds (Program.modify f) := by
  refine Terms.modifies fun m hI => ?_
  have h_step : m.Gathers name (m.withMemory (f m.memory)) := .withMemory (hf _)
  exact ⟨h_step, hI.gathers h_step⟩

theorem sees_config : (discipline name known).Sees Session.config (·.collection = name) :=
  Terms.sees _ fun _ hI => hI.config

theorem converses :
    (discipline name known).Converses fun s => s.config.collection = name where
  reads := Terms.sees _ fun _ hI => hI.config
  changes _ hf := modifies fun s => (congrArg Session.config (hf s) :)
  delivers := Terms.delivers

theorem records : (discipline name known).Records where
  config := Terms.sees _ fun _ _ => trivial
  read := Terms.sees _ fun _ _ => trivial
  change _ := modifies fun _ => rfl
  stores c hc := permits_other ⟨fun h => by simp [Call.Stores, h, Method.isStorage] at hc,
    fun h => by simp [Call.Stores, h, Method.isStorage] at hc⟩

theorem permits_looks {c : Call} (hc : c.Looks) : (discipline name known).Permits c := by
  refine permits_other ?_
  cases c with
  | createCollection | createVariable => cases hc
  | _ => exact ⟨nofun, nofun⟩

theorem permits_retires {c : Call} (hc : c.Retires) : (discipline name known).Permits c := by
  refine permits_other ?_
  cases c with
  | createCollection | createVariable => cases hc
  | _ => exact ⟨nofun, nofun⟩

theorem permits_wires {collection : String} {c : Call} (hc : c.Wires collection) :
    (discipline name (some collection)).Permits c := by
  cases c with
  | createVariable x collection' type =>
    obtain rfl : collection' = collection := hc
    exact permits rfl fun _ _ _ h => by cases h; rfl
  | mainComponent | instanceProperties | setReactions | setValue | bindProperty =>
    exact permits_other ⟨nofun, nofun⟩
  | _ => cases hc

/-! ### What the functions of a session do -/

/-- **Ensuring the collection**: nobody creates it between the look-up and the creation, so it is
known afterwards. -/
theorem ensureCollection_safe {b : Moment Session} (h_step : b.Gathers name m)
    (hm : Knows name none m) : (Wiring.ensureCollection name).Safe (terms name)
      (ends (fun collection b' m' => b'.Gathers name m' ∧ Knows name (some collection) m')
        fun b' m' => b'.Gathers name m' ∧ Knows name none m') b m := by
  have h_look : (Program.ask .collections : Program Session _).Safe (terms name)
      (ends (fun collections b' m' => (b'.Gathers name m' ∧ Knows name none m') ∧
        collections.find? name = m'.found name)
        fun b' m' => b'.Gathers name m' ∧ Knows name none m') b m := by
    refine .ask h_step fun m' h_rely _ => ?_
    have h_step' : m'.Gathers name (m'.perform .collections).2 := .perform rfl nofun
    have hI := (hm.gathers h_rely.1).gathers h_step'
    have h_found : (m'.perform .collections).2.found name = m'.found name :=
      Moment.found_perform rfl
    obtain ⟨faults, -, h_eq | ⟨e, h_eq⟩⟩ := m'.host.perform_cases .collections
    · unfold Moment.perform at h_found h_step' hI ⊢
      rw [h_eq] at h_found h_step' hI ⊢
      exact ⟨⟨h_step', hI⟩, h_found.symm⟩
    · unfold Moment.perform at h_step' hI ⊢
      rw [h_eq] at h_step' hI ⊢
      exact ⟨h_step', hI⟩
  refine h_look.bind (fun collections b' m' h_looked => ?_) fun _ _ _ hE => hE
  obtain ⟨⟨h_step', hI⟩, h_found⟩ := h_looked
  have h_known {m'' : Moment Session} {collection : String} (hI' : Knows name none m'')
      (h_there : m''.found name = some collection) : Knows name (some collection) m'' :=
    ⟨hI'.config, hI'.spares, fun _ h_same => h_there.trans (congrArg some (Option.some.inj h_same))⟩
  cases h_there : collections.find? name with
  | some collection => exact ⟨h_step', h_known hI (h_found.symm.trans h_there)⟩
  | none =>
    -- while the task is held before the creation, no other task creates the collection
    refine .ask h_step' fun m'' h_rely _ => ?_
    have hI' := hI.gathers h_rely.1
    have h_absent : m''.found name = none :=
      (h_rely.2 (beq_self_eq_true name)).trans (h_found.symm.trans h_there)
    obtain ⟨collection, h_answer, h_after, h_create⟩ :=
      Moment.Gathers.create hI'.spares h_absent
    rw [h_answer]
    exact ⟨h_create, h_known (hI'.gathers h_create) h_after⟩

theorem search_holds : (discipline name none).Holds Analysis.search := by
  refine Analysis.search_holds (fun _ => permits_looks) ?_ sees_config ?_
    (Records.get_holds records)
  · exact Terms.walks (fun _ _ _ hI h_rely => hI.gathers h_rely.1)
      fun _ _ hI => hI.gathers (.perform rfl nofun)
  · rintro config rfl b m h_step hm
    refine (ensureCollection_safe h_step hm).mono fun r b' m' hr => ?_
    cases r with
    | error e => exact hr
    | ok collection => exact ⟨hr.1, hr.2.config, hr.2.spares, nofun⟩

theorem retire_holds (interaction : String) :
    (discipline name known).Holds (Records.retire interaction) :=
  Records.retire_holds records.config (fun _ => permits_retires)
    (Records.dropNested_holds records.read (Records.drop_holds records) interaction)

theorem wire_holds {collection : String} (i : Interaction) (g : Group) :
    (discipline name (some collection)).Holds (Authoring.wire collection i g) :=
  Authoring.wire_holds (Records.put_holds (Records.get_holds records _) retire_holds
    (Records.store_holds records i)) records.config (fun _ => permits_wires) g

theorem proceed_holds (i : Interaction) (group : Group) :
    (discipline name none).Holds (Authoring.proceed i group) := by
  refine sees_config.readConfig fun config h_config b m h_step hm => ?_
  subst h_config
  refine (ensureCollection_safe h_step hm).bind (fun collection b' m' h_ensured => ?_)
    fun _ _ _ hE => hE
  -- from here on the collection is known
  have h_rest : (discipline config.collection (some collection)).Holds
      (Authoring.wireAll collection i group) := by
    refine Authoring.wireAll_holds (wire_holds i group) fun action _ => ?_
    exact Authoring.wireNested_holds (Terms.sees _ (P := fun _ => True) fun _ _ => trivial)
      fun _ _ _ => wire_holds _ _
  exact (h_rest b' m' h_ensured.1 h_ensured.2).mono fun _ _ m'' h_done =>
    ⟨h_done.1, h_done.2.config, h_done.2.spares, nofun⟩

theorem sweep_holds : (discipline name known).Holds Records.sweep :=
  Records.sweep_holds records.config fun _ => permits_retires

/-- **An entry point** keeps to the terms. -/
theorem entry_safe (entry : Entry) (hm : Knows name none m) :
    entry.program.Safe (terms name) ((terms name).closing fun _ _ => True) m m := by
  have h_holds : (discipline name none).Holds entry.program := by
    cases entry with
    | message inbound =>
      refine Session.dispatch_holds converses fun _ _ _ _ e handler _ _ => ?_
      exact Session.serve_holds converses search_holds (fun i _ => proceed_holds i)
        (fun _ => modifies fun _ => rfl) sweep_holds (Records.purgeAll_holds records)
        (modifies fun _ => rfl) (permits_other ⟨nofun, nofun⟩) handler
    | notice => exact Session.selectionChanged_holds converses search_holds
  exact (Terms.keeping_safe h_holds hm).mono fun _ _ _ h_done => ⟨h_done.1, trivial⟩

end Collecting

/-! ### Worlds -/

namespace World

variable {name : String}

/-- Nobody creates a collection of the name while a task is held before creating one. -/
def CreatesAlone (name : String) : World Unit → Turn → Prop :=
  Apart fun c c' => c.creates name = true ∧ c'.creates name = true

instance (w : World Unit) (t : Turn) : Decidable (w.CreatesAlone name t) :=
  inferInstanceAs (Decidable (Apart _ w t))

/-- **A turn gathers**: it keeps what the held tasks rely on. -/
theorem gathers_turn {w : World Unit} {t : Turn} (h_uses : w.Uses t)
    (h_alone : w.CreatesAlone name t) (h_knows : Collecting.Knows name none w.moment)
    (h_held : w.Observes (fun _ => Collecting.terms name) fun _ _ => True) :
    (w.turn t).Observes (fun _ => Collecting.terms name) (fun _ _ => True) ∧
      w.moment.Gathers name (w.turn t).moment := by
  cases h_task : t.task? with
  | some task =>
    have h_turn := h_held.turn h_task (fun entry _ _ => Collecting.entry_safe entry h_knows)
      (fun _ _ _ _ => trivial) fun h_step task' r c h_found h_other h_awaited => by
        refine ⟨h_step, fun hc => h_step.found_eq fun c' hc' => ?_⟩
        have h_apart := h_alone.awaited h_found h_other h_awaited hc'
        exact Bool.eq_false_iff.mpr fun h_creates => h_apart ⟨hc, h_creates⟩
    exact ⟨h_turn.1, h_turn.2.1⟩
  | none =>
    match t, h_uses with
    | .host _, ⟨s, h_used, rfl⟩ =>
      -- the collections and the variables stay where they are
      have h_found : (w.turn (.host { w.host with scene := s })).moment.found name =
          w.moment.found name := congrArg (Registry.find? · name) h_used.collections
      have h_step : w.moment.Gathers name (w.turn (.host { w.host with scene := s })).moment := by
        refine .quiet rfl rfl (fun hs => hs) h_found fun id v hv => ?_
        obtain ⟨v₀, hv₀, -, h_same⟩ := h_used.find? hv
        exact ⟨v₀, hv₀, h_same⟩
      exact ⟨h_held.rely rfl rfl fun _ _ _ _ _ => ⟨h_step, fun _ => h_found⟩, h_step⟩

/-- **One collection for all.** Let any messages and notices come in on a session, whose handling
may be held at any calls and resumed in any order while somebody uses the scene, on a host on which
no creation of a collection fails. If no task creates the session's collection while another one is
held before creating it, then after any turns

* the collection has been created at most once, and not at all if it was there before;
* a collection that was there before is still the one that is found;
* every variable that is new is in the collection that is found. -/
theorem one_collection (w : World Unit) (ts : List Turn) (h_tasks : w.tasks = ∅)
    (h_spares : w.host.Spares .createCollection) (h_uses : w.Every Uses ts)
    (h_alone : w.Every (CreatesAlone w.current.config.collection) ts) :
    let name := w.current.config.collection
    let w' := w.turns ts
    let created := (w.moment.since w'.moment).countP (·.creates name)
    created ≤ 1 ∧
    (∀ collection, w.host.scene.collections.find? name = some collection →
      created = 0 ∧ w'.host.scene.collections.find? name = some collection) ∧
    ∀ id v, w'.host.scene.variableTable.find? id = some v →
      (∃ v₀, w.host.scene.variableTable.find? id = some v₀ ∧ v₀.collection = v.collection) ∨
        w'.host.scene.collections.find? name = some v.collection := by
  intro name w' created
  have h_knows : Collecting.Knows name none w.moment := ⟨rfl, h_spares, nofun⟩
  obtain ⟨-, h_gathers⟩ : w'.Observes (fun _ => Collecting.terms name) (fun _ _ => True) ∧
      w.moment.Gathers name w'.moment := by
    refine (h_uses.and h_alone).turns (I := fun w₁ =>
      w₁.Observes (fun _ => Collecting.terms name) (fun _ _ => True) ∧
        w.moment.Gathers name w₁.moment) (fun w₁ t ⟨h_use, h_one⟩ ⟨h_held, h_so_far⟩ => ?_)
      ⟨.of_empty h_tasks, .refl name _⟩
    obtain ⟨h_next, h_step⟩ := gathers_turn h_use h_one (h_knows.gathers h_so_far) h_held
    exact ⟨h_next, h_so_far.trans h_step⟩
  have h_created := h_gathers.created
  have h_found := Option.length_toList_le (o := w'.moment.found name)
  refine ⟨by omega, fun collection h_there => ?_, h_gathers.gathered⟩
  have h_kept := h_gathers.kept collection h_there
  refine ⟨?_, h_kept⟩
  have h_before : w.moment.found name = some collection := h_there
  rw [h_before, h_kept, Option.toList_some] at h_created
  exact Nat.add_right_cancel (h_created.trans (Nat.zero_add _).symm)

/-- A session on a panel for which no collection was created yet. -/
def unmanaged : World Unit :=
  { panel with host := { scene := { Scene.panel with collections := ∅, nextId := 1 } } }

/-- Two analyses are held before their first calls. The first one creates the collection, and is
held before that as well. An interaction is authored while the second one is held again. -/
theorem one_collection_on_panel :
    let ts : List Turn := [.start "first" .notice .everywhere,
      .start "second" (.message (.envelope { type := "init" })) .everywhere,
      .resume "first" (.before .createCollection 1), .resume "first" .never,
      .resume "second" (.before .collections 1),
      .start "third" (.message (.authoring (.switchingOn "tabs" 1 []))) (.before .createVariable 2),
      .resume "second" .never, .resume "third" .never]
    let w := unmanaged.turns ts
    (unmanaged.moment.since w.moment).countP (·.creates "state-machine") ≤ 1 ∧
      ∀ id v, w.host.scene.variableTable.find? id = some v →
        w.host.scene.collections.find? "state-machine" = some v.collection := by
  intro ts w
  obtain ⟨h_once, -, h_gathered⟩ := one_collection unmanaged ts rfl rfl
    ⟨trivial, trivial, trivial, trivial, trivial, trivial, trivial, trivial, trivial⟩
    (by decide +kernel)
  refine ⟨h_once, fun id v hv => ?_⟩
  rcases h_gathered id v hv with ⟨v₀, hv₀, -⟩ | h_new
  · cases hv₀
  · exact h_new

/-- **A collection is hidden.** An analysis is held between its look-up and its creation. Another
one creates the collection meanwhile, and an interaction is authored. When the first analysis goes
on, a second collection takes the name, and the variables are in one that is no longer found. -/
theorem collection_hidden :
    let w := unmanaged.turns [.start "first" .notice (.before .createCollection 1),
      .start "second" .notice .never,
      .start "third" (.message (.authoring (.switchingOn "tabs" 1 []))) .never,
      .resume "first" .never]
    (unmanaged.moment.since w.moment).countP (·.creates "state-machine") = 2 ∧
      w.host.scene.variableNames =
        ["tabs_1_primary", "tabs_1_instance_0_State", "tabs_1_instance_1_State"] ∧
      (w.host.scene.collections.find? "state-machine").map w.host.scene.variablesOf = some [] := by
  decide +kernel

end World

end Clickwork

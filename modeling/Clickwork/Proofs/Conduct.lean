import Clickwork.Proofs.Discipline
import Clickwork.Proofs.Policy
import Clickwork.Proofs.Records
import Clickwork.Session.Analysis
import Clickwork.Session.Authoring

/-!
# What carrying out an interaction may do

The functions that keep records and author interactions have every discipline under which the calls
are permitted that they make. What they read of the memory is the configuration, the records and the
groups of the context, and they change nothing but the records.

Carrying an interaction out is taken apart into the check that admits it, which only looks at the
session (`Authoring.outcome_admission`), and what is left to do on the group that was found
(`Authoring.proceed`, `Authoring.carryOut_eq`).

Obeying a policy is a discipline (`Policy.discipline`). So `Authoring.carryOut` changes nothing in
the memory of its session but the records (`Policy.recording`): not the groups, the guard, the token
of the last analysis or what waits in the outbox. It delivers nothing, and it never walks
(`Authoring.carryOut_obeys`).
-/

namespace Clickwork

open Program

/-- **The calls by which an interaction is retired**, apart from those to the storage. -/
def Call.Retires : Call → Prop
  | .collections | .listVariables _ | .removeVariable _ | .allReactions | .setReactions _ [] => True
  | _ => False

/-! Neither these calls nor those by which a group is wired or looked for concern the storage. -/

theorem Call.Retires.isStorage {c : Call} (hc : c.Retires) : c.method.isStorage = false := by
  cases c <;> first | rfl | cases hc

theorem Call.Wires.isStorage {collection : String} {c : Call} (hc : c.Wires collection) :
    c.method.isStorage = false := by
  cases c <;> first | rfl | cases hc

theorem Call.Looks.isStorage {c : Call} (hc : c.Looks) : c.method.isStorage = false := by
  cases c <;> first | rfl | cases hc

/-- The calls to the storage. -/
def Call.Stores (c : Call) : Prop :=
  c.method.isStorage = true

/-- **A discipline under which records are read and changed.** -/
structure Discipline.Records (D : Discipline Session) : Prop where
  config : D.Sees Session.config fun _ => True
  read : D.Sees Session.records fun _ => True
  change : ∀ f : Registry String Interaction → Registry String Interaction,
    D.Holds (Program.modify fun s : Session => { s with records := f s.records })
  stores : ∀ c : Call, c.Stores → D.Permits c

variable {D : Discipline Session}

theorem Discipline.Sees.readConfig {possible : Config → Prop} {α : Type}
    {f : Config → Program Session α} (h : D.Sees Session.config possible)
    (hf : ∀ config, possible config → D.Holds (f config)) : D.Holds (Session.readConfig >>= f) :=
  h.read f hf

theorem Discipline.Sees.readContext {τ : Type} {possible : τ → Prop} {α : Type}
    (view : Context → τ) (h : D.Sees (fun s => view s.context) possible)
    {f : Context → Program Session α} (h_view : f.FactorsThrough view)
    (hf : ∀ c, possible (view c) → D.Holds (f c)) : D.Holds (Session.readContext >>= f) :=
  h.reads (f := fun s => f s.context) (fun _ _ h_same => h_view h_same) fun s => hf s.context

/-! ### Retiring -/

namespace Records

/-- **Dropping a record**, given that it may be forgotten and its text deleted. -/
theorem drop_holds_of_delete {group : String} (h_forget : D.Holds (forget group))
    (h_config : D.Sees Session.config fun _ => True)
    (h_delete : ∀ key, D.Permits (.storageDelete key)) : D.Holds (drop group) := by
  refine D.bind h_forget fun _ => h_config.readConfig fun config _ => ?_
  refine D.bind (h_delete _) fun answer => ?_
  split
  · exact .pure _
  · exact D.log _ _ _

theorem drop_holds (hD : D.Records) (group : String) : D.Holds (drop group) :=
  drop_holds_of_delete (hD.change (·.erase group)) hD.config fun _ => hD.stores _ rfl

theorem dropNested_holds (h_read : D.Sees Session.records fun _ => True)
    (h_drop : ∀ group, D.Holds (drop group)) (interaction : String) :
    D.Holds (dropNested interaction) := by
  have h_all (records : Registry String Interaction) :
      D.Holds ((records.filter fun _ record => ownedBy interaction record.id).keys.forM drop) :=
    .forM _ fun group _ => h_drop group
  exact h_read.read _ fun records _ => h_all records

theorem collection?_holds (h_config : D.Sees Session.config fun _ => True)
    (h_look : D.Permits .collections) : D.Holds collection? :=
  h_config.readConfig fun _ _ => D.bind (.ask h_look) fun _ => .pure _

theorem remove_holds {v : VariableInfo} (h_remove : D.Permits (.removeVariable v.id))
    (display : String → String) : D.Holds (remove display v) := by
  refine D.bind h_remove fun answer => ?_
  split
  · exact .pure _
  · exact D.bind (D.log _ _ _) fun _ => .pure _

theorem filterBy_holds {α : Type} {step : α → Program Session Bool} (xs : List α)
    (h_step : ∀ a ∈ xs, D.Holds (step a)) : D.Holds (filterBy step xs) := by
  induction xs with
  | nil => exact .pure _
  | cons x xs ih =>
    refine D.bind (h_step x List.mem_cons_self) fun _ => ?_
    exact D.bind (ih fun a h_mem => h_step a (List.mem_cons_of_mem x h_mem)) fun _ => .pure _

theorem detach_holds (h_all : D.Permits .allReactions)
    (h_clear : ∀ id, D.Permits (.setReactions id [])) (removed : List String) :
    D.Holds (detach removed) := by
  refine D.bind (.ask h_all) fun reactions => .forM _ fun entry _ => ?_
  unfold detachNode
  dsimp only
  split
  · refine D.bind (h_clear _) fun answer => ?_
    split
    · exact .pure _
    · exact D.log _ _ _
  · exact .pure _

theorem removeOwned_holds (h_config : D.Sees Session.config fun _ => True)
    (h_calls : ∀ c : Call, c.Retires → D.Permits c) (interaction : String) :
    D.Holds (removeOwned interaction) := by
  refine D.bind (collection?_holds h_config (h_calls _ trivial)) fun collection => ?_
  split
  · exact .pure _
  · refine D.bind (.ask (h_calls (.listVariables _) trivial)) fun managed => ?_
    refine D.bind (filterBy_holds _ fun _ _ => remove_holds (h_calls _ trivial) id)
      fun removed => ?_
    dsimp only
    split
    · exact .pure _
    · exact D.bind (detach_holds (h_calls _ trivial) (fun _ => h_calls _ trivial) _) fun _ =>
        .pure _

/-- **Retiring**, given that records are dropped in some way. -/
theorem retire_holds (h_config : D.Sees Session.config fun _ => True)
    (h_calls : ∀ c : Call, c.Retires → D.Permits c) {interaction : String}
    (h_nested : D.Holds (dropNested interaction)) : D.Holds (retire interaction) := by
  rw [retire_eq]
  exact D.bind h_nested fun _ => removeOwned_holds h_config h_calls interaction

/-! ### Reading and replacing -/

theorem get_holds (hD : D.Records) (group : String) : D.Holds (get group) := by
  have h_stored : D.Holds (stored? group) := by
    refine hD.config.readConfig fun config _ => D.bind (hD.stores _ rfl) fun answer => ?_
    split
    · exact .pure _
    · exact D.bind (D.log _ _ _) fun _ => .pure _
  refine hD.read.reads (fun s s' h_same => by simp only [h_same]) fun s _ => ?_
  split
  · exact .pure _
  · refine D.bind h_stored fun text => ?_
    split
    · exact .pure _
    · refine hD.config.readConfig fun config _ => ?_
      split
      · exact D.bind (hD.change (·.insert group _)) fun _ => .pure _
      · split
        · exact D.bind (D.log _ _ _) fun _ => .pure _
        · exact D.lift _

theorem existing_holds (h_get : ∀ group, D.Holds (get group)) (groups : List String) :
    D.Holds (existing groups) := by
  refine .foldlM _ _ fun found group _ => D.bind (h_get group) fun record => ?_
  split <;> exact .pure _

/-- **Keeps an interaction and stores it**, which is the end of putting it on record. -/
def store (i : Interaction) : Program Session Unit := do
  keep i.group i
  let config ← Session.readConfig
  match ← Program.tryAsk (.storageSet (config.storageKey i.group) i.text) with
  | .ok () => return ()
  | .error e => Program.log .error "Error storing interaction data" (some e)

theorem store_holds (hD : D.Records) (i : Interaction) : D.Holds (store i) := by
  refine D.bind (hD.change (·.insert i.group i)) fun _ => hD.config.readConfig fun config _ => ?_
  refine D.bind (hD.stores _ rfl) fun answer => ?_
  split
  · exact .pure _
  · exact D.log _ _ _

/-- **Putting an interaction on record**, given that records are read, dropped and stored in some
way. -/
theorem put_holds {i : Interaction} (h_get : D.Holds (get i.group))
    (h_retire : ∀ interaction, D.Holds (retire interaction)) (h_store : D.Holds (store i)) :
    D.Holds (put i) := by
  have h_record : D.Holds (record i) := D.bind (h_retire i.id) fun _ => h_store
  refine D.bind h_get fun previous => ?_
  cases previous with
  | none => exact h_record
  | some previous =>
    dsimp only
    split
    · exact D.bind (h_retire _) fun _ => D.bind (D.log _ _ _) fun _ => h_record
    · exact h_record

/-! ### Cleaning up -/

theorem sweep_holds (h_config : D.Sees Session.config fun _ => True)
    (h_calls : ∀ c : Call, c.Retires → D.Permits c) : D.Holds sweep := by
  refine D.bind (collection?_holds h_config (h_calls _ trivial)) fun collection => ?_
  split
  · exact .pure _
  · refine D.bind (.ask (h_calls (.listVariables _) trivial)) fun managed => ?_
    split
    · exact .pure _
    · refine D.bind (.ask (h_calls .allReactions trivial)) fun reactions => ?_
      refine D.bind (filterBy_holds _ fun _ _ => remove_holds (h_calls _ trivial) _)
        fun removed => ?_
      exact D.bind (D.log _ _ _) fun _ => .pure _

theorem purgeAll_holds (hD : D.Records) (groups : List String) : D.Holds (purgeAll groups) := by
  refine .forM _ fun group _ => D.bind (hD.change (·.erase group)) fun _ => ?_
  exact hD.config.readConfig fun config _ => .ask (hD.stores _ rfl)

end Records

/-! ### Carrying out an interaction -/

namespace Authoring

theorem wire_holds {collection : String} {i : Interaction} (h_put : D.Holds (Records.put i))
    (h_config : D.Sees Session.config fun _ => True)
    (h_calls : ∀ c : Call, c.Wires collection → D.Permits c) (g : Group) :
    D.Holds (wire collection i g) := by
  refine D.bind h_put fun _ => D.bind (Wiring.createMarkers_holds h_calls i) fun _ => ?_
  exact h_config.readConfig fun config _ => Wiring.apply_holds h_calls i g config

/-- **A nested action** that is carried out is one on another group. -/
theorem wireNested_holds {collection : String} {i : Interaction} {action : NestedAction}
    {P : Except Failure Group → Prop} (h_target : D.Sees (·.context.group action.target) P)
    {g : Group} (h_wire : ∀ target, P (.ok target) → target.id ≠ g.id →
      D.Holds (wire collection (i.nested action) target)) :
    D.Holds (wireNested collection i g action) := by
  refine h_target.readContext (·.group action.target) (fun c c' h_same => by simp only [h_same])
    fun c h_possible => ?_
  cases h_found : c.group action.target with
  | error => exact D.bind (D.log _ _ _) fun _ => .pure _
  | ok target =>
    dsimp only
    split
    · exact D.bind (D.log _ _ _) fun _ => .pure _
    · exact .map _ (h_wire _ (h_found ▸ h_possible) ‹_›)

/-- **What carrying out a nested action comes to**: nothing, if its target is unknown or the authored
group itself; otherwise its own interaction is wired onto the target. -/
theorem wireNested_ends {collection : String} {i : Interaction} {g : Group} {action : NestedAction}
    {s : Session} {h : Host} {Q : Except Failure (Option Wiring) → Session → Host → Prop}
    (h_unknown : ∀ e, s.context.group action.target = .error e → Q (.ok none) s h)
    (h_own : ∀ target, s.context.group action.target = .ok target → target.id = g.id →
      Q (.ok none) s h)
    (h_wire : ∀ target, s.context.group action.target = .ok target → target.id ≠ g.id →
      (wire collection (i.nested action) target).Ends s h fun r => Q (r.map some)) :
    (wireNested collection i g action).Ends s h Q := by
  rw [wireNested]
  refine Ends.bind_eq (Session.outcome_readContext _ _) ?_
  cases h_target : s.context.group action.target with
  | error e => exact Ends.bind_eq (Program.outcome_log _ _ _ _ _) (h_unknown e h_target)
  | ok target =>
    change Ends (if target.id = g.id then _ else _) s h _
    split
    · exact Ends.bind_eq (Program.outcome_log _ _ _ _ _) (h_own target h_target ‹_›)
    · rw [map_eq_pure_bind]
      refine (h_wire target h_target ‹_›).bind ?_ ?_
      · exact fun _ _ _ _ h_done => h_done
      · exact fun _ _ _ _ h_done => h_done

/-- **Wires the group of an interaction and those of its nested actions.** -/
def wireAll (collection : String) (i : Interaction) (group : Group) :
    Program Session Authoring := do
  let main ← wire collection i group
  let nested ← i.nestedActions.mapM (wireNested collection i group)
  return { interaction := i, group, main, nested := nested.filterMap id }

theorem wireAll_holds {collection : String} {i : Interaction} {group : Group}
    (h_main : D.Holds (wire collection i group))
    (h_nested : ∀ action ∈ i.nestedActions, D.Holds (wireNested collection i group action)) :
    D.Holds (wireAll collection i group) :=
  D.bind h_main fun _ => D.bind (.mapM _ h_nested) fun _ => .pure _

/-- **What is left of carrying out an interaction** when its group has been looked up. -/
def proceed (i : Interaction) (group : Group) : Program Session Authoring := do
  let config ← Session.readConfig
  let collection ← Wiring.ensureCollection config.collection
  wireAll collection i group

theorem proceed_holds {i : Interaction} {group : Group}
    (h_config : D.Sees Session.config fun _ => True)
    (h_ensure : ∀ name, D.Holds (Wiring.ensureCollection name))
    (h_all : ∀ collection, D.Holds (wireAll collection i group)) : D.Holds (proceed i group) :=
  h_config.readConfig fun _ _ => D.bind (h_ensure _) h_all

/-- **The part of carrying out an interaction that checks it**: its group is looked up, and its
primary action has to be a setting. -/
def admission (i : Interaction) : Program Session Group := do
  let group ← Program.lift ((← Session.readContext).group i.group)
  if (Setting.parse? i.primaryAction).isNone then
    Program.lift (.error (.protocol (.notSetting i.primaryAction)))
  return group

end Authoring

/-- **The group that an interaction is carried out on**, if the session knows it and the primary
action is a setting. -/
def Session.admitted (s : Session) (i : Interaction) : Except Failure Group :=
  match s.context.group i.group with
  | .error e => .error e
  | .ok group =>
    if (Setting.parse? i.primaryAction).isNone then .error (.protocol (.notSetting i.primaryAction))
    else .ok group

namespace Session

variable {s s' : Session} {i : Interaction} {g : Group} {e : Failure}

theorem admitted_eq_ok_iff : s.admitted i = .ok g ↔
    s.context.group i.group = .ok g ∧ (Setting.parse? i.primaryAction).isSome = true := by
  rw [admitted]
  cases s.context.group i.group <;> cases Setting.parse? i.primaryAction <;> simp

theorem of_admitted_eq_error (h_error : s.admitted i = .error e) :
    s.context.group i.group = .error e ∨ Setting.parse? i.primaryAction = none := by
  rw [admitted] at h_error
  cases h_group : s.context.group i.group with
  | error e' =>
    rw [h_group] at h_error
    exact .inl h_error
  | ok g =>
    refine .inr (Option.isNone_iff_eq_none.mp ?_)
    simp only [h_group] at h_error
    split at h_error
    · assumption
    · cases h_error

theorem admitted_congr (h_group : s.context.group i.group = s'.context.group i.group) :
    s.admitted i = s'.admitted i := by
  rw [admitted, admitted, h_group]

end Session

namespace Authoring

/-- The check looks at the session, and at nothing else. -/
theorem admission_eq (i : Interaction) :
    admission i = (do Program.lift ((← Program.read).admitted i)) := by
  refine congrArg Program.get (funext fun s => ?_)
  change (Program.lift (s.context.group i.group) >>= fun group => _) = Program.lift (s.admitted i)
  rw [Session.admitted]
  cases s.context.group i.group with
  | error e => rfl
  | ok group =>
    change (if _ then _ else _) = Program.lift (if _ then _ else _)
    split <;> rfl

/-- A program that begins with the check. -/
theorem admission_bind {α : Type} (i : Interaction) (rest : Group → Program Session α) :
    admission i >>= rest = (do
      let group ← Program.lift ((← Session.readContext).group i.group)
      if (Setting.parse? i.primaryAction).isNone then
        Program.lift (.error (.protocol (.notSetting i.primaryAction)))
      rest group) := by
  unfold admission
  simp only [LawfulMonad.bind_assoc]
  refine congrArg _ (funext fun context => congrArg _ (funext fun group => ?_))
  split
  · rfl
  · simp only [LawfulMonad.pure_bind]

/-- **Carrying an interaction out** is to check it, and to proceed if nothing speaks against it. -/
theorem carryOut_eq (i : Interaction) : carryOut i = (do
    let group ← admission i
    proceed i group) :=
  (admission_bind i (proceed i)).symm

variable {s : Session} {h : Host} {i : Interaction}

theorem outcome_admission (i : Interaction) (s : Session) (h : Host) :
    (admission i).outcome s h = (s.admitted i, s, h) := by
  rw [admission_eq, Program.outcome_bind_ok (Program.outcome_read s h), Program.outcome_lift]

/-- **An interaction that is not admitted** leaves the session and the host as they are. -/
theorem carryOut_ends_of_proceed {Q : Except Failure Authoring → Session → Host → Prop}
    (h_refused : ∀ e, s.admitted i = .error e → Q (.error e) s h)
    (h_proceed : ∀ g, s.admitted i = .ok g → (proceed i g).Ends s h Q) :
    (carryOut i).Ends s h Q := by
  rw [carryOut_eq]
  cases h_admitted : s.admitted i with
  | error e =>
    rw [Ends, Program.outcome_bind, outcome_admission, h_admitted]
    exact h_refused e h_admitted
  | ok g =>
    exact Ends.bind_eq (by rw [outcome_admission, h_admitted]) (h_proceed g h_admitted)

/-- What is carried out was admitted. -/
theorem of_carryOut {a : Authoring} (h_ok : ((carryOut i).outcome s h).1 = .ok a) :
    ∃ g, s.admitted i = .ok g ∧ ((proceed i g).outcome s h).1 = .ok a := by
  have h_ends : (carryOut i).Ends s h fun r _ _ => r = .ok a →
      ∃ g, s.admitted i = .ok g ∧ ((proceed i g).outcome s h).1 = .ok a :=
    carryOut_ends_of_proceed (fun e _ => nofun) fun g h_admitted h_ok => ⟨g, h_admitted, h_ok⟩
  exact h_ends h_ok

end Authoring

namespace Discipline.Records

theorem wire_holds (hD : D.Records) (h_calls : ∀ c : Call, c ≠ .selection → D.Permits c)
    (collection : String) (i : Interaction) (g : Group) :
    D.Holds (Authoring.wire collection i g) := by
  refine Authoring.wire_holds (Records.put_holds (Records.get_holds hD _) (fun interaction => ?_)
    (Records.store_holds hD i)) hD.config (fun c hc => h_calls c (by rintro rfl; exact hc)) g
  exact Records.retire_holds hD.config (fun c hc => h_calls c (by rintro rfl; exact hc))
    (Records.dropNested_holds hD.read (Records.drop_holds hD) interaction)

/-- **Carrying out an interaction** reads the configuration, the records and the groups of its
nested actions. -/
theorem proceed_holds (hD : D.Records) (h_calls : ∀ c : Call, c ≠ .selection → D.Permits c)
    {i : Interaction}
    (h_targets : ∀ action ∈ i.nestedActions, D.Sees (·.context.group action.target) fun _ => True)
    (group : Group) : D.Holds (Authoring.proceed i group) := by
  refine Authoring.proceed_holds hD.config
    (fun _ => Wiring.ensureCollection_holds (h_calls _ nofun) (h_calls _ nofun))
    fun collection => ?_
  refine Authoring.wireAll_holds (hD.wire_holds h_calls _ _ _) fun action h_action => ?_
  exact Authoring.wireNested_holds (h_targets action h_action) fun _ _ _ =>
    hD.wire_holds h_calls _ _ _

end Discipline.Records

/-! ### Policies as disciplines -/

/-- **Obeying a policy is a discipline**, if everything may be logged. -/
def Policy.discipline {σ : Type} (P : Policy σ)
    (h_logs : ∀ level text cause, P.events (.log level text cause)) : Discipline σ where
  Holds p := p.Obeys P
  lift := .lift
  bind := .bind
  attempt := .attempt
  log _ _ _ := .log (h_logs _ _ _)

/-- The memory of a session without its records. -/
def Session.withoutRecords (s : Session) : Session :=
  { s with records := ∅ }

/-- **Only records change, and nothing is delivered.** -/
def Policy.recording (walks : Prop) : Policy Session :=
  .keeping Session.withoutRecords walks

/-- The discipline of changing only records. -/
def Discipline.recording (walks : Prop) : Discipline Session :=
  (Policy.recording walks).discipline fun _ _ _ => rfl

variable {walks : Prop}

theorem Session.readContext_obeys {P : Policy Session} : readContext.Obeys P :=
  Obeys.read.bind fun _ => .pure _

theorem Discipline.permits_recording (c : Call) : (Discipline.recording walks).Permits c :=
  Obeys.tryAsk rfl

/-- Obeying a policy does not depend on what is read. -/
theorem Discipline.sees_recording {τ : Type} (view : Session → τ) :
    (Discipline.recording walks).Sees view fun _ => True :=
  ⟨fun _ h => Obeys.read.bind fun _ => h _ trivial⟩

theorem Discipline.records_recording : (Discipline.recording walks).Records where
  config := sees_recording _
  read := sees_recording _
  change _ := Obeys.modify fun _ => rfl
  stores c _ := permits_recording c

/-- What a program comes to is a change that it may make. -/
theorem Program.Obeys.outcome {σ α : Type} {P : Policy σ} {p : Program σ α} (hp : p.Obeys P)
    (s : σ) (h : Host) : P.changes s (p.outcome s h).2.1 := by
  have h_leads := (run_obeys p .never (m := { memory := s, host := h }) (hp s)).1.changes
  rw [run_never] at h_leads
  exact h_leads

theorem Records.get_obeys (group : String) : (get group).Obeys (.recording walks) :=
  get_holds Discipline.records_recording group

/-- **Carrying out an interaction** changes nothing but the records, and never walks. -/
theorem Authoring.carryOut_obeys (i : Interaction) : (carryOut i).Obeys (.recording False) := by
  have h_proceed (group : Group) : (proceed i group).Obeys (.recording False) :=
    Discipline.records_recording.proceed_holds (fun c _ => Discipline.permits_recording c)
      (fun _ _ => Discipline.sees_recording _) group
  rw [carryOut_eq, admission_eq]
  exact (Obeys.read.bind fun _ => .lift _).bind h_proceed

end Clickwork

import Clickwork.Discovery
import Clickwork.Program.Lemmas
import Clickwork.Wiring
import Mathlib.Logic.Function.Basic

/-!
# Disciplines

Many properties of programs are shown in one way: what asks nothing has the property, a call has it
if the call is permitted, and a sequence has it if its parts do. A `Discipline` is such a property.
Its lemmas go through the functions that programs are made of, once for all properties: each says
which calls must be permitted for the function to have it.

A discipline does not permit programs to read the whole memory. What it may depend on is said by
`Discipline.Sees`.
-/

namespace Clickwork

/-- **A property that programs have because their parts have it.** -/
structure Discipline (σ : Type) where
  Holds {α : Type} : Program σ α → Prop
  lift {α : Type} (r : Except Failure α) : Holds (Program.lift r)
  bind {α β : Type} {p : Program σ α} {f : α → Program σ β} :
    Holds p → (∀ a, Holds (f a)) → Holds (p >>= f)
  attempt {α : Type} {p : Program σ α} : Holds p → Holds p.attempt
  log (level : Level) (text : String) (cause : Option Failure) :
    Holds (Program.log level text cause)

namespace Discipline

variable {σ τ α β : Type} (D : Discipline σ)

/-- **A call is permitted** if making it has the property. -/
def Permits (c : Call) : Prop :=
  D.Holds (Program.tryAsk c)

/-- **A view of the memory may be read**: programs that depend on nothing else of the memory have
the property, whichever of the possible values they find. -/
structure Sees (view : σ → τ) (possible : τ → Prop) : Prop where
  read {α : Type} (f : τ → Program σ α) :
    (∀ x, possible x → D.Holds (f x)) → D.Holds (Program.read >>= fun s => f (view s))

variable {D}

/-- **A program that depends on a view of the memory alone** has the property if it has it for the
possible values. -/
theorem Sees.reads {view : σ → τ} {possible : τ → Prop} (h_sees : D.Sees view possible)
    {f : σ → Program σ α} (h_view : f.FactorsThrough view)
    (hf : ∀ s, possible (view s) → D.Holds (f s)) : D.Holds (Program.read >>= f) := by
  -- a value that is nobody's view may be answered in any way
  let refuse (_ : τ) : Program σ α := Program.lift (.error .busy)
  have h_same : (fun s => Function.extend view f refuse (view s)) = f :=
    funext fun s => h_view.extend_apply refuse s
  rw [← h_same]
  refine h_sees.read (Function.extend view f refuse) fun x h_possible => ?_
  by_cases hx : ∃ s, view s = x
  · obtain ⟨s, rfl⟩ := hx
    rw [h_view.extend_apply]
    exact hf s h_possible
  · rw [Function.extend_apply' _ _ _ hx]
    exact D.lift _

/-! ### Putting programs together -/

namespace Holds

theorem pure (a : α) : D.Holds (Pure.pure a : Program σ α) :=
  D.lift (.ok a)

theorem map (f : α → β) {p : Program σ α} (hp : D.Holds p) : D.Holds (f <$> p) :=
  D.bind hp fun _ => pure _

theorem ask {c : Call} (hc : D.Permits c) : D.Holds (Program.ask c : Program σ c.Answer) := by
  change D.Holds ((Program.tryAsk c).bind Program.lift)
  exact D.bind hc D.lift

theorem forM {f : α → Program σ Unit} (xs : List α) (hf : ∀ x ∈ xs, D.Holds (f x)) :
    D.Holds (xs.forM f) := by
  induction xs with
  | nil => exact pure ()
  | cons x xs ih =>
    change D.Holds (f x >>= fun _ => xs.forM f)
    exact D.bind (hf x List.mem_cons_self) fun _ => ih fun y hy => hf y (List.mem_cons_of_mem x hy)

theorem mapM {f : α → Program σ β} (xs : List α) (hf : ∀ x ∈ xs, D.Holds (f x)) :
    D.Holds (xs.mapM f) := by
  induction xs with
  | nil => exact pure []
  | cons x xs ih =>
    rw [List.mapM_cons]
    refine D.bind (hf x List.mem_cons_self) fun b => ?_
    exact D.bind (ih fun y hy => hf y (List.mem_cons_of_mem x hy)) fun _ => pure _

theorem foldlM {f : β → α → Program σ β} (xs : List α) (b : β)
    (hf : ∀ b, ∀ x ∈ xs, D.Holds (f b x)) : D.Holds (xs.foldlM f b) := by
  induction xs generalizing b with
  | nil => exact pure b
  | cons x xs ih =>
    rw [List.foldlM_cons]
    exact D.bind (hf b x List.mem_cons_self) fun b' =>
      ih b' fun b y hy => hf b y (List.mem_cons_of_mem x hy)

end Holds

end Discipline

/-! ### What is asked -/

/-- **The queries about nodes.** -/
def Call.Looks : Call → Prop
  | .selection | .node _ | .mainComponent _ | .instanceProperties _ => True
  | _ => False

/-- **The calls by which a group is wired** with variables of a collection. -/
def Call.Wires (collection : String) : Call → Prop
  | .createVariable _ c _ => c = collection
  | .mainComponent _ | .instanceProperties _ | .setReactions .. | .setValue .. | .bindProperty .. =>
    True
  | _ => False

variable {σ : Type} {D : Discipline σ}

/-! ### Discovering and resolving -/

namespace Discovery

theorem nestedInstances_holds (h_node : ∀ id, D.Permits (.node id))
    (h_walk : ∀ ids, D.Holds (Program.instancesBelow ids)) (container : String) :
    D.Holds (nestedInstances (σ := σ) container) := by
  refine D.bind (.ask (h_node _)) fun node => ?_
  cases node with
  | none => exact .pure _
  | some node => exact h_walk _

theorem addInstance_holds (h : ∀ c : Call, c.Looks → D.Permits c)
    (groups : Registry String Group) (id : String) :
    D.Holds (addInstance (σ := σ) groups id) := by
  refine D.bind (.ask (h _ trivial)) fun component => ?_
  rcases component with _ | ⟨_, _, _ | set⟩
  · exact D.bind (D.log _ _ _) fun _ => .pure _
  · exact D.bind (.ask (h _ trivial)) fun node => .pure _
  · refine D.bind (.ask (h _ trivial)) fun node => ?_
    exact D.bind (.ask (h _ trivial)) fun properties => .pure _

theorem groups_holds (h : ∀ c : Call, c.Looks → D.Permits c) (ids : List String) :
    D.Holds (groups (σ := σ) ids) :=
  D.bind (.foldlM _ _ fun groups id _ => addInstance_holds h groups id) fun _ => .pure _

end Discovery

theorem Resolution.property_holds (h : ∀ id, D.Permits (.mainComponent id)) (candidate : String)
    (instances : List Instance) : D.Holds (Resolution.property (σ := σ) candidate instances) := by
  have h_among : ∀ instances found asked,
      D.Holds (propertyAmong (σ := σ) candidate found asked instances) := by
    intro instances
    induction instances with
    | nil => exact fun _ _ => .pure _
    | cons i rest ih =>
      intro found asked
      refine D.bind (.ask (h _)) fun component => ?_
      -- the search ends at the first instance that settles it
      repeat' split
      all_goals first | exact ih _ _ | exact .pure _
  unfold Resolution.property
  split
  · exact .pure _
  · exact h_among _ _ _

/-! ### Wiring -/

namespace Wiring

theorem ensureCollection_holds {name : String} (h_look : D.Permits .collections)
    (h_create : D.Permits (.createCollection name)) :
    D.Holds (ensureCollection (σ := σ) name) := by
  refine D.bind (.ask h_look) fun collections => ?_
  split
  · exact .pure _
  · exact .ask h_create

theorem createMarkers_holds {collection : String}
    (h : ∀ c : Call, c.Wires collection → D.Permits c) (i : Interaction) :
    D.Holds (createMarkers (σ := σ) collection i) :=
  .mapM _ fun _ _ => D.bind (.ask (h _ rfl)) fun _ => D.bind (.ask (h _ trivial)) fun _ => .pure _

theorem readValue_holds (h : ∀ id, D.Permits (.instanceProperties id)) (property : String)
    (i : Instance) : D.Holds (readValue (σ := σ) property i) := by
  refine D.bind (h _) fun answer => ?_
  split
  · exact D.bind (D.log _ _ _) fun _ => .pure _
  · split <;> exact .pure _

theorem readValues_holds (h : ∀ id, D.Permits (.instanceProperties id)) (property : String)
    (instances : List Instance) : D.Holds (instances.mapM (readValue (σ := σ) property)) :=
  .mapM _ fun i _ => readValue_holds h property i

theorem createState_holds {collection : String}
    (h : ∀ c : Call, c.Wires collection → D.Permits c) (name : String)
    (captured : Option String) : D.Holds (createState (σ := σ) collection name captured) :=
  D.bind (.ask (h _ rfl)) fun _ => D.bind (D.lift _) fun _ =>
    D.bind (.ask (h _ trivial)) fun _ => .pure _

theorem fillSlot_holds {plan : Plan} (h : ∀ c : Call, c.Wires plan.collection → D.Permits c)
    (captured : List String) (entry : Instance × Nat) :
    D.Holds (fillSlot (σ := σ) plan captured entry) := by
  refine D.bind (D.attempt (createState_holds h _ _)) fun result => ?_
  cases result with
  | error e => exact D.bind (D.log _ _ _) fun _ => .pure _
  | ok id =>
    refine D.bind (h (.bindProperty ..) trivial) fun answer => ?_
    split
    · exact .pure _
    · exact D.bind (D.log _ _ _) fun _ => .pure _

theorem install_holds {reactions : List Reaction}
    (h_clear : ∀ id, D.Permits (.setReactions id []))
    (h_place : ∀ r ∈ reactions, ∀ id, D.Permits (.setReactions id [r]))
    (instances : List Instance) : D.Holds (install (σ := σ) instances reactions) := by
  refine D.bind (.forM _ fun entry _ => ?_) fun _ => ?_
  · refine D.bind (h_clear _) fun answer => ?_
    split
    · exact .pure _
    · exact D.log _ _ _
  · refine D.bind (.mapM _ fun entry h_mem => ?_) fun _ => .pure _
    refine D.bind (h_place _ (List.of_mem_zip h_mem).2 _) fun answer => ?_
    split
    · exact .pure _
    · exact D.bind (D.log _ _ _) fun _ => .pure _

theorem prepare_holds {collection : String} (h : ∀ c : Call, c.Wires collection → D.Permits c)
    (i : Interaction) (g : Group) (config : Config) (primary : Setting) (property : String) :
    D.Holds (prepare (σ := σ) collection i g config primary property) := by
  have h_values : D.Holds (g.instances.mapM (readValue (σ := σ) property)) :=
    readValues_holds (fun _ => h _ trivial) property _
  refine D.bind h_values fun captured => ?_
  refine D.bind (.mapM _ fun entry _ => fillSlot_holds h captured entry) fun slots => ?_
  exact D.bind h_values fun shown => D.bind (D.lift _) fun table => .pure _

/-- What is done with what was prepared: reactions are built and installed. -/
def complete (i : Interaction) (g : Group) (property : Option String)
    (prepared : Option (TargetTable × List Slot)) : Program σ Wiring := do
  let table := prepared.map Prod.fst
  let slots := prepared.map Prod.snd
  let reactions ← Program.lift (Reaction.build table slots g.instances.length)
  let installed ← install g.instances reactions
  return { interaction := i.id, group := g.id, property, table, slots, installed }

/-- **Wiring is preparing and completing.** If the primary property does not apply, nothing is
prepared. -/
theorem apply_eq_complete (collection : String) (i : Interaction) (g : Group) (config : Config) :
    apply (σ := σ) collection i g config = (do
      let primary := Setting.parse? i.primaryAction
      let property ← match primary with
        | none => pure none
        | some primary => Resolution.property primary.property g.instances
      let prepared ← match primary, property with
        | some primary, some property =>
          some <$> prepare collection i g config primary property
        | _, _ => do
          let action := Text.quoted i.primaryAction
          Program.log .info
            s!"No variant property for {action} on {g.name}; installing inert reactions"
          pure none
      complete i g property prepared) := rfl

theorem apply_holds {collection : String} (h : ∀ c : Call, c.Wires collection → D.Permits c)
    (i : Interaction) (g : Group) (config : Config) :
    D.Holds (apply (σ := σ) collection i g config) := by
  have h_complete (property : Option String) (prepared : Option (TargetTable × List Slot)) :
      D.Holds (complete (σ := σ) i g property prepared) :=
    D.bind (D.lift _) fun reactions => D.bind
      (install_holds (fun _ => h _ trivial) (fun _ _ _ => h _ trivial) _) fun _ => .pure _
  rw [apply_eq_complete]
  cases Setting.parse? i.primaryAction with
  | none => exact D.bind (.pure _) fun _ => D.bind (D.log _ _ _) fun _ => h_complete _ _
  | some primary =>
    refine D.bind (Resolution.property_holds (fun _ => h _ trivial) _ _) fun property => ?_
    cases property with
    | none => exact D.bind (D.log _ _ _) fun _ => h_complete _ _
    | some property =>
      exact D.bind (.map _ (prepare_holds h _ _ _ _ _)) fun _ => h_complete _ _

end Wiring

end Clickwork

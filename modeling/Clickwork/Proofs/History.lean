import Clickwork.Proofs.Dispatch
import Clickwork.World

/-!
# Histories

A history of a world is a list of moves (`Move`): the panel sends messages, the host announces new
selections, the user selects and clicks, sessions follow one another, and failures are arranged.
Each message is handled to its end before the next move.

`World.after_keeps` carries an invariant of the current session and the host through a history, from
what each of its moves keeps (`Move.Keeps`).
-/

namespace Clickwork

/-! ### Using a scene -/

namespace Scene

/-- **The scene after somebody used it**: what is selected and the values of variables may have
changed. -/
structure Used (s t : Scene) : Prop where
  kept : Kept s t
  nodes : t.nodes = s.nodes
  collections : t.collections = s.collections
  nextId : t.nextId = s.nextId
  /-- Variables keep their names and collections. -/
  entries : ∀ id, (t.variableTable.find? id).map (fun v => (v.name, v.collection)) =
    (s.variableTable.find? id).map fun v => (v.name, v.collection)

theorem Used.refl (s : Scene) : s.Used s :=
  ⟨.refl s, rfl, rfl, rfl, fun _ => rfl⟩

theorem Used.find? {s t : Scene} (h : s.Used t) {id : String} {v : Variable}
    (hv : t.variableTable.find? id = some v) : ∃ w, s.variableTable.find? id = some w ∧
      w.name = v.name ∧ w.collection = v.collection := by
  have h_same := h.entries id
  rw [hv, Option.map_some] at h_same
  obtain ⟨w, hw, h_eq⟩ := Option.map_eq_some_iff.mp h_same.symm
  exact ⟨w, hw, congrArg Prod.fst h_eq, congrArg Prod.snd h_eq⟩

theorem Used.symm {s t : Scene} (h : s.Used t) : t.Used s :=
  ⟨h.kept.symm, h.nodes.symm, h.collections.symm, h.nextId.symm, fun id => (h.entries id).symm⟩

theorem Used.sets {s t : Scene} (h : s.Used t) (node target : String) :
    t.Sets node target ↔ s.Sets node target :=
  Sets.congr (by rw [reactions, reactions, h.nodes])

theorem Used.select (s : Scene) (ids : List String) : s.Used (s.operate (.select ids)).2 :=
  ⟨⟨rfl, rfl, rfl, rfl, rfl⟩, rfl, rfl, rfl, fun _ => rfl⟩

/-- A click changes values only, and a click on a node that is not there changes nothing. -/
theorem Used.click (s : Scene) (node : String) : s.Used (s.operate (.click node)).2 := by
  simp only [operate, Scene.click]
  split
  · exact .refl s
  · refine ⟨⟨rfl, rfl, rfl, rfl, rfl⟩, rfl, rfl, rfl, fun id => ?_⟩
    simp only [changed, assignAll, Registry.find?_mapValues, Option.map_map]
    congr 1
    funext v
    simp only [Function.comp]
    split <;> rfl

end Scene

/-! ### Moves -/

/-- **Something that happens to a world.** -/
inductive Move where
  /-- The panel sends a message. -/
  | message (inbound : Inbound)
  /-- The host announces a new selection. -/
  | notice
  /-- The user selects nodes. -/
  | select (ids : List String)
  /-- The user clicks a node. -/
  | click (node : String)
  /-- A new session begins. -/
  | restart (s : Session)
  /-- Failures are arranged for the calls of a method. -/
  | failOn (method : Method) (numbers : Option (List Int))
  /-- The storage goes away or comes back. -/
  | outage (unavailable : Bool)

/-- **Failures are arranged for storage calls and bindings only.** -/
def Move.Mild : Move → Prop
  | .failOn method _ => method.isStorage = true ∨ method = .bindProperty
  | _ => True

namespace World

/-- The world with another host. -/
def withHost {ρ : Type} (w : World ρ) (h : Host) : World ρ :=
  { w with host := h }

/-- **The world after a move.** -/
def advance (w : World Unit) : Move → World Unit
  | .message inbound => (w.runProgram (Session.dispatch inbound)).2
  | .notice => (w.runProgram Session.selectionChanged).2
  | .select ids => w.modifyScene fun s => (s.operate (.select ids)).2
  | .click node => w.modifyScene fun s => (s.operate (.click node)).2
  | .restart s => w.startSession s
  | .failOn method numbers => w.withHost (w.host.failOn method numbers)
  | .outage unavailable => w.withHost
      { w.host with storage := { w.host.storage with unavailable } }

/-- **The world after a history.** -/
def after (w : World Unit) (moves : List Move) : World Unit :=
  moves.foldl advance w

/-- **The host is reliable, and its scene can be built.** -/
structure Sound {ρ : Type} (w : World ρ) : Prop where
  reliable : w.host.Reliable
  built : w.host.scene.Built

/-- What holds when a program has ended holds of the world that ran it. -/
theorem runProgram_ends {ρ : Type} {w : World ρ} {p : Program Session ρ}
    {Q : Except Failure ρ → Session → Host → Prop} (hp : p.Ends w.current w.host Q) :
    Q (w.runProgram p).1 (w.runProgram p).2.current (w.runProgram p).2.host := by
  have h_eval := p.eval_eq_outcome { memory := w.current, host := w.host, events := w.events }
  rw [Program.Ends, ← h_eval] at hp
  exact hp

theorem Sound.runProgram {ρ : Type} {w : World ρ} (hw : w.Sound) (p : Program Session ρ) :
    (w.runProgram p).2.Sound := by
  have h_later : p.Ends w.current w.host fun _ _ h' => w.host.Later h' := p.outcome_later _ _
  have h_host := runProgram_ends h_later
  exact ⟨h_host.reliable hw.reliable, h_host.built hw.built⟩

theorem Sound.advance {w : World Unit} (hw : w.Sound) {m : Move} (hm : m.Mild) :
    (w.advance m).Sound := by
  cases m with
  | message inbound => exact hw.runProgram _
  | notice => exact hw.runProgram _
  | select ids => exact ⟨hw.reliable, hw.built.step (.select ids)⟩
  | click node => exact ⟨hw.reliable, hw.built.step (.click node)⟩
  | restart s => exact ⟨hw.reliable, hw.built⟩
  | outage unavailable => exact ⟨hw.reliable, hw.built⟩
  | failOn method numbers =>
    refine ⟨fun method' h_storage h_bind => ?_, hw.built⟩
    have h_ne : method ≠ method' := by
      rintro rfl
      rcases hm with h_is | h_is
      · rw [h_is] at h_storage
        cases h_storage
      · exact h_bind h_is
    change (w.host.faults.insert method { numbers }).find? method' = none
    rw [Registry.find?_insert_of_ne _ _ h_ne]
    exact hw.reliable method' h_storage h_bind

end World

/-! ### A session on a panel -/

/-- **A session that has just begun** on the panel, with a host that does not fail. -/
def World.panel : World Unit :=
  { host := { scene := .panel }, current := .start {} [] }

theorem World.sound_panel : World.panel.Sound :=
  ⟨fun _ _ _ => rfl, Scene.built_panel⟩

/-- A session on a panel beside which there is another one, with a tab but without a badge. -/
def World.twoPanels : World Unit :=
  let other := [.addNode "other" "Other" "INSTANCE" none ∅ none,
    .addNode "tab-3" "Third" "INSTANCE" (some "tab") (.ofList [("State", .str "Off")])
      (some "other")]
  { panel with host := { scene := Scene.panel.operateAll other } }

/-- The interaction that switches on the clicked instance of a group, and all instances of other
groups with it. -/
def Interaction.switchingOn (group : String) (t : Int) (others : List String) : Interaction where
  id := freshId group (.int t)
  group
  primaryAction := "State=On"
  nestedActions := others.map (⟨·, "State=On"⟩)

/-- The message that asks for an interaction to be authored. -/
def Inbound.authoring (i : Interaction) : Inbound :=
  .envelope { type := "create-interaction", data := i.toJson }

/-! ### Invariants -/

/-- **A move keeps an invariant** of the current session and the host. -/
def Move.Keeps (I : Session → Host → Prop) (m : Move) : Prop :=
  m.Mild ∧ ∀ w : World Unit, w.Sound → I w.current w.host →
    I (w.advance m).current (w.advance m).host

/-- **What each move keeps holds after any history.** -/
theorem World.after_keeps {I : Session → Host → Prop} {w : World Unit} {moves : List Move}
    (h_moves : ∀ m ∈ moves, m.Keeps I) (hw : w.Sound) (hI : I w.current w.host) :
    (w.after moves).Sound ∧ I (w.after moves).current (w.after moves).host := by
  induction moves generalizing w with
  | nil => exact ⟨hw, hI⟩
  | cons m moves ih =>
    obtain ⟨h_mild, h_keeps⟩ := h_moves m List.mem_cons_self
    exact ih (fun m' h_mem => h_moves m' (List.mem_cons_of_mem _ h_mem)) (hw.advance h_mild)
      (h_keeps w hw hI)

namespace Move.Keeps

variable {may : Session.Act → Prop} {I : Session → Host → Prop}

/-- A message whose handling consists of permitted acts. -/
theorem message (h_stable : Session.Stable may I) {inbound : Inbound}
    (h_may : ∀ s h, I s h → ∀ a, s.Handling inbound a → may a) :
    (Move.message inbound).Keeps I := by
  refine ⟨trivial, fun w hw hI => ?_⟩
  have h_steps := World.runProgram_ends
    (Session.dispatch_steps hw.reliable hw.built w.current inbound)
  exact (h_stable.mono (h_may _ _ hI)).steps hw.reliable hw.built h_steps hI

theorem notice (h_stable : Session.Stable may I)
    (h_may : ∀ a, Handler.analyse.Does .null a → may a) : Move.notice.Keeps I := by
  refine ⟨trivial, fun w hw hI => ?_⟩
  have h_steps := World.runProgram_ends (Session.selectionChanged_steps hw.reliable w.current)
  exact (h_stable.mono h_may).steps hw.reliable hw.built h_steps hI

section

variable (h_used : ∀ s h t, h.scene.Used t → I s h → I s { h with scene := t })

include h_used

theorem select (ids : List String) : (Move.select ids).Keeps I :=
  ⟨trivial, fun w _ hI => h_used _ _ _ (.select w.host.scene ids) hI⟩

theorem click (node : String) : (Move.click node).Keeps I :=
  ⟨trivial, fun w _ hI => h_used _ _ _ (.click w.host.scene node) hI⟩

end

end Move.Keeps

end Clickwork

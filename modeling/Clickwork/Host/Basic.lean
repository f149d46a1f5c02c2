import Clickwork.Host.Call
import Clickwork.Scene.Change

/-!
# Hosts

A host is a scene together with a client storage. `Host.answer` carries out a call; a refused call
leaves the host as it is. `Host.perform` does the same for a session, whose calls may be made to
fail: a `Fault` counts the calls of one method and strikes at some of them before they reach the
scene or the storage.
-/

namespace Clickwork

/-! ### Client storage -/

/-- **A storage of texts under keys**, which may be unavailable. -/
structure Storage where
  texts : Registry String String := ∅
  unavailable : Bool := false

namespace Storage

/-- Carries out `f` if the storage is available. -/
def whenAvailable {α : Type} (s : Storage) (f : α) : Except Failure α :=
  if s.unavailable then .error (.host .storageUnavailable) else .ok f

/-- The text under a key. -/
def get (s : Storage) (key : String) : Except Failure (Option String) :=
  s.whenAvailable (s.texts.find? key)

/-- Stores a text under a key. -/
def set (s : Storage) (key text : String) : Except Failure Storage :=
  s.whenAvailable { s with texts := s.texts.insert key text }

/-- Forgets the text under a key, if there is one. -/
def delete (s : Storage) (key : String) : Except Failure Storage :=
  s.whenAvailable { s with texts := s.texts.erase key }

end Storage

/-! ### Arranged failures -/

/-- **An arranged failure**: how many calls of the method were made since, and which fail. -/
structure Fault where
  count : Nat := 0
  /-- The numbers of the calls that fail, counted from one; all of them if not given. -/
  numbers : Option (List Int) := none

namespace Fault

/-- The fault after one more call. -/
def tick (f : Fault) : Fault :=
  { f with count := f.count + 1 }

/-- Whether the call counted last fails. -/
def strikes (f : Fault) : Bool :=
  match f.numbers with
  | none => true
  | some numbers => numbers.contains (f.count : Int)

/-- The number of further calls within which the failure strikes, if it does so again. -/
def within (f : Fault) : Nat :=
  match f.numbers with
  | none => 1
  | some numbers => (numbers.foldl max 0 - f.count).toNat

end Fault

/-! ### The host -/

/-- **A scene and a storage**, with the failures arranged for a session's calls. -/
structure Host where
  scene : Scene := {}
  storage : Storage := {}
  faults : Registry Method Fault := ∅

instance : Inhabited Host := ⟨{}⟩

namespace Host

/-- A change of the scene as an answer: a refused one changes nothing. -/
def change (h : Host) (result : Except Failure Scene) : Except Failure Unit × Host :=
  match result with
  | .ok scene => (.ok (), { h with scene })
  | .error e => (.error e, h)

/-- A change of the storage as an answer. -/
def store (h : Host) (result : Except Failure Storage) : Except Failure Unit × Host :=
  match result with
  | .ok storage => (.ok (), { h with storage })
  | .error e => (.error e, h)

/-- **Carries out a call.** -/
def answer (h : Host) : (c : Call) → Except Failure c.Answer × Host
  | .selection => (.ok h.scene.selection, h)
  | .node id => (.ok (h.scene.node? id), h)
  | .mainComponent id => (.ok (h.scene.mainComponent? id), h)
  | .instanceProperties id => (h.scene.instanceProperties id, h)
  | .setReactions id reactions => h.change (h.scene.setReactions id reactions)
  | .allReactions => (.ok h.scene.allReactions, h)
  | .close => h.change (.ok h.scene.close)
  | .collections => (.ok h.scene.collections, h)
  | .createCollection name =>
    let (id, scene) := h.scene.createCollection name
    (.ok id, { h with scene })
  | .createVariable name collection type =>
    match h.scene.createVariable name collection type with
    | .ok (id, scene) => (.ok id, { h with scene })
    | .error e => (.error e, h)
  | .setValue id value => h.change (h.scene.setValue id value)
  | .bindProperty id property target => h.change (h.scene.bindProperty id property target)
  | .listVariables collection => (.ok (h.scene.variablesOf collection), h)
  | .removeVariable id => h.change (h.scene.removeVariable id)
  | .storageGet key => (h.storage.get key, h)
  | .storageSet key text => h.store (h.storage.set key text)
  | .storageDelete key => h.store (h.storage.delete key)

/-- **Carries out a call of a session**, unless a failure is arranged for it. -/
def perform (h : Host) (c : Call) : Except Failure c.Answer × Host :=
  match h.faults.find? c.method with
  | none => h.answer c
  | some fault =>
    let fault := fault.tick
    -- counted whether or not the scene then refuses the call
    let h := { h with faults := h.faults.insert c.method fault }
    if fault.strikes then (.error (.host (.injected c.method fault.count)), h) else h.answer c

/-- The number of calls of a method within which one fails by arrangement, if one does. -/
def failsWithin (h : Host) (method : Method) : Nat :=
  match h.faults.find? method with
  | none => 0
  | some fault => fault.within

/-- Arranges failures for the calls of a method from now on, in place of earlier ones. -/
def failOn (h : Host) (method : Method) (numbers : Option (List Int)) : Host :=
  { h with faults := h.faults.insert method { numbers } }

end Host

end Clickwork

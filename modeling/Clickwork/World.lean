import Clickwork.Program.Run
import Clickwork.Session.Basic

/-!
# Worlds

A world is a host with the sessions that were started on it, one after the other. The last one is
the current session. Programs run as tasks: a task may be held before a call of its program and
resumed later, while other tasks and other sessions use the host. A task keeps the session it began
with.
-/

namespace Clickwork

/-- **A held task**: its session, by number, and what is left of its program. -/
structure Task (ρ : Type) where
  session : Nat
  rest : Program Session ρ

/-- **A host with its sessions and held tasks**, whose results have type `ρ`. -/
structure World (ρ : Type) where
  host : Host := {}
  /-- The sessions before the current one, oldest first. -/
  earlier : List Session := []
  current : Session := {}
  tasks : Registry String (Task ρ) := ∅
  /-- The events since they were last taken. -/
  events : Array Event := #[]

/-- **How far a task got.** -/
inductive Progress (ρ : Type) where
  | done (result : ρ)
  | failed (e : Failure)
  /-- Held before a call of the method. -/
  | held (method : Method)

namespace World

variable {ρ : Type}

/-! ### Sessions -/

/-- The number of the current session. -/
def currentNumber (w : World ρ) : Nat :=
  w.earlier.length

/-- The session of a number. -/
def session (w : World ρ) (number : Nat) : Session :=
  w.earlier[number]?.getD w.current

/-- Replaces the session of a number. -/
def setSession (w : World ρ) (number : Nat) (s : Session) : World ρ :=
  if number < w.earlier.length then { w with earlier := w.earlier.set number s }
  else { w with current := s }

/-- **Starts a new session**, which becomes the current one. -/
def startSession (w : World ρ) (s : Session) : World ρ :=
  { w with earlier := w.earlier ++ [w.current], current := s }

/-- Changes the current session. -/
def modifySession (w : World ρ) (f : Session → Session) : World ρ :=
  { w with current := f w.current }

/-- Changes the scene. -/
def modifyScene (w : World ρ) (f : Scene → Scene) : World ρ :=
  { w with host := { w.host with scene := f w.host.scene } }

/-- The world without its events. -/
def forgetEvents (w : World ρ) : World ρ :=
  { w with events := #[] }

/-! ### Tasks -/

/-- The method of the call that a program is held before. -/
def pendingMethod? : Program Session ρ → Option Method
  | .call c _ => some c.method
  | .walk .. => some .node
  | _ => none

/-- **Lets a stretch of a program run** on a session, and keeps the rest as a task if it is held.
A finished program leaves the held tasks alone. -/
def stretch (w : World ρ) (task : String) (number : Nat)
    (run : Machine Session → Program.Ended Session ρ × Machine Session) :
    Progress ρ × World ρ :=
  let (ended, m) := run { memory := w.session number, host := w.host, events := w.events }
  -- the memory goes back to the task's own session, which need not be the current one
  let w := { w.setSession number m.memory with host := m.host, events := m.events }
  match ended with
  | .finished (.ok result) => (.done result, w)
  | .finished (.error e) => (.failed e, w)
  | .held rest =>
    let method := (pendingMethod? rest).getD .node
    (.held method, { w with tasks := w.tasks.insert task { session := number, rest } })

/-- **Starts a task** on the current session. If it is held, it takes the place of a held task of
the same name; if it finishes, that task can still be resumed. -/
def startTask (w : World ρ) (task : String) (p : Program Session ρ) (stop : Stop) :
    Progress ρ × World ρ :=
  w.stretch task w.currentNumber (p.run stop)

/-- **Resumes a task**, which is then held again or gone. -/
def resumeTask (w : World ρ) (task : String) (stop : Stop) : Progress ρ × World ρ :=
  match w.tasks.find? task with
  | none => (.failed (.absentKey task), w)
  | some t =>
    let w := { w with tasks := w.tasks.erase task }
    w.stretch task t.session (t.rest.resume stop)

/-- **Runs a program to its end** on the current session. -/
def runProgram (w : World ρ) (p : Program Session ρ) : Except Failure ρ × World ρ :=
  let (result, m) := p.eval { memory := w.current, host := w.host, events := w.events }
  (result, { w with current := m.memory, host := m.host, events := m.events })

end World

end Clickwork

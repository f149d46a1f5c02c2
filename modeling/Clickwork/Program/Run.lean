import Clickwork.Host.Basic
import Clickwork.Program.Basic

/-!
# Running programs

A `Machine` is the memory of a session beside the host it works on, with the events so far.
`Program.eval` carries a program out to its end. `Program.run` does so until the program comes to a
call before which a `Stop` holds it; what is left is a program again, and `Program.resume` makes the
held call and runs on. A run therefore consists of stretches between calls, and other sessions may
use the host between them. Without a stop the two agree (`Program.run_never`).

The loop `Program.walk` visits nodes of the scene as it is during the stretch. If its child lists
have no cycle, the number of visits is bounded by `Scene.visitBound`. Otherwise the loop ends when a
failure arranged for its calls strikes or when the stop holds it, and both do so within a known
number of calls, if at all. `Machine.visitBound` covers the three, so it is only felt by a walk that
nothing would end; that walk fails instead of going on for ever.
-/

namespace Clickwork

/-! ### Machines -/

/-- **The memory of a session, the host, and the events so far.** -/
structure Machine (σ : Type) where
  memory : σ
  host : Host
  events : Array Event := #[]

namespace Machine

variable {σ : Type}

/-- Adds an event. -/
def emit (m : Machine σ) (e : Event) : Machine σ :=
  { m with events := m.events.push e }

/-- **Makes a call**: it is an event before anything can refuse it. -/
def perform (m : Machine σ) (c : Call) : Except Failure c.Answer × Machine σ :=
  let (answer, host) := m.host.perform c
  (answer, { m.emit (.called c) with host })

end Machine

/-! ### Where to stop -/

/-- **Where a run is held.** -/
inductive Stop where
  | never
  /-- Before the call of the method with the given number, counted from one. -/
  | before (method : Method) (number : Nat)
  | everywhere
  deriving DecidableEq, Repr

/-- What becomes of the stop when a call of a method is passed, or `none` if it holds the run. -/
def Stop.pass? : Stop → Method → Option Stop
  | never, _ => some never
  | everywhere, _ => none
  | before method number, called =>
    if method ≠ called then some (before method number)
    else if number = 1 then none
    else some (before method (number - 1))

/-- The number of calls of a method within which the stop holds a run; zero if it never does. -/
def Stop.within : Stop → Method → Nat
  | never, _ => 0
  | everywhere, _ => 1
  | before method number, called => if method = called then number else 0

/-! ### Walks -/

/-- The nodes visited below a node whose longest chain of descendants has the given length, if no
node has more than `width` children. -/
def Scene.visitBoundBelow (width : Nat) : Nat → Nat
  | 0 => 1
  | depth + 1 => 1 + width * visitBoundBelow width depth

/-- A bound on the visits of a walk that starts with `count` nodes, for a scene whose child lists
have no cycle. -/
def Scene.visitBound (s : Scene) (count : Nat) : Nat :=
  let width := (s.nodes.values.map (·.children.length)).foldl max 0
  count * visitBoundBelow width s.nodes.entries.length

/-- A bound on the visits of a walk that starts with `count` nodes, unless nothing ends it: the
nodes run out, a call fails, or the stop holds it. -/
def Machine.visitBound {σ : Type} (m : Machine σ) (stop : Stop) (count : Nat) : Nat :=
  m.host.scene.visitBound count + m.host.failsWithin .node + stop.within .node

/-- How a stretch of a walk ends. -/
inductive WalkEnd where
  /-- Held before the visit of the first pending node. -/
  | held (pending : List String) (found : Array String)
  | finished (result : Except Failure (List String)) (stop : Stop)

namespace Program

variable {σ α : Type}

/-- What is pending and found after a visit: the children of a node come next, and an instance is
found. A node that is gone is passed over. -/
def visit (node : Option NodeInfo) (pending : List String) (found : Array String) :
    List String × Array String :=
  match node with
  | none => (pending, found)
  | some n => (n.children ++ pending, if n.isInstance then found.push n.id else found)

/-- **Walks to the end**, for at most the given number of visits. -/
def explore : Nat → List String → Array String → Machine σ →
    Except Failure (List String) × Machine σ
  | _, [], found, m => (.ok found.toList, m)
  | 0, _ :: _, _, m => (.error .endless, m)
  | visits + 1, id :: pending, found, m =>
    match m.perform (.node id) with
    | (.error e, m) => (.error e, m)
    | (.ok node, m) =>
      let (pending, found) := visit node pending found
      explore visits pending found m

/-- **Walks until held**, for at most the given number of visits. -/
def walkOn : Nat → Stop → List String → Array String → Machine σ → WalkEnd × Machine σ
  | _, stop, [], found, m => (.finished (.ok found.toList) stop, m)
  | 0, stop, _ :: _, _, m => (.finished (.error .endless) stop, m)
  | visits + 1, stop, id :: pending, found, m =>
    match stop.pass? .node with
    | none => (.held (id :: pending) found, m)
    | some stop =>
      match m.perform (.node id) with
      | (.error e, m) => (.finished (.error e) stop, m)
      | (.ok node, m) =>
        let (pending, found) := visit node pending found
        walkOn visits stop pending found m

/-! ### Runs -/

/-- How a stretch of a run ends. -/
inductive Ended (σ α : Type) where
  | finished (result : Except Failure α)
  /-- Held before the call with which the rest begins. -/
  | held (rest : Program σ α)

/-- **Carries a program out** to its end. -/
def eval : Program σ α → Machine σ → Except Failure α × Machine σ
  | pure a, m => (.ok a, m)
  | throw e, m => (.error e, m)
  | get k, m => (k m.memory).eval m
  | set s rest, m => rest.eval { m with memory := s }
  | emit e rest, m => rest.eval (m.emit e)
  | call c k, m =>
    let (answer, m) := m.perform c
    (k answer).eval m
  | walk pending found k, m =>
    let (answer, m) := explore (m.visitBound .never pending.length) pending found m
    (k answer).eval m

/-- **Runs a program** until it finishes or is held. -/
def run : Program σ α → Stop → Machine σ → Ended σ α × Machine σ
  | pure a, _, m => (.finished (.ok a), m)
  | throw e, _, m => (.finished (.error e), m)
  | get k, stop, m => (k m.memory).run stop m
  | set s rest, stop, m => rest.run stop { m with memory := s }
  | emit e rest, stop, m => rest.run stop (m.emit e)
  | call c k, stop, m =>
    match stop.pass? c.method with
    -- the call is not made yet: whoever resumes makes it
    | none => (.held (call c k), m)
    | some stop =>
      let (answer, m) := m.perform c
      (k answer).run stop m
  | walk pending found k, stop, m =>
    -- the bound is taken anew for each stretch, since the scene may have grown meanwhile
    match walkOn (m.visitBound stop pending.length) stop pending found m with
    | (.held pending found, m) => (.held (walk pending found k), m)
    | (.finished answer stop, m) => (k answer).run stop m

/-- **Makes the call a program is held before**, whatever the stop, and runs on. -/
def resume (p : Program σ α) (stop : Stop) (m : Machine σ) : Ended σ α × Machine σ :=
  match p with
  | call c k =>
    let (answer, m) := m.perform c
    (k answer).run stop m
  | walk (id :: pending) found k =>
    match m.perform (.node id) with
    | (.error e, m) => (k (.error e)).run stop m
    | (.ok node, m) =>
      let (pending, found) := visit node pending found
      (walk pending found k).run stop m
  | p => p.run stop m

/-! ### Agreement -/

theorem walkOn_never (visits : Nat) (pending : List String) (found : Array String)
    (m : Machine σ) :
    walkOn visits .never pending found m =
      (.finished (explore visits pending found m).1 .never, (explore visits pending found m).2) := by
  induction visits generalizing pending found m with
  | zero => cases pending <;> rfl
  | succ visits ih =>
    cases pending with
    | nil => rfl
    | cons id pending =>
      simp only [walkOn, explore, Stop.pass?]
      rcases m.perform (.node id) with ⟨_ | node, m⟩
      · rfl
      · exact ih _ _ _

/-- Without a stop, a run is carried out to its end. -/
theorem run_never (p : Program σ α) (m : Machine σ) :
    p.run .never m = (.finished (p.eval m).1, (p.eval m).2) := by
  induction p generalizing m with
  | pure | throw => rfl
  | get k ih => exact ih _ _
  | set s rest ih => exact ih _
  | emit e rest ih => exact ih _
  | call c k ih => exact ih _ _
  | walk pending found k ih =>
    simp only [run, eval, walkOn_never]
    exact ih _ _

/-- Carrying out a sequence: a failure of the first part ends it. -/
theorem eval_bind {β : Type} (p : Program σ α) (f : α → Program σ β) (m : Machine σ) :
    (p.bind f).eval m =
      match p.eval m with
      | (.ok a, m) => (f a).eval m
      | (.error e, m) => (.error e, m) := by
  induction p generalizing m with
  | pure | throw => rfl
  | get k ih => exact ih _ _
  | set s rest ih => exact ih _
  | emit e rest ih => exact ih _
  | call c k ih => exact ih _ _
  | walk pending found k ih => exact ih _ _

/-- An attempt is carried out like the program itself, and only its result is different. -/
theorem eval_attempt (p : Program σ α) (m : Machine σ) :
    p.attempt.eval m = (.ok (p.eval m).1, (p.eval m).2) := by
  induction p generalizing m with
  | pure | throw => rfl
  | get k ih => exact ih _ _
  | set s rest ih => exact ih _
  | emit e rest ih => exact ih _
  | call c k ih => exact ih _ _
  | walk pending found k ih => exact ih _ _

end Program

end Clickwork

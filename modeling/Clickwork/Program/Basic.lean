import Clickwork.Envelope
import Clickwork.Host.Call

/-!
# Programs

What a session does is a `Program`: a tree of calls to the host, each with a continuation for the
host's answer or refusal. Between two calls a program reads and writes the memory of its session
(of type `σ`) and emits events. A program can be held before any call and continued later, when
the host and the memory have moved on; nothing else can come between two calls.

* `Program.ask` makes a call and fails if the host refuses; `Program.tryAsk` hands the refusal on;
* `Program.attempt` turns a failure into a result;
* `Program.walk` is the one loop whose length is not known beforehand: it goes through the nodes
  below a container, asking the host for each.
-/

namespace Clickwork

/-! ### Events -/

/-- The weight of a log entry. -/
inductive Level where
  | debug | info | warning | error
  deriving DecidableEq, Repr

/-- The name of a level. -/
def Level.name : Level → String
  | debug => "DEBUG"
  | info => "INFO"
  | warning => "WARNING"
  | error => "ERROR"

/-- **What an observer of a session sees.** -/
inductive Event where
  /-- A log entry, with the failure it reports if there is one. -/
  | log (level : Level) (text : String) (cause : Option Failure)
  /-- An envelope delivered to a listener. -/
  | sent (listener : String) (envelope : Envelope)
  /-- A call made to the host, whether it succeeds or not. -/
  | called (call : Call)

/-! ### Programs -/

/-- **A program** with memory `σ` and result `α`. -/
inductive Program (σ α : Type) where
  | pure (a : α)
  | throw (e : Failure)
  | get (k : σ → Program σ α)
  | set (s : σ) (rest : Program σ α)
  | emit (e : Event) (rest : Program σ α)
  | call (c : Call) (k : Except Failure c.Answer → Program σ α)
  /-- Goes through the `pending` nodes and everything below them, in order, and continues with the
  instances `found` among them. -/
  | walk (pending : List String) (found : Array String)
      (k : Except Failure (List String) → Program σ α)

namespace Program

variable {σ α β : Type}

/-! ### Sequencing -/

/-- Continues with `f` on the result. -/
def bind : Program σ α → (α → Program σ β) → Program σ β
  | pure a, f => f a
  | throw e, _ => throw e
  | get k, f => get fun s => (k s).bind f
  | set s rest, f => set s (rest.bind f)
  | emit e rest, f => emit e (rest.bind f)
  | call c k, f => call c fun answer => (k answer).bind f
  | walk pending found k, f => walk pending found fun answer => (k answer).bind f

instance : Monad (Program σ) where
  pure := pure
  bind := bind

/-- **Turns a failure into a result.** The program itself then never fails. -/
def attempt : Program σ α → Program σ (Except Failure α)
  | pure a => pure (.ok a)
  | throw e => pure (.error e)
  | get k => get fun s => (k s).attempt
  | set s rest => set s rest.attempt
  | emit e rest => emit e rest.attempt
  | call c k => call c fun answer => (k answer).attempt
  | walk pending found k => walk pending found fun answer => (k answer).attempt

/-- A result or failure that is already known. -/
def lift : Except Failure α → Program σ α
  | .ok a => pure a
  | .error e => throw e

/-! ### Steps -/

/-- Makes a call and hands on the answer or refusal. -/
def tryAsk (c : Call) : Program σ (Except Failure c.Answer) :=
  call c pure

/-- **Makes a call** and fails if the host refuses. -/
def ask (c : Call) : Program σ c.Answer :=
  call c lift

/-- The memory. -/
def read : Program σ σ :=
  get pure

/-- Changes the memory. -/
def modify (f : σ → σ) : Program σ Unit :=
  get fun s => set (f s) (pure ())

/-- Writes a log entry. -/
def log (level : Level) (text : String) (cause : Option Failure := none) : Program σ Unit :=
  emit (.log level text cause) (pure ())

/-- Delivers an envelope to a listener. -/
def deliver (listener : String) (envelope : Envelope) : Program σ Unit :=
  emit (.sent listener envelope) (pure ())

/-- The instances among the given nodes and everything below them. -/
def instancesBelow (ids : List String) : Program σ (List String) :=
  walk ids #[] lift

end Program

end Clickwork

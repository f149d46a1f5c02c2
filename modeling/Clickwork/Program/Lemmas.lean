import Clickwork.Program.Basic

/-!
# Laws of programs

Programs form a lawful monad, and `Program.attempt` distributes over sequencing: a failure in the
first part skips the second.
-/

namespace Clickwork.Program

variable {σ α β γ : Type}

theorem bind_pure_right (p : Program σ α) : p.bind pure = p := by
  induction p with
  | pure | throw => rfl
  | get k ih => exact congrArg get (funext ih)
  | set s rest ih => exact congrArg (set s) ih
  | emit e rest ih => exact congrArg (emit e) ih
  | call c k ih => exact congrArg (call c) (funext ih)
  | walk pending found k ih => exact congrArg (walk pending found) (funext ih)

theorem bind_assoc (p : Program σ α) (f : α → Program σ β) (g : β → Program σ γ) :
    (p.bind f).bind g = p.bind fun a => (f a).bind g := by
  induction p with
  | pure | throw => rfl
  | get k ih => exact congrArg get (funext ih)
  | set s rest ih => exact congrArg (set s) ih
  | emit e rest ih => exact congrArg (emit e) ih
  | call c k ih => exact congrArg (call c) (funext ih)
  | walk pending found k ih => exact congrArg (walk pending found) (funext ih)

instance : LawfulMonad (Program σ) :=
  LawfulMonad.mk' (Program σ) bind_pure_right (fun _ _ => rfl) bind_assoc

/-- Continues with a result, or hands a failure on. -/
def onOk (f : α → Program σ β) : Except Failure α → Program σ β
  | .ok a => f a
  | .error e => throw e

theorem attempt_bind (p : Program σ α) (f : α → Program σ β) :
    (p.bind f).attempt = p.attempt.bind fun r => (onOk f r).attempt := by
  induction p with
  | pure | throw => rfl
  | get k ih => exact congrArg get (funext ih)
  | set s rest ih => exact congrArg (set s) ih
  | emit e rest ih => exact congrArg (emit e) ih
  | call c k ih => exact congrArg (call c) (funext ih)
  | walk pending found k ih => exact congrArg (walk pending found) (funext ih)

end Clickwork.Program

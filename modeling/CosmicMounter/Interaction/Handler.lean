import CosmicMounter.Interaction.Contract

/-!
# Handlers

A handler answers every request in one way.  Under a handler a program
computes its result, and what it computes is an execution in every world that
the handler is a behaviour of.
-/

namespace Interaction

variable {Q : Type} {R : Q → Type} {S α β ε : Type}

abbrev Handler (R : Q → Type) (S : Type) := (q : Q) → S → R q × S

namespace Program

def eval (h : Handler R S) : Program R α → S → α × S
  | done a, s => (a, s)
  | ask q next, s => (next (h q s).1).eval h (h q s).2

variable (h : Handler R S)

@[simp] theorem eval_done (a : α) (s : S) : (done a : Program R α).eval h s = (a, s) := rfl

@[simp] theorem eval_ask (q : Q) (next : R q → Program R α) (s : S) :
    (ask q next).eval h s = (next (h q s).1).eval h (h q s).2 := rfl

@[simp] theorem eval_request (q : Q) (s : S) :
    (request q : Program R (R q)).eval h s = h q s := rfl

theorem eval_bind (p : Program R α) (f : α → Program R β) (s : S) :
    (p >>= f).eval h s = (f (p.eval h s).1).eval h (p.eval h s).2 := by
  induction p generalizing s with
  | done a => rfl
  | ask q next ih => exact ih _ _

@[simp] theorem eval_map (f : α → β) (p : Program R α) (s : S) :
    (f <$> p).eval h s = (f (p.eval h s).1, (p.eval h s).2) := by
  rw [← bind_pure_comp, eval_bind]
  rfl

theorem eval_run_bind (x : ExceptT ε (Program R) α) (f : α → ExceptT ε (Program R) β) (s : S) :
    (x >>= f).run.eval h s = (andThen f (x.run.eval h s).1).eval h (x.run.eval h s).2 := by
  rw [run_bind, eval_bind]

/-- The requests of a program under a handler, with their answers. -/
def trace : Program R α → S → List (Moment R S)
  | done _, _ => []
  | ask q next, s => ⟨s, q, (h q s).1⟩ :: (next (h q s).1).trace (h q s).2

theorem exec_trace {W : World R S} (hW : ∀ q s, W s q (h q s).1 (h q s).2)
    (p : Program R α) (s : S) :
    Exec W p s (p.trace h s) (.done (p.eval h s).1) (p.eval h s).2 := by
  induction p generalizing s with
  | done a => exact .stop _ _
  | ask q next ih => exact .step (hW q s) (ih _ _)

/-- What a program computes under a handler is one of its executions. -/
theorem exec_eval {W : World R S} (hW : ∀ q s, W s q (h q s).1 (h q s).2)
    (p : Program R α) (s : S) :
    ∃ tr, Exec W p s tr (.done (p.eval h s).1) (p.eval h s).2 :=
  ⟨p.trace h s, exec_trace h hW p s⟩

end Program

end Interaction

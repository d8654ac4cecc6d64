import Mathlib

/-!
# Programs that ask their environment

A program either finishes with a value or asks one request and continues
with whatever answer comes back.  The signature `R` gives the type of the
answers to each request; nothing else about the environment is fixed here.
Fallible code is the usual `ExceptT ε (Program R)`.
-/

namespace Interaction

variable {Q : Type} {R : Q → Type} {α β γ ε : Type}

inductive Program (R : Q → Type) (α : Type) : Type
  | done (a : α) : Program R α
  | ask (q : Q) (next : R q → Program R α) : Program R α

namespace Program

def bind (f : α → Program R β) : Program R α → Program R β
  | done a => f a
  | ask q next => ask q fun r ↦ (next r).bind f

instance : Monad (Program R) where
  pure := done
  bind p f := p.bind f

@[simp] theorem pure_eq_done (a : α) : (pure a : Program R α) = done a := rfl

@[simp] theorem done_bind (a : α) (f : α → Program R β) : (done a >>= f) = f a := rfl

@[simp] theorem ask_bind (q : Q) (next : R q → Program R α) (f : α → Program R β) :
    (ask q next >>= f) = ask q fun r ↦ next r >>= f := rfl

theorem bind_done (p : Program R α) : p >>= done = p := by
  induction p with
  | done a => rfl
  | ask q next ih => simp [ih]

theorem bind_bind (p : Program R α) (f : α → Program R β) (g : β → Program R γ) :
    p >>= f >>= g = p >>= fun a ↦ f a >>= g := by
  induction p with
  | done a => rfl
  | ask q next ih => simp [ih]

instance : LawfulMonad (Program R) :=
  LawfulMonad.mk' _ (fun p ↦ bind_done p) (fun _ _ ↦ rfl) bind_bind

/-- The program that asks `q` and hands the answer on. -/
def request (q : Q) : Program R (R q) := ask q done

@[simp] theorem request_bind (q : Q) (f : R q → Program R α) :
    (request q >>= f) = ask q f := rfl

/-! ## The requests a program can make -/

/-- Every request the program can reach, whatever it is answered, satisfies `P`. -/
def Only (P : Q → Prop) : Program R α → Prop
  | done _ => True
  | ask q next => P q ∧ ∀ r, (next r).Only P

@[simp] theorem only_done (P : Q → Prop) (a : α) : (done a : Program R α).Only P := trivial

@[simp] theorem only_ask (P : Q → Prop) (q : Q) (next : R q → Program R α) :
    (ask q next).Only P ↔ P q ∧ ∀ r, (next r).Only P := Iff.rfl

@[simp] theorem only_request (P : Q → Prop) (q : Q) :
    (request q : Program R (R q)).Only P ↔ P q := by simp [request]

theorem Only.mono {P P' : Q → Prop} (hP : ∀ q, P q → P' q) {p : Program R α}
    (h : p.Only P) : p.Only P' := by
  induction p with
  | done a => trivial
  | ask q next ih => exact ⟨hP q h.1, fun r ↦ ih r (h.2 r)⟩

theorem Only.bind {P : Q → Prop} {p : Program R α} {f : α → Program R β}
    (hp : p.Only P) (hf : ∀ a, (f a).Only P) : (p >>= f).Only P := by
  induction p with
  | done a => exact hf a
  | ask q next ih => exact ⟨hp.1, fun r ↦ ih r (hp.2 r)⟩

/-! ## Fallible programs -/

/-- Stop with `e` unless the condition holds. -/
def ensure (b : Bool) (e : ε) : ExceptT ε (Program R) Unit :=
  if b then pure () else throw e

/-- Turn an answer that may be a failure into control flow. -/
def check (r : Except ε α) : ExceptT ε (Program R) α := ExceptT.mk (done r)

/-- Run a fallible step and hand its outcome on, whatever it is. -/
def attempt (x : ExceptT ε (Program R) α) : ExceptT ε (Program R) (Except ε α) :=
  ExceptT.lift x.run

@[simp] theorem run_attempt (x : ExceptT ε (Program R) α) :
    (attempt x).run = x.run >>= fun r ↦ done (.ok r) := rfl

/-- A fallible step whose failures are reported in other words. -/
def reporting {ε' : Type} (f : ε → ε') (x : ExceptT ε (Program R) α) : ExceptT ε' (Program R) α :=
  ExceptT.mk (x.run >>= fun r ↦ done (r.mapError f))

@[simp] theorem run_reporting {ε' : Type} (f : ε → ε') (x : ExceptT ε (Program R) α) :
    (reporting f x).run = x.run >>= fun r ↦ done (r.mapError f) := rfl

@[simp] theorem run_check (r : Except ε α) :
    (check r : ExceptT ε (Program R) α).run = done r := rfl

@[simp] theorem run_ensure (b : Bool) (e : ε) :
    (ensure b e : ExceptT ε (Program R) Unit).run = done (if b then .ok () else .error e) := by
  cases b <;> rfl

/-- What follows a fallible step: the continuation on success, nothing on failure. -/
def andThen (f : α → ExceptT ε (Program R) β) : Except ε α → Program R (Except ε β)
  | .ok a => (f a).run
  | .error e => done (.error e)

@[simp] theorem andThen_ok (f : α → ExceptT ε (Program R) β) (a : α) :
    andThen f (.ok a) = (f a).run := rfl

@[simp] theorem andThen_error (f : α → ExceptT ε (Program R) β) (e : ε) :
    andThen f (.error e) = done (.error e) := rfl

theorem run_bind (x : ExceptT ε (Program R) α) (f : α → ExceptT ε (Program R) β) :
    (x >>= f).run = x.run >>= andThen f := by
  change x.run >>= ExceptT.bindCont f = _
  congr 1
  funext r
  cases r <;> rfl

@[simp] theorem run_pure (a : α) :
    (pure a : ExceptT ε (Program R) α).run = done (.ok a) := rfl

@[simp] theorem run_throw (e : ε) :
    (throw e : ExceptT ε (Program R) α).run = done (.error e) := rfl

@[simp] theorem run_lift (p : Program R α) :
    (ExceptT.lift p : ExceptT ε (Program R) α).run = p >>= fun a ↦ done (.ok a) := rfl

@[simp] theorem run_monadLift (p : Program R α) :
    (monadLift p : ExceptT ε (Program R) α).run = p >>= fun a ↦ done (.ok a) := rfl

theorem Only.andThen {P : Q → Prop} {x : ExceptT ε (Program R) α}
    {f : α → ExceptT ε (Program R) β} (hx : x.run.Only P) (hf : ∀ a, (f a).run.Only P) :
    (x >>= f).run.Only P := by
  rw [run_bind]
  refine hx.bind fun r ↦ ?_
  cases r with
  | ok a => exact hf a
  | error e => trivial

end Program

end Interaction

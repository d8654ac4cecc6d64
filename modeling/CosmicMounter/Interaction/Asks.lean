import CosmicMounter.Interaction.Program

/-!
# What a fallible step asks

`Asks P x` says that every request the step `x` can reach satisfies `P`.  It
does not unfold, so that stating it never runs the step.
-/

namespace Interaction

variable {Q : Type} {R : Q → Type} {α β ε ε' : Type} {P P' : Q → Prop}

@[irreducible] def Asks (P : Q → Prop) (x : ExceptT ε (Program R) α) : Prop := x.run.Only P

theorem asks_iff {x : ExceptT ε (Program R) α} : Asks P x ↔ x.run.Only P := by
  unfold Asks
  exact Iff.rfl

theorem Asks.only {x : ExceptT ε (Program R) α} (h : Asks P x) : x.run.Only P := asks_iff.mp h

theorem Asks.mono {x : ExceptT ε (Program R) α} (h : Asks P x) (hP : ∀ q, P q → P' q) : Asks P' x :=
  asks_iff.mpr (h.only.mono hP)

theorem Asks.bind {x : ExceptT ε (Program R) α} {f : α → ExceptT ε (Program R) β} (hx : Asks P x)
    (hf : ∀ a, Asks P (f a)) : Asks P (x >>= f) :=
  asks_iff.mpr (hx.only.andThen fun a ↦ (hf a).only)

theorem asks_pure (a : α) : Asks P (pure a : ExceptT ε (Program R) α) := asks_iff.mpr trivial

theorem asks_throw (e : ε) : Asks P (throw e : ExceptT ε (Program R) α) := asks_iff.mpr trivial

theorem asks_check (r : Except ε α) : Asks P (Program.check r : ExceptT ε (Program R) α) :=
  asks_iff.mpr trivial

theorem asks_ensure (b : Bool) (e : ε) : Asks P (Program.ensure b e : ExceptT ε (Program R) Unit) := by
  rw [asks_iff, Program.run_ensure]
  trivial

theorem asks_mk {p : Program R (Except ε α)} (h : p.Only P) : Asks P (ExceptT.mk p) := asks_iff.mpr h

theorem asks_lift {p : Program R α} (h : p.Only P) :
    Asks P (liftM p : ExceptT ε (Program R) α) := asks_iff.mpr (h.bind fun _ ↦ trivial)

theorem asks_reporting {f : ε → ε'} {x : ExceptT ε (Program R) α} (h : Asks P x) :
    Asks P (Program.reporting f x) := asks_iff.mpr (h.only.bind fun _ ↦ trivial)

theorem asks_attempt {x : ExceptT ε (Program R) α} (h : Asks P x) :
    Asks P (Program.attempt x) := asks_iff.mpr (h.only.bind fun _ ↦ trivial)

end Interaction

import CosmicMounter.Interaction.Contract

/-!
# Both exits of a fallible program

A program that fails half-way has still done what it did.  These rules follow
a fallible program with one postcondition for its success and one for its
failure, where the rules for `onOk` claim nothing of a failure.
-/

namespace Interaction.Program

variable {Q : Type} {R : Q → Type} {S α β ε ε' : Type} {C : Contract R S} {fail : S → Prop} {s : S}

/-- What holds on success, and what still holds on failure. -/
def onExit (fail : S → Prop) (post : α → S → Prop) : Except ε α → S → Prop
  | .ok a, s => post a s
  | .error _, s => fail s

@[simp] theorem onExit_ok (post : α → S → Prop) (a : α) (s : S) :
    onExit fail post (.ok a : Except ε α) s ↔ post a s := Iff.rfl

@[simp] theorem onExit_error (post : α → S → Prop) (e : ε) (s : S) :
    onExit fail post (.error e : Except ε α) s ↔ fail s := Iff.rfl

theorem wp_mono_onExit {post post' : α → S → Prop} {p : Program R (Except ε α)}
    (h : p.wp C (onExit fail post) s) (hpost : ∀ a s, post a s → post' a s) :
    p.wp C (onExit fail post') s := by
  refine wp_mono ?_ h
  intro r s' hr
  cases r with
  | ok a => exact hpost a s' hr
  | error e => exact hr

/-- One step after another: a failure of the first ends the whole. -/
theorem wp_seq_onExit {x : ExceptT ε (Program R) α} {f : α → ExceptT ε (Program R) β}
    {J : α → S → Prop} {post : β → S → Prop} (hx : x.run.wp C (onExit fail J) s)
    (hf : ∀ a s, J a s → (f a).run.wp C (onExit fail post) s) :
    (x >>= f).run.wp C (onExit fail post) s := by
  rw [wp_run_bind]
  refine wp_mono ?_ hx
  intro r s' hr
  cases r with
  | ok a => exact hf a s' hr
  | error e => exact hr

theorem wp_pure_onExit {post : α → S → Prop} {a : α} (h : post a s) :
    (pure a : ExceptT ε (Program R) α).run.wp C (onExit fail post) s := h

theorem wp_check_onExit {r : Except ε α} {post : α → S → Prop} (hok : ∀ a, r = .ok a → post a s)
    (hfail : fail s) : (check r : ExceptT ε (Program R) α).run.wp C (onExit fail post) s := by
  cases r with
  | ok a => exact hok a rfl
  | error e => exact hfail

theorem wp_ensure_onExit {b : Bool} {e : ε} {post : Unit → S → Prop} (hok : b = true → post () s)
    (hfail : fail s) : (ensure b e : ExceptT ε (Program R) Unit).run.wp C (onExit fail post) s := by
  cases b with
  | false => exact hfail
  | true => exact hok rfl

theorem wp_reporting_onExit {f : ε → ε'} {x : ExceptT ε (Program R) α} {post : α → S → Prop}
    (h : x.run.wp C (onExit fail post) s) : (reporting f x).run.wp C (onExit fail post) s := by
  rw [run_reporting, wp_bind]
  refine wp_mono ?_ h
  intro r s' hr
  cases r with
  | ok a => exact hr
  | error e => exact hr

/-- The outcome of an attempted step is handed on. -/
theorem wp_attempt_onExit {F : S → Prop} {x : ExceptT ε (Program R) α} {post : α → S → Prop}
    (h : x.run.wp C (onExit F post) s) :
    (attempt x).run.wp C (onExit fail fun r ↦ onExit F post r) s := by
  rw [run_attempt, wp_bind]
  exact wp_mono (fun _ _ hr ↦ hr) h

/-- A step that cannot fail. -/
theorem wp_lift_onExit {p : Program R α} {post : α → S → Prop} (h : p.wp C post s) :
    (monadLift p : ExceptT ε (Program R) α).run.wp C (onExit fail post) s := by
  rw [run_monadLift, wp_bind]
  exact wp_mono (fun _ _ hr ↦ hr) h

/-- Frame rule: permitted requests that keep `I` keep it on both exits. -/
theorem wp_frame_onExit {P : Q → Prop} {I : S → Prop} {x : ExceptT ε (Program R) α}
    (hpermits : ∀ s q, I s → P q → C.permits s q)
    (hkeeps : ∀ s q r s', I s → P q → C.world s q r s' → I s') (hfail : ∀ s, I s → fail s)
    (hx : x.run.Only P) (hs : I s) : x.run.wp C (onExit fail fun _ ↦ I) s := by
  refine wp_mono ?_ (wp_of_only hpermits hkeeps hx hs)
  intro r s' hs'
  cases r with
  | ok a => exact hs'
  | error e => exact hfail s' hs'

end Interaction.Program

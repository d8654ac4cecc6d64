import Mathlib

/-!
# Runs of a labelled step relation

A system changes by steps, each with a label.  What one step preserves, a run
preserves, and a label in a run marks a point at which the run can be cut.
-/

namespace Interaction

variable {S A : Type*}

/-- The finite runs from a state, with the labels of their steps in order. -/
inductive Steps (step : S → A → S → Prop) (s₀ : S) : List A → S → Prop
  | init : Steps step s₀ [] s₀
  | step {labels : List A} {s s' : S} {a : A} :
      Steps step s₀ labels s → step s a s' → Steps step s₀ (labels ++ [a]) s'

namespace Steps

variable {step : S → A → S → Prop} {s₀ s s' : S} {labels labels' : List A}

theorem single {a : A} (h : step s₀ a s) : Steps step s₀ [a] s := Steps.step .init h

theorem append (h : Steps step s₀ labels s) (h' : Steps step s labels' s') :
    Steps step s₀ (labels ++ labels') s' := by
  induction h' with
  | init => simpa using h
  | step _ hstep ih =>
      rw [← List.append_assoc]
      exact ih.step hstep

/-- A property kept by the steps with the labels of a run holds at its end. -/
theorem kept (h : Steps step s₀ labels s) (P : S → Prop) (allowed : A → Prop) (hinit : P s₀)
    (hstep : ∀ s a s', P s → allowed a → step s a s' → P s')
    (hlabels : ∀ a ∈ labels, allowed a) : P s := by
  induction h with
  | init => exact hinit
  | step _ hlast ih =>
      have hbefore := ih fun a ha ↦ hlabels a (List.mem_append_left _ ha)
      exact hstep _ _ _ hbefore (hlabels _ (by simp)) hlast

/-- A property kept by every step holds at the end of every run. -/
theorem invariant (h : Steps step s₀ labels s) (P : S → Prop) (hinit : P s₀)
    (hstep : ∀ s a s', P s → step s a s' → P s') : P s :=
  h.kept P (fun _ ↦ True) hinit (fun s a s' hs _ ↦ hstep s a s' hs) fun _ _ ↦ trivial

/-- A run can be cut around any of its labels. -/
theorem exists_of_mem (h : Steps step s₀ labels s) {a : A} (ha : a ∈ labels) :
    ∃ before after s₁ s₂, labels = before ++ a :: after ∧ Steps step s₀ before s₁ ∧
      step s₁ a s₂ ∧ Steps step s₂ after s := by
  induction h with
  | init => exact absurd ha List.not_mem_nil
  | @step labels s s' b hrun hstep ih =>
      rcases List.mem_append.mp ha with ha | ha
      · obtain ⟨before, after, s₁, s₂, rfl, hbefore, hcut, hafter⟩ := ih ha
        exact ⟨before, after ++ [b], s₁, s₂, by simp, hbefore, hcut, hafter.step hstep⟩
      · obtain rfl := List.mem_singleton.mp ha
        exact ⟨labels, [], s, s', rfl, hrun, hstep, .init⟩

end Steps

end Interaction

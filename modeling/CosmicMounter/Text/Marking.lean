import Mathlib

/-!
# Runs and marks

A list is cut into its maximal runs of one kind, and a list is marked when
pieces of it are replaced by fixed marks.
-/

namespace Text

variable {α : Type*}

/-! ## Runs -/

/-- The maximal runs of elements that `p` does not tell apart. -/
def runs (p : α → Bool) (l : List α) : List (List α) := l.splitBy fun a b ↦ p a == p b

section Runs

variable {p : α → Bool} {l run rest : List α}

@[simp] theorem runs_nil : runs p ([] : List α) = [] := rfl

@[simp] theorem flatten_runs (l : List α) : (runs p l).flatten = l := List.flatten_splitBy _ l

theorem ne_nil_of_mem_runs (h : run ∈ runs p l) : run ≠ [] := List.ne_nil_of_mem_splitBy h

theorem forall_eq_of_isChain {a : α} (h : (a :: l).IsChain fun x y ↦ (p x == p y) = true) :
    ∀ b ∈ l, p b = p a := by
  induction l generalizing a with
  | nil => simp
  | cons b l ih =>
      rw [List.isChain_cons_cons] at h
      have hab : p b = p a := (eq_of_beq h.1).symm
      intro c hc
      rcases List.mem_cons.mp hc with hcb | hcl
      · rw [hcb, hab]
      · rw [ih h.2 c hcl, hab]

/-- All elements of a run are of the kind of its first one. -/
theorem uniform_of_mem_runs (h : run ∈ runs p l) :
    (∀ a ∈ run, p a = true) ∨ ∀ a ∈ run, p a = false := by
  have hchain := List.isChain_of_mem_splitBy h
  cases hrun : run with
  | nil => exact absurd hrun (ne_nil_of_mem_runs h)
  | cons a run =>
      rw [hrun] at hchain
      have hsame := forall_eq_of_isChain hchain
      cases ha : p a with
      | true =>
          left
          intro b hb
          rcases List.mem_cons.mp hb with hba | hb
          · rw [hba, ha]
          · rw [hsame b hb, ha]
      | false =>
          right
          intro b hb
          rcases List.mem_cons.mp hb with hba | hb
          · rw [hba, ha]
          · rw [hsame b hb, ha]

theorem isChain_of_forall {value : Bool} (h : ∀ a ∈ run, p a = value) :
    run.IsChain fun x y ↦ (p x == p y) = true := by
  induction run with
  | nil => exact List.isChain_nil
  | cons a run ih =>
      cases run with
      | nil => exact List.isChain_singleton a
      | cons b run =>
          rw [List.isChain_cons_cons]
          refine ⟨?_, ih fun c hc ↦ h c (List.mem_cons_of_mem a hc)⟩
          rw [h a (by simp), h b (by simp), beq_self_eq_true]

theorem runs_of_forall {value : Bool} (hne : run ≠ []) (h : ∀ a ∈ run, p a = value) :
    runs p run = [run] := List.splitBy_of_isChain hne (isChain_of_forall h)

/-- A run before an element of the other kind is cut off. -/
theorem runs_append {value : Bool} (hne : run ≠ []) (h : ∀ a ∈ run, p a = value)
    (hrest : ∀ a ∈ rest.head?, p a ≠ value) : runs p (run ++ rest) = run :: runs p rest := by
  have hcut : runs p (run ++ rest) = runs p run ++ runs p rest := by
    apply List.splitBy_append
    intro a ha b hb
    have hlast : p a = value := h a (List.mem_of_mem_getLast? ha)
    have hhead : p b ≠ value := hrest b hb
    rw [hlast]
    cases value <;> simp_all
  rw [hcut, runs_of_forall hne h]
  rfl

/-- Two lists are cut apart where an element of one kind meets the other. -/
theorem runs_append_runs {m : List α} (h : ∀ a ∈ l.getLast?, ∀ b ∈ m.head?, p a ≠ p b) :
    runs p (l ++ m) = runs p l ++ runs p m := by
  apply List.splitBy_append
  intro a ha b hb
  exact beq_eq_false_iff_ne.mpr (h a ha b hb)

end Runs

/-! ## Marks -/

/-- The second list is the first one with pieces of droppable elements
replaced by marks. -/
inductive Marked (droppable : α → Bool) (marks : List (List α)) : List α → List α → Prop
  | nil : Marked droppable marks [] []
  | keep (a : α) {s t : List α} : Marked droppable marks s t →
      Marked droppable marks (a :: s) (a :: t)
  | mark {dropped mark s t : List α} : (∀ a ∈ dropped, droppable a = true) → mark ∈ marks →
      Marked droppable marks s t → Marked droppable marks (dropped ++ s) (mark ++ t)

namespace Marked

variable {droppable : α → Bool} {marks : List (List α)} {s t s' t' : List α}

theorem refl (s : List α) : Marked droppable marks s s := by
  induction s with
  | nil => exact nil
  | cons a s ih => exact keep a ih

theorem append (h : Marked droppable marks s t) (h' : Marked droppable marks s' t') :
    Marked droppable marks (s ++ s') (t ++ t') := by
  induction h with
  | nil => exact h'
  | keep a _ ih => exact keep a ih
  | mark hdropped hmark _ ih =>
      rw [List.append_assoc, List.append_assoc]
      exact mark hdropped hmark ih

/-- A whole droppable list may become one mark. -/
theorem of_mark {dropped mark : List α} (hdropped : ∀ a ∈ dropped, droppable a = true)
    (hmark : mark ∈ marks) : Marked droppable marks dropped mark := by
  have hnil : Marked droppable marks [] [] := nil
  have h := Marked.mark hdropped hmark hnil
  simpa using h

/-- What is neither droppable nor in a mark is kept. -/
theorem filter_eq {q : α → Bool} (h : Marked droppable marks s t)
    (hdroppable : ∀ a, droppable a = true → q a = false)
    (hmarks : ∀ mark ∈ marks, ∀ a ∈ mark, q a = false) : t.filter q = s.filter q := by
  induction h with
  | nil => rfl
  | keep a _ ih => rw [List.filter_cons, List.filter_cons, ih]
  | mark hdropped hmark _ ih =>
      have hgone : ∀ {l : List α}, (∀ a ∈ l, q a = false) → l.filter q = [] := by
        intro l hl
        rw [List.filter_eq_nil_iff]
        intro a ha
        simp [hl a ha]
      rw [List.filter_append, List.filter_append, ih, hgone (hmarks _ hmark),
        hgone fun a ha ↦ hdroppable a (hdropped a ha)]

/-- The elements of the list stand in no mark, and no mark is empty. -/
def Fresh (marks : List (List α)) (word : List α) : Prop :=
  [] ∉ marks ∧ ∀ mark ∈ marks, ∀ a ∈ word, a ∉ mark

theorem prefix_of_prefix {word : List α} (hfresh : Fresh marks word)
    (h : Marked droppable marks s t) (hword : word <+: t) : word <+: s := by
  induction h generalizing word with
  | nil => exact hword
  | keep a _ ih =>
      cases word with
      | nil => exact List.nil_prefix
      | cons b word =>
          rw [List.cons_prefix_cons] at hword ⊢
          refine ⟨hword.1, ih ⟨hfresh.1, ?_⟩ hword.2⟩
          exact fun mark hmark c hc ↦ hfresh.2 mark hmark c (List.mem_cons_of_mem b hc)
  | @mark dropped mark s t hdropped hmark _ _ =>
      cases word with
      | nil => exact List.nil_prefix
      | cons b word =>
          exfalso
          cases mark with
          | nil => exact hfresh.1 hmark
          | cons c mark =>
              rw [List.cons_append, List.cons_prefix_cons] at hword
              exact hfresh.2 _ hmark b (by simp) (by simp [hword.1])

theorem infix_append_of_fresh {word mark t : List α} (hfresh : ∀ a ∈ word, a ∉ mark)
    (hne : word ≠ []) (h : word <:+: mark ++ t) : word <:+: t := by
  induction mark with
  | nil => exact h
  | cons b mark ih =>
      rw [List.cons_append, List.infix_cons_iff] at h
      rcases h with hfront | hinfix
      · exfalso
        cases word with
        | nil => exact hne rfl
        | cons a word =>
            rw [List.cons_prefix_cons] at hfront
            exact hfresh a (by simp) (by simp [hfront.1])
      · exact ih (fun a ha hmem ↦ hfresh a ha (List.mem_cons_of_mem b hmem)) hinfix

/-- A word outside the marks that stands in the marked list stood in the list. -/
theorem infix_of_infix {word : List α} (hfresh : Fresh marks word)
    (h : Marked droppable marks s t) (hword : word <:+: t) : word <:+: s := by
  by_cases hne : word = []
  · rw [hne]
    exact List.nil_infix
  · induction h with
    | nil => exact hword
    | keep a hrest ih =>
        rw [List.infix_cons_iff] at hword ⊢
        rcases hword with hfront | hinfix
        · left
          exact prefix_of_prefix hfresh (keep a hrest) hfront
        · right
          exact ih hinfix
    | @mark dropped mark s t hdropped hmark _ ih =>
        have hinfix : word <:+: t := infix_append_of_fresh (hfresh.2 mark hmark) hne hword
        exact (ih hinfix).trans (List.suffix_append dropped s).isInfix

/-- A marked list that shows no mark is unchanged. -/
theorem eq_of_fresh (hfresh : Fresh marks t) (h : Marked droppable marks s t) : t = s := by
  induction h with
  | nil => rfl
  | keep a _ ih =>
      rw [ih ⟨hfresh.1, fun mark hmark b hb ↦ hfresh.2 mark hmark b (List.mem_cons_of_mem a hb)⟩]
  | @mark dropped mark s t hdropped hmark _ ih =>
      exfalso
      cases mark with
      | nil => exact hfresh.1 hmark
      | cons c mark => exact hfresh.2 _ hmark c (by simp) (by simp)

end Marked

end Text

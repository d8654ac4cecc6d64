import Mathlib

/-!
# Logs

A log grows by one entry at a time, newest last.  An entry can open something
that stays open until another entry closes it, and what an entry has to do
with the entries before it is decided once, when it is added.
-/

namespace Interaction

variable {E : Type*}

theorem mem_of_mem_append_singleton {log : List E} {entry other : E} (h : entry ∈ log ++ [other])
    (hne : entry ≠ other) : entry ∈ log := by
  rcases List.mem_append.mp h with hmem | hmem
  · exact hmem
  · exact absurd (List.mem_singleton.mp hmem) hne

theorem perm_eraseIdx {xs : List E} {index : Nat} {x : E} (h : xs[index]? = some x) :
    xs.Perm (x :: xs.eraseIdx index) := by
  obtain ⟨hlt, rfl⟩ := List.getElem?_eq_some_iff.mp h
  exact (List.getElem_cons_eraseIdx_perm hlt).symm

/-! ## What is still open -/

/-- Some entry opens, and none after it closes. -/
def Pending (opens closes : E → Prop) (log : List E) : Prop :=
  ∃ before entry after, log = before ++ entry :: after ∧ opens entry ∧ ∀ e ∈ after, ¬closes e

section Pending

variable {opens closes : E → Prop} {log : List E} {entry : E}

theorem not_pending_nil : ¬Pending opens closes [] := by
  rintro ⟨before, entry, after, hlog, -⟩
  simp at hlog

theorem pending_append :
    Pending opens closes (log ++ [entry]) ↔
      (Pending opens closes log ∧ ¬closes entry) ∨ opens entry := by
  constructor
  · rintro ⟨before, opening, after, hlog, hopens, hafter⟩
    rcases List.eq_nil_or_concat' after with rfl | ⟨init, last, rfl⟩
    · obtain ⟨-, hentry⟩ := List.append_inj' hlog rfl
      exact .inr (List.singleton_inj.mp hentry ▸ hopens)
    · rw [← List.cons_append, ← List.append_assoc] at hlog
      obtain ⟨hbefore, hentry⟩ := List.append_inj' hlog rfl
      obtain rfl := List.singleton_inj.mp hentry
      refine .inl ⟨⟨before, opening, init, hbefore, hopens, ?_⟩, hafter entry (by simp)⟩
      exact fun e he ↦ hafter e (List.mem_append_left _ he)
  · rintro (⟨⟨before, opening, after, rfl, hopens, hafter⟩, hentry⟩ | hopens)
    · refine ⟨before, opening, after ++ [entry], by simp, hopens, ?_⟩
      intro e he
      rcases List.mem_append.mp he with he | he
      · exact hafter e he
      · rwa [List.mem_singleton.mp he]
    · exact ⟨log, entry, [], rfl, hopens, by simp⟩

theorem not_pending_append (hcloses : closes entry) (hopens : ¬opens entry) :
    ¬Pending opens closes (log ++ [entry]) := by
  rw [pending_append]
  rintro (⟨-, hnot⟩ | hopening)
  · exact hnot hcloses
  · exact hopens hopening

theorem pending_of_append (h : Pending opens closes (log ++ [entry])) (hopens : ¬opens entry) :
    Pending opens closes log := by
  rcases pending_append.mp h with ⟨hpending, -⟩ | hopening
  · exact hpending
  · exact absurd hopening hopens

end Pending

/-! ## Entries and their past -/

/-- Every entry stands in this relation to what was there when it was added. -/
def Throughout (R : List E → E → Prop) (log : List E) : Prop :=
  ∀ before entry after, log = before ++ entry :: after → R before entry

section Throughout

variable {R : List E → E → Prop} {log : List E} {entry : E}

theorem throughout_nil : Throughout R [] := by
  intro before entry after hlog
  simp at hlog

theorem throughout_append : Throughout R (log ++ [entry]) ↔ Throughout R log ∧ R log entry := by
  constructor
  · intro h
    refine ⟨?_, h log entry [] rfl⟩
    rintro before e after rfl
    exact h before e (after ++ [entry]) (by simp)
  · rintro ⟨hlog, hentry⟩ before e after heq
    rcases List.eq_nil_or_concat' after with rfl | ⟨init, last, rfl⟩
    · obtain ⟨rfl, he⟩ := List.append_inj' heq rfl
      rwa [← List.singleton_inj.mp he]
    · rw [← List.cons_append, ← List.append_assoc] at heq
      exact hlog before e init (List.append_inj' heq rfl).1

end Throughout

end Interaction

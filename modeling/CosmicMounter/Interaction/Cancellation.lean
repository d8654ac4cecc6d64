import Mathlib

/-!
# Cancellation tokens

Tokens as `tokio_util::sync::CancellationToken` documents them.  A child is
cancelled with its parent and born cancelled if the parent is; a token once
cancelled stays so, and creating tokens cancels none.
-/

namespace Interaction

/-- An implementation of tokens over a heap, with the documented behaviour. -/
structure CancellationTokens where
  Heap : Type
  Token : Type
  empty : Heap
  new : Heap → Token × Heap
  child : Heap → Token → Token × Heap
  cancel : Heap → Token → Heap
  isCancelled : Heap → Token → Bool
  Allocated : Heap → Token → Prop
  parent : Token → Option Token
  new_allocated : ∀ h, Allocated (new h).2 (new h).1
  new_isCancelled : ∀ h, isCancelled (new h).2 (new h).1 = false
  new_keeps : ∀ h t, Allocated h t →
    Allocated (new h).2 t ∧ isCancelled (new h).2 t = isCancelled h t
  child_allocated : ∀ h p, Allocated h p → Allocated (child h p).2 (child h p).1
  child_parent : ∀ h p, parent (child h p).1 = some p
  child_isCancelled : ∀ h p, Allocated h p →
    isCancelled (child h p).2 (child h p).1 = isCancelled h p
  child_keeps : ∀ h p t, Allocated h t →
    Allocated (child h p).2 t ∧ isCancelled (child h p).2 t = isCancelled h t
  cancel_allocated : ∀ h p t, Allocated h t → Allocated (cancel h p) t
  cancel_self : ∀ h t, isCancelled (cancel h t) t = true
  cancel_child : ∀ h p t, Allocated h t → parent t = some p → isCancelled (cancel h p) t = true
  cancel_keeps : ∀ h p t, isCancelled h t = true → isCancelled (cancel h p) t = true

namespace CancellationTokens

/-- Tokens named by the numbers from themselves up to their root, with the
next free number and the cancelled tokens as the heap. -/
def tree : CancellationTokens where
  Heap := Nat × (List Nat → Bool)
  Token := List Nat
  empty := (0, fun _ ↦ false)
  new h := ([h.1], (h.1 + 1, Function.update h.2 [h.1] false))
  child h p := (h.1 :: p, (h.1 + 1, Function.update h.2 (h.1 :: p) (h.2 p)))
  cancel h p := (h.1, fun t ↦ h.2 t || p.isSuffixOf t)
  isCancelled h t := h.2 t
  Allocated h t := ∀ n ∈ t, n < h.1
  parent t := t.tail?
  new_allocated h n hn := by
    obtain rfl := List.mem_singleton.mp hn
    exact Nat.lt_succ_self _
  new_isCancelled h := Function.update_self ..
  new_keeps h t ht := by
    have hne : t ≠ [h.1] := by
      rintro rfl
      exact absurd (ht h.1 List.mem_cons_self) (lt_irrefl _)
    exact ⟨fun n hn ↦ Nat.lt_succ_of_lt (ht n hn), Function.update_of_ne hne ..⟩
  child_allocated h p hp n hn := by
    rcases List.mem_cons.mp hn with rfl | hn
    · exact Nat.lt_succ_self _
    · exact Nat.lt_succ_of_lt (hp n hn)
  child_parent h p := rfl
  child_isCancelled h p hp := Function.update_self ..
  child_keeps h p t ht := by
    have hne : t ≠ h.1 :: p := by
      rintro rfl
      exact absurd (ht h.1 List.mem_cons_self) (lt_irrefl _)
    exact ⟨fun n hn ↦ Nat.lt_succ_of_lt (ht n hn), Function.update_of_ne hne ..⟩
  cancel_allocated h p t ht := ht
  cancel_self h t := by simp
  cancel_child h p t ht hparent := by
    cases t with
    | nil => cases hparent
    | cons n rest =>
        obtain rfl := Option.some.inj hparent
        simp
  cancel_keeps h p t ht := by simp [ht]

end CancellationTokens

end Interaction

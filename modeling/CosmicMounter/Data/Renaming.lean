import Mathlib

/-!
# Renaming two inventories

Two finite inventories are compared name by name.  A renaming that keeps the
names of each inventory apart leaves the number of differences unchanged
exactly when it merges no name of one with another name of the other.
-/

namespace Renaming

variable {α γ β : Type*} [DecidableEq α] [DecidableEq γ]

/-- The names that stand in both inventories with close values. -/
def agreeing (A B : Finset α) (u v : α → β) (close : β → β → Bool) : Finset α :=
  (A ∩ B).filter fun name ↦ close (u name) (v name) = true

def differing (A B : Finset α) (u v : α → β) (close : β → β → Bool) : Finset α :=
  (A ∪ B) \ agreeing A B u v close

variable {A B : Finset α} {u v : α → β} {u' v' : γ → β} {close : β → β → Bool} {ρ : α → γ}

theorem agreeing_subset : agreeing A B u v close ⊆ A ∪ B := by
  intro name hname
  have hboth := Finset.mem_inter.mp (Finset.mem_filter.mp hname).1
  exact Finset.mem_union_left B hboth.1

theorem card_differing (A B : Finset α) (u v : α → β) (close : β → β → Bool) :
    (differing A B u v close).card + (agreeing A B u v close).card = (A ∪ B).card :=
  Finset.card_sdiff_add_card_eq_card agreeing_subset

theorem image_agreeing_subset (close : β → β → Bool) (hu : ∀ name ∈ A, u' (ρ name) = u name)
    (hv : ∀ name ∈ B, v' (ρ name) = v name) :
    (agreeing A B u v close).image ρ ⊆ agreeing (A.image ρ) (B.image ρ) u' v' close := by
  intro renamed hrenamed
  obtain ⟨name, hname, rfl⟩ := Finset.mem_image.mp hrenamed
  obtain ⟨hboth, hclose⟩ := Finset.mem_filter.mp hname
  obtain ⟨hA, hB⟩ := Finset.mem_inter.mp hboth
  refine Finset.mem_filter.mpr ⟨Finset.mem_inter.mpr ⟨?_, ?_⟩, ?_⟩
  · exact Finset.mem_image_of_mem ρ hA
  · exact Finset.mem_image_of_mem ρ hB
  · rw [hu name hA, hv name hB]
    exact hclose

theorem agreeing_subset_image (close : β → β → Bool) (hρ : Set.InjOn ρ (A ∪ B : Finset α))
    (hu : ∀ name ∈ A, u' (ρ name) = u name) (hv : ∀ name ∈ B, v' (ρ name) = v name) :
    agreeing (A.image ρ) (B.image ρ) u' v' close ⊆ (agreeing A B u v close).image ρ := by
  intro renamed hrenamed
  obtain ⟨hboth, hclose⟩ := Finset.mem_filter.mp hrenamed
  obtain ⟨hA, hB⟩ := Finset.mem_inter.mp hboth
  obtain ⟨name, hname, rfl⟩ := Finset.mem_image.mp hA
  obtain ⟨other, hother, heq⟩ := Finset.mem_image.mp hB
  have hsame : other = name :=
    hρ (Finset.mem_union_right A hother) (Finset.mem_union_left B hname) heq
  subst hsame
  rw [hu other hname, hv other hother] at hclose
  exact Finset.mem_image_of_mem ρ
    (Finset.mem_filter.mpr ⟨Finset.mem_inter.mpr ⟨hname, hother⟩, hclose⟩)

theorem card_differing_image_eq_iff (close : β → β → Bool) (hA : Set.InjOn ρ A)
    (hu : ∀ name ∈ A, u' (ρ name) = u name) (hv : ∀ name ∈ B, v' (ρ name) = v name) :
    (differing (A.image ρ) (B.image ρ) u' v' close).card = (differing A B u v close).card ↔
      Set.InjOn ρ (A ∪ B : Finset α) := by
  have hcard := card_differing A B u v close
  have hcard' := card_differing (A.image ρ) (B.image ρ) u' v' close
  have hunion : A.image ρ ∪ B.image ρ = (A ∪ B).image ρ := (Finset.image_union A B).symm
  have hkept : ((agreeing A B u v close).image ρ).card = (agreeing A B u v close).card := by
    apply Finset.card_image_of_injOn
    intro name hname other hother heq
    have hname' := Finset.mem_inter.mp (Finset.mem_filter.mp hname).1
    have hother' := Finset.mem_inter.mp (Finset.mem_filter.mp hother).1
    exact hA hname'.1 hother'.1 heq
  have hmore := Finset.card_le_card (image_agreeing_subset close hu hv)
  rw [hunion] at hcard'
  constructor
  · intro heq
    -- The renamed union cannot be smaller: it has at least as many agreeing names.
    have hle : (A ∪ B).card ≤ ((A ∪ B).image ρ).card := by omega
    exact Finset.injOn_of_card_image_eq (le_antisymm Finset.card_image_le hle)
  · intro hρ
    have hall : ((A ∪ B).image ρ).card = (A ∪ B).card := Finset.card_image_of_injOn hρ
    have hless := Finset.card_le_card (agreeing_subset_image close hρ hu hv)
    omega

end Renaming

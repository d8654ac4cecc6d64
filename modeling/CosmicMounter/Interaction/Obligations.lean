import CosmicMounter.Interaction.Exits
import CosmicMounter.Interaction.History
import CosmicMounter.Interaction.Log

/-!
# Obligations of a program

What a program has opened in its past it still has to close.  A contract that
permits everything is enough to prove that, and what is proved under it holds
besides what is proved under any other contract of the same world.
-/

namespace Interaction.Program

variable {Q : Type} {R : Q → Type} {S α β ε : Type}

/-- What a program reaches does not depend on what it is permitted. -/
theorem wp_and_free {C : Contract R S} {post post' : α → S → Prop} {p : Program R α} {s : S}
    (h : p.wp C post s) (h' : p.wp ⟨C.world, fun _ _ ↦ True⟩ post' s) :
    p.wp C (fun a s ↦ post a s ∧ post' a s) s := by
  induction p generalizing s with
  | done a => exact ⟨h, h'⟩
  | ask q next ih => exact ⟨h.1, fun r s' hw ↦ ih r (h.2 r s' hw) (h'.2 r s' hw)⟩

section Pending

variable {W : World R S} {opens closes : (q : Q) × R q → Prop} {s : S × History R}

/-- A program may do anything, but what it says of its past has to hold. -/
abbrev free (W : World R S) : Contract R (S × History R) := .recorded W fun _ _ ↦ True

/-- What is open after a program that asks for nothing that opens was open before. -/
theorem wp_pending {p : Program R α} (hp : p.Only fun q ↦ ∀ r, ¬opens ⟨q, r⟩) :
    p.wp (free W) (fun _ s' ↦ Pending opens closes s'.2 → Pending opens closes s.2) s := by
  refine wp_of_only (I := fun s' : S × History R ↦ Pending opens closes s'.2 → Pending opens closes s.2)
    (fun _ _ _ _ ↦ trivial) ?_ hp fun h ↦ h
  rintro s' q r ⟨s'', past⟩ hs hq ⟨-, rfl⟩ hpending
  exact hs (pending_of_append hpending (hq r))

/-- Nothing is opened by such a program. -/
theorem wp_not_pending {p : Program R α} (hp : p.Only fun q ↦ ∀ r, ¬opens ⟨q, r⟩)
    (hs : ¬Pending opens closes s.2) :
    p.wp (free W) (fun _ s ↦ ¬Pending opens closes s.2) s := by
  have hpending : p.wp (free W) (fun _ s' ↦ Pending opens closes s'.2 → Pending opens closes s.2) s := wp_pending hp
  refine wp_mono ?_ hpending
  exact fun _ _ hs' hopen ↦ hs (hs' hopen)

/-- The same of a program that can fail, on either exit. -/
theorem wp_not_pending_onExit {x : ExceptT ε (Program R) α} (hx : x.run.Only fun q ↦ ∀ r, ¬opens ⟨q, r⟩)
    (hs : ¬Pending opens closes s.2) :
    x.run.wp (free W) (onExit (fun s ↦ ¬Pending opens closes s.2) fun _ s ↦ ¬Pending opens closes s.2) s := by
  refine wp_mono ?_ (wp_not_pending hx hs)
  intro r s' hs'
  cases r with
  | ok a => exact hs'
  | error e => exact hs'

/-- What ends well for each obligation ends well for all of them. -/
theorem wp_forall {ι : Sort*} {post : ι → α → S × History R → Prop} {p : Program R α}
    (h : ∀ i, p.wp (free W) (post i) s) : p.wp (free W) (fun a s ↦ ∀ i, post i a s) s := by
  induction p generalizing s with
  | done a => exact h
  | ask q next ih => exact ⟨trivial, fun r s' hw ↦ ih r fun i ↦ (h i).2 r s' hw⟩

/-- Nothing is claimed of where a program ends. -/
theorem wp_free {p : Program R α} : p.wp (free W) (fun _ _ ↦ True) s := by
  induction p generalizing s with
  | done a => trivial
  | ask q next ih => exact ⟨trivial, fun r s' _ ↦ ih r⟩

end Pending

end Interaction.Program

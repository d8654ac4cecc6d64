import CosmicMounter.Interaction.Contract

/-!
# Threads of programs

Programs run side by side, interleaved at their requests.  A thread may be
started at any time and may leave at any time, finished or aborted.  The
rely-guarantee rule reduces a property of all interleavings to a precondition
of each program under the interference of the others.
-/

namespace Interaction

variable {Q : Type} {R : Q → Type} {S T α : Type}

/-- One answered request of a thread, with the states around it. -/
structure Event (T : Type) (R : Q → Type) (S : Type) where
  thread : T
  before : S
  request : Q
  answer : R request
  after : S

/-- What each live thread has still to do. -/
abbrev Pool (T : Type) (R : Q → Type) (α : Type) := T → Option (Program R α)

/-- How the threads of a system start, run and leave. -/
structure Threads (T : Type) (R : Q → Type) (S α : Type) where
  starts : T → S → Program R α → S → Prop
  world : T → World R S
  leaves : T → Program R α → S → S → Prop

namespace Threads

variable [DecidableEq T] (sys : Threads T R S α)

/-- The finite runs of a system, with the requests answered on the way. -/
inductive Run (s₀ : S) : S → Pool T R α → List (Event T R S) → Prop
  | init : Run s₀ s₀ (fun _ ↦ none) []
  | start {s s' : S} {pool : Pool T R α} {tr : List (Event T R S)} {t : T} {p : Program R α} :
      Run s₀ s pool tr → pool t = none → sys.starts t s p s' →
        Run s₀ s' (Function.update pool t (some p)) tr
  | ask {s s' : S} {pool : Pool T R α} {tr : List (Event T R S)} {t : T} {q : Q}
      {next : R q → Program R α} {r : R q} :
      Run s₀ s pool tr → pool t = some (.ask q next) → sys.world t s q r s' →
        Run s₀ s' (Function.update pool t (some (next r))) (tr ++ [⟨t, s, q, r, s'⟩])
  | leave {s s' : S} {pool : Pool T R α} {tr : List (Event T R S)} {t : T} {p : Program R α} :
      Run s₀ s pool tr → pool t = some p → sys.leaves t p s s' →
        Run s₀ s' (Function.update pool t none) tr

variable {sys}

/-- A relation kept by every start, answer and departure holds between the
ends of every run. -/
theorem Run.related {s₀ s : S} {pool : Pool T R α} {tr : List (Event T R S)}
    (h : sys.Run s₀ s pool tr) (rel : S → S → Prop) (hrefl : rel s₀ s₀)
    (hstart : ∀ t s p s', rel s₀ s → sys.starts t s p s' → rel s₀ s')
    (hask : ∀ t s q r s', rel s₀ s → sys.world t s q r s' → rel s₀ s')
    (hleave : ∀ t p s s', rel s₀ s → sys.leaves t p s s' → rel s₀ s') : rel s₀ s := by
  induction h with
  | init => exact hrefl
  | start _ _ hs ih => exact hstart _ _ _ _ ih hs
  | ask _ _ hw ih => exact hask _ _ _ _ _ ih hw
  | leave _ _ hl ih => exact hleave _ _ _ _ ih hl

/-- Every event of a run is an answer its thread's world allows. -/
theorem Run.event_world {s₀ s : S} {pool : Pool T R α} {tr : List (Event T R S)}
    (h : sys.Run s₀ s pool tr) {e : Event T R S} (he : e ∈ tr) :
    sys.world e.thread e.before e.request e.answer e.after := by
  induction h with
  | init => simp at he
  | start _ _ _ ih => exact ih he
  | ask _ _ hw ih =>
      rcases List.mem_append.mp he with he | he
      · exact ih he
      · rw [List.mem_singleton] at he
        subst he
        exact hw
  | leave _ _ _ ih => exact ih he

end Threads

end Interaction

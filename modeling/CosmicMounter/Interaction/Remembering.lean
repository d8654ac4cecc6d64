import CosmicMounter.Interaction.Asks
import CosmicMounter.Interaction.Exits
import CosmicMounter.Interaction.Replay

/-!
# Steps that keep an invariant and forget nothing

A fallible step in a recorded world, followed on both of its exits.  The
invariant speaks of the state alone; what was answered is only ever added to,
so that what the answers have shown they go on showing.
-/

namespace Interaction

variable {Q : Type} {R : Q → Type} {S α β ε ε' : Type}

/-- The invariant holds, and everything that was answered is still known. -/
structure Later (I : S → Prop) (s s' : S × History R) : Prop where
  holds : I s'.1
  grown : s.2 <+: s'.2

namespace Later

variable {I : S → Prop} {s s' s'' : S × History R}

theorem refl (h : I s.1) : Later I s s := ⟨h, List.prefix_refl _⟩

theorem trans (h : Later I s s') (h' : Later I s' s'') : Later I s s'' := ⟨h'.holds, h.grown.trans h'.grown⟩

theorem subset (h : Later I s s') : s.2 ⊆ s'.2 := h.grown.subset

theorem append {state : S} (h : I state) (more : History R) : Later I s (state, s.2 ++ more) :=
  ⟨h, List.prefix_append _ _⟩

end Later

namespace Program

/-- The step may ask what it asks, and keeps the invariant on both exits. -/
def Remembers (C : Contract R (S × History R)) (I : S → Prop) (x : ExceptT ε (Program R) α)
    (post : α → S × History R → Prop) (s : S × History R) : Prop :=
  x.run.wp C (onExit (Later I s) fun a s' ↦ Later I s s' ∧ post a s') s

namespace Remembers

variable {C : Contract R (S × History R)} {I : S → Prop} {s : S × History R}

theorem mono {x : ExceptT ε (Program R) α} {post post' : α → S × History R → Prop} (h : Remembers C I x post s)
    (hpost : ∀ a s', Later I s s' → post a s' → post' a s') : Remembers C I x post' s :=
  wp_mono_onExit h fun a s' hs' ↦ ⟨hs'.1, hpost a s' hs'.1 hs'.2⟩

/-- One step after another: what the first has seen the second still knows. -/
theorem bind {x : ExceptT ε (Program R) α} {f : α → ExceptT ε (Program R) β} {J : α → S × History R → Prop}
    {post : β → S × History R → Prop} (hx : Remembers C I x J s)
    (hf : ∀ a s', Later I s s' → J a s' → Remembers C I (f a) post s') : Remembers C I (x >>= f) post s := by
  refine wp_seq_onExit hx ?_
  rintro a s' ⟨hlater, hJ⟩
  refine wp_mono ?_ (hf a s' hlater hJ)
  intro r s'' hr
  cases r with
  | ok b => exact ⟨hlater.trans hr.1, hr.2⟩
  | error e => exact hlater.trans hr

theorem pure {a : α} {post : α → S × History R → Prop} (hs : I s.1) (h : post a s) :
    Remembers C I (Pure.pure a : ExceptT ε (Program R) α) post s := ⟨.refl hs, h⟩

theorem throw {e : ε} {post : α → S × History R → Prop} (hs : I s.1) :
    Remembers C I (MonadExcept.throw e : ExceptT ε (Program R) α) post s := Later.refl hs

theorem check {r : Except ε α} {post : α → S × History R → Prop} (hs : I s.1) (h : ∀ a, r = .ok a → post a s) :
    Remembers C I (Program.check r) post s :=
  wp_check_onExit (fun a ha ↦ ⟨.refl hs, h a ha⟩) (.refl hs)

/-- A check asks for nothing: what follows it begins where it stood. -/
theorem check_bind {r : Except ε α} {f : α → ExceptT ε (Program R) β} {post : β → S × History R → Prop}
    (hs : I s.1) (h : ∀ a, r = .ok a → Remembers C I (f a) post s) :
    Remembers C I (Program.check r >>= f) post s := by
  refine Remembers.bind (J := fun a s' ↦ s = s' ∧ r = .ok a) (Remembers.check hs fun a ha ↦ ⟨rfl, ha⟩) ?_
  rintro a _ - ⟨rfl, ha⟩
  exact h a ha

theorem reporting {f : ε → ε'} {x : ExceptT ε (Program R) α} {post : α → S × History R → Prop}
    (h : Remembers C I x post s) : Remembers C I (Program.reporting f x) post s := wp_reporting_onExit h

/-- An attempted step does not fail; what it shows on success is known where it succeeded. -/
theorem attempt {x : ExceptT ε (Program R) α} {post : α → S × History R → Prop} (h : Remembers C I x post s) :
    Remembers C I (Program.attempt x) (fun r s' ↦ ∀ a, r = .ok a → post a s') s := by
  have hattempt : (Program.attempt x).run.wp C (onExit (Later I s) fun r ↦
      onExit (Later I s) (fun a s' ↦ Later I s s' ∧ post a s') r) s := wp_attempt_onExit h
  refine wp_mono ?_ hattempt
  intro r s' hr
  cases r with
  | error e => exact hr
  | ok r =>
      cases r with
      | ok a =>
          refine ⟨hr.1, fun b hb ↦ ?_⟩
          obtain rfl := Except.ok.inj hb
          exact hr.2
      | error e => exact ⟨hr, fun _ hb ↦ by cases hb⟩

section Recorded

variable {W : World R S} {permits : S × History R → Q → Prop} {P : Q → Prop}

/-- A single permitted request that keeps the invariant. -/
theorem ask {q : Q} {post : R q → S × History R → Prop} (hpermits : permits s q)
    (hkeeps : ∀ r state, W s.1 q r state → I state) (h : ∀ r state, I state → post r (state, s.2 ++ [⟨q, r⟩])) :
    Remembers (.recorded W permits) I (liftM (request (R := R) q) : ExceptT ε (Program R) (R q)) post s :=
  wp_ask_recorded.mpr ⟨hpermits, fun r state hw ↦ ⟨.append (hkeeps r state hw) _, h r state (hkeeps r state hw)⟩⟩

/-- A single permitted request whose answer may be a failure. -/
theorem answer {q : Q} {f : R q → Except ε α} {post : α → S × History R → Prop} (hpermits : permits s q)
    (hkeeps : ∀ r state, W s.1 q r state → I state)
    (h : ∀ r state a, I state → f r = .ok a → post a (state, s.2 ++ [⟨q, r⟩])) :
    Remembers (.recorded W permits) I (ExceptT.mk (Program.ask q fun r ↦ done (f r))) post s := by
  refine wp_ask_recorded.mpr ⟨hpermits, fun r state hw ↦ (wp_done _ _ _).mpr ?_⟩
  have hstate := hkeeps r state hw
  cases hr : f r with
  | ok a => exact ⟨.append hstate _, h r state a hstate hr⟩
  | error e => exact .append hstate _

/-- Harmless requests: the answers replay to the result. -/
theorem look [DecidableEq Q] {x : ExceptT ε (Program R) α} {post : α → S × History R → Prop}
    (hpermits : ∀ s history q, I s → P q → permits (s, history) q)
    (hkeeps : ∀ s q r s', I s → P q → W s q r s' → I s') (hx : Asks P x) (hs : I s.1)
    (h : ∀ a state segment, I state → (∀ reply ∈ segment, P reply.1) → x.run.replay segment = some (.ok a) →
      post a (state, s.2 ++ segment)) : Remembers (.recorded W permits) I x post s := by
  obtain ⟨state, history⟩ := s
  have hkept : ∀ s q r s', I s → P q → W s q r s' → I s' ∧ True :=
    fun s q r s' hs hq hw ↦ ⟨hkeeps s q r s' hs hq hw, trivial⟩
  refine wp_mono ?_ (wp_replayed hpermits hkept hx.only hs)
  rintro r ⟨state', history'⟩ ⟨hs', segment, rfl, hreplies, hreplay⟩
  cases r with
  | ok a => exact ⟨.append hs' segment, h a state' segment hs' (fun reply hreply ↦ (hreplies reply hreply).1) hreplay⟩
  | error e => exact .append hs' segment

end Recorded

end Remembers

end Program

end Interaction

import CosmicMounter.Interaction.Program

/-!
# Running a program in a world

A world says how requests may be answered in each state and what the answer
does to the state.  A contract adds which requests are permitted in which
state.  `wp` is the weakest precondition of a program under a contract, and
`wp_exec` carries it along every finite execution, stopped anywhere.
-/

namespace Interaction

variable {Q : Type} {R : Q → Type} {S α β ε : Type}

/-- How an environment may answer a request, and the state it is left in. -/
abbrev World (R : Q → Type) (S : Type) := (s : S) → (q : Q) → R q → S → Prop

/-- One answered request, together with the state in which it was made. -/
structure Moment (R : Q → Type) (S : Type) where
  before : S
  request : Q
  answer : R request

/-- A finite execution from one residual program to another.  It may stop
anywhere, so an aborted program is an execution that does not end in `done`. -/
inductive Exec (W : World R S) : Program R α → S → List (Moment R S) → Program R α → S → Prop
  | stop (p : Program R α) (s : S) : Exec W p s [] p s
  | step {q : Q} {next : R q → Program R α} {s s' s'' : S} {r : R q}
      {tr : List (Moment R S)} {p' : Program R α} :
      W s q r s' → Exec W (next r) s' tr p' s'' →
        Exec W (.ask q next) s (⟨s, q, r⟩ :: tr) p' s''

namespace Exec

variable {W : World R S} {p p' p'' : Program R α} {s s' s'' : S} {tr tr' : List (Moment R S)}

theorem trans (h : Exec W p s tr p' s') (h' : Exec W p' s' tr' p'' s'') :
    Exec W p s (tr ++ tr') p'' s'' := by
  induction h with
  | stop => exact h'
  | step hw _ ih => exact .step hw (ih h')

theorem done_inv {a : α} (h : Exec W (.done a) s tr p' s') :
    tr = [] ∧ p' = .done a ∧ s' = s := by
  cases h
  exact ⟨rfl, rfl, rfl⟩

/-- Splitting an execution at any moment of its trace. -/
theorem split {m : Moment R S} (h : Exec W p s (tr ++ m :: tr') p' s') :
    ∃ next s₁, Exec W p s tr (.ask m.request next) m.before ∧
      W m.before m.request m.answer s₁ ∧ Exec W (next m.answer) s₁ tr' p' s' := by
  induction tr generalizing p s with
  | nil =>
      cases h with
      | step hw hrest => exact ⟨_, _, .stop _ _, hw, hrest⟩
  | cons m' tr ih =>
      cases h with
      | step hw hrest =>
          obtain ⟨next, s₁, hpre, hstep, hpost⟩ := ih hrest
          exact ⟨next, s₁, .step hw hpre, hstep, hpost⟩

/-- An execution of `p` is also one of everything that starts with `p`. -/
theorem bind {f : α → Program R β} (h : Exec W p s tr p' s') :
    Exec W (p >>= f) s tr (p' >>= f) s' := by
  induction h with
  | stop => exact .stop _ _
  | step hw _ ih => exact .step hw ih

theorem bind_done {f : α → Program R β} {a : α} {b : Program R β}
    (h : Exec W p s tr (.done a) s') (h' : Exec W (f a) s' tr' b s'') :
    Exec W (p >>= f) s (tr ++ tr') b s'' := (h.bind (f := f)).trans h'

end Exec

/-- A world together with the requests permitted in each state. -/
structure Contract (R : Q → Type) (S : Type) where
  world : World R S
  permits : S → Q → Prop

namespace Program

/-- The states from which the program makes permitted requests only and, if
it finishes, finishes in `post`. -/
def wp (C : Contract R S) (post : α → S → Prop) : Program R α → S → Prop
  | done a, s => post a s
  | ask q next, s => C.permits s q ∧ ∀ r s', C.world s q r s' → (next r).wp C post s'

variable {C : Contract R S}

@[simp] theorem wp_done (post : α → S → Prop) (a : α) (s : S) :
    (done a : Program R α).wp C post s ↔ post a s := Iff.rfl

@[simp] theorem wp_ask (post : α → S → Prop) (q : Q) (next : R q → Program R α) (s : S) :
    (ask q next).wp C post s ↔
      C.permits s q ∧ ∀ r s', C.world s q r s' → (next r).wp C post s' := Iff.rfl

theorem wp_mono {post post' : α → S → Prop} (hpost : ∀ a s, post a s → post' a s)
    {p : Program R α} {s : S} (h : p.wp C post s) : p.wp C post' s := by
  induction p generalizing s with
  | done a => exact hpost a s h
  | ask q next ih => exact ⟨h.1, fun r s' hw ↦ ih r (h.2 r s' hw)⟩

theorem wp_bind (p : Program R α) (f : α → Program R β) (post : β → S → Prop) (s : S) :
    (p >>= f).wp C post s ↔ p.wp C (fun a ↦ (f a).wp C post) s := by
  induction p generalizing s with
  | done a => rfl
  | ask q next ih => simp only [ask_bind, wp_ask, ih]

/-- Soundness: the precondition travels along every execution, and every
request made on the way was permitted. -/
theorem wp_exec {post : α → S → Prop} {p p' : Program R α} {s s' : S}
    {tr : List (Moment R S)} (h : p.wp C post s) (hexec : Exec C.world p s tr p' s') :
    p'.wp C post s' ∧ ∀ m ∈ tr, C.permits m.before m.request := by
  induction hexec with
  | stop => exact ⟨h, by simp⟩
  | step hw _ ih =>
      obtain ⟨hend, htr⟩ := ih (h.2 _ _ hw)
      refine ⟨hend, ?_⟩
      intro m hm
      rcases List.mem_cons.mp hm with rfl | hm
      · exact h.1
      · exact htr m hm

/-- Frame rule: when every request satisfying `P` is permitted and keeps `I`,
a program making only such requests keeps `I`, and its result is arbitrary. -/
theorem wp_of_only {P : Q → Prop} {I : S → Prop}
    (hpermits : ∀ s q, I s → P q → C.permits s q)
    (hkeeps : ∀ s q r s', I s → P q → C.world s q r s' → I s')
    {p : Program R α} (hp : p.Only P) {s : S} (hs : I s) :
    p.wp C (fun _ ↦ I) s := by
  induction p generalizing s with
  | done a => exact hs
  | ask q next ih =>
      exact ⟨hpermits s q hs hp.1, fun r s' hw ↦ ih r (hp.2 r) (hkeeps s q r s' hs hp.1 hw)⟩

/-- Two postconditions established separately hold together. -/
theorem wp_and {post post' : α → S → Prop} {p : Program R α} {s : S}
    (h : p.wp C post s) (h' : p.wp C post' s) :
    p.wp C (fun a s ↦ post a s ∧ post' a s) s := by
  induction p generalizing s with
  | done a => exact ⟨h, h'⟩
  | ask q next ih => exact ⟨h.1, fun r s' hw ↦ ih r (h.2 r s' hw) (h'.2 r s' hw)⟩

/-- The continuation of a fallible step, after the step has been run. -/
theorem wp_run_bind (x : ExceptT ε (Program R) α) (f : α → ExceptT ε (Program R) β)
    (post : Except ε β → S → Prop) (s : S) :
    (x >>= f).run.wp C post s ↔
      x.run.wp C (fun r ↦ (andThen f r).wp C post) s := by
  rw [run_bind, wp_bind]

/-- A step that cannot fail, at the beginning of a fallible program. -/
theorem wp_liftM_bind (p : Program R α) (f : α → ExceptT ε (Program R) β)
    (post : Except ε β → S → Prop) (s : S) :
    ((liftM p : ExceptT ε (Program R) α) >>= f).run.wp C post s ↔
      p.wp C (fun a ↦ (f a).run.wp C post) s := by
  have hrun : (liftM p : ExceptT ε (Program R) α).run = p >>= fun a ↦ done (.ok a) := rfl
  rw [wp_run_bind, hrun, wp_bind]
  rfl

/-- Nothing is claimed of a failure. -/
def onOk (post : α → S → Prop) : Except ε α → S → Prop
  | .ok a, s => post a s
  | .error _, _ => True

@[simp] theorem onOk_ok (post : α → S → Prop) (a : α) (s : S) :
    onOk post (.ok a : Except ε α) s ↔ post a s := Iff.rfl

@[simp] theorem onOk_error (post : α → S → Prop) (e : ε) (s : S) :
    onOk post (.error e : Except ε α) s ↔ True := Iff.rfl

theorem onOk_intro {post : α → S → Prop} {r : Except ε α} {s : S} (h : ∀ a, r = .ok a → post a s) :
    onOk post r s := by
  cases r with
  | ok a => exact h a rfl
  | error e => trivial

theorem wp_mono_onOk {post post' : α → S → Prop} {p : Program R (Except ε α)} {s : S}
    (h : p.wp C (onOk post) s) (hpost : ∀ a s, post a s → post' a s) : p.wp C (onOk post') s := by
  refine wp_mono ?_ h
  intro r s' hr
  cases r with
  | ok a => exact hpost a s' hr
  | error e => trivial

theorem wp_check {r : Except ε α} {post : α → S → Prop} {s : S} (h : ∀ a, r = .ok a → post a s) :
    (check r : ExceptT ε (Program R) α).run.wp C (onOk post) s := onOk_intro h

theorem wp_ensure {b : Bool} {e : ε} {post : Unit → S → Prop} {s : S} (h : b = true → post () s) :
    (ensure b e : ExceptT ε (Program R) Unit).run.wp C (onOk post) s := by
  cases b with
  | false => trivial
  | true => exact h rfl

/-- A failure ends the computation, so only success has to be followed. -/
theorem wp_bind_onOk {x : ExceptT ε (Program R) α} {f : α → ExceptT ε (Program R) β}
    {post : β → S → Prop} {s : S}
    (h : x.run.wp C (onOk fun a ↦ (f a).run.wp C (onOk post)) s) :
    (x >>= f).run.wp C (onOk post) s := by
  rw [wp_run_bind]
  refine wp_mono ?_ h
  intro r s' hr
  cases r with
  | ok a => exact hr
  | error e => trivial

/-- One step after another. -/
theorem wp_seq_onOk {x : ExceptT ε (Program R) α} {f : α → ExceptT ε (Program R) β}
    {mid : α → S → Prop} {post : β → S → Prop} {s : S} (hx : x.run.wp C (onOk mid) s)
    (hf : ∀ a s, mid a s → (f a).run.wp C (onOk post) s) : (x >>= f).run.wp C (onOk post) s :=
  wp_bind_onOk (wp_mono_onOk hx hf)

/-- Frame rule for the first of two steps. -/
theorem wp_frame_bind {P : Q → Prop} {I : S → Prop} {x : ExceptT ε (Program R) α}
    {f : α → ExceptT ε (Program R) β} {post : β → S → Prop} {s : S}
    (hpermits : ∀ s q, I s → P q → C.permits s q)
    (hkeeps : ∀ s q r s', I s → P q → C.world s q r s' → I s')
    (hx : x.run.Only P) (hs : I s) (hf : ∀ a s, I s → (f a).run.wp C (onOk post) s) :
    (x >>= f).run.wp C (onOk post) s := by
  apply wp_bind_onOk
  refine wp_mono ?_ (wp_of_only hpermits hkeeps hx hs)
  intro r s' hs'
  exact onOk_intro fun a _ ↦ hf a s' hs'

/-- Other words for a failure change nothing that is claimed of success. -/
theorem wp_reporting_onOk {ε' : Type} {f : ε → ε'} {x : ExceptT ε (Program R) α} {post : α → S → Prop}
    {s : S} (h : x.run.wp C (onOk post) s) : (reporting f x).run.wp C (onOk post) s := by
  rw [run_reporting, wp_bind]
  refine wp_mono ?_ h
  intro r s' hr
  cases r with
  | ok a => exact hr
  | error e => trivial

end Program

end Interaction

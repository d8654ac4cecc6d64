import CosmicMounter.Interaction.Contract

/-!
# Contracts about the past

What a program may ask can depend on how its earlier requests were answered.
A recorded world keeps those answers beside its state, so that such a contract
is proved like any other, and `wp_recorded` reads it back off the trace.
-/

namespace Interaction

variable {Q : Type} {R : Q → Type} {S α β : Type}

/-- Requests with their answers, oldest first. -/
abbrev History (R : Q → Type) := List ((q : Q) × R q)

def Moment.reply (m : Moment R S) : (q : Q) × R q := ⟨m.request, m.answer⟩

def replies (tr : List (Moment R S)) : History R := tr.map Moment.reply

@[simp] theorem replies_nil : replies ([] : List (Moment R S)) = [] := rfl

@[simp] theorem replies_cons (m : Moment R S) (tr : List (Moment R S)) :
    replies (m :: tr) = m.reply :: replies tr := rfl

@[simp] theorem replies_append (tr tr' : List (Moment R S)) :
    replies (tr ++ tr') = replies tr ++ replies tr' := List.map_append

def World.recorded (W : World R S) : World R (S × History R) :=
  fun s q r s' ↦ W s.1 q r s'.1 ∧ s'.2 = s.2 ++ [⟨q, r⟩]

/-- Every answer is possible, and there is nothing to know about the environment. -/
def anyWorld : World R Unit := fun _ _ _ _ ↦ True

/-- An execution that begins with this answer. -/
theorem Exec.ask {q : Q} {next : R q → Program R α} {p' : Program R α} {tr : List (Moment R Unit)}
    (r : R q) (h : Exec anyWorld (next r) () tr p' ()) :
    Exec anyWorld (.ask q next) () (⟨(), q, r⟩ :: tr) p' () := by
  have hanswer : anyWorld () q r () := trivial
  exact .step hanswer h

def Contract.recorded (W : World R S) (permits : S × History R → Q → Prop) :
    Contract R (S × History R) := ⟨W.recorded, permits⟩

namespace Program

variable {W : World R S} {permits : S × History R → Q → Prop}

theorem wp_ask_recorded {post : α → S × History R → Prop} {q : Q} {next : R q → Program R α}
    {s : S × History R} : (ask q next).wp (.recorded W permits) post s ↔
      permits s q ∧ ∀ r s', W s.1 q r s' →
        (next r).wp (.recorded W permits) post (s', s.2 ++ [⟨q, r⟩]) := by
  constructor
  · intro ⟨hpermits, hnext⟩
    exact ⟨hpermits, fun r s' hw ↦ hnext r (s', s.2 ++ [⟨q, r⟩]) ⟨hw, rfl⟩⟩
  · intro ⟨hpermits, hnext⟩
    refine ⟨hpermits, ?_⟩
    rintro r ⟨s', history⟩ ⟨hw, rfl⟩
    exact hnext r s' hw

theorem wp_lift_recorded {ε : Type} {q : Q} {post : R q → Unit × History R → Prop}
    {permits : Unit × History R → Q → Prop} {history : History R} (hpermits : permits ((), history) q)
    (h : ∀ r, post r ((), history ++ [⟨q, r⟩])) :
    (monadLift (request (R := R) q) : ExceptT ε (Program R) (R q)).run.wp
      (.recorded anyWorld permits) (onOk post) ((), history) :=
  wp_ask_recorded.mpr ⟨hpermits, fun r _ _ ↦ h r⟩

/-- A contract about the past holds at every moment of every execution. -/
theorem wp_recorded {post : α → S × History R → Prop} {p p' : Program R α} {s s' : S}
    {history : History R} {tr : List (Moment R S)}
    (h : p.wp (.recorded W permits) post (s, history)) (hexec : Exec W p s tr p' s') :
    p'.wp (.recorded W permits) post (s', history ++ replies tr) ∧
      ∀ before m after, tr = before ++ m :: after →
        permits (m.before, history ++ replies before) m.request := by
  induction hexec generalizing history with
  | stop => simpa using h
  | @step q next s s₁ s' r tr p' hw _ ih =>
      obtain ⟨hpermits, hnext⟩ := wp_ask_recorded.mp h
      obtain ⟨hend, htrace⟩ := ih (hnext r s₁ hw)
      constructor
      · simpa [Moment.reply] using hend
      · intro before m after htr
        cases before with
        | nil =>
            obtain ⟨rfl, -⟩ := List.cons.inj htr
            simpa using hpermits
        | cons m' before =>
            obtain ⟨rfl, hrest⟩ := List.cons.inj htr
            simpa [Moment.reply] using htrace before m after hrest

end Program

end Interaction

import CosmicMounter.Interaction.History

/-!
# Replaying a history

A recorded history determines what a program computes from it, and what was
proved of all runs holds of the replayed one.
-/

namespace Interaction

variable {Q : Type} {R : Q → Type} {α : Type} [DecidableEq Q]

/-- The answers of a history, given one after another from a state to another. -/
inductive World.Answers {S : Type} (W : World R S) : S → History R → S → Prop
  | nil (s : S) : Answers W s [] s
  | cons {q : Q} {r : R q} {s s' s'' : S} {rest : History R} :
      W s q r s' → Answers W s' rest s'' → Answers W s (⟨q, r⟩ :: rest) s''

namespace Program

/-- The result of a program whose requests are answered as recorded. -/
def replay : Program R α → History R → Option α
  | done a, [] => some a
  | ask q next, ⟨q', r⟩ :: rest => if h : q' = q then (next (h ▸ r)).replay rest else none
  | _, _ => none

theorem replay_ask {q : Q} {next : R q → Program R α} {history : History R} {a : α}
    (h : (ask q next).replay history = some a) :
    ∃ r rest, history = ⟨q, r⟩ :: rest ∧ (next r).replay rest = some a := by
  match history, h with
  | ⟨q', r⟩ :: rest, h =>
      rw [replay] at h
      split_ifs at h with hq
      subst hq
      exact ⟨r, rest, rfl, h⟩

theorem post_of_replay {permits : Unit × History R → Q → Prop} {post : α → Unit × History R → Prop}
    {p : Program R α} {before history : History R} {a : α}
    (hwp : p.wp (.recorded anyWorld permits) post ((), before))
    (h : p.replay history = some a) : post a ((), before ++ history) := by
  induction p generalizing before history with
  | done b =>
      cases history with
      | nil =>
          obtain rfl := Option.some.inj h
          simpa using hwp
      | cons reply rest => cases h
  | ask q next ih =>
      obtain ⟨r, rest, rfl, hrest⟩ := replay_ask h
      have hnext := (wp_ask_recorded.mp hwp).2 r () trivial
      have hpost := ih r hnext hrest
      rwa [List.append_assoc] at hpost

/-- A world that answers as recorded carries the program through the history. -/
theorem exec_of_replay {S : Type} {W : World R S} {s s' : S} {p : Program R α} {history : History R} {a : α}
    (h : p.replay history = some a) (hw : W.Answers s history s') :
    ∃ tr, Exec W p s tr (.done a) s' ∧ replies tr = history := by
  induction hw generalizing p with
  | nil s =>
      cases p with
      | done b =>
          obtain rfl := Option.some.inj h
          exact ⟨[], .stop _ _, rfl⟩
      | ask q next => cases h
  | @cons q r s s₁ s' rest hstep _ ih =>
      cases p with
      | done b => cases h
      | ask q' next =>
          obtain ⟨r', rest', hhistory, hrest⟩ := replay_ask h
          obtain ⟨hreply, rfl⟩ := List.cons.inj hhistory
          obtain ⟨rfl, hr⟩ := Sigma.mk.inj hreply
          obtain rfl := eq_of_heq hr
          obtain ⟨tr, hexec, htr⟩ := ih hrest
          exact ⟨⟨s, q, r⟩ :: tr, .step hstep hexec, by rw [replies_cons, htr]; rfl⟩

/-! ## Replaying composed programs -/

section Compose

variable {β ε ε' : Type} {history : History R}

theorem replay_done {a b : α} (h : (done a : Program R α).replay history = some b) :
    history = [] ∧ a = b := by
  cases history with
  | nil => exact ⟨rfl, Option.some.inj h⟩
  | cons reply rest => cases h

theorem replay_request {q : Q} {r : R q} (h : (request q).replay history = some r) :
    history = [⟨q, r⟩] := by
  obtain ⟨r', rest, rfl, hrest⟩ := replay_ask h
  obtain ⟨rfl, rfl⟩ := replay_done hrest
  rfl

/-- A history of a composed program is cut where its second part begins. -/
theorem replay_bind {p : Program R α} {f : α → Program R β} {b : β}
    (h : (p >>= f).replay history = some b) :
    ∃ first second a, history = first ++ second ∧ p.replay first = some a ∧
      (f a).replay second = some b := by
  induction p generalizing history with
  | done a => exact ⟨[], history, a, rfl, rfl, h⟩
  | ask q next ih =>
      obtain ⟨r, rest, rfl, hrest⟩ := replay_ask h
      obtain ⟨first, second, a, rfl, hfirst, hsecond⟩ := ih r hrest
      refine ⟨⟨q, r⟩ :: first, second, a, rfl, ?_, hsecond⟩
      simpa [replay] using hfirst

theorem replay_run_bind {x : ExceptT ε (Program R) α} {f : α → ExceptT ε (Program R) β} {b : β}
    (h : (x >>= f).run.replay history = some (.ok b)) :
    ∃ first second a, history = first ++ second ∧ x.run.replay first = some (.ok a) ∧
      (f a).run.replay second = some (.ok b) := by
  rw [run_bind] at h
  obtain ⟨first, second, result, rfl, hfirst, hsecond⟩ := replay_bind h
  cases result with
  | ok a => exact ⟨first, second, a, rfl, hfirst, hsecond⟩
  | error e => cases (replay_done hsecond).2

/-- A composed program failed in its first part, or its history is cut where the second begins. -/
theorem replay_run_bind_cases {x : ExceptT ε (Program R) α} {f : α → ExceptT ε (Program R) β} {r : Except ε β}
    (h : (x >>= f).run.replay history = some r) :
    (∃ e, x.run.replay history = some (.error e) ∧ r = .error e) ∨
    ∃ first second a, history = first ++ second ∧ x.run.replay first = some (.ok a) ∧
      (f a).run.replay second = some r := by
  rw [run_bind] at h
  obtain ⟨first, second, result, rfl, hfirst, hsecond⟩ := replay_bind h
  cases result with
  | ok a => exact .inr ⟨first, second, a, rfl, hfirst, hsecond⟩
  | error e =>
      obtain ⟨rfl, hr⟩ := replay_done hsecond
      exact .inl ⟨e, by rwa [List.append_nil], hr.symm⟩

theorem replay_check {r : Except ε α} {a : α}
    (h : (check r : ExceptT ε (Program R) α).run.replay history = some (.ok a)) :
    history = [] ∧ r = .ok a := replay_done h

theorem replay_ensure {b : Bool} {e : ε}
    (h : (ensure b e : ExceptT ε (Program R) Unit).run.replay history = some (.ok ())) :
    history = [] ∧ b = true := by
  rw [run_ensure] at h
  obtain ⟨hhistory, hb⟩ := replay_done h
  refine ⟨hhistory, ?_⟩
  cases b with
  | true => rfl
  | false => cases hb

theorem replay_reporting {f : ε → ε'} {x : ExceptT ε (Program R) α} {a : α}
    (h : (reporting f x).run.replay history = some (.ok a)) : x.run.replay history = some (.ok a) := by
  rw [run_reporting] at h
  obtain ⟨first, second, result, rfl, hfirst, hsecond⟩ := replay_bind h
  obtain ⟨rfl, hresult⟩ := replay_done hsecond
  cases result with
  | ok b =>
      obtain rfl := Except.ok.inj hresult
      rwa [List.append_nil]
  | error e => cases hresult

theorem replay_lift {p : Program R α} {a : α}
    (h : (ExceptT.lift p : ExceptT ε (Program R) α).run.replay history = some (.ok a)) :
    p.replay history = some a := by
  rw [run_lift] at h
  obtain ⟨first, second, b, rfl, hfirst, hsecond⟩ := replay_bind h
  obtain ⟨rfl, hb⟩ := replay_done hsecond
  obtain rfl := Except.ok.inj hb
  rwa [List.append_nil]

theorem replay_only {P : Q → Prop} {p : Program R α} (hp : p.Only P) {a : α}
    (h : p.replay history = some a) : ∀ reply ∈ history, P reply.1 := by
  induction p generalizing history with
  | done b =>
      obtain ⟨rfl, -⟩ := replay_done h
      simp
  | ask q next ih =>
      obtain ⟨r, rest, rfl, hrest⟩ := replay_ask h
      intro reply hreply
      rcases List.mem_cons.mp hreply with rfl | hreply
      · exact hp.1
      · exact ih r (hp.2 r) hrest reply hreply

theorem replay_reporting_error {f : ε → ε'} {x : ExceptT ε (Program R) α} {e' : ε'}
    (h : (reporting f x).run.replay history = some (.error e')) : ∃ e, e' = f e := by
  rw [run_reporting] at h
  obtain ⟨first, second, result, rfl, -, hsecond⟩ := replay_bind h
  obtain ⟨-, hresult⟩ := replay_done hsecond
  cases result with
  | ok a => cases hresult
  | error e => exact ⟨e, (Except.error.inj hresult).symm⟩

end Compose

/-- Requests that keep an invariant are recorded, and the record is replayed to the result. -/
theorem wp_replayed {S : Type} {W : World R S} {permits : S × History R → Q → Prop} {P : Q → Prop}
    {I : S → Prop} {known : (q : Q) → R q → Prop} {p : Program R α} {s : S} {history : History R}
    (hpermits : ∀ s history q, I s → P q → permits (s, history) q)
    (hkeeps : ∀ s q r s', I s → P q → W s q r s' → I s' ∧ known q r) (hp : p.Only P) (hs : I s) :
    p.wp (.recorded W permits) (fun a t ↦ I t.1 ∧ ∃ segment, t.2 = history ++ segment ∧
      (∀ reply ∈ segment, P reply.1 ∧ known reply.1 reply.2) ∧ p.replay segment = some a) (s, history) := by
  induction p generalizing s history with
  | done a => exact ⟨hs, [], (List.append_nil _).symm, nofun, rfl⟩
  | ask q next ih =>
      refine wp_ask_recorded.mpr ⟨hpermits s history q hs hp.1, fun r s' hw ↦ ?_⟩
      obtain ⟨hs', hknown⟩ := hkeeps s q r s' hs hp.1 hw
      refine wp_mono ?_ (ih r (hp.2 r) hs')
      rintro a t ⟨ht, segment, hsegment, hreplies, hreplay⟩
      refine ⟨ht, ⟨q, r⟩ :: segment, by simpa using hsegment, ?_, by simpa [replay] using hreplay⟩
      intro reply hreply
      rcases List.mem_cons.mp hreply with rfl | hreply
      · exact ⟨hp.1, hknown⟩
      · exact hreplies reply hreply

end Program

end Interaction

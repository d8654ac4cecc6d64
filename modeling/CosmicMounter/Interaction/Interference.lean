import CosmicMounter.Interaction.Handler
import CosmicMounter.Interaction.History
import CosmicMounter.Interaction.Log
import CosmicMounter.Interaction.Threads

/-!
# Programs under interference

The rely–guarantee rule for threads.  Each thread is proved alone, in a world
where the others may do between two of its requests whatever it relies on, and
each of its own permitted steps must be one that the others rely on.  What a
thread may ask can depend on what it was answered since it was started.
-/

namespace Interaction

variable {Q : Type} {R : Q → Type} {S T α ε : Type}

/-- An answer comes with whatever the others do before the next request. -/
def World.interfered (W : World R S) (rely : S → S → Prop) : World R S :=
  fun s q r s' ↦ ∃ s₁, W s q r s₁ ∧ rely s₁ s'

/-- The shared state, and what each thread was answered since its start. -/
structure Tracked (T : Type) (R : Q → Type) (S : Type) where
  shared : S
  past : T → History R

namespace Threads

def tracked [DecidableEq T] (sys : Threads T R S α) : Threads T R (Tracked T R S) α where
  starts t s p s' := sys.starts t s.shared p s'.shared ∧ s'.past = Function.update s.past t []
  world t s q r s' :=
    sys.world t s.shared q r s'.shared ∧ s'.past = Function.update s.past t (s.past t ++ [⟨q, r⟩])
  leaves t p s s' := sys.leaves t p s.shared s'.shared ∧ s'.past = s.past

variable (sys : Threads T R S α) (permits : T → S × History R → Q → Prop) (rely : T → S → S → Prop)
  (post : T → α → S × History R → Prop)

/-- A thread's contract while the others interfere. -/
def contract (t : T) : Contract R (S × History R) :=
  .recorded ((sys.world t).interfered (rely t)) (permits t)

/-- The program keeps to its contract from this state on, whatever the others do first. -/
def Keeps (t : T) (p : Program R α) (s : S) (past : History R) : Prop :=
  ∀ s', rely t s s' → p.wp (sys.contract permits rely t) (post t) (s', past)

/-- Each thread keeps to its contract, and all steps are ones the others rely on. -/
structure Governed : Prop where
  refl : ∀ t s, rely t s s
  trans : ∀ t s s' s'', rely t s s' → rely t s' s'' → rely t s s''
  start : ∀ t s p s', sys.starts t s p s' → sys.Keeps permits rely post t p s' []
  startRelied : ∀ t s p s', sys.starts t s p s' → ∀ other ≠ t, rely other s s'
  askRelied : ∀ t s past q r s', permits t (s, past) q → sys.world t s q r s' → ∀ other ≠ t, rely other s s'
  leaveRelied : ∀ t p s s', sys.leaves t p s s' → ∀ other ≠ t, rely other s s'

variable {sys permits rely post}

theorem Keeps.relied {t : T} {p : Program R α} {s s' : S} {past : History R}
    (hgoverned : sys.Governed permits rely post) (h : sys.Keeps permits rely post t p s past)
    (hrely : rely t s s') : sys.Keeps permits rely post t p s' past :=
  fun s'' hrely' ↦ h s'' (hgoverned.trans t s s' s'' hrely hrely')

/-- The thread that asks was permitted to, and still keeps to its contract. -/
theorem Keeps.ask {t : T} {q : Q} {next : R q → Program R α} {s : S} {past : History R}
    (hgoverned : sys.Governed permits rely post)
    (h : sys.Keeps permits rely post t (.ask q next) s past) :
    permits t (s, past) q ∧ ∀ r s', sys.world t s q r s' →
      sys.Keeps permits rely post t (next r) s' (past ++ [⟨q, r⟩]) := by
  obtain ⟨hpermits, hnext⟩ := Program.wp_ask_recorded.mp (h s (hgoverned.refl t s))
  exact ⟨hpermits, fun r s' hw s'' hrely ↦ hnext r s'' ⟨s', hw, hrely⟩⟩

/-- All live threads keep to their contracts. -/
def AllKeep (sys : Threads T R S α) (permits : T → S × History R → Q → Prop) (rely : T → S → S → Prop)
    (post : T → α → S × History R → Prop) (pool : Pool T R α) (s : Tracked T R S) : Prop :=
  ∀ t p, pool t = some p → sys.Keeps permits rely post t p s.shared (s.past t)

variable [DecidableEq T]

/-- The others keep to their contracts when one thread steps. -/
theorem AllKeep.step {pool : Pool T R α} {s s' : Tracked T R S} {t : T} {live : Option (Program R α)}
    (hgoverned : sys.Governed permits rely post) (h : AllKeep sys permits rely post pool s)
    (hrelied : ∀ other ≠ t, rely other s.shared s'.shared) (hpast : ∀ other ≠ t, s'.past other = s.past other)
    (hself : ∀ p, live = some p → sys.Keeps permits rely post t p s'.shared (s'.past t)) :
    AllKeep sys permits rely post (Function.update pool t live) s' := by
  intro other p hp
  by_cases hother : other = t
  · subst hother
    rw [Function.update_self] at hp
    exact hself p hp
  · rw [Function.update_of_ne hother] at hp
    rw [hpast other hother]
    exact (h other p hp).relied hgoverned (hrelied other hother)

/-- In every interleaving all threads keep to their contracts, and all requests
were permitted when they were made. -/
theorem Run.governed {s₀ s : Tracked T R S} {pool : Pool T R α} {tr : List (Event T R (Tracked T R S))}
    (hgoverned : sys.Governed permits rely post) (h : sys.tracked.Run s₀ s pool tr) :
    AllKeep sys permits rely post pool s ∧
      ∀ e ∈ tr, permits e.thread (e.before.shared, e.before.past e.thread) e.request := by
  induction h with
  | init => exact ⟨nofun, nofun⟩
  | @start s s' pool tr t p _ _ hstart ih =>
      obtain ⟨hstart, hpast⟩ := hstart
      refine ⟨ih.1.step hgoverned (hgoverned.startRelied t _ p _ hstart) ?_ ?_, ih.2⟩
      · intro other hother
        rw [hpast, Function.update_of_ne hother]
      · intro p' hp'
        obtain rfl := Option.some.inj hp'
        rw [hpast, Function.update_self]
        exact hgoverned.start t _ p _ hstart
  | @ask s s' pool tr t q next r _ hpool hworld ih =>
      obtain ⟨hworld, hpast⟩ := hworld
      obtain ⟨hpermits, hnext⟩ := (ih.1 t _ hpool).ask hgoverned
      refine ⟨ih.1.step hgoverned (hgoverned.askRelied t _ _ q r _ hpermits hworld) ?_ ?_, ?_⟩
      · intro other hother
        rw [hpast, Function.update_of_ne hother]
      · intro p' hp'
        obtain rfl := Option.some.inj hp'
        rw [hpast, Function.update_self]
        exact hnext r _ hworld
      · intro e he
        rcases List.mem_append.mp he with he | he
        · exact ih.2 e he
        · obtain rfl := List.mem_singleton.mp he
          exact hpermits
  | @leave s s' pool tr t p _ hpool hleave ih =>
      obtain ⟨hleave, hpast⟩ := hleave
      refine ⟨ih.1.step hgoverned (hgoverned.leaveRelied t p _ _ hleave) ?_ nofun, ih.2⟩
      intro other _
      rw [hpast]

/-- What the starts, the departures and the permitted answers keep holds at every
event of a run, and at its end. -/
theorem Run.throughout {s₀ s : Tracked T R S} {pool : Pool T R α} {tr : List (Event T R (Tracked T R S))}
    (hgoverned : sys.Governed permits rely post) (h : sys.tracked.Run s₀ s pool tr)
    (I : List (Event T R (Tracked T R S)) → Tracked T R S → Prop) (hinit : I [] s₀)
    (hstart : ∀ tr t s p s', I tr s → sys.tracked.starts t s p s' → I tr s')
    (hask : ∀ tr t s q r s', I tr s → permits t (s.shared, s.past t) q → sys.tracked.world t s q r s' →
      I (tr ++ [⟨t, s, q, r, s'⟩]) s')
    (hleave : ∀ tr t s p s', I tr s → sys.tracked.leaves t p s s' → I tr s') :
    Throughout (fun before e ↦ I before e.before ∧
      permits e.thread (e.before.shared, e.before.past e.thread) e.request) tr ∧ I tr s := by
  induction h with
  | init => exact ⟨throughout_nil, hinit⟩
  | start _ _ hstep ih => exact ⟨ih.1, hstart _ _ _ _ _ ih.2 hstep⟩
  | @ask s s' pool tr t q next r hrun hpool hworld ih =>
      obtain ⟨hpermits, -⟩ := ((hrun.governed hgoverned).1 t _ hpool).ask hgoverned
      exact ⟨throughout_append.mpr ⟨ih.1, ih.2, hpermits⟩, hask _ _ _ _ _ _ ih.2 hpermits hworld⟩
  | leave _ _ hstep ih => exact ⟨ih.1, hleave _ _ _ _ _ ih.2 hstep⟩

/-- One thread may run to its end alone, answered by a handler wherever its world allows the answers. -/
theorem Run.traced {s₀ s : Tracked T R S} {pool : Pool T R α} {tr : List (Event T R (Tracked T R S))} {t : T}
    {p : Program R α} (h : sys.tracked.Run s₀ s pool tr) (hpool : pool t = some p) {handler : Handler R S}
    (hworld : ∀ m ∈ p.trace handler s.shared,
      sys.world t m.before m.request (handler m.request m.before).1 (handler m.request m.before).2) :
    ∃ s' tr', sys.tracked.Run s₀ s' (Function.update pool t (some (.done (p.eval handler s.shared).1))) (tr ++ tr') ∧
      s'.shared = (p.eval handler s.shared).2 ∧
      ∀ m ∈ p.trace handler s.shared, ∃ e ∈ tr', e.thread = t ∧ e.request = m.request := by
  induction p generalizing pool tr s with
  | done a =>
      refine ⟨s, [], ?_, rfl, fun _ hm ↦ absurd hm List.not_mem_nil⟩
      rwa [List.append_nil, Program.eval_done, ← hpool, Function.update_eq_self]
  | ask q next ih =>
      have hstep : sys.tracked.world t s q (handler q s.shared).1
          ⟨(handler q s.shared).2, Function.update s.past t (s.past t ++ [⟨q, (handler q s.shared).1⟩])⟩ :=
        ⟨hworld ⟨s.shared, q, (handler q s.shared).1⟩ List.mem_cons_self, rfl⟩
      obtain ⟨s', tr', hrun, hshared, hevents⟩ := ih _ (.ask h hpool hstep) (Function.update_self ..)
        fun m hm ↦ hworld m (List.mem_cons_of_mem _ hm)
      rw [Function.update_idem, List.append_assoc] at hrun
      refine ⟨s', _, hrun, hshared, fun m hm ↦ ?_⟩
      rcases List.mem_cons.mp hm with rfl | hm
      · exact ⟨_, List.mem_append_left _ List.mem_cons_self, rfl, rfl⟩
      · exact (hevents m hm).imp fun _ he ↦ ⟨List.mem_append_right _ he.1, he.2⟩

/-- One thread may run to its end alone, answered by a handler. -/
theorem Run.eval {s₀ s : Tracked T R S} {pool : Pool T R α} {tr : List (Event T R (Tracked T R S))} {t : T}
    {p : Program R α} (h : sys.tracked.Run s₀ s pool tr) (hpool : pool t = some p) {handler : Handler R S}
    (hworld : ∀ q s, sys.world t s q (handler q s).1 (handler q s).2) :
    ∃ s' tr', sys.tracked.Run s₀ s' (Function.update pool t (some (.done (p.eval handler s.shared).1))) (tr ++ tr') ∧
      s'.shared = (p.eval handler s.shared).2 ∧
      ∀ m ∈ p.trace handler s.shared, ∃ e ∈ tr', e.thread = t ∧ e.request = m.request :=
  h.traced hpool fun m _ ↦ hworld m.request m.before

/-- What a thread was answered since its start was answered in the run. -/
def Remembered (tr : List (Event T R (Tracked T R S))) (s : Tracked T R S) : Prop :=
  ∀ t, ∀ reply ∈ s.past t, ∃ e ∈ tr, e.thread = t ∧ reply = ⟨e.request, e.answer⟩

theorem Remembered.start {s s' : Tracked T R S} {tr : List (Event T R (Tracked T R S))} {t : T}
    {p : Program R α} (h : Remembered tr s) (hstart : sys.tracked.starts t s p s') : Remembered tr s' := by
  intro other reply hreply
  rw [hstart.2] at hreply
  by_cases hother : other = t
  · subst hother
    rw [Function.update_self] at hreply
    cases hreply
  · rw [Function.update_of_ne hother] at hreply
    exact h other reply hreply

theorem Remembered.ask {s s' : Tracked T R S} {tr : List (Event T R (Tracked T R S))} {t : T} {q : Q}
    {r : R q} (h : Remembered tr s) (hworld : sys.tracked.world t s q r s') :
    Remembered (tr ++ [⟨t, s, q, r, s'⟩]) s' := by
  have hgrown {other : T} {reply : (q : Q) × R q} (hreply : reply ∈ s.past other) :
      ∃ e ∈ tr ++ [⟨t, s, q, r, s'⟩], e.thread = other ∧ reply = ⟨e.request, e.answer⟩ :=
    (h other reply hreply).imp fun _ he ↦ ⟨List.mem_append_left _ he.1, he.2⟩
  intro other reply hreply
  rw [hworld.2] at hreply
  by_cases hother : other = t
  · subst hother
    rw [Function.update_self] at hreply
    rcases List.mem_append.mp hreply with hreply | hreply
    · exact hgrown hreply
    · exact ⟨_, List.mem_append_right _ List.mem_cons_self, rfl, List.mem_singleton.mp hreply⟩
  · rw [Function.update_of_ne hother] at hreply
    exact hgrown hreply

theorem Remembered.leave {s s' : Tracked T R S} {tr : List (Event T R (Tracked T R S))} {t : T}
    {p : Program R α} (h : Remembered tr s) (hleave : sys.tracked.leaves t p s s') : Remembered tr s' := by
  intro other reply hreply
  rw [hleave.2] at hreply
  exact h other reply hreply

end Threads

end Interaction

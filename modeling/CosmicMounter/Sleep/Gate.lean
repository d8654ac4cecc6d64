import CosmicMounter.Interaction.Cancellation
import CosmicMounter.Interaction.Steps
import CosmicMounter.Model

/-!
# The gate of online operations

While the host prepares for sleep no online operation may start, and those
under way are told to stop (`sleep.rs`).  Every function takes the lock of the
gate once, so the tasks interleave at whole operations.
-/

namespace CosmicMounter

open Interaction

structure OnlineGate (C : CancellationTokens) where
  preparing : Bool
  cancellation : C.Token
  activeOperations : Nat

/-- The gate with the tokens of the process and the guards not yet dropped. -/
structure OnlineTasks (C : CancellationTokens) where
  heap : C.Heap
  gate : OnlineGate C
  live : List C.Token

namespace OnlineTasks

variable {C : CancellationTokens}

def init (C : CancellationTokens) : OnlineTasks C where
  heap := (C.new C.empty).2
  gate := ⟨false, (C.new C.empty).1, 0⟩
  live := []

def paused : Message := ⟨"ui-sleep-online-mounts-are-paused-while-preparing-for", []⟩

def onlineOperationToken (s : OnlineTasks C) : Except Message C.Token × OnlineTasks C :=
  if s.gate.preparing then (.error paused, s)
  else
    let (token, heap) := C.child s.heap s.gate.cancellation
    (.ok token, { s with heap })

def beginOnlineOperation (s : OnlineTasks C) : Except Message C.Token × OnlineTasks C :=
  if s.gate.preparing then (.error paused, s)
  else
    let (token, heap) := C.child s.heap s.gate.cancellation
    (.ok token, { heap, gate := { s.gate with activeOperations := s.gate.activeOperations + 1 },
                  live := token :: s.live })

/-- `OnlineOperation::drop`. -/
def dropOperation [DecidableEq C.Token] (s : OnlineTasks C) (token : C.Token) : OnlineTasks C :=
  { s with
    gate := { s.gate with activeOperations := s.gate.activeOperations - 1 }
    live := s.live.erase token }

def preparing (s : OnlineTasks C) : OnlineTasks C :=
  { s with
    heap := C.cancel s.heap s.gate.cancellation
    gate := { s.gate with preparing := true } }

def awake (s : OnlineTasks C) : OnlineTasks C :=
  if C.isCancelled s.heap s.gate.cancellation then
    let (token, heap) := C.new s.heap
    { s with heap, gate := { s.gate with preparing := false, cancellation := token } }
  else { s with gate := { s.gate with preparing := false } }

/-- What a task does to the gate, with what it gets from it.  `idle` is the
moment at which `wait_for_online_idle` returns. -/
inductive Action (C : CancellationTokens)
  | begin (result : Except Message C.Token)
  | token (result : Except Message C.Token)
  | drop (token : C.Token)
  | preparing
  | awake
  | idle

/-- The token was obtained by this action. -/
def Action.Obtains (token : C.Token) : Action C → Prop
  | .begin result | .token result => result = .ok token
  | _ => False

structure Invariant (s : OnlineTasks C) : Prop where
  counts : s.gate.activeOperations = s.live.length
  allocated : C.Allocated s.heap s.gate.cancellation
  cancelled : C.isCancelled s.heap s.gate.cancellation = s.gate.preparing

theorem invariant_init : (init C).Invariant where
  counts := rfl
  allocated := C.new_allocated _
  cancelled := C.new_isCancelled _

theorem beginOnlineOperation_of_preparing {s : OnlineTasks C} (h : s.gate.preparing = true) :
    s.beginOnlineOperation = (.error paused, s) := if_pos h

theorem onlineOperationToken_of_preparing {s : OnlineTasks C} (h : s.gate.preparing = true) :
    s.onlineOperationToken = (.error paused, s) := if_pos h

variable [DecidableEq C.Token]

inductive Step : OnlineTasks C → Action C → OnlineTasks C → Prop
  | begin (s : OnlineTasks C) : Step s (.begin s.beginOnlineOperation.1) s.beginOnlineOperation.2
  | token (s : OnlineTasks C) : Step s (.token s.onlineOperationToken.1) s.onlineOperationToken.2
  | drop {s : OnlineTasks C} {token : C.Token} :
      token ∈ s.live → Step s (.drop token) (s.dropOperation token)
  | preparing (s : OnlineTasks C) : Step s .preparing s.preparing
  | awake (s : OnlineTasks C) : Step s .awake s.awake
  | idle {s : OnlineTasks C} : s.gate.activeOperations = 0 → Step s .idle s

/-! ## What each step keeps -/

/-- Opening or closing the gate aside, a step leaves it as it is. -/
theorem gate_of_step {s s' : OnlineTasks C} {a : Action C} (h : Step s a s')
    (hpreparing : a ≠ .preparing) (hawake : a ≠ .awake) :
    s'.gate.preparing = s.gate.preparing ∧ s'.gate.cancellation = s.gate.cancellation := by
  cases h with
  | begin =>
      unfold beginOnlineOperation
      split_ifs <;> exact ⟨rfl, rfl⟩
  | token =>
      unfold onlineOperationToken
      split_ifs <;> exact ⟨rfl, rfl⟩
  | drop => exact ⟨rfl, rfl⟩
  | preparing => exact absurd rfl hpreparing
  | awake => exact absurd rfl hawake
  | idle => exact ⟨rfl, rfl⟩

/-- Cancelling aside, a step leaves the tokens there are as they are. -/
theorem token_of_step {s s' : OnlineTasks C} {a : Action C} (h : Step s a s')
    (hpreparing : a ≠ .preparing) {token : C.Token} (htoken : C.Allocated s.heap token) :
    C.Allocated s'.heap token ∧ C.isCancelled s'.heap token = C.isCancelled s.heap token := by
  cases h with
  | begin =>
      unfold beginOnlineOperation
      split_ifs
      · exact ⟨htoken, rfl⟩
      · exact C.child_keeps _ _ _ htoken
  | token =>
      unfold onlineOperationToken
      split_ifs
      · exact ⟨htoken, rfl⟩
      · exact C.child_keeps _ _ _ htoken
  | drop => exact ⟨htoken, rfl⟩
  | preparing => exact absurd rfl hpreparing
  | awake =>
      unfold awake
      split_ifs
      · exact C.new_keeps _ _ htoken
      · exact ⟨htoken, rfl⟩
  | idle => exact ⟨htoken, rfl⟩

theorem counts_of_step {s s' : OnlineTasks C} {a : Action C} (h : Step s a s')
    (hs : s.gate.activeOperations = s.live.length) :
    s'.gate.activeOperations = s'.live.length := by
  cases h with
  | begin =>
      unfold beginOnlineOperation
      split_ifs
      · exact hs
      · simp [hs]
  | token =>
      unfold onlineOperationToken
      split_ifs <;> exact hs
  | drop hlive => simp [dropOperation, hs, List.length_erase_of_mem hlive]
  | preparing => exact hs
  | awake =>
      unfold awake
      split_ifs <;> exact hs
  | idle => exact hs

theorem Invariant.step {s s' : OnlineTasks C} {a : Action C} (hs : s.Invariant)
    (h : Step s a s') : s'.Invariant := by
  have hcounts := counts_of_step h hs.counts
  by_cases hpreparing : a = .preparing
  · subst hpreparing
    cases h
    exact ⟨hcounts, C.cancel_allocated _ _ _ hs.allocated, C.cancel_self _ _⟩
  · by_cases hawake : a = .awake
    · subst hawake
      cases h
      refine ⟨hcounts, ?_, ?_⟩
      · unfold awake
        split_ifs
        · exact C.new_allocated _
        · exact hs.allocated
      · unfold awake
        split_ifs with hcancelled
        · exact C.new_isCancelled _
        · simpa using hcancelled
    · obtain ⟨hgate, hroot⟩ := gate_of_step h hpreparing hawake
      obtain ⟨hallocated, hcancelled⟩ := token_of_step h hpreparing hs.allocated
      refine ⟨hcounts, ?_, ?_⟩
      · rwa [hroot]
      · rw [hroot, hgate, hcancelled, hs.cancelled]

theorem invariant_of_steps {actions : List (Action C)} {s : OnlineTasks C}
    (h : Steps Step (init C) actions s) : s.Invariant :=
  h.invariant Invariant invariant_init fun _ _ _ hs hstep ↦ hs.step hstep

/-! ## The life of a token -/

/-- The token is cancelled, or hangs below the token of an open gate. -/
structure Held (token : C.Token) (s : OnlineTasks C) : Prop where
  allocated : C.Allocated s.heap token
  cancelled : C.isCancelled s.heap token = true ∨
    s.gate.preparing = false ∧ C.parent token = some s.gate.cancellation

theorem Held.step {token : C.Token} {s s' : OnlineTasks C} {a : Action C} (hs : s.Invariant)
    (htoken : Held token s) (h : Step s a s') : Held token s' := by
  by_cases hpreparing : a = .preparing
  · subst hpreparing
    cases h
    refine ⟨C.cancel_allocated _ _ _ htoken.allocated, .inl ?_⟩
    rcases htoken.cancelled with hcancelled | ⟨-, hparent⟩
    · exact C.cancel_keeps _ _ _ hcancelled
    · exact C.cancel_child _ _ _ htoken.allocated hparent
  · obtain ⟨hallocated, hkept⟩ := token_of_step h hpreparing htoken.allocated
    refine ⟨hallocated, ?_⟩
    rw [hkept]
    refine htoken.cancelled.imp_right fun ⟨hopen, hparent⟩ ↦ ?_
    by_cases hawake : a = .awake
    · subst hawake
      cases h
      -- An open gate has a live token, so waking up again does not replace it.
      have hroot : ¬C.isCancelled s.heap s.gate.cancellation = true := by
        rw [hs.cancelled, hopen]
        exact Bool.false_ne_true
      rw [awake, if_neg hroot]
      exact ⟨rfl, hparent⟩
    · obtain ⟨hgate, hroot⟩ := gate_of_step h hpreparing hawake
      rw [hgate, hroot]
      exact ⟨hopen, hparent⟩

/-- A token that has just been obtained is live and belongs to the open gate. -/
theorem held_of_obtains {token : C.Token} {s s' : OnlineTasks C} {a : Action C}
    (hs : s.Invariant) (h : Step s a s') (hobtains : a.Obtains token) :
    Held token s' ∧ C.isCancelled s'.heap token = false := by
  have hchild (hopen : s.gate.preparing = false) :
      C.Allocated (C.child s.heap s.gate.cancellation).2 (C.child s.heap s.gate.cancellation).1 ∧
      C.isCancelled (C.child s.heap s.gate.cancellation).2
        (C.child s.heap s.gate.cancellation).1 = false :=
    ⟨C.child_allocated _ _ hs.allocated,
      (C.child_isCancelled _ _ hs.allocated).trans (hs.cancelled.trans hopen)⟩
  cases h with
  | begin =>
      by_cases hclosed : s.gate.preparing = true
      · rw [Action.Obtains, beginOnlineOperation_of_preparing hclosed] at hobtains
        cases hobtains
      · rw [Bool.not_eq_true] at hclosed
        simp only [Action.Obtains, beginOnlineOperation, hclosed] at hobtains
        obtain rfl := Except.ok.inj hobtains
        obtain ⟨hallocated, hcancelled⟩ := hchild hclosed
        simp only [beginOnlineOperation, hclosed]
        exact ⟨⟨hallocated, .inr ⟨rfl, C.child_parent _ _⟩⟩, hcancelled⟩
  | token =>
      by_cases hclosed : s.gate.preparing = true
      · rw [Action.Obtains, onlineOperationToken_of_preparing hclosed] at hobtains
        cases hobtains
      · rw [Bool.not_eq_true] at hclosed
        simp only [Action.Obtains, onlineOperationToken, hclosed] at hobtains
        obtain rfl := Except.ok.inj hobtains
        obtain ⟨hallocated, hcancelled⟩ := hchild hclosed
        simp only [onlineOperationToken, hclosed]
        exact ⟨⟨hallocated, .inr ⟨hclosed, C.child_parent _ _⟩⟩, hcancelled⟩
  | drop | preparing | awake | idle => exact hobtains.elim

/-! ## Runs -/

theorem held_of_steps {token : C.Token} {actions : List (Action C)} {s s' : OnlineTasks C}
    (h : Steps Step s actions s') (hs : s.Invariant ∧ Held token s) :
    s'.Invariant ∧ Held token s' := by
  apply h.invariant (fun s ↦ s.Invariant ∧ Held token s) hs
  intro s a s' hbefore hstep
  exact ⟨hbefore.1.step hstep, hbefore.2.step hbefore.1 hstep⟩

/-- A cancelled token stays cancelled. -/
theorem cancelled_of_steps {token : C.Token} {actions : List (Action C)} {s s' : OnlineTasks C}
    (h : Steps Step s actions s')
    (hs : C.Allocated s.heap token ∧ C.isCancelled s.heap token = true) :
    C.Allocated s'.heap token ∧ C.isCancelled s'.heap token = true := by
  apply h.invariant (fun s ↦ C.Allocated s.heap token ∧ C.isCancelled s.heap token = true) hs
  intro s a s' hbefore hstep
  by_cases hpreparing : a = .preparing
  · subst hpreparing
    cases hstep
    exact ⟨C.cancel_allocated _ _ _ hbefore.1, C.cancel_keeps _ _ _ hbefore.2⟩
  · obtain ⟨hallocated, hkept⟩ := token_of_step hstep hpreparing hbefore.1
    exact ⟨hallocated, hkept.trans hbefore.2⟩

/-- Until the gate closes a token keeps its state. -/
theorem isCancelled_of_steps {token : C.Token} {actions : List (Action C)}
    {s s' : OnlineTasks C} {cancelled : Bool} (h : Steps Step s actions s')
    (hpreparing : .preparing ∉ actions)
    (hs : C.Allocated s.heap token ∧ C.isCancelled s.heap token = cancelled) :
    C.Allocated s'.heap token ∧ C.isCancelled s'.heap token = cancelled := by
  refine h.kept (fun s ↦ C.Allocated s.heap token ∧ C.isCancelled s.heap token = cancelled)
    (· ≠ .preparing) hs (fun s a s' hbefore hallowed hstep ↦ ?_)
    fun a ha ↦ ne_of_mem_of_not_mem ha hpreparing
  obtain ⟨hallocated, hkept⟩ := token_of_step hstep hallowed hbefore.1
  exact ⟨hallocated, hkept.trans hbefore.2⟩

/-- Until the gate opens it stays closed. -/
theorem closed_of_steps {actions : List (Action C)} {s s' : OnlineTasks C}
    (h : Steps Step s actions s') (hawake : .awake ∉ actions) (hs : s.gate.preparing = true) :
    s'.gate.preparing = true := by
  refine h.kept (fun s ↦ s.gate.preparing = true) (· ≠ .awake) hs
    (fun s a s' hbefore hallowed hstep ↦ ?_) fun a ha ↦ ne_of_mem_of_not_mem ha hawake
  by_cases hpreparing : a = .preparing
  · subst hpreparing
    cases hstep
    rfl
  · exact (gate_of_step hstep hpreparing hallowed).1.trans hbefore

/-- Behind a closed gate no operation comes to life. -/
theorem live_of_step {s s' : OnlineTasks C} {a : Action C} (h : Step s a s')
    (hs : s.gate.preparing = true ∧ s.live = []) : s'.live = [] := by
  cases h with
  | begin =>
      rw [beginOnlineOperation_of_preparing hs.1]
      exact hs.2
  | token =>
      rw [onlineOperationToken_of_preparing hs.1]
      exact hs.2
  | drop hlive =>
      rw [hs.2] at hlive
      exact absurd hlive List.not_mem_nil
  | preparing => exact hs.2
  | awake =>
      unfold awake
      split_ifs <;> exact hs.2
  | idle => exact hs.2

theorem live_of_steps {actions : List (Action C)} {s s' : OnlineTasks C}
    (h : Steps Step s actions s') (hawake : .awake ∉ actions)
    (hs : s.gate.preparing = true ∧ s.live = []) : s'.live = [] := by
  induction h with
  | init => exact hs.2
  | step hrun hstep ih =>
      have hbefore := closed_of_steps hrun (fun hmem ↦ hawake (List.mem_append_left _ hmem)) hs.1
      exact live_of_step hstep ⟨hbefore, ih fun hmem ↦ hawake (List.mem_append_left _ hmem)⟩

/-- The gate in every run of the tasks. -/
structure GateIsSafe (C : CancellationTokens) [DecidableEq C.Token] : Prop where
  counts : ∀ {actions s}, Steps Step (init C) actions s →
    s.gate.activeOperations = s.live.length
  noUnderflow : ∀ {actions s token s'}, Steps Step (init C) actions s →
    Step s (.drop token) s' → 0 < s.gate.activeOperations
  refuses : ∀ {actions s between s' result s''}, Steps Step (init C) actions s →
    Steps Step s.preparing between s' → .awake ∉ between →
    Step s' (.begin result) s'' ∨ Step s' (.token result) s'' → result = .error paused
  cancels : ∀ {actions s after s' token}, Steps Step (init C) actions s →
    (∃ a ∈ actions, a.Obtains token) → Steps Step s.preparing after s' →
    C.isCancelled s'.heap token = true
  renews : ∀ {actions s between s' token}, Steps Step (init C) actions s →
    Steps Step s.awake between s' → .preparing ∉ between →
    (∃ a ∈ between, a.Obtains token) → C.isCancelled s'.heap token = false
  drains : ∀ {actions s between s'}, Steps Step (init C) actions s →
    Steps Step s.preparing between s' → .awake ∉ between → .idle ∈ between → s'.live = []

theorem gateIsSafe (C : CancellationTokens) [DecidableEq C.Token] : GateIsSafe C where
  counts h := (invariant_of_steps h).counts
  noUnderflow h hdrop := by
    rw [(invariant_of_steps h).counts]
    cases hdrop with
    | drop hlive => exact List.length_pos_of_mem hlive
  refuses h hbetween hawake hrequest := by
    have hclosed := closed_of_steps hbetween hawake rfl
    rcases hrequest with hrequest | hrequest
    · cases hrequest
      rw [beginOnlineOperation_of_preparing hclosed]
    · cases hrequest
      rw [onlineOperationToken_of_preparing hclosed]
  cancels h hobtained hafter := by
    obtain ⟨a, ha, hobtains⟩ := hobtained
    obtain ⟨before, after, s₁, s₂, -, hbefore, hstep, hrest⟩ := h.exists_of_mem ha
    have hs₁ := invariant_of_steps hbefore
    have hheld := held_of_steps hrest ⟨hs₁.step hstep, (held_of_obtains hs₁ hstep hobtains).1⟩
    have hclosed := hheld.2.step hheld.1 (.preparing _)
    have hcancelled := hclosed.cancelled.resolve_right fun hopen ↦ Bool.noConfusion hopen.1
    exact (cancelled_of_steps hafter ⟨hclosed.allocated, hcancelled⟩).2
  renews h hbetween hpreparing hobtained := by
    obtain ⟨a, ha, hobtains⟩ := hobtained
    obtain ⟨before, after, s₁, s₂, rfl, hbefore, hstep, hrest⟩ := hbetween.exists_of_mem ha
    have hs₁ := invariant_of_steps ((h.step (.awake _)).append hbefore)
    obtain ⟨hheld, hfresh⟩ := held_of_obtains hs₁ hstep hobtains
    have hafter : .preparing ∉ after := fun hmem ↦ hpreparing (by simp [hmem])
    exact (isCancelled_of_steps hrest hafter ⟨hheld.allocated, hfresh⟩).2
  drains h hbetween hawake hidle := by
    obtain ⟨before, after, s₁, s₂, rfl, hbefore, hstep, hrest⟩ := hbetween.exists_of_mem hidle
    have hclosed := closed_of_steps hbefore (fun hmem ↦ hawake (by simp [hmem])) rfl
    have hcounts := (invariant_of_steps ((h.step (.preparing _)).append hbefore)).counts
    cases hstep with
    | idle hnone =>
        rw [hnone] at hcounts
        have hlive := List.eq_nil_of_length_eq_zero hcounts.symm
        exact live_of_steps hrest (fun hmem ↦ hawake (by simp [hmem])) ⟨hclosed, hlive⟩

instance : DecidableEq CancellationTokens.tree.Token := inferInstanceAs (DecidableEq (List Nat))

theorem gateIsSafe_tree : GateIsSafe CancellationTokens.tree := gateIsSafe CancellationTokens.tree

end OnlineTasks

end CosmicMounter

import CosmicMounter.Interaction.Log
import CosmicMounter.Interaction.Steps
import CosmicMounter.Refresh.Calls

/-!
# No job outlives its control

Every job that was submitted and not settled belongs to a call that still
watches it, or has been handed out while its control is the registered one.
-/

namespace CosmicMounter.Refresh

open Serde

open Interaction (mem_of_mem_append_singleton perm_eraseIdx)

variable {fromStr : FromStr} {paths : Paths}

/-! ## The fate of a job -/

/-- The job is sent `job/stop`, or an answer reports it as finished. -/
def Settles (fromStr : FromStr) (jobId : Nat) : Entry → Prop
  | .stop stopped => stopped = jobId
  | .status output => Finishes fromStr output jobId
  | _ => False

/-- The job was submitted for the control. -/
def Submits (control jobId : Nat) (entry : Entry) : Prop :=
  ∃ executeId recursive, entry = .submitted control jobId executeId recursive

/-- The job was submitted for the control and has not been settled since. -/
def Open (fromStr : FromStr) (log : List Entry) (control jobId : Nat) : Prop :=
  Interaction.Pending (Submits control jobId) (Settles fromStr jobId) log

/-! ## The course of a refresh -/

def Begun (log : List Entry) (job : Job) : Prop :=
  [.submitted job.control job.jobId job.executeId false].Sublist log

def FirstDone (fromStr : FromStr) (log : List Entry) (job : Job) : Prop :=
  ∃ output, Succeeds fromStr output job.executeId job.jobId ∧
    [.submitted job.control job.jobId job.executeId false, .status output].Sublist log

def SecondBegun (fromStr : FromStr) (log : List Entry) (job : Job) (active : Nat) : Prop :=
  ∃ output, Succeeds fromStr output job.executeId job.jobId ∧
    [.submitted job.control job.jobId job.executeId false, .status output,
      .submitted job.control active job.executeId true].Sublist log

/-- First the root listing and then the whole tree were refreshed, by one instance. -/
def Completed (fromStr : FromStr) (log : List Entry) (control : Nat) : Prop :=
  ∃ jobId active executeId output output',
    Succeeds fromStr output executeId jobId ∧ Succeeds fromStr output' executeId active ∧
      [.submitted control jobId executeId false, .status output,
        .submitted control active executeId true, .status output'].Sublist log

def PhaseOk (fromStr : FromStr) (log : List Entry) (m : Monitor) : Prop :=
  m.control = m.job.control ∧
    match m.pc with
    | .stopping outcome => outcome ≠ .completed
    | .submitting => FirstDone fromStr log m.job
    | .status | .pause =>
        if m.recursive then SecondBegun fromStr log m.job m.active
        else Begun log m.job ∧ m.active = m.job.jobId

section Grow

variable {log : List Entry} {job : Job} {active control : Nat} {m : Monitor} (entry : Entry)

theorem sublist_grow {entries : List Entry} (h : entries.Sublist log) :
    entries.Sublist (log ++ [entry]) := h.trans (List.sublist_append_left log [entry])

theorem sublist_extend {entries : List Entry} (h : entries.Sublist log) :
    (entries ++ [entry]).Sublist (log ++ [entry]) := h.append (List.Sublist.refl _)

theorem Begun.grow (h : Begun log job) : Begun (log ++ [entry]) job := sublist_grow entry h

theorem Completed.grow (h : Completed fromStr log control) :
    Completed fromStr (log ++ [entry]) control := by
  obtain ⟨jobId, active, executeId, output, output', hfirst, hsecond, hsub⟩ := h
  exact ⟨jobId, active, executeId, output, output', hfirst, hsecond, sublist_grow entry hsub⟩

theorem PhaseOk.grow (h : PhaseOk fromStr log m) : PhaseOk fromStr (log ++ [entry]) m := by
  refine ⟨h.1, ?_⟩
  have hphase := h.2
  cases hpc : m.pc with
  | stopping outcome =>
      rw [hpc] at hphase
      exact hphase
  | submitting =>
      rw [hpc] at hphase
      obtain ⟨output, hfirst, hsub⟩ := hphase
      exact ⟨output, hfirst, sublist_grow entry hsub⟩
  | status | pause =>
      rw [hpc] at hphase
      dsimp only at hphase ⊢
      split_ifs at hphase ⊢
      · obtain ⟨output, hfirst, hsub⟩ := hphase
        exact ⟨output, hfirst, sublist_grow entry hsub⟩
      · exact ⟨hphase.1.grow entry, hphase.2⟩

end Grow

/-! ## The invariant -/

/-- The control whose job the task is responsible for. -/
def Task.owner : Task → Option Nat
  | .start (.cancelling _) | .cancel _ => none
  | .start (.mountProbe c) | .start (.rcProbe c) | .start (.pause c) | .start (.submitting c)
  | .start (.stopping c) => some c
  | .monitor m => some m.control

def Monitor.watches (m : Monitor) : Bool :=
  match m.pc with
  | .status | .pause => true
  | .submitting | .stopping _ => false

/-- The job that the task watches. -/
def Task.held : Task → Option Nat
  | .monitor m => if m.watches then some m.active else none
  | _ => none

/-- The task waits until the job of a cancelled control is stopped. -/
def Task.Cancels (old : Nat) (task : Task) : Prop :=
  task = .start (.cancelling old) ∨ task = .cancel old

def owners (tasks : List Task) (returned : List Job) : List Nat :=
  tasks.filterMap Task.owner ++ returned.map Job.control

def HasEnded (log : List Entry) (control : Nat) : Prop :=
  .startFailed control ∈ log ∨ ∃ outcome, .ended control outcome ∈ log

/-- A waiting monitor watches the job, or it has been handed out and can still be cancelled. -/
def Tracked (w : World) (tasks : List Task) (returned : List Job) (control jobId : Nat) : Prop :=
  (∃ task ∈ tasks, task.owner = some control ∧ task.held = some jobId) ∨
    ∃ job ∈ returned, job.control = control ∧ job.jobId = jobId ∧ w.registered = some control ∧
      w.controls control = ⟨false, some jobId⟩

/-- The invariant while one call runs: the control it owns, and the job of it that may be open. -/
structure Invariant (fromStr : FromStr) (w : World) (tasks : List Task) (returned : List Job)
    (own held : Option Nat) : Prop where
  nodup : (own.toList ++ owners tasks returned).Nodup
  fresh : ∀ c ∈ own.toList ++ owners tasks returned, c < w.next
  registered : ∀ c, w.registered = some c → c < w.next
  matched : ∀ job ∈ returned, ∀ c, w.registered = some c → (w.controls c).jobId = some job.jobId →
    c = job.control
  begun : ∀ job ∈ returned, Begun w.log job
  cancels : ∀ task ∈ tasks, ∀ old, task.Cancels old → old < w.next ∧ (w.controls old).cancelled = true
  tracked : ∀ c j, Open fromStr w.log c j →
    (own = some c ∧ held = some j) ∨ Tracked w tasks returned c j
  ended : ∀ c, HasEnded w.log c → c < w.next ∧ c ∉ own.toList ++ owners tasks returned
  phases : ∀ m, .monitor m ∈ tasks → PhaseOk fromStr w.log m
  completed : ∀ c, .ended c .completed ∈ w.log → Completed fromStr w.log c

theorem mem_owners_of_task {tasks : List Task} {returned : List Job} {task : Task} {c : Nat}
    (h : task ∈ tasks) (hc : task.owner = some c) : c ∈ owners tasks returned :=
  List.mem_append_left _ (List.mem_filterMap.mpr ⟨task, h, hc⟩)

theorem mem_owners_of_job {tasks : List Task} {returned : List Job} {job : Job}
    (h : job ∈ returned) : job.control ∈ owners tasks returned :=
  List.mem_append_right _ (List.mem_map_of_mem h)

theorem Tracked.mem_owners {w : World} {tasks : List Task} {returned : List Job} {c j : Nat}
    (h : Tracked w tasks returned c j) : c ∈ owners tasks returned := by
  rcases h with ⟨task, htask, howner, -⟩ | ⟨job, hjob, rfl, -⟩
  · exact mem_owners_of_task htask howner
  · exact mem_owners_of_job hjob

namespace Invariant

variable {w : World} {tasks : List Task} {returned : List Job} {own held : Option Nat}

/-! ### The registry -/

/-- A control that a call leaves is its own, or cancelled, or without a job. -/
theorem finish (h : Invariant fromStr w tasks returned own held) {c : Nat}
    (hc : own = some c ∨ (w.controls c).cancelled = true ∨ (w.controls c).jobId = none) :
    Invariant fromStr (w.finish c) tasks returned own held := by
  unfold World.finish
  split_ifs with hreg
  · refine { h with registered := by simp, matched := by simp, tracked := ?_ }
    intro c' j hopen
    rcases h.tracked c' j hopen with howned | htask | ⟨job, hjob, rfl, hj, hreg', hcontrol⟩
    · exact .inl howned
    · exact .inr (.inl htask)
    · obtain rfl : c = job.control := Option.some.inj (hreg.symm.trans hreg')
      rcases hc with hown | hcancelled | hnone
      · have hnodup := h.nodup
        rw [hown] at hnodup
        exact absurd (mem_owners_of_job hjob) (List.nodup_cons.mp hnodup).1
      · rw [hcontrol] at hcancelled
        cases hcancelled
      · rw [hcontrol] at hnone
        cases hnone
  · exact h

/-- A control is cancelled once its job is settled. -/
theorem cancel (h : Invariant fromStr w tasks returned own held) {c : Nat}
    (hsettled : ∀ j, (w.controls c).jobId = some j → ¬Open fromStr w.log c j) :
    Invariant fromStr (w.cancel c) tasks returned own held := by
  have hjobId (c' : Nat) : ((w.cancel c).controls c').jobId = (w.controls c').jobId := by
    by_cases hc : c' = c
    · subst hc
      simp [World.cancel]
    · simp [World.cancel, hc]
  refine { h with matched := ?_, cancels := ?_, tracked := ?_ }
  · intro job hjob c' hreg hj
    rw [hjobId] at hj
    exact h.matched job hjob c' hreg hj
  · intro task htask old hold
    obtain ⟨hlt, hcancelled⟩ := h.cancels task htask old hold
    refine ⟨hlt, ?_⟩
    by_cases hc : old = c
    · subst hc
      simp [World.cancel]
    · simpa [World.cancel, hc] using hcancelled
  · intro c' j hopen
    rcases h.tracked c' j hopen with howned | htask | ⟨job, hjob, hc', hj, hreg, hcontrol⟩
    · exact .inl howned
    · exact .inr (.inl htask)
    · by_cases hc : c' = c
      · subst hc
        exact absurd hopen (hsettled j (by rw [hcontrol]))
      · refine .inr (.inr ⟨job, hjob, hc', hj, hreg, ?_⟩)
        simpa [World.cancel, hc] using hcontrol

/-- A new control may replace one whose job no call is still to take up. -/
theorem insert (h : Invariant fromStr w tasks returned none none)
    (hreg : ∀ job ∈ returned, w.registered = some job.control →
      (w.controls job.control).cancelled = true) :
    Invariant fromStr w.insert tasks returned (some w.next) none where
  nodup := by
    refine List.nodup_cons.mpr ⟨fun hmem ↦ ?_, h.nodup⟩
    exact absurd (h.fresh w.next hmem) (lt_irrefl _)
  fresh c hc := by
    rcases List.mem_cons.mp hc with rfl | hc
    · exact Nat.lt_succ_self _
    · exact Nat.lt_succ_of_lt (h.fresh c hc)
  registered c hc := by
    obtain rfl := Option.some.inj hc
    exact Nat.lt_succ_self _
  matched job hjob c hc hj := by
    obtain rfl := Option.some.inj hc
    simp [World.insert] at hj
  begun := h.begun
  cancels task htask old hold := by
    obtain ⟨hlt, hcancelled⟩ := h.cancels task htask old hold
    refine ⟨Nat.lt_succ_of_lt hlt, ?_⟩
    simpa [World.insert, hlt.ne] using hcancelled
  tracked c j hopen := by
    rcases h.tracked c j hopen with ⟨hown, -⟩ | htask | ⟨job, hjob, rfl, hj, hc, hcontrol⟩
    · cases hown
    · exact .inr (.inl htask)
    · have hcancelled := hreg job hjob hc
      rw [hcontrol] at hcancelled
      cases hcancelled
  ended c hc := by
    obtain ⟨hlt, hmem⟩ := h.ended c hc
    refine ⟨Nat.lt_succ_of_lt hlt, fun hc ↦ ?_⟩
    rcases List.mem_cons.mp hc with rfl | hc
    · exact absurd hlt (lt_irrefl _)
    · exact hmem hc
  phases := h.phases
  completed := h.completed

/-! ### The log -/

/-- An entry that is not about a submission or an end leaves everything but open jobs as it is. -/
theorem add (h : Invariant fromStr w tasks returned own held) {entry : Entry} {held' : Option Nat}
    (hsubmitted : ∀ c j e r, entry ≠ .submitted c j e r) (hfailed : ∀ c, entry ≠ .startFailed c)
    (hended : ∀ c o, entry ≠ .ended c o)
    (hheld : ∀ j, held = some j → held' = some j ∨ Settles fromStr j entry) :
    Invariant fromStr (w.add entry) tasks returned own held' where
  nodup := h.nodup
  fresh := h.fresh
  registered := h.registered
  matched := h.matched
  begun job hjob := (h.begun job hjob).grow entry
  cancels := h.cancels
  tracked c j hopen := by
    have hother : ¬Submits c j entry := fun ⟨e, r, heq⟩ ↦ hsubmitted c j e r heq
    rcases h.tracked c j (Interaction.pending_of_append hopen hother) with ⟨hown, hj⟩ | htracked
    · rcases hheld j hj with hheld' | hsettles
      · exact .inl ⟨hown, hheld'⟩
      · exact absurd hopen (Interaction.not_pending_append hsettles hother)
    · exact .inr htracked
  ended c hc := by
    refine h.ended c (hc.imp (fun hmem ↦ ?_) fun ⟨outcome, hmem⟩ ↦ ⟨outcome, ?_⟩)
    · exact mem_of_mem_append_singleton hmem (hfailed c).symm
    · exact mem_of_mem_append_singleton hmem (hended c outcome).symm
  phases m hm := (h.phases m hm).grow entry
  completed c hc :=
    (h.completed c (mem_of_mem_append_singleton hc (hended c .completed).symm)).grow entry

theorem stop (h : Invariant fromStr w tasks returned own held) {j : Nat}
    (hheld : ∀ i, held = some i → i = j) :
    Invariant fromStr (w.add (.stop j)) tasks returned own none := by
  refine h.add (by simp) (by simp) (by simp) fun i hi ↦ .inr ?_
  exact (hheld i hi).symm

theorem status (h : Invariant fromStr w tasks returned own held) (output : String) :
    Invariant fromStr (w.add (.status output)) tasks returned own held :=
  h.add (by simp) (by simp) (by simp) fun _ hi ↦ .inl hi

theorem finished (h : Invariant fromStr w tasks returned own held) (output : String)
    (hheld : ∀ i, held = some i → Finishes fromStr output i) :
    Invariant fromStr (w.add (.status output)) tasks returned own none :=
  h.add (by simp) (by simp) (by simp) fun i hi ↦ .inr (hheld i hi)

/-- A job belongs from its submission on to the call that submitted it. -/
theorem submit {c j : Nat} (h : Invariant fromStr w tasks returned (some c) none)
    (executeId : String) (recursive : Bool) (hj : ∀ job ∈ returned, job.jobId ≠ j) :
    Invariant fromStr ((w.setJob c j).add (.submitted c j executeId recursive)) tasks returned
      (some c) (some j) where
  nodup := h.nodup
  fresh := h.fresh
  registered := h.registered
  matched job hjob c' hreg hj' := by
    by_cases hc : c' = c
    · subst hc
      simp only [World.add, World.setJob, Function.update_self, Option.some.injEq] at hj'
      exact absurd hj'.symm (hj job hjob)
    · simp only [World.add, World.setJob, Function.update_of_ne hc] at hj'
      exact h.matched job hjob c' hreg hj'
  begun job hjob := (h.begun job hjob).grow _
  cancels task htask old hold := by
    obtain ⟨hlt, hcancelled⟩ := h.cancels task htask old hold
    refine ⟨hlt, ?_⟩
    by_cases hc : old = c
    · subst hc
      simpa [World.add, World.setJob] using hcancelled
    · simpa [World.add, World.setJob, hc] using hcancelled
  tracked c' j' hopen := by
    rcases Interaction.pending_append.mp hopen with ⟨hbefore, -⟩ | ⟨e, r, heq⟩
    · rcases h.tracked c' j' hbefore with ⟨-, hnone⟩ | htask | ⟨job, hjob, hc', hj', hreg, hcontrol⟩
      · cases hnone
      · exact .inr (.inl htask)
      · have hne : c' ≠ c := by
          rintro rfl
          exact absurd (hc' ▸ mem_owners_of_job hjob) (List.nodup_cons.mp h.nodup).1
        refine .inr (.inr ⟨job, hjob, hc', hj', hreg, ?_⟩)
        simpa [World.add, World.setJob, hne] using hcontrol
    · obtain ⟨rfl, rfl, -, -⟩ := Entry.submitted.inj heq
      exact .inl ⟨rfl, rfl⟩
  ended c' hc' := by
    refine h.ended c' (hc'.imp (fun hmem ↦ ?_) fun ⟨outcome, hmem⟩ ↦ ⟨outcome, ?_⟩)
    · exact mem_of_mem_append_singleton hmem (by simp)
    · exact mem_of_mem_append_singleton hmem (by simp)
  phases m hm := (h.phases m hm).grow _
  completed c' hc' := (h.completed c' (mem_of_mem_append_singleton hc' (by simp))).grow _

/-- A call that has settled its job may return. -/
theorem leave (h : Invariant fromStr w tasks returned own none) :
    Invariant fromStr w tasks returned none none :=
  { h with
    nodup := h.nodup.of_append_right
    fresh := fun c hc ↦ h.fresh c (List.mem_append_right _ hc)
    tracked := fun c j hopen ↦ by
      rcases h.tracked c j hopen with ⟨-, hnone⟩ | htracked
      · cases hnone
      · exact .inr htracked
    ended := fun c hc ↦ ⟨(h.ended c hc).1, fun hmem ↦ (h.ended c hc).2 (List.mem_append_right _ hmem)⟩ }

theorem close (h : Invariant fromStr w tasks returned own none) {c : Nat} {entry : Entry}
    (hown : own = some c) (hsubmitted : ∀ c j e r, entry ≠ .submitted c j e r)
    (hended : ∀ c', HasEnded (w.log ++ [entry]) c' → HasEnded w.log c' ∨ c' = c)
    (hcompleted : ∀ c', .ended c' .completed ∈ w.log ++ [entry] → Completed fromStr w.log c') :
    Invariant fromStr (w.add entry) tasks returned none none where
  nodup := h.leave.nodup
  fresh := h.leave.fresh
  registered := h.registered
  matched := h.matched
  begun job hjob := (h.begun job hjob).grow entry
  cancels := h.cancels
  tracked c j hopen := by
    refine h.leave.tracked c j (Interaction.pending_of_append hopen ?_)
    exact fun ⟨e, r, heq⟩ ↦ hsubmitted c j e r heq
  ended c' hc' := by
    rcases hended c' hc' with hbefore | rfl
    · exact h.leave.ended c' hbefore
    · subst hown
      exact ⟨h.fresh c' (by simp), (List.nodup_cons.mp h.nodup).1⟩
  phases m hm := (h.phases m hm).grow entry
  completed c' hc' := (hcompleted c' hc').grow entry

theorem fail (h : Invariant fromStr w tasks returned own none) {c : Nat} (hown : own = some c) :
    Invariant fromStr (w.add (.startFailed c)) tasks returned none none := by
  refine h.close hown (by simp) ?_ fun c' hc' ↦ h.completed c' (mem_of_mem_append_singleton hc' (by simp))
  rintro c' (hmem | ⟨outcome, hmem⟩)
  · rcases List.mem_append.mp hmem with hmem | hmem
    · exact .inl (.inl hmem)
    · exact .inr (Entry.startFailed.inj (List.mem_singleton.mp hmem))
  · exact .inl (.inr ⟨outcome, mem_of_mem_append_singleton hmem (by simp)⟩)

theorem finish_with (h : Invariant fromStr w tasks returned own none) {c : Nat} {outcome : Outcome}
    (hown : own = some c) (hcompleted : outcome = .completed → Completed fromStr w.log c) :
    Invariant fromStr (w.add (.ended c outcome)) tasks returned none none := by
  refine h.close hown (by simp) ?_ ?_
  · rintro c' (hmem | ⟨outcome', hmem⟩)
    · exact .inl (.inl (mem_of_mem_append_singleton hmem (by simp)))
    · rcases List.mem_append.mp hmem with hmem | hmem
      · exact .inl (.inr ⟨outcome', hmem⟩)
      · exact .inr (Entry.ended.inj (List.mem_singleton.mp hmem)).1
  · intro c' hmem
    rcases List.mem_append.mp hmem with hmem | hmem
    · exact h.completed c' hmem
    · obtain ⟨rfl, rfl⟩ := Entry.ended.inj (List.mem_singleton.mp hmem)
      exact hcompleted rfl

/-! ### The calls -/

theorem putTask (h : Invariant fromStr w tasks returned own held) {task : Task}
    (howner : task.owner = own) (hheld : ∀ j, held = some j → task.held = some j)
    (hcancels : ∀ old, task.Cancels old → old < w.next ∧ (w.controls old).cancelled = true)
    (hphase : ∀ m, task = .monitor m → PhaseOk fromStr w.log m) :
    Invariant fromStr w (tasks ++ [task]) returned none none := by
  have hperm : (owners (tasks ++ [task]) returned).Perm (own.toList ++ owners tasks returned) := by
    have htask : [task].filterMap Task.owner = own.toList := by
      rw [← howner]
      cases h : task.owner <;> simp [h]
    rw [owners, List.filterMap_append, htask, owners, ← List.append_assoc]
    exact List.perm_append_comm.append_right _
  exact {
    nodup := hperm.nodup_iff.mpr h.nodup
    fresh := fun c hc ↦ h.fresh c (hperm.mem_iff.mp hc)
    registered := h.registered
    matched := h.matched
    begun := h.begun
    cancels := fun task' htask' old hold ↦ by
      rcases List.mem_append.mp htask' with htask' | htask'
      · exact h.cancels task' htask' old hold
      · exact hcancels old (List.mem_singleton.mp htask' ▸ hold)
    tracked := fun c j hopen ↦ by
      rcases h.tracked c j hopen with ⟨hown, hj⟩ | ⟨task', htask', hother⟩ | hreturned
      · exact .inr (.inl ⟨task, by simp, howner.trans hown, hheld j hj⟩)
      · exact .inr (.inl ⟨task', List.mem_append_left _ htask', hother⟩)
      · exact .inr (.inr hreturned)
    ended := fun c hc ↦ ⟨(h.ended c hc).1, fun hmem ↦ (h.ended c hc).2 (hperm.mem_iff.mp hmem)⟩
    phases := fun m hm ↦ by
      rcases List.mem_append.mp hm with hm | hm
      · exact h.phases m hm
      · exact hphase m (List.mem_singleton.mp hm).symm
    completed := h.completed }

theorem putReturned {job : Job}
    (h : Invariant fromStr w tasks returned (some job.control) (some job.jobId))
    (hbegun : Begun w.log job) (hreg : w.registered = some job.control)
    (hcontrol : w.controls job.control = ⟨false, some job.jobId⟩) :
    Invariant fromStr w tasks (returned ++ [job]) none none := by
  have hperm : (owners tasks (returned ++ [job])).Perm (job.control :: owners tasks returned) := by
    rw [owners, List.map_append, ← List.append_assoc]
    exact List.perm_append_singleton _ _
  exact {
    nodup := hperm.nodup_iff.mpr h.nodup
    fresh := fun c hc ↦ h.fresh c (hperm.mem_iff.mp hc)
    registered := h.registered
    matched := fun job' hjob' c hc hj ↦ by
      rcases List.mem_append.mp hjob' with hjob' | hjob'
      · exact h.matched job' hjob' c hc hj
      · rw [List.mem_singleton.mp hjob']
        exact Option.some.inj (hc.symm.trans hreg)
    begun := fun job' hjob' ↦ by
      rcases List.mem_append.mp hjob' with hjob' | hjob'
      · exact h.begun job' hjob'
      · rwa [List.mem_singleton.mp hjob']
    cancels := h.cancels
    tracked := fun c j hopen ↦ by
      rcases h.tracked c j hopen with ⟨hown, hj⟩ | htask | ⟨job', hjob', hother⟩
      · obtain rfl := Option.some.inj hown
        obtain rfl := Option.some.inj hj
        exact .inr (.inr ⟨job, by simp, rfl, rfl, hreg, hcontrol⟩)
      · exact .inr (.inl htask)
      · exact .inr (.inr ⟨job', List.mem_append_left _ hjob', hother⟩)
    ended := fun c hc ↦ ⟨(h.ended c hc).1, fun hmem ↦ (h.ended c hc).2 (hperm.mem_iff.mp hmem)⟩
    phases := h.phases
    completed := h.completed }

theorem takeTask (h : Invariant fromStr w tasks returned none none) {index : Nat} {task : Task}
    (htask : tasks[index]? = some task) :
    Invariant fromStr w (tasks.eraseIdx index) returned task.owner task.held := by
  have hsplit := perm_eraseIdx htask
  have hperm : (owners tasks returned).Perm
      (task.owner.toList ++ owners (tasks.eraseIdx index) returned) := by
    have hcons : (task :: tasks.eraseIdx index).filterMap Task.owner =
        task.owner.toList ++ (tasks.eraseIdx index).filterMap Task.owner := by
      cases h : task.owner <;> simp [h]
    rw [owners, owners, ← List.append_assoc, ← hcons]
    exact (hsplit.filterMap _).append_right _
  exact {
    nodup := hperm.nodup_iff.mp h.nodup
    fresh := fun c hc ↦ h.fresh c (hperm.mem_iff.mpr hc)
    registered := h.registered
    matched := h.matched
    begun := h.begun
    cancels := fun task' htask' ↦ h.cancels task' (List.mem_of_mem_eraseIdx htask')
    tracked := fun c j hopen ↦ by
      rcases h.tracked c j hopen with ⟨hown, -⟩ | ⟨task', htask', howner, hj⟩ | hreturned
      · cases hown
      · rcases List.mem_cons.mp (hsplit.mem_iff.mp htask') with rfl | htask'
        · exact .inl ⟨howner, hj⟩
        · exact .inr (.inl ⟨task', htask', howner, hj⟩)
      · exact .inr (.inr hreturned)
    ended := fun c hc ↦ ⟨(h.ended c hc).1, fun hmem ↦ (h.ended c hc).2 (hperm.mem_iff.mpr hmem)⟩
    phases := fun m hm ↦ h.phases m (List.mem_of_mem_eraseIdx hm)
    completed := h.completed }

theorem takeJob (h : Invariant fromStr w tasks returned none none) {index : Nat} {job : Job}
    (held : Option Nat) (hjob : returned[index]? = some job)
    (hheld : w.registered = some job.control → w.controls job.control = ⟨false, some job.jobId⟩ →
      held = some job.jobId) :
    Invariant fromStr w tasks (returned.eraseIdx index) (some job.control) held := by
  have hsplit := perm_eraseIdx hjob
  have hperm : (owners tasks returned).Perm
      (job.control :: owners tasks (returned.eraseIdx index)) := by
    rw [owners, owners]
    exact ((hsplit.map Job.control).append_left _).trans List.perm_middle
  exact {
    nodup := hperm.nodup_iff.mp h.nodup
    fresh := fun c hc ↦ h.fresh c (hperm.mem_iff.mpr hc)
    registered := h.registered
    matched := fun job' hjob' ↦ h.matched job' (List.mem_of_mem_eraseIdx hjob')
    begun := fun job' hjob' ↦ h.begun job' (List.mem_of_mem_eraseIdx hjob')
    cancels := h.cancels
    tracked := fun c j hopen ↦ by
      rcases h.tracked c j hopen with ⟨hown, -⟩ | htask | ⟨job', hjob', rfl, rfl, hreg, hcontrol⟩
      · cases hown
      · exact .inr (.inl htask)
      · rcases List.mem_cons.mp (hsplit.mem_iff.mp hjob') with rfl | hjob'
        · exact .inl ⟨rfl, hheld hreg hcontrol⟩
        · exact .inr (.inr ⟨job', hjob', rfl, rfl, hreg, hcontrol⟩)
    ended := fun c hc ↦ ⟨(h.ended c hc).1, fun hmem ↦ (h.ended c hc).2 (hperm.mem_iff.mpr hmem)⟩
    phases := h.phases
    completed := h.completed }

end Invariant

end CosmicMounter.Refresh

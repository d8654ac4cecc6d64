import CosmicMounter.Interaction.Log
import CosmicMounter.Interaction.Steps
import CosmicMounter.Preload.Calls

/-!
# Before an unmount

Once `cancel_before_unmount` has returned `Ok`, no command of a job that was
started before the call runs or will run, provided no job is started while a
command of an earlier one runs.
-/

namespace CosmicMounter.Preload

open Interaction (mem_of_mem_append_singleton perm_eraseIdx)

/-! ## Commands in the log -/

def Launches (generation : Nat) (entry : Entry) : Prop := ∃ args, entry = .launched generation args

/-- A command of the job is running. -/
def Running (log : List Entry) (generation : Nat) : Prop :=
  Interaction.Pending (Launches generation) (· = .exited generation) log

/-- An `Ok` of `cancel_before_unmount` finds no command of an earlier job running, and none is
launched after it. -/
def InOrder (before : List Entry) : Entry → Prop
  | .unmountReady bound => ∀ generation < bound, ¬Running before generation
  | .launched generation _ => ∀ bound, .unmountReady bound ∈ before → bound ≤ generation
  | _ => True

/-! ## The invariant -/

def Task.generation : Task → Option Nat
  | .monitor m => some m.job.generation
  | .cancel _ _ _ => none

def MonitorPc.runs : MonitorPc → Bool
  | .command _ _ => true
  | .pause _ => false

def owners (tasks : List Task) (returned : List Job) : List Nat :=
  tasks.filterMap Task.generation ++ returned.map Job.generation

/-- A cancelled call waits for the newest of the jobs that were started before it. -/
def Waits (w : World) (generation bound : Nat) : Prop :=
  bound ≤ w.next ∧ generation < bound ∧
    ∀ r, w.registered = some r → r < bound → r = generation

def Listed (tasks : List Task) (generation : Nat) : Prop :=
  ∃ m, .monitor m ∈ tasks ∧ m.job.generation = generation ∧ m.pc.runs = true

/-- The invariant while one monitor runs: its job, and whether a command of it is running. -/
structure Invariant (w : World) (tasks : List Task) (returned : List Job) (own : Option Nat)
    (runs : Bool) : Prop where
  nodup : (own.toList ++ owners tasks returned).Nodup
  fresh : ∀ g ∈ own.toList ++ owners tasks returned, g < w.next
  registered : ∀ g, w.registered = some g → g < w.next
  done : ∀ g < w.next, (w.controls g).done = true → g ∉ own.toList ++ owners tasks returned
  active : ∀ m, .monitor m ∈ tasks →
    w.registered = some m.job.generation ∨ (w.controls m.job.generation).cancelled = true
  running : ∀ m, .monitor m ∈ tasks → m.pc.runs = true → w.registered = some m.job.generation
  waits : ∀ g b u, .cancel g b u ∈ tasks → Waits w g b
  ready : ∀ b, .unmountReady b ∈ w.log → b ≤ w.next ∧ ∀ r, w.registered = some r → b ≤ r
  listed : ∀ g, Running w.log g → (own = some g ∧ runs = true) ∨ Listed tasks g
  ordered : Interaction.Throughout InOrder w.log

theorem mem_owners_of_monitor {tasks : List Task} {returned : List Job} {m : Monitor}
    (h : .monitor m ∈ tasks) : m.job.generation ∈ owners tasks returned :=
  List.mem_append_left _ (List.mem_filterMap.mpr ⟨.monitor m, h, rfl⟩)

namespace Invariant

variable {w : World} {tasks : List Task} {returned : List Job} {own : Option Nat} {runs : Bool}
variable {g : Nat}

theorem not_mem_owners (h : Invariant w tasks returned (some g) runs) : g ∉ owners tasks returned :=
  (List.nodup_cons.mp h.nodup).1

/-! ### Controls -/

theorem cancel (h : Invariant w tasks returned own runs) (c : Nat) :
    Invariant (w.cancel c) tasks returned own runs := by
  refine { h with done := ?_, active := ?_ }
  · intro g hg hdone
    refine h.done g hg ?_
    by_cases hc : g = c
    · subst hc
      simpa [World.cancel] using hdone
    · simpa [World.cancel, hc] using hdone
  · exact fun m hm ↦ (h.active m hm).imp id fun hcancelled ↦ w.cancelled_cancel (.inr hcancelled)

theorem cancelRegistered (h : Invariant w tasks returned own runs) :
    Invariant w.cancelRegistered tasks returned own runs := by
  unfold World.cancelRegistered
  cases w.registered with
  | none => exact h
  | some r => exact h.cancel r

/-- A control is done when no call watches its job any more. -/
theorem finish (h : Invariant w tasks returned none false) (hg : g < w.next)
    (howner : g ∉ owners tasks returned) : Invariant (w.finish g) tasks returned none false := by
  have hreg {r : Nat} (hr : (w.finish g).registered = some r) : w.registered = some r := by
    simp only [World.finish] at hr
    split_ifs at hr
    exact hr
  have hkept {m : Monitor} (hm : .monitor m ∈ tasks) (hr : w.registered = some m.job.generation) :
      (w.finish g).registered = some m.job.generation := by
    have hne : w.registered ≠ some g := by
      rw [hr]
      rintro heq
      exact howner (Option.some.inj heq ▸ mem_owners_of_monitor hm)
    rw [World.finish, if_neg hne, hr]
  refine { h with registered := ?_, done := ?_, active := ?_, running := ?_, waits := ?_, ready := ?_ }
  · exact fun r hr ↦ h.registered r (hreg hr)
  · intro g' hg' hdone
    by_cases hc : g' = g
    · subst hc
      exact howner
    · refine h.done g' hg' ?_
      simpa [World.finish, hc] using hdone
  · intro m hm
    refine (h.active m hm).imp (hkept hm) fun hcancelled ↦ ?_
    have hne : m.job.generation ≠ g := fun heq ↦ howner (heq ▸ mem_owners_of_monitor hm)
    simpa [World.finish, hne] using hcancelled
  · exact fun m hm hruns ↦ hkept hm (h.running m hm hruns)
  · intro c b u hc
    obtain ⟨hb, hlt, honly⟩ := h.waits c b u hc
    exact ⟨hb, hlt, fun r hr ↦ honly r (hreg hr)⟩
  · intro b hb
    obtain ⟨hnext, hle⟩ := h.ready b hb
    exact ⟨hnext, fun r hr ↦ hle r (hreg hr)⟩

/-- A new job replaces one that has no command running. -/
theorem insert (h : Invariant w tasks returned none false) {job : Job} (hjob : job.generation = w.next)
    (hidle : ∀ m, .monitor m ∈ tasks → m.pc.runs = false) :
    Invariant w.cancelRegistered.insert tasks (returned ++ [job]) none false := by
  have hcancelled := h.cancelRegistered
  have hnext : w.cancelRegistered.insert.next = w.next + 1 := by simp [World.insert]
  have hregistered {r : Nat} (hr : w.cancelRegistered.insert.registered = some r) : w.next = r := by
    simpa [World.insert] using hr
  have hlog : w.cancelRegistered.insert.log = w.log := by simp [World.insert]
  have hperm : (owners tasks (returned ++ [job])).Perm (w.next :: owners tasks returned) := by
    rw [owners, List.map_append, ← List.append_assoc, List.map_singleton, hjob]
    exact List.perm_append_singleton _ _
  have hold {c : Nat} (hc : c ∈ owners tasks returned) :
      w.cancelRegistered.insert.controls c = w.cancelRegistered.controls c :=
    w.cancelRegistered.insert_controls (by simpa using (h.fresh c hc).ne)
  exact {
    nodup := hperm.nodup_iff.mpr
      (List.nodup_cons.mpr ⟨fun hmem ↦ (h.fresh w.next hmem).false, h.nodup⟩)
    fresh := fun c hc ↦ by
      rw [hnext]
      rcases List.mem_cons.mp (hperm.mem_iff.mp hc) with rfl | hc
      · exact Nat.lt_succ_self _
      · exact Nat.lt_succ_of_lt (h.fresh c hc)
    registered := fun c hc ↦ by
      rw [hnext, ← hregistered hc]
      exact Nat.lt_succ_self _
    done := fun c hc hdone hmem ↦ by
      rcases List.mem_cons.mp (hperm.mem_iff.mp hmem) with rfl | hmem
      · simp [World.insert] at hdone
      · rw [hold hmem] at hdone
        exact hcancelled.done c (hcancelled.fresh c hmem) hdone hmem
    active := fun m hm ↦ by
      rw [hold (mem_owners_of_monitor hm)]
      exact .inr (w.cancelled_cancelRegistered (h.active m hm))
    running := fun m hm hruns ↦ by
      rw [hidle m hm] at hruns
      cases hruns
    waits := fun c b u hc ↦ by
      obtain ⟨hb, hlt, -⟩ := h.waits c b u hc
      refine ⟨hnext ▸ Nat.le_succ_of_le hb, hlt, fun r hr hrb ↦ ?_⟩
      have hr := hregistered hr
      omega
    ready := fun b hb ↦ by
      obtain ⟨hb, -⟩ := h.ready b (hlog ▸ hb)
      refine ⟨hnext ▸ Nat.le_succ_of_le hb, fun r hr ↦ ?_⟩
      rwa [← hregistered hr]
    listed := fun c hc ↦ h.listed c (hlog ▸ hc)
    ordered := hlog ▸ h.ordered }

/-! ### The log -/

theorem add (h : Invariant w tasks returned own runs) {entry : Entry} {runs' : Bool}
    (hready : ∀ b, entry = .unmountReady b → b ≤ w.next ∧ ∀ r, w.registered = some r → b ≤ r)
    (hlisted : ∀ g, Running (w.log ++ [entry]) g → (own = some g ∧ runs' = true) ∨ Listed tasks g)
    (hordered : InOrder w.log entry) : Invariant (w.add entry) tasks returned own runs' :=
  { h with
    ready := fun b hb ↦ by
      by_cases hentry : entry = .unmountReady b
      · exact hready b hentry
      · exact h.ready b (mem_of_mem_append_singleton hb (Ne.symm hentry))
    listed := hlisted
    ordered := Interaction.throughout_append.mpr ⟨h.ordered, hordered⟩ }

/-- An entry that is not about a command, and no `Ok` of `cancel_before_unmount`. -/
theorem note (h : Invariant w tasks returned own runs) {entry : Entry}
    (hlaunched : ∀ g args, entry ≠ .launched g args) (hready : ∀ b, entry ≠ .unmountReady b) :
    Invariant (w.add entry) tasks returned own runs := by
  refine h.add (fun b hb ↦ absurd hb (hready b)) (fun g hg ↦ h.listed g ?_) ?_
  · exact Interaction.pending_of_append hg fun ⟨args, heq⟩ ↦ hlaunched g args heq
  · cases entry with
    | launched g args => exact absurd rfl (hlaunched g args)
    | unmountReady b => exact absurd rfl (hready b)
    | exited | ended | stillStopping => trivial

theorem launched {args : List String} (h : Invariant w tasks returned (some g) false)
    (hreg : w.registered = some g) : Invariant (w.add (.launched g args)) tasks returned (some g) true := by
  refine h.add (by simp) (fun c hc ↦ ?_) fun b hb ↦ (h.ready b hb).2 g hreg
  rcases Interaction.pending_append.mp hc with ⟨hbefore, -⟩ | ⟨args', heq⟩
  · rcases h.listed c hbefore with ⟨-, hfalse⟩ | hlisted
    · cases hfalse
    · exact .inr hlisted
  · exact .inl ⟨congrArg some (Entry.launched.inj heq).1, rfl⟩

theorem exited (h : Invariant w tasks returned (some g) runs) :
    Invariant (w.add (.exited g)) tasks returned (some g) false := by
  refine h.add (by simp) (fun c hc ↦ ?_) trivial
  have hbefore := Interaction.pending_of_append hc (by simp [Launches])
  rcases h.listed c hbefore with ⟨hown, -⟩ | hlisted
  · obtain rfl := Option.some.inj hown
    exact absurd hc (Interaction.not_pending_append rfl (by simp [Launches]))
  · exact .inr hlisted

/-- No command of a job before the registered one is running. -/
theorem unmountReady (h : Invariant w tasks returned none false) {b : Nat} (hb : b ≤ w.next)
    (hreg : ∀ r, w.registered = some r → b ≤ r) :
    Invariant (w.add (.unmountReady b)) tasks returned none false := by
  refine h.add ?_ (fun c hc ↦ h.listed c ?_) fun c hc hrunning ↦ ?_
  · rintro b' heq
    rw [← Entry.unmountReady.inj heq]
    exact ⟨hb, hreg⟩
  · exact Interaction.pending_of_append hc (by simp [Launches])
  · rcases h.listed c hrunning with ⟨hown, -⟩ | ⟨m, hm, rfl, hruns⟩
    · cases hown
    · exact absurd hc (hreg _ (h.running m hm hruns)).not_gt

/-! ### The calls -/

/-- The job of a call that ends is watched by no other call. -/
theorem leave (h : Invariant w tasks returned own false) : Invariant w tasks returned none false :=
  { h with
    nodup := h.nodup.of_append_right
    fresh := fun c hc ↦ h.fresh c (List.mem_append_right _ hc)
    done := fun c hc hdone hmem ↦ h.done c hc hdone (List.mem_append_right _ hmem)
    listed := fun c hc ↦ by
      rcases h.listed c hc with ⟨-, hfalse⟩ | hlisted
      · cases hfalse
      · exact .inr hlisted }

theorem putMonitor {m : Monitor} (h : Invariant w tasks returned (some m.job.generation) runs)
    (hruns : runs = m.pc.runs)
    (hactive : w.registered = some m.job.generation ∨
      m.pc.runs = false ∧ (w.controls m.job.generation).cancelled = true) :
    Invariant w (tasks ++ [.monitor m]) returned none false := by
  have hperm : (owners (tasks ++ [.monitor m]) returned).Perm
      (m.job.generation :: owners tasks returned) := by
    rw [owners, List.filterMap_append, List.append_assoc]
    exact List.perm_middle
  have hmem {m' : Monitor} (hm' : .monitor m' ∈ tasks ++ [.monitor m]) :
      .monitor m' ∈ tasks ∨ m' = m := by
    rcases List.mem_append.mp hm' with hm' | hm'
    · exact .inl hm'
    · exact .inr (Task.monitor.inj (List.mem_singleton.mp hm'))
  exact {
    nodup := hperm.nodup_iff.mpr h.nodup
    fresh := fun c hc ↦ h.fresh c (hperm.mem_iff.mp hc)
    registered := h.registered
    done := fun c hc hdone hmem ↦ h.done c hc hdone (hperm.mem_iff.mp hmem)
    active := fun m' hm' ↦ by
      rcases hmem hm' with hm' | rfl
      · exact h.active m' hm'
      · exact hactive.imp id And.right
    running := fun m' hm' hruns' ↦ by
      rcases hmem hm' with hm' | rfl
      · exact h.running m' hm' hruns'
      · rcases hactive with hreg | ⟨hidle, -⟩
        · exact hreg
        · rw [hidle] at hruns'
          cases hruns'
    waits := fun c b u hc ↦ by
      rcases List.mem_append.mp hc with hc | hc
      · exact h.waits c b u hc
      · simp at hc
    ready := h.ready
    listed := fun c hc ↦ by
      rcases h.listed c hc with ⟨hown, hrun⟩ | ⟨m', hm', hother⟩
      · exact .inr ⟨m, by simp, Option.some.inj hown, hruns ▸ hrun⟩
      · exact .inr ⟨m', List.mem_append_left _ hm', hother⟩
    ordered := h.ordered }

theorem putCancel (h : Invariant w tasks returned none false) {c b : Nat} {u : Bool}
    (hwaits : Waits w c b) : Invariant w (tasks ++ [.cancel c b u]) returned none false := by
  have howners : owners (tasks ++ [.cancel c b u]) returned = owners tasks returned := by
    rw [owners, List.filterMap_append]
    simp [Task.generation, owners]
  have hmem {m : Monitor} (hm : .monitor m ∈ tasks ++ [.cancel c b u]) : .monitor m ∈ tasks := by
    simpa using hm
  exact {
    nodup := howners ▸ h.nodup
    fresh := howners ▸ h.fresh
    registered := h.registered
    done := howners ▸ h.done
    active := fun m hm ↦ h.active m (hmem hm)
    running := fun m hm ↦ h.running m (hmem hm)
    waits := fun c' b' u' hc ↦ by
      rcases List.mem_append.mp hc with hc | hc
      · exact h.waits c' b' u' hc
      · obtain ⟨rfl, rfl, -⟩ := Task.cancel.inj (List.mem_singleton.mp hc)
        exact hwaits
    ready := h.ready
    listed := fun c hc ↦ by
      rcases h.listed c hc with ⟨hown, -⟩ | ⟨m, hm, hother⟩
      · cases hown
      · exact .inr ⟨m, List.mem_append_left _ hm, hother⟩
    ordered := h.ordered }

theorem takeTask (h : Invariant w tasks returned none false) {index : Nat} {task : Task} {runs : Bool}
    (htask : tasks[index]? = some task) (hruns : ∀ m, task = .monitor m → runs = m.pc.runs) :
    Invariant w (tasks.eraseIdx index) returned task.generation runs := by
  have hsplit := perm_eraseIdx htask
  have hperm : (owners tasks returned).Perm
      (task.generation.toList ++ owners (tasks.eraseIdx index) returned) := by
    have hcons : (task :: tasks.eraseIdx index).filterMap Task.generation =
        task.generation.toList ++ (tasks.eraseIdx index).filterMap Task.generation := by
      cases h : task.generation <;> simp [h]
    rw [owners, owners, ← List.append_assoc, ← hcons]
    exact (hsplit.filterMap _).append_right _
  exact {
    nodup := hperm.nodup_iff.mp h.nodup
    fresh := fun c hc ↦ h.fresh c (hperm.mem_iff.mpr hc)
    registered := h.registered
    done := fun c hc hdone hmem ↦ h.done c hc hdone (hperm.mem_iff.mpr hmem)
    active := fun m hm ↦ h.active m (List.mem_of_mem_eraseIdx hm)
    running := fun m hm ↦ h.running m (List.mem_of_mem_eraseIdx hm)
    waits := fun c b u hc ↦ h.waits c b u (List.mem_of_mem_eraseIdx hc)
    ready := h.ready
    listed := fun c hc ↦ by
      rcases h.listed c hc with ⟨hown, -⟩ | ⟨m, hm, rfl, hrun⟩
      · cases hown
      · rcases List.mem_cons.mp (hsplit.mem_iff.mp hm) with heq | hm
        · exact .inl ⟨heq ▸ rfl, (hruns m heq.symm).trans hrun⟩
        · exact .inr ⟨m, hm, rfl, hrun⟩
    ordered := h.ordered }

theorem takeJob (h : Invariant w tasks returned none false) {index : Nat} {job : Job}
    (hjob : returned[index]? = some job) :
    Invariant w tasks (returned.eraseIdx index) (some job.generation) false := by
  have hperm : (owners tasks returned).Perm
      (job.generation :: owners tasks (returned.eraseIdx index)) := by
    rw [owners, owners]
    exact (((perm_eraseIdx hjob).map Job.generation).append_left _).trans List.perm_middle
  exact {
    nodup := hperm.nodup_iff.mp h.nodup
    fresh := fun c hc ↦ h.fresh c (hperm.mem_iff.mpr hc)
    registered := h.registered
    done := fun c hc hdone hmem ↦ h.done c hc hdone (hperm.mem_iff.mpr hmem)
    active := h.active
    running := h.running
    waits := h.waits
    ready := h.ready
    listed := fun c hc ↦ by
      rcases h.listed c hc with ⟨hown, -⟩ | hlisted
      · cases hown
      · exact .inr hlisted
    ordered := h.ordered }

end Invariant

end CosmicMounter.Preload

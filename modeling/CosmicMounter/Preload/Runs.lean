import CosmicMounter.Preload.Quiet

/-!
# Every run waits for its commands

What one segment of a call keeps, and what every run keeps in which no job is
started while a command of an earlier one runs.
-/

namespace CosmicMounter.Preload

variable {w : World} {tasks : List Task} {returned : List Job} {job : Job} {look : Look}

/-! ## Segments -/

def Kept (tasks : List Task) (returned : List Job) (segment : World × Next) : Prop :=
  match segment.2 with
  | .running task => Invariant segment.1 (tasks ++ [task]) returned none false
  | .over => Invariant segment.1 tasks returned none false

theorem Invariant.put {s : State} {segment : World × Next} (h : Kept s.tasks s.returned segment) :
    Invariant (s.put segment).world (s.put segment).tasks (s.put segment).returned none false := by
  unfold Kept at h
  unfold State.put
  split <;> simp_all only

/-! ### `monitor_with` -/

section Monitor

variable (h : Invariant w tasks returned (some job.generation) false)

include h

theorem kept_endMonitor {outcome : Outcome} : Kept tasks returned (endMonitor w job outcome) := by
  have hfinish := h.leave.finish (h.fresh _ (by simp)) h.not_mem_owners
  exact hfinish.note (by simp) (by simp)

theorem kept_pause {stage : Stage}
    (hactive : w.registered = some job.generation ∨ (w.controls job.generation).cancelled = true) :
    Kept tasks returned (pause w job stage) :=
  h.putMonitor (m := ⟨job, .pause stage⟩) rfl (hactive.imp id fun hcancelled ↦ ⟨rfl, hcancelled⟩)

variable (hreg : w.registered = some job.generation)

include hreg

theorem kept_launch {stage : Stage} {args : List String} :
    Kept tasks returned (launch w job stage args) := by
  unfold launch
  split_ifs
  · exact (h.launched hreg).putMonitor (m := ⟨job, .command stage false⟩) rfl (.inl hreg)
  · exact kept_endMonitor h

theorem kept_traverse : Kept tasks returned (traverse w job look) := by
  unfold traverse
  split_ifs
  · exact kept_endMonitor h
  · exact kept_launch h hreg

theorem kept_probeRoot : Kept tasks returned (probeRoot w job look) := by
  unfold probeRoot
  split_ifs
  · exact kept_endMonitor h
  · exact kept_traverse h hreg
  · exact kept_launch h hreg

theorem kept_probeMount : Kept tasks returned (probeMount w job look) := by
  unfold probeMount
  split_ifs
  · exact kept_endMonitor h
  · exact kept_launch h hreg

theorem kept_mountProbed {result : Except CommandError String} :
    Kept tasks returned (mountProbed w job result look) := by
  unfold mountProbed mountReady
  split
  · split_ifs
    · exact kept_probeRoot h hreg
    · exact kept_traverse h hreg
  · split_ifs
    · exact kept_endMonitor h
    · exact kept_pause h (.inl hreg)

theorem kept_rootProbed {result : Except CommandError String} :
    Kept tasks returned (rootProbed w job result look) := by
  unfold rootProbed
  split_ifs
  · exact kept_traverse h hreg
  · exact kept_endMonitor h
  · exact kept_traverse h hreg
  · exact kept_pause h (.inl hreg)

end Monitor

theorem kept_beginMonitor {index : Nat} (h : Invariant w tasks returned none false)
    (hjob : returned[index]? = some job) :
    Kept tasks (returned.eraseIdx index) (beginMonitor w job look) := by
  have htake := h.takeJob hjob
  unfold beginMonitor
  split_ifs with hreg
  · exact htake.leave.note (by simp) (by simp)
  · exact kept_endMonitor htake
  · exact kept_endMonitor htake
  · exact kept_probeMount htake (not_not.mp hreg)

/-- A job whose control is not cancelled is the registered one. -/
theorem kept_commandExited {stage : Stage} {result : Except CommandError String}
    (h : Invariant w tasks returned (some job.generation) false)
    (hactive : w.registered = some job.generation ∨ (w.controls job.generation).cancelled = true) :
    Kept tasks returned (commandExited w job stage result look) := by
  unfold commandExited
  split_ifs with hcancelled
  · exact kept_endMonitor h
  · rw [Bool.or_eq_true, not_or] at hcancelled
    have hreg := hactive.resolve_right hcancelled.1
    cases stage with
    | mount => exact kept_mountProbed h hreg
    | root => exact kept_rootProbed h hreg
    | traversal => exact kept_endMonitor h

theorem kept_wakeMonitor {m : Monitor} {event : Wake}
    (h : Invariant w tasks returned (some m.job.generation) m.pc.runs)
    (hactive : w.registered = some m.job.generation ∨ (w.controls m.job.generation).cancelled = true)
    (hruns : m.pc.runs = true → w.registered = some m.job.generation)
    (hwake : canWake w (.monitor m) event = true) : Kept tasks returned (wakeMonitor w m event) := by
  obtain ⟨job, pc⟩ := m
  cases pc with
  | command stage gateClosed =>
      have hreg := hruns rfl
      cases event with
      | exited result look => exact kept_commandExited h.exited hactive
      | gate => exact h.putMonitor (m := ⟨job, .command stage true⟩) rfl (.inl hreg)
      | cancelled => simp [canWake] at hwake
      | timer look => simp [canWake] at hwake
      | notified => simp [canWake] at hwake
  | pause stage =>
      cases event with
      | timer look =>
          have hreg := hactive.resolve_right (by simpa [canWake] using hwake)
          cases stage with
          | mount => exact kept_probeMount h hreg
          | root => exact kept_probeRoot h hreg
          | traversal => exact kept_probeRoot h hreg
      | exited result look => simp [canWake] at hwake
      | gate => cases stage <;> exact kept_endMonitor h
      | cancelled => cases stage <;> exact kept_endMonitor h
      | notified => simp [canWake] at hwake

/-! ### `cancel_with_timeout` -/

theorem kept_endCancel {g b : Nat} {u : Bool} (h : Invariant w tasks returned none false)
    (hwaits : Waits w g b) (hdone : (w.controls g).done = true) :
    Kept tasks returned (endCancel w g b u) := by
  obtain ⟨hb, hlt, honly⟩ := hwaits
  have hg : g < w.next := hlt.trans_le hb
  have hfinish := h.finish hg (h.done g hg hdone)
  unfold endCancel
  split_ifs
  · refine hfinish.unmountReady hb fun r hr ↦ ?_
    by_contra hrb
    simp only [World.finish] at hr
    split_ifs at hr with hreg
    have heq := honly r hr (not_le.mp hrb)
    exact hreg (heq ▸ hr)
  · exact hfinish

theorem waits_next {g : Nat} (hreg : w.registered = some g) (hg : g < w.next) : Waits w g w.next :=
  ⟨le_rfl, hg, fun _ hr _ ↦ Option.some.inj (hr.symm.trans hreg)⟩

theorem kept_beginCancel {u : Bool} (h : Invariant w tasks returned none false) :
    Kept tasks returned (beginCancel w u) := by
  unfold beginCancel
  split
  · next hreg =>
      show Invariant _ tasks returned none false
      cases u
      · exact h
      · exact h.unmountReady le_rfl (by simp [hreg])
  · next g hreg =>
      have hwaits : Waits (w.cancel g) g w.next := waits_next (w := w.cancel g) hreg (h.registered g hreg)
      split_ifs with hdone
      · exact kept_endCancel (h.cancel g) hwaits (by simpa [World.cancel] using hdone)
      · exact (h.cancel g).putCancel hwaits

theorem kept_wakeCancel {g b : Nat} {u : Bool} (h : Invariant w tasks returned none false)
    (hwaits : Waits w g b) : Kept tasks returned (wakeCancel w g b u) := by
  unfold wakeCancel
  split_ifs with hdone
  · exact kept_endCancel h hwaits hdone
  · exact h.note (by simp) (by simp)
  · exact h

/-! ## Runs -/

def Good (s : State) : Prop := Invariant s.world s.tasks s.returned none false

/-- A job is started only while no command of another job is running. -/
def Allowed (s : State) : Action → Prop
  | .start timeoutSeconds _ _ _ _ =>
      timeoutSeconds ≠ 0 → ∀ m, .monitor m ∈ s.tasks → m.pc.runs = false
  | _ => True

theorem good_init : Good State.init where
  nodup := by simp [State.init, owners]
  fresh := by simp [State.init, owners]
  registered := by simp [State.init, World.init]
  done := by simp [State.init, owners]
  active := by simp [State.init]
  running := by simp [State.init]
  waits := by simp [State.init]
  ready := by simp [State.init, World.init]
  listed _ h := absurd h Interaction.not_pending_nil
  ordered := Interaction.throughout_nil

theorem good_step {s s' : State} {action : Action} (h : Good s) (hallowed : Allowed s action)
    (hstep : step s action = some s') : Good s' := by
  cases action with
  | start timeoutSeconds mountpoint maximumDepth waitForRoot excludedPaths =>
      simp only [step] at hstep
      split_ifs at hstep with hzero
      · rwa [← Option.some.inj hstep]
      · obtain rfl := Option.some.inj hstep
        exact h.insert rfl (hallowed hzero)
  | monitor index look =>
      obtain ⟨job, hjob, rfl⟩ := Option.map_eq_some_iff.mp hstep
      exact Invariant.put (s := { s with returned := s.returned.eraseIdx index }) (kept_beginMonitor h hjob)
  | cancel beforeUnmount =>
      obtain rfl := Option.some.inj hstep
      exact Invariant.put (kept_beginCancel h)
  | wake index event =>
      cases htask : s.tasks[index]? with
      | none => simp [step, htask] at hstep
      | some task =>
          have hmem := List.mem_of_getElem? htask
          simp only [step, htask, Option.ite_none_right_eq_some, Option.some.injEq] at hstep
          obtain ⟨hwake, rfl⟩ := hstep
          refine Invariant.put (s := { s with tasks := s.tasks.eraseIdx index }) ?_
          cases task with
          | monitor m =>
              have htake := h.takeTask htask fun m' heq ↦ congrArg (·.pc.runs) (Task.monitor.inj heq)
              exact kept_wakeMonitor htake (h.active m hmem) (h.running m hmem) hwake
          | cancel g b u =>
              have htake : Invariant s.world (s.tasks.eraseIdx index) s.returned none false :=
                h.takeTask htask (by simp)
              exact kept_wakeCancel htake (h.waits g b u hmem)

/-- A step that the condition allows. -/
def AllowedStep (s : State) (action : Action) (s' : State) : Prop :=
  Allowed s action ∧ step s action = some s'

def inTime : Look := ⟨false, false, false, true⟩

def startPreload : Action := .start 600 "/home/alice/Box" none false []

/-- The mount is there, and the traversal has been launched. -/
def traversing : List Action := [startPreload, .monitor 0 inTime, .wake 0 (.exited (.ok "") inTime)]

def waited : List Action :=
  traversing ++ [.cancel true, .wake 0 (.exited (.error (.cancelled "find")) inTime), .wake 0 .notified]

def stateAfter (actions : List Action) : State := (run State.init actions).getD State.init

/-- The job is replaced while its traversal runs, and the unmount waits for the newer one alone. -/
def overlooked : List Action :=
  traversing ++ [startPreload, .cancel true, .monitor 0 inTime,
    .wake 2 (.exited (.error (.cancelled "mountpoint")) inTime), .wake 1 .notified]

end CosmicMounter.Preload

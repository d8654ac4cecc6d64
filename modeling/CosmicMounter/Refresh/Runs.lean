import CosmicMounter.Refresh.Settled

/-!
# Every run settles its jobs

What one segment of a call keeps, and what every run of `start`, `monitor`
and `cancel` calls keeps while no call goes wrong.
-/

namespace CosmicMounter.Refresh

open Rust Serde

variable {fromStr : FromStr} {paths : Paths} {w : World} {tasks : List Task} {returned : List Job}
variable {own held : Option Nat} {c : Nat} {look : Look} {m : Monitor}

/-! ## Segments -/

/-- The invariant holds once the segment of a call is over. -/
def Kept (fromStr : FromStr) (tasks : List Task) (returned : List Job) (segment : World × Next) :
    Prop :=
  match segment.2 with
  | .running task => Invariant fromStr segment.1 (tasks ++ [task]) returned none none
  | .returned job => Invariant fromStr segment.1 tasks (returned ++ [job]) none none
  | .over => Invariant fromStr segment.1 tasks returned none none

theorem Invariant.put {s : State} {segment : World × Next} (h : Kept fromStr s.tasks s.returned segment) :
    Invariant fromStr (s.put segment).world (s.put segment).tasks (s.put segment).returned none none := by
  unfold Kept at h
  unfold State.put
  split <;> simp_all only

/-- A start that waits while no job of its control is open. -/
theorem Invariant.waitStart (h : Invariant fromStr w tasks returned own none) {pc : StartPc}
    (howner : (Task.start pc).owner = own) (hpc : ∀ old, pc ≠ .cancelling old) :
    Kept fromStr tasks returned (w, .running (.start pc)) := by
  refine h.putTask howner (by simp) ?_ (by simp)
  rintro old (heq | heq)
  · exact absurd (Task.start.inj heq) (hpc old)
  · cases heq

theorem Invariant.waitMonitor (h : Invariant fromStr w tasks returned (some m.control) held)
    (hheld : ∀ j, held = some j → (Task.monitor m).held = some j) (hphase : PhaseOk fromStr w.log m) :
    Kept fromStr tasks returned (w, .running (.monitor m)) := by
  refine h.putTask rfl hheld ?_ ?_
  · rintro old (heq | heq) <;> cases heq
  · intro m' heq
    rwa [← Task.monitor.inj heq]

/-! ### `start_with` -/

theorem kept_failStart (h : Invariant fromStr w tasks returned (some c) none) :
    Kept fromStr tasks returned (failStart w c) := by
  have hfinish := h.finish (.inl rfl)
  exact hfinish.fail rfl

theorem kept_probeFailed (h : Invariant fromStr w tasks returned (some c) none) :
    Kept fromStr tasks returned (probeFailed w c look) := by
  unfold probeFailed
  split_ifs
  · exact kept_failStart h
  · exact h.waitStart rfl (by simp)

theorem kept_register (h : Invariant fromStr w tasks returned none none)
    (hreg : look.admitted = true → ∀ job ∈ returned, w.registered = some job.control →
      (w.controls job.control).cancelled = true) :
    Kept fromStr tasks returned (register paths w look) := by
  unfold register
  split_ifs with hadmitted
  · exact h
  · have hinsert := h.insert (hreg (by simpa using hadmitted))
    exact hinsert.waitStart rfl (by simp)
  · exact kept_failStart (h.insert (hreg (by simpa using hadmitted)))

theorem stop_cancel {j : Nat} (h : Invariant fromStr w tasks returned own held)
    (hj : (w.controls c).jobId = some j) :
    Invariant fromStr ((w.cancel c).add (.stop j)) tasks returned own held := by
  have hstop : Invariant fromStr (w.add (.stop j)) tasks returned own held :=
    h.add (by simp) (by simp) (by simp) fun _ hi ↦ .inl hi
  refine hstop.cancel fun i hi ↦ ?_
  obtain rfl := Option.some.inj (hj.symm.trans hi)
  exact Interaction.not_pending_append rfl (by simp [Submits])

theorem cancel_finish (h : Invariant fromStr w tasks returned none none)
    (hj : (w.controls c).jobId = none) :
    Invariant fromStr ((w.cancel c).finish c) tasks returned none none := by
  have hcancel := h.cancel (c := c) (by simp [hj])
  refine hcancel.finish (.inr (.inl ?_))
  simp [World.cancel]

theorem registered_finish (hreg : w.registered = some c) : (w.finish c).registered = none := by
  simp [World.finish, hreg]

theorem kept_beginStart (h : Invariant fromStr w tasks returned none none) :
    Kept fromStr tasks returned (beginStart paths w look) := by
  unfold beginStart
  split
  · next hreg =>
      refine kept_register h fun _ job _ hjob ↦ ?_
      rw [hreg] at hjob
      cases hjob
  · next old hreg =>
      split
      · next j hj =>
          have hstop := stop_cancel h hj
          refine hstop.putTask rfl (by simp) ?_ (by simp)
          rintro old' (heq | heq)
          · obtain rfl := StartPc.cancelling.inj (Task.start.inj heq)
            exact ⟨h.registered old hreg, by simp [World.add, World.cancel]⟩
          · cases heq
      · next hj =>
          have hnone : ((w.cancel old).finish old).registered = none := registered_finish hreg
          refine kept_register (cancel_finish h hj) fun _ job _ hjob ↦ ?_
          rw [hnone] at hjob
          cases hjob

theorem submitted_ok {result : Except CommandError String} {j : Nat} {executeId : String}
    (h : submitted fromStr result = .ok (j, executeId)) :
    ∃ output, result = .ok output ∧ parseJobStart fromStr output = .ok (j, executeId) := by
  cases result with
  | error error => cases h
  | ok output => exact ⟨output, rfl, h⟩

theorem kept_startSubmitted {result : Except CommandError String}
    (h : Invariant fromStr w tasks returned (some c) none)
    (hj : ∀ j executeId, submitted fromStr result = .ok (j, executeId) → ∀ job ∈ returned, job.jobId ≠ j) :
    Kept fromStr tasks returned (startSubmitted fromStr w c result) := by
  unfold startSubmitted
  split
  · exact kept_failStart h
  · next j executeId hresult =>
      have hsubmit := h.submit executeId false (hj j executeId hresult)
      dsimp only
      split_ifs with hlost
      · have hstop := hsubmit.stop fun i hi ↦ (Option.some.inj hi).symm
        exact hstop.waitStart rfl (by simp)
      · rw [Bool.or_eq_true, not_or] at hlost
        obtain ⟨hcancelled, hcurrent⟩ := hlost
        refine hsubmit.putReturned ?_ ?_ ?_
        · exact List.sublist_append_right _ _
        · simpa [World.isCurrent] using hcurrent
        · have hnot : (w.controls c).cancelled = false := by
            simpa [World.add, World.setJob] using hcancelled
          simp [World.add, World.setJob, hnot]

/-! ### `monitor_with` -/

theorem kept_endMonitor {outcome : Outcome} (h : Invariant fromStr w tasks returned (some m.control) none)
    (hcompleted : outcome = .completed → Completed fromStr w.log m.control) :
    Kept fromStr tasks returned (endMonitor w m outcome) := by
  have hfinish := h.finish (c := m.control) (.inl rfl)
  refine hfinish.finish_with rfl fun heq ↦ ?_
  have hlog : (w.finish m.control).log = w.log := by
    unfold World.finish
    split_ifs <;> rfl
  rw [hlog]
  exact hcompleted heq

theorem kept_stopMonitor {outcome : Outcome} (h : Invariant fromStr w tasks returned (some m.control) held)
    (hheld : ∀ i, held = some i → i = m.active) (hjob : m.control = m.job.control)
    (hcompleted : outcome ≠ .completed) : Kept fromStr tasks returned (stopMonitor w m outcome) := by
  have hstop := h.stop hheld
  exact hstop.waitMonitor (m := { m with pc := .stopping outcome }) (by simp) ⟨hjob, hcompleted⟩

theorem kept_poll (h : Invariant fromStr w tasks returned (some m.control) held)
    (hheld : ∀ i, held = some i → i = m.active)
    (hphase : PhaseOk fromStr w.log { m with pc := .status }) :
    Kept fromStr tasks returned (poll w m look) := by
  unfold poll
  split_ifs
  · exact kept_stopMonitor h hheld hphase.1 (by simp)
  · refine h.waitMonitor (m := { m with pc := .status }) (fun j hj ↦ ?_) hphase
    rw [hheld j hj]
    rfl

theorem currentControl_eq {jobId : Nat} (h : currentControl w jobId = some c) :
    w.registered = some c ∧ (w.controls c).jobId = some jobId := by
  obtain ⟨hreg, hjob⟩ := Option.filter_eq_some_iff.mp h
  exact ⟨hreg, of_decide_eq_true hjob⟩

theorem kept_beginMonitor {job : Job} {index : Nat} (h : Invariant fromStr w tasks returned none none)
    (hjob : returned[index]? = some job) :
    Kept fromStr tasks (returned.eraseIdx index) (beginMonitor w job look) := by
  have hmem := List.mem_of_getElem? hjob
  unfold beginMonitor
  split
  · next hnone =>
      have htake := h.takeJob none hjob fun hreg hcontrol ↦ by
        have hsome : currentControl w job.jobId = some job.control :=
          Option.filter_eq_some_iff.mpr ⟨hreg, by simp [hcontrol]⟩
        rw [hnone] at hsome
        cases hsome
      exact htake.finish_with rfl (by simp)
  · next control hsome =>
      obtain ⟨hreg, hcontrol⟩ := currentControl_eq hsome
      obtain rfl := h.matched job hmem control hreg hcontrol
      have htake := h.takeJob (some job.jobId) hjob fun _ _ ↦ rfl
      have hheld : ∀ i, some job.jobId = some i → i = job.jobId := fun i hi ↦ (Option.some.inj hi).symm
      dsimp only
      split_ifs
      · exact kept_poll htake hheld ⟨rfl, h.begun job hmem, rfl⟩
      · exact kept_stopMonitor htake hheld rfl (by simp)

theorem SecondBegun.completed {log : List Entry} {output : String} (hcontrol : m.control = m.job.control)
    (h : SecondBegun fromStr log m.job m.active)
    (hsuccess : Succeeds fromStr output m.job.executeId m.active) :
    Completed fromStr (log ++ [.status output]) m.control := by
  obtain ⟨first, hfirst, hsub⟩ := h
  rw [hcontrol]
  exact ⟨m.job.jobId, m.active, m.job.executeId, first, output, hfirst, hsuccess,
    sublist_extend (.status output) hsub⟩

theorem kept_statusAnswered {output : String} {status : JobStatus}
    (h : Invariant fromStr w tasks returned (some m.control) (some m.active))
    (hphase : PhaseOk fromStr w.log { m with pc := .status })
    (hstatus : parseJobStatus fromStr output m.job.executeId m.active = .ok status) :
    Kept fromStr tasks returned (statusAnswered fromStr w m output look) := by
  unfold statusAnswered
  rw [hstatus]
  dsimp only
  split_ifs with hunfinished hfailed hrecursive
  · -- the job goes on
    exact (h.status output).waitMonitor (m := { m with pc := .pause }) (fun j hj ↦ hj)
      (hphase.grow (.status output))
  all_goals
    have hfinished : status.finished = true := by simpa using hunfinished
    have hdone := h.finished output fun i hi ↦ by
      rw [← Option.some.inj hi]
      exact finishes_of_parseJobStatus hstatus hfinished
  · exact kept_endMonitor hdone (by simp)
  all_goals
    have hsuccess := succeeds_of_parseJobStatus hstatus hfinished (by simpa using hfailed)
    have hrun := hphase.2
  · simp only [hrecursive, if_true] at hrun
    exact kept_endMonitor hdone fun _ ↦ hrun.completed hphase.1 hsuccess
  · exact kept_endMonitor hdone (by simp)
  · simp only [hrecursive] at hrun
    obtain ⟨hbegun, hactive⟩ := hrun
    refine hdone.waitMonitor (m := { m with pc := .submitting }) (by simp) ⟨hphase.1, output, ?_, ?_⟩
    · rwa [← hactive]
    · exact sublist_extend (.status output) hbegun

theorem kept_monitorSubmitted {result : Except CommandError String}
    (h : Invariant fromStr w tasks returned (some m.control) none)
    (hcontrol : m.control = m.job.control) (hfirst : FirstDone fromStr w.log m.job)
    (hj : ∀ j executeId, submitted fromStr result = .ok (j, executeId) → ∀ job ∈ returned, job.jobId ≠ j) :
    Kept fromStr tasks returned (monitorSubmitted fromStr w m result look) := by
  unfold monitorSubmitted
  split
  · exact kept_endMonitor h (by simp)
  · next j executeId hresult =>
      have hsubmit := h.submit executeId true (hj j executeId hresult)
      have hheld : ∀ i, some j = some i → i = j := fun i hi ↦ (Option.some.inj hi).symm
      dsimp only
      split_ifs with hexecute hlost
      · exact kept_stopMonitor (m := { m with active := j }) hsubmit hheld hcontrol (by simp)
      · exact kept_stopMonitor (m := { m with active := j }) hsubmit hheld hcontrol (by simp)
      · refine kept_poll (m := { m with active := j, recursive := true }) hsubmit hheld ⟨hcontrol, ?_⟩
        obtain ⟨output, hsuccess, hsub⟩ := hfirst
        refine ⟨output, hsuccess, ?_⟩
        rw [not_not.mp hexecute, hcontrol]
        exact sublist_extend (.submitted m.job.control j m.job.executeId true) hsub

/-! ### `cancel_with` -/

theorem kept_beginCancel (h : Invariant fromStr w tasks returned none none) :
    Kept fromStr tasks returned (beginCancel w) := by
  unfold beginCancel
  split
  · exact h
  · next c hreg =>
      split
      · next j hj =>
          have hstop := stop_cancel h hj
          refine hstop.putTask rfl (by simp) ?_ (by simp)
          rintro old (heq | heq)
          · cases heq
          · obtain rfl := Task.cancel.inj heq
            exact ⟨h.registered c hreg, by simp [World.add, World.cancel]⟩
      · next hj => exact cancel_finish h hj

/-! ## Answers that leave no job behind -/

/-- No job that waits for its monitor has this id. -/
def NewJobId (fromStr : FromStr) (s : State) (result : Except CommandError String) : Prop :=
  ∀ jobId executeId, submitted fromStr result = .ok (jobId, executeId) →
    ∀ job ∈ s.returned, job.jobId ≠ jobId

/-- A `job/status` request is answered about its job, by the instance that started the refresh; a
new job has no id that a job still to be monitored has; and a start that has waited for the end of
an older refresh finds no refresh that is still to be monitored. -/
def Answerable (fromStr : FromStr) (s : State) (result : Except CommandError String) (look : Look) :
    Task → Prop
  | .start (.cancelling _) =>
      look.admitted = true → ∀ job ∈ s.returned, s.world.registered = some job.control →
        (s.world.controls job.control).cancelled = true
  | .start (.submitting _) | .monitor ⟨_, _, _, _, .submitting⟩ => NewJobId fromStr s result
  | .monitor ⟨_, job, active, _, .status⟩ =>
      ∃ output status, result = .ok output ∧
        parseJobStatus fromStr output job.executeId active = .ok status
  | _ => True

def Allowed (fromStr : FromStr) (s : State) : Action → Prop
  | .wake index (.answer result look) =>
      ∀ task, s.tasks[index]? = some task → Answerable fromStr s result look task
  | _ => True

section Wake

variable {s : State}

theorem kept_cancelling {old : Nat} (h : Invariant fromStr w tasks s.returned none none)
    (hworld : w = s.world) (hold : (w.controls old).cancelled = true)
    (hanswer : look.admitted = true → ∀ job ∈ s.returned, s.world.registered = some job.control →
      (s.world.controls job.control).cancelled = true) :
    Kept fromStr tasks s.returned (register paths (w.finish old) look) := by
  subst hworld
  refine kept_register (h.finish (.inr (.inl hold))) fun hadmitted job hjob hreg ↦ ?_
  by_cases hold : s.world.registered = some old
  · rw [registered_finish hold] at hreg
    cases hreg
  · rw [World.finish, if_neg hold] at hreg ⊢
    exact hanswer hadmitted job hjob hreg

theorem kept_wakeStart {pc : StartPc} {event : Wake}
    (h : Invariant fromStr s.world tasks s.returned (Task.start pc).owner none)
    (hcancels : ∀ old, (Task.start pc).Cancels old →
      old < s.world.next ∧ (s.world.controls old).cancelled = true)
    (hanswer : ∀ result look, event = .answer result look →
      Answerable fromStr s result look (.start pc)) :
    Kept fromStr tasks s.returned (wakeStart fromStr paths s.world pc event) := by
  have hwait (hpc : ∀ old, pc ≠ .cancelling old) :
      Kept fromStr tasks s.returned (s.world, .running (.start pc)) := h.waitStart rfl hpc
  cases pc with
  | cancelling old =>
      have hstay : Kept fromStr tasks s.returned (s.world, .running (.start (.cancelling old))) :=
        h.putTask rfl (by simp) hcancels (by simp)
      cases event with
      | cancelled => exact hstay
      | gate => exact hstay
      | answer result look =>
          exact kept_cancelling h rfl (hcancels old (.inl rfl)).2 (hanswer result look rfl)
  | stopping c =>
      cases event with
      | cancelled => exact hwait (by simp)
      | gate => exact hwait (by simp)
      | answer result look => exact kept_failStart h
  | mountProbe c =>
      rcases event with - | - | ⟨result | output, look⟩
      · exact kept_failStart h
      · exact kept_failStart h
      · exact kept_probeFailed h
      · unfold wakeStart
        split_ifs
        · exact h.waitStart rfl (by simp)
        · exact kept_failStart h
  | rcProbe c =>
      rcases event with - | - | ⟨result | output, look⟩
      · exact kept_failStart h
      · exact kept_failStart h
      · exact kept_probeFailed h
      · exact h.waitStart rfl (by simp)
  | pause c =>
      cases event with
      | cancelled => exact kept_failStart h
      | gate => exact kept_failStart h
      | answer result look => exact h.waitStart rfl (by simp)
  | submitting c =>
      cases event with
      | cancelled => exact kept_failStart h
      | gate => exact kept_failStart h
      | answer result look => exact kept_startSubmitted h (hanswer result look rfl)

theorem kept_wakeMonitor {event : Wake}
    (h : Invariant fromStr s.world tasks s.returned (some m.control) (Task.monitor m).held)
    (hphase : PhaseOk fromStr s.world.log m)
    (hanswer : ∀ result look, event = .answer result look →
      Answerable fromStr s result look (.monitor m)) :
    Kept fromStr tasks s.returned (wakeMonitor fromStr s.world m event) := by
  have hstay : Kept fromStr tasks s.returned (s.world, .running (.monitor m)) :=
    h.waitMonitor (fun _ hj ↦ hj) hphase
  obtain ⟨control, job, active, recursive, pc⟩ := m
  cases pc with
  | status =>
      have hheld : ∀ i, some active = some i → i = active := fun i hi ↦ (Option.some.inj hi).symm
      cases event with
      | cancelled => exact kept_stopMonitor h hheld hphase.1 (by simp)
      | gate => exact kept_stopMonitor h hheld hphase.1 (by simp)
      | answer result look =>
          obtain ⟨output, status, rfl, hstatus⟩ := hanswer result look rfl
          exact kept_statusAnswered h hphase hstatus
  | pause =>
      have hheld : ∀ i, some active = some i → i = active := fun i hi ↦ (Option.some.inj hi).symm
      cases event with
      | cancelled => exact kept_stopMonitor h hheld hphase.1 (by simp)
      | gate => exact kept_stopMonitor h hheld hphase.1 (by simp)
      | answer result look => exact kept_poll h hheld hphase
  | submitting =>
      cases event with
      | cancelled => exact kept_endMonitor h (by simp)
      | gate => exact kept_endMonitor h (by simp)
      | answer result look =>
          exact kept_monitorSubmitted h hphase.1 hphase.2 (hanswer result look rfl)
  | stopping outcome =>
      cases event with
      | cancelled => exact hstay
      | gate => exact hstay
      | answer result look => exact kept_endMonitor h fun heq ↦ absurd heq hphase.2

theorem kept_wakeTask {task : Task} {event : Wake}
    (h : Invariant fromStr s.world tasks s.returned task.owner task.held)
    (hcancels : ∀ old, task.Cancels old → old < s.world.next ∧ (s.world.controls old).cancelled = true)
    (hphase : ∀ m, task = .monitor m → PhaseOk fromStr s.world.log m)
    (hanswer : ∀ result look, event = .answer result look → Answerable fromStr s result look task) :
    Kept fromStr tasks s.returned (wakeTask fromStr paths s.world task event) := by
  cases task with
  | start pc => exact kept_wakeStart h hcancels hanswer
  | monitor m => exact kept_wakeMonitor h (hphase m rfl) hanswer
  | cancel c =>
      have hstay : Kept fromStr tasks s.returned (s.world, .running (.cancel c)) :=
        h.putTask rfl (by simp) hcancels (by simp)
      cases event with
      | cancelled => exact hstay
      | gate => exact hstay
      | answer result look => exact h.finish (.inr (.inl (hcancels c (.inr rfl)).2))

end Wake

/-! ## Runs -/

def Good (fromStr : FromStr) (s : State) : Prop :=
  Invariant fromStr s.world s.tasks s.returned none none

theorem good_init : Good fromStr State.init where
  nodup := by simp [State.init, owners]
  fresh := by simp [State.init, owners]
  registered := by simp [State.init, World.init]
  matched := by simp [State.init]
  begun := by simp [State.init]
  cancels := by simp [State.init]
  tracked := by
    intro c j hopen
    exact absurd hopen Interaction.not_pending_nil
  ended := by simp [State.init, World.init, HasEnded]
  phases := by simp [State.init]
  completed := by simp [State.init, World.init]

theorem good_step {s s' : State} {action : Action} (h : Good fromStr s)
    (hallowed : Allowed fromStr s action) (hstep : step fromStr paths s action = some s') :
    Good fromStr s' := by
  cases action with
  | start look =>
      obtain rfl := Option.some.inj hstep
      exact Invariant.put (kept_beginStart h)
  | cancel =>
      obtain rfl := Option.some.inj hstep
      exact Invariant.put (kept_beginCancel h)
  | monitor index look =>
      obtain ⟨job, hjob, rfl⟩ := Option.map_eq_some_iff.mp hstep
      exact Invariant.put (s := { s with returned := s.returned.eraseIdx index }) (kept_beginMonitor h hjob)
  | wake index event =>
      cases htask : s.tasks[index]? with
      | none => simp [step, htask] at hstep
      | some task =>
          have hmem := List.mem_of_getElem? htask
          simp only [step, htask, Option.ite_none_right_eq_some, Option.some.injEq] at hstep
          obtain ⟨-, rfl⟩ := hstep
          refine Invariant.put (s := { s with tasks := s.tasks.eraseIdx index }) ?_
          refine kept_wakeTask (s := s) (h.takeTask htask) (h.cancels task hmem) ?_ ?_
          · rintro m rfl
            exact h.phases m hmem
          · rintro result look rfl
            exact hallowed task htask

/-- A step that the condition allows. -/
def AllowedStep (fromStr : FromStr) (paths : Paths) (s : State) (action : Action) (s' : State) : Prop :=
  Allowed fromStr s action ∧ step fromStr paths s action = some s'

/-- A call for the control has returned `Err`, `Cancelled` or `TimedOut`, or the control is replaced
and its calls have returned. -/
def IsOver (s : State) (control : Nat) : Prop :=
  .startFailed control ∈ s.world.log ∨
    (∃ outcome, outcome ≠ .completed ∧ .ended control outcome ∈ s.world.log) ∨
    (s.world.registered ≠ some control ∧ ∀ task ∈ s.tasks, task.owner ≠ some control)

/-- No refresh job outlives its control. -/
def Settled (fromStr : FromStr) (s : State) : Prop :=
  (∀ control, IsOver s control → ∀ jobId, ¬Open fromStr s.world.log control jobId) ∧
    ∀ control, .ended control .completed ∈ s.world.log → Completed fromStr s.world.log control

theorem Good.settled {s : State} (h : Good fromStr s) : Settled fromStr s := by
  refine ⟨fun control hover jobId hopen ↦ ?_, h.completed⟩
  rcases h.tracked control jobId hopen with ⟨hown, -⟩ | htracked
  · cases hown
  · have howner := htracked.mem_owners
    rcases hover with hfailed | ⟨outcome, -, hended⟩ | ⟨hreg, htasks⟩
    · exact (h.ended control (.inl hfailed)).2 howner
    · exact (h.ended control (.inr ⟨outcome, hended⟩)).2 howner
    · rcases htracked with ⟨task, htask, hcontrol, -⟩ | ⟨job, -, -, -, hcurrent, -⟩
      · exact htasks task htask hcontrol
      · exact hreg hcurrent

/-- While every step is allowed, no refresh job outlives its control. -/
theorem settled_of_steps {actions : List Action} {s : State}
    (h : Interaction.Steps (AllowedStep fromStr paths) State.init actions s) : Settled fromStr s := by
  have hgood := h.invariant (Good fromStr) good_init fun s action s' hs hstep ↦
    good_step hs hstep.1 hstep.2
  exact hgood.settled

/-! ### A refresh of both phases, and a lost answer -/

def startAnswer (jobId : Nat) : String :=
  if jobId = 1 then "\x7b\"jobid\":1,\"executeId\":\"e\"\x7d"
  else "\x7b\"jobid\":2,\"executeId\":\"e\"\x7d"

def statusAnswer (jobId : Nat) : String :=
  if jobId = 1 then "\x7b\"id\":1,\"executeId\":\"e\",\"finished\":true,\"success\":true\x7d"
  else "\x7b\"id\":2,\"executeId\":\"e\",\"finished\":true,\"success\":true\x7d"

def startValue (jobId : Nat) : Value :=
  .ofFields [("jobid", .number (.unsigned jobId)), ("executeId", .string "e")]

def statusValue (jobId : Nat) : Value :=
  .ofFields [("id", .number (.unsigned jobId)), ("executeId", .string "e"), ("finished", .bool true),
    ("success", .bool true)]

def sampleFromStr (text : String) : Except String Value :=
  if text = startAnswer 1 then .ok (startValue 1)
  else if text = startAnswer 2 then .ok (startValue 2)
  else if text = statusAnswer 1 then .ok (statusValue 1)
  else if text = statusAnswer 2 then .ok (statusValue 2)
  else .error "EOF while parsing a value at line 1 column 0"

def samplePaths : Paths := ⟨"/run/user/1000/rc.sock", "/home/alice/Drive"⟩

def inTime : Look := ⟨false, true⟩

def answers (output : String) : Action := .wake 0 (.answer (.ok output) inTime)

def started : List Action := [.start inTime, answers "", answers "", answers (startAnswer 1)]

def refreshed : List Action :=
  started ++ [.monitor 0 inTime, answers (statusAnswer 1), answers (startAnswer 2),
    answers (statusAnswer 2)]

def stateAfter (actions : List Action) : State :=
  (run sampleFromStr samplePaths State.init actions).getD State.init

theorem newJobId_sample {s : State} {result : Except CommandError String} (h : s.returned = []) :
    NewJobId fromStr s result := by
  intro jobId executeId _ job hjob
  rw [h] at hjob
  cases hjob

def SampleSteps (actions : List Action) : Prop :=
  Interaction.Steps (AllowedStep sampleFromStr samplePaths) State.init actions (stateAfter actions)

theorem sampleSteps_answers {actions : List Action} (output : String) {task : Task}
    (h : SampleSteps actions) (htask : (stateAfter actions).tasks = [task])
    (hanswer : Answerable sampleFromStr (stateAfter actions) (.ok output) inTime task)
    (hstep : step sampleFromStr samplePaths (stateAfter actions) (answers output) =
      some (stateAfter (actions ++ [answers output]))) : SampleSteps (actions ++ [answers output]) := by
  refine .step h ⟨fun task' htask' ↦ ?_, hstep⟩
  rw [htask] at htask'
  obtain rfl := Option.some.inj htask'
  exact hanswer

theorem sampleSteps_refreshed : SampleSteps refreshed := by
  have hstart : SampleSteps [.start inTime] := .single ⟨trivial, rfl⟩
  have hmounted := sampleSteps_answers "" hstart rfl trivial rfl
  have hready := sampleSteps_answers "" hmounted rfl trivial rfl
  have hroot : SampleSteps started :=
    sampleSteps_answers (startAnswer 1) hready rfl (newJobId_sample rfl) rfl
  have hmonitor : SampleSteps (started ++ [.monitor 0 inTime]) := .step hroot ⟨trivial, rfl⟩
  have hlisted := sampleSteps_answers (statusAnswer 1) hmonitor rfl ⟨_, _, rfl, rfl⟩ rfl
  have hwhole := sampleSteps_answers (startAnswer 2) hlisted rfl (newJobId_sample rfl) rfl
  exact sampleSteps_answers (statusAnswer 2) hwhole rfl ⟨_, _, rfl, rfl⟩ rfl

theorem settled_refreshed : .ended 0 .completed ∈ (stateAfter refreshed).world.log ∧
    Settled sampleFromStr (stateAfter refreshed) :=
  ⟨List.mem_of_getLast? rfl, settled_of_steps sampleSteps_refreshed⟩

/-- A status answer that cannot be read ends the monitor, and leaves the job running. -/
theorem unread_status_leaves_job : ∃ actions s,
    run sampleFromStr samplePaths State.init actions = some s ∧ ¬Settled sampleFromStr s := by
  refine ⟨started ++ [.monitor 0 inTime, answers ""], stateAfter (started ++ [.monitor 0 inTime, answers ""]), rfl, ?_⟩
  rintro ⟨hsettled, -⟩
  refine hsettled 0 (.inr (.inl ⟨_, ?_, List.mem_of_getLast? rfl⟩)) 1
    ⟨[], _, [.status "", .ended 0 _], rfl, ⟨"e", false, rfl⟩, ?_⟩
  · simp
  · simp [Settles, Finishes, sampleFromStr, startAnswer, statusAnswer]

end CosmicMounter.Refresh

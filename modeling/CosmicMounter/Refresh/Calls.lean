import CosmicMounter.Host.Request
import CosmicMounter.Process.Argument
import CosmicMounter.Providers.VfsHealth

/-!
# Refreshing a mounted remote

`start`, `monitor` and `cancel` of `rclone_refresh.rs` for one connection.
Each call is a task that runs from one point at which it waits to the next;
between them it has the registry and its control for itself.
-/

namespace CosmicMounter.Refresh

open Rust Serde

/-! ## Answers of the remote control -/

structure JobStatus where
  finished : Bool
  success : Bool
  error : String
  deriving DecidableEq, Repr

inductive Failure
  | message (message : Message)
  | command (error : CommandError)
  deriving DecidableEq, Repr

def plainMessage (key : String) : Failure := .message ⟨key, []⟩

def field (value : Value) (name : String) : Option String := (value.get name).bind Value.asStr

def flag (value : Value) (name : String) : Bool := ((value.get name).bind Value.asBool).getD false

def parseJobStart (fromStr : FromStr) (output : String) : Except Failure (Nat × String) :=
  match fromStr output with
  | .error error =>
      .error (.message ⟨"ui-rclone-refresh-invalid-rclone-refresh-response-error", [("error", error)]⟩)
  | .ok value =>
      match (value.get "jobid").bind Value.asU64 with
      | none => .error (plainMessage "ui-rclone-refresh-rclone-refresh-response-did-not-contain-a")
      | some jobId =>
          match (field value "executeId").filter (· ≠ "") with
          | none => .error (plainMessage "ui-rclone-refresh-rclone-refresh-response-did-not-contain-an")
          | some executeId => .ok (jobId, executeId)

def isFailedEntry (entry : String × Value) : Bool :=
  match entry.2 with
  | .string message => Str.toAsciiLowercase message != "ok"
  | _ => false

/-- An entry of `output.result` that is a text other than `OK`. -/
def providerResultFailed (value : Value) : Bool :=
  match (value.get "output").bind (Value.get "result") with
  | some (.object fields) => fields.toList.any isFailedEntry
  | _ => false

def parseJobStatus (fromStr : FromStr) (output executeId : String) (jobId : Nat) :
    Except Failure JobStatus :=
  match fromStr output with
  | .error error =>
      .error (.message ⟨"ui-rclone-refresh-invalid-rclone-job-status-error", [("error", error)]⟩)
  | .ok value =>
      if (value.get "id").bind Value.asU64 ≠ some jobId then
        .error (plainMessage "ui-rclone-refresh-rclone-job-status-returned-a-different-job")
      else if (field value "executeId").getD "" ≠ executeId then
        .error (plainMessage "ui-rclone-refresh-rclone-restarted-while-the-directory-refresh-was")
      else .ok {
        finished := flag value "finished"
        success := !providerResultFailed value && flag value "success"
        error :=
          if providerResultFailed value then
            "ui-rclone-refresh-the-storage-provider-rejected-part-of-the"
          else (field value "error").getD "" }

def JobStatus.failure (status : JobStatus) : Failure :=
  if status.error = "" then
    plainMessage "ui-rclone-refresh-rclone-directory-refresh-finished-without-success"
  else .message
    ⟨"ui-rclone-refresh-rclone-directory-refresh-failed-value1", [("value1", status.error)]⟩

/-- The answer reports this job as finished. -/
def Finishes (fromStr : FromStr) (output : String) (jobId : Nat) : Prop :=
  ∃ value, fromStr output = .ok value ∧ (value.get "id").bind Value.asU64 = some jobId ∧
    flag value "finished" = true

/-- The answer reports this job of this instance as finished and successful, in every entry. -/
def Succeeds (fromStr : FromStr) (output executeId : String) (jobId : Nat) : Prop :=
  ∃ value, fromStr output = .ok value ∧ (value.get "id").bind Value.asU64 = some jobId ∧
    (field value "executeId").getD "" = executeId ∧ flag value "finished" = true ∧
    flag value "success" = true ∧ providerResultFailed value = false

section Status

variable {fromStr : FromStr} {output executeId : String} {jobId : Nat} {status : JobStatus}

theorem value_of_parseJobStatus (h : parseJobStatus fromStr output executeId jobId = .ok status) :
    ∃ value, fromStr output = .ok value ∧ (value.get "id").bind Value.asU64 = some jobId ∧
      (field value "executeId").getD "" = executeId ∧ status.finished = flag value "finished" ∧
      status.success = (!providerResultFailed value && flag value "success") := by
  unfold parseJobStatus at h
  split at h
  · cases h
  · next value hvalue =>
      by_cases hid : (value.get "id").bind Value.asU64 = some jobId
      · by_cases hexecute : (field value "executeId").getD "" = executeId
        · rw [if_neg (not_not.mpr hid), if_neg (not_not.mpr hexecute)] at h
          obtain rfl := Except.ok.inj h
          exact ⟨value, hvalue, hid, hexecute, rfl, rfl⟩
        · rw [if_neg (not_not.mpr hid), if_pos hexecute] at h
          cases h
      · rw [if_pos hid] at h
        cases h

theorem finishes_of_parseJobStatus (h : parseJobStatus fromStr output executeId jobId = .ok status)
    (hfinished : status.finished = true) : Finishes fromStr output jobId := by
  obtain ⟨value, hvalue, hid, -, hflag, -⟩ := value_of_parseJobStatus h
  exact ⟨value, hvalue, hid, hflag ▸ hfinished⟩

theorem succeeds_of_parseJobStatus (h : parseJobStatus fromStr output executeId jobId = .ok status)
    (hfinished : status.finished = true) (hsuccess : status.success = true) :
    Succeeds fromStr output executeId jobId := by
  obtain ⟨value, hvalue, hid, hexecute, hflag, hresult⟩ := value_of_parseJobStatus h
  rw [hresult, Bool.and_eq_true, Bool.not_eq_true'] at hsuccess
  exact ⟨value, hvalue, hid, hexecute, hflag ▸ hfinished, hsuccess.2, hsuccess.1⟩

end Status

/-! ## The registry -/

/-- Controls are numbered in the order in which they are made. -/
structure Control where
  cancelled : Bool
  jobId : Option Nat
  deriving DecidableEq, Repr

inductive Outcome
  | completed
  | cancelled
  | timedOut
  | failed (error : Failure)
  deriving DecidableEq, Repr

/-- What has happened to the jobs so far. -/
inductive Entry
  | submitted (control jobId : Nat) (executeId : String) (recursive : Bool)
  | status (output : String)
  | stop (jobId : Nat)
  | startFailed (control : Nat)
  | ended (control : Nat) (outcome : Outcome)
  deriving DecidableEq, Repr

structure World where
  registered : Option Nat
  next : Nat
  controls : Nat → Control
  log : List Entry

namespace World

def init : World := ⟨none, 0, fun _ ↦ ⟨false, none⟩, []⟩

variable (w : World)

def add (entry : Entry) : World := { w with log := w.log ++ [entry] }

def finish (control : Nat) : World :=
  if w.registered = some control then { w with registered := none } else w

def isCurrent (control : Nat) : Bool := w.registered == some control

def setJob (control jobId : Nat) : World :=
  { w with
    controls := Function.update w.controls control { w.controls control with jobId := some jobId } }

def cancel (control : Nat) : World :=
  { w with
    controls := Function.update w.controls control { w.controls control with cancelled := true } }

def insert : World :=
  { w with
    registered := some w.next
    next := w.next + 1
    controls := Function.update w.controls w.next ⟨false, none⟩ }

end World

/-! ## Tasks -/

/-- The job that `start` returns, with the control it belongs to. -/
structure Job where
  control : Nat
  jobId : Nat
  executeId : String
  deriving DecidableEq, Repr

inductive StartPc
  | cancelling (old : Nat)
  | mountProbe (control : Nat)
  | rcProbe (control : Nat)
  | pause (control : Nat)
  | submitting (control : Nat)
  | stopping (control : Nat)
  deriving DecidableEq, Repr

inductive MonitorPc
  | status
  | pause
  | submitting
  | stopping (outcome : Outcome)
  deriving DecidableEq, Repr

structure Monitor where
  control : Nat
  job : Job
  active : Nat
  recursive : Bool
  pc : MonitorPc
  deriving DecidableEq, Repr

/-- A call that waits. -/
inductive Task
  | start (pc : StartPc)
  | monitor (m : Monitor)
  | cancel (control : Nat)
  deriving DecidableEq, Repr

/-- How a call goes on after a segment. -/
inductive Next
  | running (task : Task)
  | returned (job : Job)
  | over

/-- What a call finds when it looks: whether its deadline has passed, and whether the gate admits
an operation. -/
structure Look where
  late : Bool
  admitted : Bool
  deriving DecidableEq, Repr

/-- Why a call wakes up: its control is cancelled, the gate has closed, or its wait is over. -/
inductive Wake
  | cancelled
  | gate
  | answer (result : Except CommandError String) (look : Look)

/-- The paths of the mount. -/
structure Paths where
  rcSocket : String
  mountpoint : String

variable (fromStr : FromStr) (paths : Paths)

/-! ### `start_with` -/

def failStart (w : World) (control : Nat) : World × Next :=
  ((w.finish control).add (.startFailed control), .over)

def register (w : World) (look : Look) : World × Next :=
  if !look.admitted then (w, .over)
  else if isPlainArgument paths.mountpoint then (w.insert, .running (.start (.mountProbe w.next)))
  else failStart w.insert w.next

def beginStart (w : World) (look : Look) : World × Next :=
  match w.registered with
  | none => register paths w look
  | some old =>
      match (w.controls old).jobId with
      | some jobId => ((w.cancel old).add (.stop jobId), .running (.start (.cancelling old)))
      | none => register paths ((w.cancel old).finish old) look

def probeFailed (w : World) (control : Nat) (look : Look) : World × Next :=
  if look.late then failStart w control else (w, .running (.start (.pause control)))

def submitted (result : Except CommandError String) : Except Failure (Nat × String) :=
  match result with
  | .error error => .error (.command error)
  | .ok output => parseJobStart fromStr output

def startSubmitted (w : World) (control : Nat) (result : Except CommandError String) : World × Next :=
  match submitted fromStr result with
  | .error _ => failStart w control
  | .ok (jobId, executeId) =>
      let w := (w.setJob control jobId).add (.submitted control jobId executeId false)
      if (w.controls control).cancelled || !w.isCurrent control then
        (w.add (.stop jobId), .running (.start (.stopping control)))
      else (w, .returned ⟨control, jobId, executeId⟩)

def wakeStart (w : World) : StartPc → Wake → World × Next
  | .cancelling old, .answer _ look => register paths (w.finish old) look
  | .cancelling old, _ => (w, .running (.start (.cancelling old)))
  | .stopping control, .answer _ _ => failStart w control
  | .stopping control, _ => (w, .running (.start (.stopping control)))
  | .mountProbe control, .answer (.ok _) _ =>
      if isPlainArgument paths.rcSocket then (w, .running (.start (.rcProbe control)))
      else failStart w control
  | .mountProbe control, .answer (.error _) look => probeFailed w control look
  | .rcProbe control, .answer (.ok _) _ => (w, .running (.start (.submitting control)))
  | .rcProbe control, .answer (.error _) look => probeFailed w control look
  | .pause control, .answer _ _ => (w, .running (.start (.mountProbe control)))
  | .submitting control, .answer result _ => startSubmitted fromStr w control result
  | .mountProbe control, _ | .rcProbe control, _ | .pause control, _ | .submitting control, _ =>
      failStart w control

/-! ### `monitor_with` -/

def endMonitor (w : World) (m : Monitor) (outcome : Outcome) : World × Next :=
  ((w.finish m.control).add (.ended m.control outcome), .over)

def stopMonitor (w : World) (m : Monitor) (outcome : Outcome) : World × Next :=
  (w.add (.stop m.active), .running (.monitor { m with pc := .stopping outcome }))

/-- The head of the loop. -/
def poll (w : World) (m : Monitor) (look : Look) : World × Next :=
  if look.late then stopMonitor w m .timedOut else (w, .running (.monitor { m with pc := .status }))

def currentControl (w : World) (jobId : Nat) : Option Nat :=
  w.registered.filter fun control ↦ decide ((w.controls control).jobId = some jobId)

def beginMonitor (w : World) (job : Job) (look : Look) : World × Next :=
  match currentControl w job.jobId with
  | none => (w.add (.ended job.control .cancelled), .over)
  | some control =>
      let m : Monitor := ⟨control, job, job.jobId, false, .status⟩
      if look.admitted then poll w m look else stopMonitor w m .cancelled

def statusAnswered (w : World) (m : Monitor) (output : String) (look : Look) : World × Next :=
  let w := w.add (.status output)
  match parseJobStatus fromStr output m.job.executeId m.active with
  | .error error => endMonitor w m (.failed error)
  | .ok status =>
      if !status.finished then (w, .running (.monitor { m with pc := .pause }))
      else if !status.success then endMonitor w m (.failed status.failure)
      else if m.recursive then endMonitor w m .completed
      -- both phases share one deadline
      else if look.late then endMonitor w m .timedOut
      else (w, .running (.monitor { m with pc := .submitting }))

def monitorSubmitted (w : World) (m : Monitor) (result : Except CommandError String) (look : Look) :
    World × Next :=
  match submitted fromStr result with
  | .error error => endMonitor w m (.failed error)
  | .ok (jobId, executeId) =>
      let w := (w.setJob m.control jobId).add (.submitted m.control jobId executeId true)
      let m := { m with active := jobId }
      if executeId ≠ m.job.executeId then
        stopMonitor w m
          (.failed (plainMessage "ui-rclone-refresh-rclone-restarted-while-the-directory-refresh-was"))
      else if (w.controls m.control).cancelled || !w.isCurrent m.control then
        stopMonitor w m .cancelled
      else poll w { m with recursive := true } look

def wakeMonitor (w : World) (m : Monitor) (event : Wake) : World × Next :=
  match m.pc, event with
  | .stopping outcome, .answer _ _ => endMonitor w m outcome
  | .stopping _, _ => (w, .running (.monitor m))
  | .submitting, .answer result look => monitorSubmitted fromStr w m result look
  | .submitting, _ => endMonitor w m .cancelled
  | .status, .answer (.error error) _ => endMonitor w m (.failed (.command error))
  | .status, .answer (.ok output) look => statusAnswered fromStr w m output look
  | .pause, .answer _ look => poll w m look
  | .status, _ | .pause, _ => stopMonitor w m .cancelled

/-! ### `cancel_with` -/

def beginCancel (w : World) : World × Next :=
  match w.registered with
  | none => (w, .over)
  | some control =>
      match (w.controls control).jobId with
      | some jobId => ((w.cancel control).add (.stop jobId), .running (.cancel control))
      | none => ((w.cancel control).finish control, .over)

/-! ## The system -/

structure State where
  world : World
  tasks : List Task
  returned : List Job

def State.init : State := ⟨World.init, [], []⟩

def State.put (s : State) (segment : World × Next) : State :=
  match segment.2 with
  | .running task => { s with world := segment.1, tasks := s.tasks ++ [task] }
  | .returned job => { s with world := segment.1, returned := s.returned ++ [job] }
  | .over => { s with world := segment.1 }

/-- A new call, or a waiting one that goes on.  A job that was returned is monitored once. -/
inductive Action
  | start (look : Look)
  | monitor (index : Nat) (look : Look)
  | cancel
  | wake (index : Nat) (event : Wake)

def wakeTask (w : World) (task : Task) (event : Wake) : World × Next :=
  match task, event with
  | .start pc, event => wakeStart fromStr paths w pc event
  | .monitor m, event => wakeMonitor fromStr w m event
  | .cancel control, .answer _ _ => (w.finish control, .over)
  | .cancel control, _ => (w, .running (.cancel control))

/-- The control whose cancellation wakes the task; waiting for `job/stop` cannot be cancelled. -/
def Task.cancellable : Task → Option Nat
  | .start (.mountProbe c) | .start (.rcProbe c) | .start (.pause c) | .start (.submitting c) => some c
  | .monitor ⟨c, _, _, _, .status⟩ | .monitor ⟨c, _, _, _, .pause⟩
  | .monitor ⟨c, _, _, _, .submitting⟩ => some c
  | _ => none

/-- A cancelled control goes before everything else that has become ready. -/
def canWake (w : World) (task : Task) : Wake → Bool
  | .cancelled => task.cancellable.any fun control ↦ (w.controls control).cancelled
  | .gate => task.cancellable.any fun control ↦ !(w.controls control).cancelled
  | .answer _ _ => task.cancellable.all fun control ↦ !(w.controls control).cancelled

def step (s : State) : Action → Option State
  | .start look => some (s.put (beginStart paths s.world look))
  | .cancel => some (s.put (beginCancel s.world))
  | .monitor index look =>
      (s.returned[index]?).map fun job ↦
        State.put { s with returned := s.returned.eraseIdx index } (beginMonitor s.world job look)
  | .wake index event =>
      match s.tasks[index]? with
      | none => none
      | some task =>
          if canWake s.world task event then
            some (State.put { s with tasks := s.tasks.eraseIdx index }
              (wakeTask fromStr paths s.world task event))
          else none

def run (s : State) : List Action → Option State
  | [] => some s
  | action :: rest => (step fromStr paths s action).bind fun s' ↦ run s' rest

end CosmicMounter.Refresh

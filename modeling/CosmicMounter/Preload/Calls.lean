import CosmicMounter.Host.Request
import CosmicMounter.Process.Argument

/-!
# Warming up a mounted directory

`start`, `monitor`, `cancel` and `cancel_before_unmount` of
`directory_preload.rs` for one connection.  Each call is a task that runs from
one point at which it waits to the next; a command that is launched runs until
its result is there, whether or not it has been cancelled before.
-/

namespace CosmicMounter.Preload

open Rust

/-! ## Requests -/

structure Job where
  generation : Nat
  mountpoint : String
  maximumDepth : Option Nat
  waitForRoot : Bool
  excludedPaths : List String
  deriving DecidableEq, Repr

inductive Failure
  | message (key : String)
  | command (error : CommandError)
  deriving DecidableEq, Repr

def invalidArgument : Failure := .command .invalidArgument

def isGlobMeta (c : Char) : Bool := c == '\\' || c == '*' || c == '?' || c == '[' || c == ']'

/-- `find -path` interprets glob metacharacters even without a shell. -/
def globPattern (path : String) : String :=
  .ofList (path.toList.flatMap fun c ↦ if isGlobMeta c then ['\\', c] else [c])

def exclusion (excludedPaths : List String) : List String :=
  if excludedPaths = [] then []
  else ["("] ++ List.intercalate ["-o"] (excludedPaths.map fun path ↦ ["-path", globPattern path]) ++
    [")", "-prune", "-o"]

def depthArgs : Option Nat → List String
  | none => []
  | some depth => ["-maxdepth", toString depth]

def mountProbeArgs (mountpoint : String) : List String := ["--quiet", mountpoint]

def rootProbeArgs (mountpoint : String) : List String :=
  ["-P", mountpoint, "-mindepth", "1", "-maxdepth", "1", "-print", "-quit"]

def traversalArgs (job : Job) : List String :=
  ["-P", job.mountpoint, "-xdev"] ++ depthArgs job.maximumDepth ++ exclusion job.excludedPaths ++
    ["-type", "d", "-printf", ""]

/-! ## The registry -/

structure Control where
  cancelled : Bool
  done : Bool
  deriving DecidableEq, Repr

inductive Outcome
  | completed
  | cancelled
  | timedOut
  | skipped
  | failed (error : Failure)
  deriving DecidableEq, Repr

/-- What has happened so far.  `unmountReady` is an `Ok` of `cancel_before_unmount`, with the first
generation that was not yet started when it was called. -/
inductive Entry
  | launched (generation : Nat) (args : List String)
  | exited (generation : Nat)
  | ended (generation : Nat) (outcome : Outcome)
  | unmountReady (bound : Nat)
  | stillStopping
  deriving DecidableEq, Repr

/-- A control is named by its generation. -/
structure World where
  registered : Option Nat
  next : Nat
  controls : Nat → Control
  log : List Entry

namespace World

def init : World := ⟨none, 1, fun _ ↦ ⟨false, false⟩, []⟩

variable (w : World)

def add (entry : Entry) : World := { w with log := w.log ++ [entry] }

def cancel (generation : Nat) : World :=
  { w with
    controls := Function.update w.controls generation
      { w.controls generation with cancelled := true } }

def finish (generation : Nat) : World :=
  { w with
    registered := if w.registered = some generation then none else w.registered
    controls := Function.update w.controls generation { w.controls generation with done := true } }

theorem cancelled_cancel {generation c : Nat} (h : c = generation ∨ (w.controls c).cancelled = true) :
    ((w.cancel generation).controls c).cancelled = true := by
  by_cases hc : c = generation
  · simp [cancel, hc]
  · simpa [cancel, hc] using h

def cancelRegistered : World := w.registered.elim w w.cancel

@[simp] theorem cancelRegistered_next : w.cancelRegistered.next = w.next := by
  unfold cancelRegistered
  cases w.registered <;> rfl

@[simp] theorem cancelRegistered_log : w.cancelRegistered.log = w.log := by
  unfold cancelRegistered
  cases w.registered <;> rfl

theorem cancelled_cancelRegistered {c : Nat}
    (h : w.registered = some c ∨ (w.controls c).cancelled = true) :
    (w.cancelRegistered.controls c).cancelled = true := by
  unfold cancelRegistered
  cases hreg : w.registered with
  | none => simpa [hreg] using h
  | some r =>
      rw [hreg] at h
      exact w.cancelled_cancel (h.imp_left fun heq ↦ (Option.some.inj heq).symm)

def insert : World :=
  { w with
    registered := some w.next
    next := w.next + 1
    controls := Function.update w.controls w.next ⟨false, false⟩ }

theorem insert_controls {c : Nat} (hc : c ≠ w.next) : w.insert.controls c = w.controls c := by
  simp [insert, hc]

end World

/-! ## Tasks -/

inductive Stage
  | mount
  | root
  | traversal
  deriving DecidableEq, Repr

/-- A monitor waits for a command, perhaps after the gate has closed, or between two probes. -/
inductive MonitorPc
  | command (stage : Stage) (gateClosed : Bool)
  | pause (stage : Stage)
  deriving DecidableEq, Repr

structure Monitor where
  job : Job
  pc : MonitorPc
  deriving DecidableEq, Repr

inductive Task
  | monitor (m : Monitor)
  | cancel (generation bound : Nat) (beforeUnmount : Bool)
  deriving DecidableEq, Repr

inductive Next
  | running (task : Task)
  | over

/-- What a monitor finds when it looks: whether the deadline of its stage has passed, whether that
deadline is the one of the job, whether the one of the job has passed, and whether the gate admits
an operation. -/
structure Look where
  late : Bool
  atOverall : Bool
  overallLate : Bool
  admitted : Bool
  deriving DecidableEq, Repr

/-- Why a task wakes up.  A command exits at any time, with the results to be printed. -/
inductive Wake
  | exited (result : Except CommandError String) (look : Look)
  | cancelled
  | gate
  | timer (look : Look)
  | notified
  deriving DecidableEq, Repr

/-! ### `monitor_with` -/

def endMonitor (w : World) (job : Job) (outcome : Outcome) : World × Next :=
  ((w.finish job.generation).add (.ended job.generation outcome), .over)

def launch (w : World) (job : Job) (stage : Stage) (args : List String) : World × Next :=
  if args.all isPlainArgument then
    (w.add (.launched job.generation args), .running (.monitor ⟨job, .command stage false⟩))
  else endMonitor w job (.failed invalidArgument)

def traverse (w : World) (job : Job) (look : Look) : World × Next :=
  if look.overallLate then endMonitor w job .timedOut
  else launch w job .traversal (traversalArgs job)

/-- The head of the loop of `wait_for_root_entries`; an empty remote is valid. -/
def probeRoot (w : World) (job : Job) (look : Look) : World × Next :=
  if look.late then
    if look.atOverall then endMonitor w job .timedOut else traverse w job look
  else launch w job .root (rootProbeArgs job.mountpoint)

def mountReady (w : World) (job : Job) (look : Look) : World × Next :=
  if job.waitForRoot then probeRoot w job look else traverse w job look

def mountLate (w : World) (job : Job) (look : Look) : World × Next :=
  endMonitor w job (if look.atOverall then .timedOut
    else .failed (.message "ui-directory-preload-online-mount-did-not-become-ready-within"))

/-- The head of the loop of `wait_for_mount`. -/
def probeMount (w : World) (job : Job) (look : Look) : World × Next :=
  if look.late then mountLate w job look
  else launch w job .mount (mountProbeArgs job.mountpoint)

def beginMonitor (w : World) (job : Job) (look : Look) : World × Next :=
  if w.registered ≠ some job.generation then (w.add (.ended job.generation .cancelled), .over)
  else if !look.admitted then endMonitor w job .cancelled
  else if job.excludedPaths.contains job.mountpoint then endMonitor w job .skipped
  else probeMount w job look

def isCancelledError : Except CommandError String → Bool
  | .error (.cancelled _) => true
  | _ => false

def pause (w : World) (job : Job) (stage : Stage) : World × Next :=
  (w, .running (.monitor ⟨job, .pause stage⟩))

def mountProbed (w : World) (job : Job) (result : Except CommandError String) (look : Look) :
    World × Next :=
  match result with
  | .ok _ => mountReady w job look
  | .error _ => if look.late then mountLate w job look else pause w job .mount

def hasEntries : Except CommandError String → Bool
  | .ok output => Str.trim output != ""
  | .error _ => false

def rootProbed (w : World) (job : Job) (result : Except CommandError String) (look : Look) :
    World × Next :=
  if hasEntries result then traverse w job look
  else if look.late then
    if look.atOverall then endMonitor w job .timedOut else traverse w job look
  else pause w job .root

def traversed (result : Except CommandError String) : Outcome :=
  match result with
  | .ok _ => .completed
  | .error (.timeout _ _) => .timedOut
  | .error (.cancelled _) => .cancelled
  | .error error => .failed (.command error)

/-- What `run_preload_command` returns once the command has exited. -/
def commandResult (gateClosed : Bool) (result : Except CommandError String) :
    Except CommandError String :=
  if gateClosed then .error (.cancelled "find") else result

def commandExited (w : World) (job : Job) (stage : Stage) (result : Except CommandError String)
    (look : Look) : World × Next :=
  if (w.controls job.generation).cancelled || isCancelledError result then
    endMonitor w job .cancelled
  else
    match stage with
    | .mount => mountProbed w job result look
    | .root => rootProbed w job result look
    | .traversal => endMonitor w job (traversed result)

def wakeMonitor (w : World) (m : Monitor) (event : Wake) : World × Next :=
  match m.pc, event with
  | .command stage gateClosed, .exited result look =>
      commandExited (w.add (.exited m.job.generation)) m.job stage (commandResult gateClosed result) look
  | .command stage _, .gate => (w, .running (.monitor { m with pc := .command stage true }))
  | .command _ _, _ => (w, .running (.monitor m))
  | .pause .mount, .timer look => probeMount w m.job look
  | .pause _, .timer look => probeRoot w m.job look
  | .pause _, _ => endMonitor w m.job .cancelled

/-! ### `cancel_with_timeout` -/

def endCancel (w : World) (generation bound : Nat) (beforeUnmount : Bool) : World × Next :=
  if beforeUnmount then ((w.finish generation).add (.unmountReady bound), .over)
  else (w.finish generation, .over)

def beginCancel (w : World) (beforeUnmount : Bool) : World × Next :=
  match w.registered with
  | none => (if beforeUnmount then w.add (.unmountReady w.next) else w, .over)
  | some generation =>
      if (w.controls generation).done then endCancel (w.cancel generation) generation w.next beforeUnmount
      else (w.cancel generation, .running (.cancel generation w.next beforeUnmount))

def wakeCancel (w : World) (generation bound : Nat) (beforeUnmount : Bool) : World × Next :=
  if (w.controls generation).done then endCancel w generation bound beforeUnmount
  else (if beforeUnmount then w.add .stillStopping else w, .over)

/-! ## The system -/

structure State where
  world : World
  tasks : List Task
  returned : List Job

def State.init : State := ⟨World.init, [], []⟩

def State.put (s : State) (segment : World × Next) : State :=
  match segment.2 with
  | .running task => { s with world := segment.1, tasks := s.tasks ++ [task] }
  | .over => { s with world := segment.1 }

/-- A new call, or a waiting one that goes on.  A job that was returned is monitored once. -/
inductive Action
  | start (timeoutSeconds : Nat) (mountpoint : String) (maximumDepth : Option Nat) (waitForRoot : Bool)
      (excludedPaths : List String)
  | monitor (index : Nat) (look : Look)
  | cancel (beforeUnmount : Bool)
  | wake (index : Nat) (event : Wake)

def wakeTask (w : World) (task : Task) (event : Wake) : World × Next :=
  match task with
  | .monitor m => wakeMonitor w m event
  | .cancel generation bound beforeUnmount => wakeCancel w generation bound beforeUnmount

/-- A pause ends at once when its control is cancelled; a cancelled call waits for the completion
or for its own timer. -/
def canWake (w : World) : Task → Wake → Bool
  | .monitor ⟨_, .command _ _⟩, .exited _ _ => true
  | .monitor ⟨_, .command _ gateClosed⟩, .gate => !gateClosed
  | .monitor ⟨job, .pause _⟩, .cancelled => (w.controls job.generation).cancelled
  | .monitor ⟨job, .pause _⟩, .gate | .monitor ⟨job, .pause _⟩, .timer _ =>
      !(w.controls job.generation).cancelled
  | .cancel generation _ _, .notified => (w.controls generation).done
  | .cancel _ _ _, .timer _ => true
  | _, _ => false

def step (s : State) : Action → Option State
  | .start timeoutSeconds mountpoint maximumDepth waitForRoot excludedPaths =>
      if timeoutSeconds = 0 then some s
      else some {
        s with
        world := s.world.cancelRegistered.insert
        returned := s.returned ++
          [⟨s.world.next, mountpoint, maximumDepth, waitForRoot, excludedPaths⟩] }
  | .monitor index look =>
      (s.returned[index]?).map fun job ↦
        State.put { s with returned := s.returned.eraseIdx index } (beginMonitor s.world job look)
  | .cancel beforeUnmount => some (s.put (beginCancel s.world beforeUnmount))
  | .wake index event =>
      match s.tasks[index]? with
      | none => none
      | some task =>
          if canWake s.world task event then
            some (State.put { s with tasks := s.tasks.eraseIdx index } (wakeTask s.world task event))
          else none

def run (s : State) : List Action → Option State
  | [] => some s
  | action :: rest => (step s action).bind fun s' ↦ run s' rest

end CosmicMounter.Preload

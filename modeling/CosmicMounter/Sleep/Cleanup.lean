import CosmicMounter.Interaction.Replay
import CosmicMounter.Mounts.Table
import CosmicMounter.Process.Argument
import CosmicMounter.Providers.VfsHealth
import CosmicMounter.Services.Unit

/-!
# Cleaning up before sleep

`clean_one`, `clean_owned` and `cleanup` of `sleep.rs`.  A job waits for its
calls until the shared deadline: a call that is not answered in time ends it.
What it stored through `was_active` is kept all the same.
-/

namespace CosmicMounter.Sleep

open Rust Interaction Mounts

/-! ## Requests -/

inductive CleanupError
  | message (message : Message)
  | text (text : String)
  | command (error : CommandError)
  | onedriveBusy (error : CommandError)
  | uploads (error : UploadsError)
  | service (error : ServiceError)
  deriving DecidableEq, Repr

/-- The calls of a job; durations are in milliseconds. -/
inductive CleanupRequest
  | unitFileState (name : UnitName)
  | prepareStopPolicy (root : String) (name : UnitName)
  | reloadUserManager
  | mountTable
  | activeState (unit : String)
  | vfsStats (socket : String)
  | remaining
  | stopPolicy (unit : String)
  | unmount (path : String) (timeout : Nat)
  | stopNoWait (unit : String)
  | sleep (duration : Nat)
  | setWasActive (value : Bool)
  deriving DecidableEq, Repr

/-- `SendSIGKILL`, `TimeoutStopUSec`, `TimeoutStopFailureMode` and `KillSignal`. -/
structure StopPolicy where
  sendSigkill : Bool
  timeoutStopUsec : Nat
  failureMode : String
  killSignal : Int
  deriving DecidableEq, Repr

/-- The calls that are waited for have no answer when the deadline comes first. -/
abbrev CleanupRequest.Answer : CleanupRequest → Type
  | unitFileState _ => Except ServiceError UnitFileState
  | prepareStopPolicy _ _ => Except String Bool
  | reloadUserManager => Option (Except String Unit)
  | mountTable => Option (Except CommandError CommandOutput)
  | activeState _ => Option (Except String String)
  | vfsStats _ => Option (Except CommandError CommandOutput)
  | remaining => Nat
  | stopPolicy _ => Option (Except String StopPolicy)
  | unmount _ _ => Option (Except CommandError CommandOutput)
  | stopNoWait _ => Option (Except String Unit)
  | sleep _ => Option Unit
  | setWasActive _ => Unit

/-- Why a job ended before its result. -/
inductive Stop
  | failed (error : CleanupError)
  | deadline
  deriving DecidableEq, Repr

abbrev Call (α : Type) := ExceptT Stop (Program CleanupRequest.Answer) α

def ask (q : CleanupRequest) : Program CleanupRequest.Answer q.Answer :=
  Program.request (R := CleanupRequest.Answer) q

def fail {α : Type} (key : String) : Call α := throw (.failed (.message ⟨key, []⟩))

def require (condition : Bool) (key : String) : Call Unit :=
  Program.ensure condition (.failed (.message ⟨key, []⟩))

def onlyIf (condition : Bool) (step : Call Unit) : Call Unit :=
  if condition then step else pure ()

/-- Wait for an answer; the deadline may come first. -/
def inTime {α : Type} (answer : Option α) : Call α :=
  Program.check (answer.elim (.error .deadline) .ok)

def orFail {ε α : Type} (error : ε → CleanupError) (result : Except ε α) : Call α :=
  Program.check (result.mapError (.failed ∘ error))

/-! ## The steps of a job -/

def hostMounts : Call (List MountEntry) := do
  let output ← orFail .command (← inTime (← ask .mountTable))
  require (!output.stdout.truncated) "ui-sleep-host-mount-table-is-truncated"
  orFail .message ((Str.lines output.stdout.text).mapM parseMountinfoLine)

def isActiveState (state : String) : Except Message Bool :=
  let state := Str.trim state
  if state ∈ ["inactive", "failed"] then .ok false
  else if state ∈ ["active", "activating", "deactivating", "reloading"] then .ok true
  else .error ⟨"ui-sleep-unknown-service-state-value1", [("value1", state)]⟩

def active (unit : String) : Call Bool := do
  let state ← orFail .text (← inTime (← ask (.activeState unit)))
  orFail .message (isActiveState state)

def stopPolicyMatches (unit : String) : Call Bool := do
  let policy ← orFail .text (← inTime (← ask (.stopPolicy unit)))
  return !policy.sendSigkill && policy.timeoutStopUsec == 2000000 &&
    policy.failureMode == "terminate" && policy.killSignal == 15

/-- `clean_unmount_request`, run. -/
def cleanUnmount (path : String) (timeout : Nat) : Call (Except CommandError CommandOutput) := do
  Program.ensure (isPlainArgument path) (.failed (.command .invalidArgument))
  inTime (← ask (.unmount path timeout))

def isMountedAt (connection : Connection) (mounts : List MountEntry) : Bool :=
  mounts.any fun mount ↦ decide (Path.Same mount.target connection.localPath)

def expectedFilesystem (connection : Connection) : String :=
  if connection.provider = .onedrive then "fuse.onedriver" else "fuse.rclone"

/-- The environment variable and the parser of the statistics. -/
structure Host where
  runtimeDirectory : Option String
  fromStr : FromStr

variable (host : Host)

def runtimeDirectory : Call String :=
  match host.runtimeDirectory with
  | some directory => pure directory
  | none => fail "ui-sleep-runtime-directory-unavailable"

def rcSocket (directory : String) (connection : Connection) : String :=
  Path.join (Path.join directory "cosmic-ext-applet-mounter")
    ("rclone-" ++ connection.id.text ++ ".sock")

/-- An empty queue is not inferred from missing or unknown health fields. -/
def checkQueue (socket : String) : Call Unit := do
  Program.ensure (isPlainArgument socket) (.failed (.command .invalidArgument))
  let health ← orFail .command (← inTime (← ask (.vfsStats socket)))
  let idle ← orFail .uploads (uploadsIdle host.fromStr health.stdout.text)
  require idle "ui-sleep-pending-uploads-mount-left-active"

def checkUploads (connection : Connection) : Call Unit := do
  let directory ← runtimeDirectory host
  checkQueue host (rcSocket directory connection)

/-- Why a mount that was to be detached is still there. -/
def stillMountedError : Except CommandError CommandOutput → CleanupError
  | .error error => .onedriveBusy error
  | .ok _ => .message ⟨"ui-sleep-onedrive-mount-did-not-detach-service-left", []⟩

/-- A busy mount keeps its service, so it is detached before the service is told to stop. -/
def detachOnedrive (connection : Connection) : Call Unit := do
  let remaining ← ask .remaining
  require (2500 ≤ remaining) "ui-sleep-insufficient-sleep-delay-for-a-clean-onedrive"
  let detach ← cleanUnmount connection.localPath (min (remaining - 2000) 2000)
  let mounts ← hostMounts
  Program.ensure (!isMountedAt connection mounts) (.failed (stillMountedError detach))

/-- The loop after the stop, for as many rounds as the deadline allows. -/
def awaitStopped (connection : Connection) (unit : String) : Nat → Call Bool
  | 0 => throw .deadline
  | rounds + 1 => do
      let stillActive ← active unit
      let mounts ← hostMounts
      let stillMounted := isMountedAt connection mounts
      if !stillActive && !stillMounted then return true
      else do
        onlyIf (!stillActive) do
          let output ← cleanUnmount connection.localPath 10000
          let _ ← orFail .command output
        inTime (← ask (.sleep 100))
        awaitStopped connection unit rounds

def isOnedrive (connection : Connection) : Bool := decide (connection.provider = .onedrive)

/-- What `clean_owned` does with a connection that is active. -/
def stopOwned (rounds : Nat) (connection : Connection) (unit : String) (mounted : Bool) :
    Call Bool := do
  onlyIf (mounted && !isOnedrive connection) (checkUploads host connection)
  let remaining ← ask .remaining
  require (2500 ≤ remaining) "ui-sleep-insufficient-sleep-delay-for-a-clean-stop"
  let applied ← stopPolicyMatches unit
  require applied "ui-sleep-nonforcing-sleep-stop-policy-was-not-applied"
  onlyIf (mounted && isOnedrive connection) (detachOnedrive connection)
  let remaining ← ask .remaining
  require (500 ≤ remaining) "ui-sleep-sleep-cleanup-deadline-reached-after-detaching-inspect"
  let answer ← ask (.stopNoWait unit)
  orFail .text (← inTime answer)
  awaitStopped connection unit rounds

/-- Whether the path is a mount point, which must be one of the expected kind. -/
def findMount (connection : Connection) : Call Bool := do
  let mounts ← hostMounts
  match mounts.find? fun mount ↦ decide (Path.Same mount.target connection.localPath) with
  | none => return false
  | some mount => do
      require (mount.filesystem == expectedFilesystem connection)
        "ui-sleep-unexpected-filesystem-at-mountpoint-left-untouched"
      return true

def isInUse (unit : String) (mounted : Bool) : Call Bool :=
  if mounted then pure true else active unit

def cleanOwned (rounds : Nat) (connection : Connection) (unit : String) : Call Bool := do
  let mounted ← findMount connection
  let isActive ← isInUse unit mounted
  ask (.setWasActive isActive)
  if isActive then stopOwned host rounds connection unit mounted else return false

def cleanOne (rounds : Nat) (connection : Connection) : Call Bool := do
  let unit : UnitName := ⟨connection.id, .service⟩
  let state ← orFail .service (← ask (.unitFileState unit))
  require (state == .managed connection.id) "ui-sleep-service-ownership-could-not-be-verified-left"
  let directory ← runtimeDirectory host
  let _ ← orFail .text (← ask (.prepareStopPolicy (Path.join directory "systemd/user") unit))
  orFail .text (← inTime (← ask .reloadUserManager))
  cleanOwned host rounds connection unit.fileName

/-! ## What a job has done -/

abbrev JobHistory := History CleanupRequest.Answer

def setting? : CleanupRequest → Option Bool
  | .setWasActive value => some value
  | _ => none

/-- The value of `was_active` after these calls. -/
def wasActive (history : JobHistory) : Bool :=
  (history.filterMap fun reply ↦ setting? reply.1).getLast?.getD false

def requests (history : JobHistory) : List CleanupRequest := history.map (·.1)

theorem wasActive_append_setWasActive (history : JobHistory) (value : Bool) :
    wasActive (history ++ [⟨.setWasActive value, ()⟩]) = value := by
  simp [wasActive, setting?]

/-- Calls that do not set `was_active`. -/
def KeepsActive (q : CleanupRequest) : Prop := setting? q = none

theorem wasActive_append {history : JobHistory} {q : CleanupRequest} (r : q.Answer)
    (h : KeepsActive q) : wasActive (history ++ [⟨q, r⟩]) = wasActive history := by
  have hnone : setting? q = none := h
  simp [wasActive, hnone]

def anyCall : Contract CleanupRequest.Answer (Unit × JobHistory) :=
  .recorded anyWorld fun _ _ ↦ True

/-- The connection was active, and its unit was told to stop. -/
def WasStopped (unit : String) (history : JobHistory) : Prop :=
  wasActive history = true ∧ .stopNoWait unit ∈ requests history

section Jobs

variable {host : Host} {connection : Connection} {unit : String} {P : CleanupRequest → Prop}

theorem only_ask {q : CleanupRequest} (h : P q) : (monadLift (ask q) : Call q.Answer).run.Only P :=
  ⟨h, fun _ ↦ trivial⟩

theorem only_inTime {α : Type} (answer : Option α) : (inTime answer).run.Only P := trivial

theorem only_orFail {ε α : Type} (error : ε → CleanupError) (result : Except ε α) :
    (orFail error result).run.Only P := trivial

theorem only_ensure (condition : Bool) (error : Stop) :
    (Program.ensure condition error : Call Unit).run.Only P := by
  cases condition <;> trivial

theorem only_onlyIf {condition : Bool} {step : Call Unit} (h : step.run.Only P) :
    (onlyIf condition step).run.Only P := by
  cases condition
  · trivial
  · exact h

theorem only_hostMounts (h : P .mountTable) : hostMounts.run.Only P := by
  unfold hostMounts
  refine .andThen (only_ask h) fun answer ↦ ?_
  refine .andThen (only_inTime answer) fun result ↦ ?_
  refine .andThen (only_orFail _ result) fun output ↦ ?_
  refine .andThen (only_ensure _ _) fun _ ↦ ?_
  exact only_orFail _ _

theorem only_active (h : P (.activeState unit)) : (active unit).run.Only P := by
  unfold active
  refine .andThen (only_ask h) fun answer ↦ ?_
  refine .andThen (only_inTime answer) fun result ↦ ?_
  exact .andThen (only_orFail _ result) fun state ↦ only_orFail _ _

theorem only_stopPolicyMatches (h : P (.stopPolicy unit)) : (stopPolicyMatches unit).run.Only P := by
  unfold stopPolicyMatches
  refine .andThen (only_ask h) fun answer ↦ ?_
  refine .andThen (only_inTime answer) fun result ↦ ?_
  exact .andThen (only_orFail _ result) fun policy ↦ trivial

theorem only_cleanUnmount {path : String} {timeout : Nat} (h : P (.unmount path timeout)) :
    (cleanUnmount path timeout).run.Only P := by
  unfold cleanUnmount
  refine .andThen (only_ensure _ _) fun _ ↦ ?_
  exact .andThen (only_ask h) fun answer ↦ only_inTime answer

theorem only_runtimeDirectory (host : Host) : (runtimeDirectory host).run.Only P := by
  unfold runtimeDirectory
  cases host.runtimeDirectory <;> trivial

theorem only_checkUploads (h : ∀ socket, P (.vfsStats socket)) :
    (checkUploads host connection).run.Only P := by
  unfold checkUploads
  refine .andThen (only_runtimeDirectory host) fun directory ↦ ?_
  generalize rcSocket directory connection = socket
  unfold checkQueue
  refine .andThen (only_ensure _ _) fun _ ↦ ?_
  refine .andThen (only_ask (h socket)) fun answer ↦ ?_
  refine .andThen (only_inTime answer) fun result ↦ ?_
  refine .andThen (only_orFail _ result) fun health ↦ ?_
  exact .andThen (only_orFail _ _) fun idle ↦ only_ensure _ _

theorem only_detachOnedrive (hremaining : P .remaining) (hmounts : P .mountTable)
    (hunmount : ∀ timeout, P (.unmount connection.localPath timeout)) :
    (detachOnedrive connection).run.Only P := by
  unfold detachOnedrive
  refine .andThen (only_ask hremaining) fun remaining ↦ ?_
  refine .andThen (only_ensure _ _) fun _ ↦ ?_
  refine .andThen (only_cleanUnmount (hunmount _)) fun detach ↦ ?_
  exact .andThen (only_hostMounts hmounts) fun mounts ↦ only_ensure _ _

theorem only_awaitStopped (hactive : P (.activeState unit)) (hmounts : P .mountTable)
    (hunmount : P (.unmount connection.localPath 10000)) (hsleep : P (.sleep 100)) (rounds : Nat) :
    (awaitStopped connection unit rounds).run.Only P := by
  induction rounds with
  | zero => trivial
  | succ rounds ih =>
      unfold awaitStopped
      refine .andThen (only_active hactive) fun stillActive ↦ ?_
      refine .andThen (only_hostMounts hmounts) fun mounts ↦ ?_
      dsimp only
      split_ifs
      · trivial
      · refine .andThen (only_onlyIf ?_) fun _ ↦ ?_
        · refine .andThen (only_cleanUnmount hunmount) fun output ↦ ?_
          exact .andThen (only_orFail _ output) fun _ ↦ trivial
        · refine .andThen (only_ask hsleep) fun answer ↦ ?_
          exact .andThen (only_inTime answer) fun _ ↦ ih

end Jobs

/-! ## What a clean job has done -/

section Contracts

variable {α β : Type} {x : Call α} {f : α → Call β} {post : β → Unit × JobHistory → Prop}
  {s : Unit × JobHistory}

/-- What comes first does not matter where the rest keeps its promise from every state. -/
theorem wp_after (h : ∀ a s, (f a).run.wp anyCall (Program.onOk post) s) :
    (x >>= f).run.wp anyCall (Program.onOk post) s := by
  rw [Program.wp_run_bind]
  have hany : x.run.Only fun _ ↦ True := by
    induction x.run with
    | done a => trivial
    | ask q next ih => exact ⟨trivial, ih⟩
  refine Program.wp_mono ?_ (Program.wp_of_only (C := anyCall) (I := fun _ ↦ True)
    (fun _ _ _ _ ↦ trivial) (fun _ _ _ _ _ _ _ ↦ trivial) hany trivial)
  intro r s' _
  cases r with
  | ok a => exact h a s'
  | error e => trivial

/-- Calls that keep `was_active` lead on with it. -/
theorem wp_keeping (hx : x.run.Only KeepsActive) (hs : wasActive s.2 = true)
    (h : ∀ a s, wasActive s.2 = true → (f a).run.wp anyCall (Program.onOk post) s) :
    (x >>= f).run.wp anyCall (Program.onOk post) s := by
  refine Program.wp_frame_bind (I := fun s ↦ wasActive s.2 = true) (fun _ _ _ _ ↦ trivial) ?_ hx hs h
  intro s q r s' hs hq hw
  rw [hw.2, wasActive_append r hq]
  exact hs

/-- A call is recorded with its answer. -/
theorem wp_asking {q : CleanupRequest} {f : q.Answer → Call β}
    {post : Except Stop β → Unit × JobHistory → Prop}
    (h : ∀ r s', s'.2 = s.2 ++ [⟨q, r⟩] → (f r).run.wp anyCall post s') :
    ((monadLift (ask q) : Call q.Answer) >>= f).run.wp anyCall post s := by
  rw [Program.wp_run_bind]
  exact ⟨trivial, fun r s' hw ↦ h r s' hw.2⟩

end Contracts

section Stopped

variable (host : Host) (rounds : Nat) (connection : Connection) (unit : String)

theorem wp_stopOwned (mounted : Bool) {s : Unit × JobHistory} (hs : wasActive s.2 = true) :
    (stopOwned host rounds connection unit mounted).run.wp anyCall
      (Program.onOk fun _ s ↦ WasStopped unit s.2) s := by
  unfold stopOwned
  refine wp_keeping (only_onlyIf (only_checkUploads fun _ ↦ rfl)) hs fun _ s hs ↦ ?_
  refine wp_keeping (only_ask rfl) hs fun _ s hs ↦ ?_
  refine wp_keeping (only_ensure _ _) hs fun _ s hs ↦ ?_
  refine wp_keeping (only_stopPolicyMatches rfl) hs fun _ s hs ↦ ?_
  refine wp_keeping (only_ensure _ _) hs fun _ s hs ↦ ?_
  refine wp_keeping (only_onlyIf (only_detachOnedrive rfl rfl fun _ ↦ rfl)) hs fun _ s hs ↦ ?_
  refine wp_keeping (only_ask rfl) hs fun _ s hs ↦ ?_
  refine wp_keeping (only_ensure _ _) hs fun _ s hs ↦ ?_
  -- the stop is asked for here, and nothing later takes it back
  have htail : ∀ answer, ((do
      orFail .text (← inTime answer)
      awaitStopped connection unit rounds : Call Bool)).run.Only KeepsActive := by
    intro answer
    refine .andThen (only_inTime answer) fun result ↦ ?_
    exact .andThen (only_orFail _ result) fun _ ↦
      only_awaitStopped (P := KeepsActive) rfl rfl rfl rfl rounds
  refine wp_asking fun answer s' hs' ↦ ?_
  have hstopped : WasStopped unit s'.2 := by
    rw [WasStopped, hs', wasActive_append answer rfl]
    exact ⟨hs, by simp [requests]⟩
  refine Program.wp_mono ?_ (Program.wp_of_only (C := anyCall) (I := fun s ↦ WasStopped unit s.2)
    (fun _ _ _ _ ↦ trivial) ?_ (htail answer) hstopped)
  · intro r s'' hs''
    cases r with
    | ok a => exact hs''
    | error e => trivial
  · intro s q r s' hs hq hw
    rw [WasStopped, hw.2, wasActive_append r hq]
    refine ⟨hs.1, ?_⟩
    rw [requests, List.map_append]
    exact List.mem_append_left _ hs.2

theorem wp_cleanOwned {s : Unit × JobHistory} :
    (cleanOwned host rounds connection unit).run.wp anyCall
      (Program.onOk fun cleaned s ↦ cleaned = true → WasStopped unit s.2) s := by
  unfold cleanOwned
  refine wp_after fun mounted s ↦ ?_
  refine wp_after fun isActive s ↦ ?_
  refine wp_asking fun _ s' hs' ↦ ?_
  cases isActive with
  | false => exact fun h ↦ absurd h Bool.false_ne_true
  | true =>
      have hactive : wasActive s'.2 = true := by
        rw [hs']
        exact wasActive_append_setWasActive _ true
      refine Program.wp_mono ?_ (wp_stopOwned host rounds connection unit mounted hactive)
      intro r s'' hstopped
      cases r with
      | ok cleaned => exact fun _ ↦ hstopped
      | error e => trivial

theorem wp_cleanOne {s : Unit × JobHistory} :
    (cleanOne host rounds connection).run.wp anyCall
      (Program.onOk fun cleaned s ↦
        cleaned = true → WasStopped (UnitName.mk connection.id .service).fileName s.2) s := by
  unfold cleanOne
  refine wp_after fun _ s ↦ wp_after fun _ s ↦ wp_after fun _ s ↦ wp_after fun _ s ↦ ?_
  refine wp_after fun _ s ↦ wp_after fun _ s ↦ wp_after fun _ s ↦ wp_after fun _ s ↦ ?_
  exact wp_after fun _ s ↦ wp_cleanOwned host rounds connection _

/-- A job that reports a clean connection has found it active and has stopped it. -/
theorem wasStopped_of_replay {history : JobHistory}
    (h : (cleanOne host rounds connection).run.replay history = some (.ok true)) :
    WasStopped (UnitName.mk connection.id .service).fileName history := by
  have hwp := wp_cleanOne host rounds connection (s := ((), []))
  exact Program.post_of_replay hwp h rfl

end Stopped

/-! ## All connections -/

def onlineConnections (connections : List Connection) : List Connection :=
  connections.filter fun connection ↦
    match connection.mode with
    | .onlineMount _ => true
    | .offlineMirror _ => false

/-- A job that has come to its end, by itself or by the deadline. -/
structure Job (host : Host) where
  connection : Connection
  rounds : Nat
  history : JobHistory
  ended : Except Stop Bool
  ran : (cleanOne host rounds connection).run.replay history = some ended

namespace Job

variable {host : Host} (job : Job host)

def result : Except CleanupError Bool :=
  job.ended.mapError fun
    | .failed error => error
    | .deadline => .message ⟨"ui-sleep-sleep-cleanup-deadline-reached-inspect-mount-service", []⟩

def wasActive : Bool := Sleep.wasActive job.history

def unit : String := (UnitName.mk job.connection.id .service).fileName

theorem wasStopped {job : Job host} (h : job.ended = .ok true) :
    WasStopped job.unit job.history := by
  have hran := job.ran
  rw [h] at hran
  exact wasStopped_of_replay host job.rounds job.connection hran

end Job

/-- The report, with the parts that its summary is made of. -/
structure CleanupReport where
  active : List ConnectionId
  cleaned : Nat
  failures : List (String × CleanupError)
  operationPending : Bool
  deriving DecidableEq, Repr

def CleanupReport.needsAttention (report : CleanupReport) : Bool :=
  !report.failures.isEmpty || report.operationPending

/-- One turn of the loop over the finished jobs. -/
def CleanupReport.add {host : Host} (report : CleanupReport) (job : Job host) : CleanupReport :=
  match job.result with
  | .ok true =>
      { report with
        cleaned := report.cleaned + 1
        active := if job.wasActive then report.active ++ [job.connection.id] else report.active }
  | .ok false => report
  | .error error => { report with failures := report.failures ++ [(job.connection.name, error)] }

/-- `cleanup`, from its jobs in the order in which they end. -/
def cleanup {host : Host} (jobs : List (Job host)) : CleanupReport :=
  jobs.foldl CleanupReport.add ⟨[], 0, [], false⟩

/-- The connections to restore are those that were found active and are clean now. -/
theorem mem_active_cleanup {host : Host} {jobs : List (Job host)} {id : ConnectionId} :
    id ∈ (cleanup jobs).active ↔ ∃ job ∈ jobs, job.connection.id = id ∧ job.ended = .ok true := by
  have hfold : ∀ (jobs : List (Job host)) (report : CleanupReport),
      id ∈ (jobs.foldl CleanupReport.add report).active ↔
        id ∈ report.active ∨ ∃ job ∈ jobs, job.connection.id = id ∧ job.ended = .ok true := by
    intro jobs
    induction jobs with
    | nil => simp
    | cons job rest ih =>
        intro report
        have hadd : id ∈ (report.add job).active ↔
            id ∈ report.active ∨ job.connection.id = id ∧ job.ended = .ok true := by
          rw [CleanupReport.add, Job.result]
          cases hended : job.ended with
          | error stop => simp [Except.mapError]
          | ok cleaned =>
              cases cleaned with
              | false => simp [Except.mapError]
              | true =>
                  have hactive : job.wasActive = true := (Job.wasStopped hended).1
                  simp [Except.mapError, hactive, eq_comm]
        rw [List.foldl_cons, ih, hadd, or_assoc]
        simp only [List.mem_cons, exists_eq_or_imp]
  rw [cleanup, hfold]
  simp

end CosmicMounter.Sleep

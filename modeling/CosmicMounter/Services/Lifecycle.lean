import CosmicMounter.Mirror.Repair
import CosmicMounter.Services.Controller

/-!
# The lifecycle of a mirror's units

Installing the units of an rclone mirror without starting them, pausing them
and resuming the timer (`app.rs`), as programs over the calls on the unit store
and the service manager.
-/

namespace CosmicMounter.Lifecycle

open Rust Interaction

/-- A text of its own, or an error of the unit services, perhaps after a stage. -/
inductive Failure
  | message (message : Message)
  | service (error : ServiceError)
  | staged (stage : Message) (error : ServiceError)
  deriving DecidableEq

def Failure.text (fl : Message → String) : Failure → String
  | .message own => fl own
  | .service error => error.display fl
  | .staged during error => fl during ++ ": " ++ error.display fl

abbrev Call (α : Type) := ExceptT Failure (Program ControllerRequest.Answer) α

/-- A step of the controller or the store, whose errors are shown as they are. -/
def unitStep {α : Type} (step : UnitController.Call α) : Call α := Program.reporting .service step

/-! ## The trigger -/

def offlineRepairAction (action : SystemdAction) (unit : UnitName) (stage : Message) : Call (Option UnitStatus) :=
  Program.reporting (.staged stage) (UnitController.action action (some unit))

variable (fl : Message → String)

def offlineRepairStatus (unit : UnitName) (stage : Message) : Call UnitStatus := do
  match ← offlineRepairAction .status unit stage with
  | some status => return status
  | none => throw (.message ⟨"ui-app-stage-unit-state-is-unavailable", [("stage", fl stage)]⟩)

def requireRepairedUnit (status : UnitStatus) (role : String) (mustBeDisabled : Bool) : Except Failure Unit :=
  if status.active ≠ .inactive then
    .error (.message ⟨"ui-app-role-did-not-become-inactive-observed-value2",
      [("role", role), ("value2", status.active.debugName)]⟩)
  else if mustBeDisabled && status.enabled then
    .error (.message ⟨"ui-app-role-remains-enabled", [("role", role)]⟩)
  else .ok ()

def pauseTimer (timer : UnitName) : Call Unit := do
  let _ ← offlineRepairAction .stop timer ⟨"ui-app-could-not-stop-offline-mirror-timer", []⟩
  let _ ← offlineRepairAction .disable timer ⟨"ui-app-could-not-disable-offline-mirror-timer", []⟩
  let status ← offlineRepairStatus fl timer ⟨"ui-app-could-not-inspect-paused-offline-mirror-timer", []⟩
  Program.check (requireRepairedUnit status (fl ⟨"offline-timer-role", []⟩) true)

def pauseOfflineRepairTrigger (plan : OfflineRepairPlan) : Call Unit :=
  match plan.timer with
  | none => return ()
  | some timer => pauseTimer fl timer

/-! ## Installing -/

/-- The unit file may be written: nobody else owns it. -/
def ensureOwned (name : UnitName) : Call Unit := do
  match ← unitStep (UnitController.state name) with
  | .external => throw (.message ⟨"onedrive-runtime-unit-not-owned", []⟩)
  | .managed owner =>
      if owner ≠ name.connectionId then throw (.message ⟨"onedrive-runtime-unit-not-owned", []⟩)
  | .missing => return ()

def restoreService (name : UnitName) : Option String → UnitController.Call Unit
  | some content => UnitController.install fl ⟨name, content⟩
  | none => UnitController.remove name

def rollbackFailed : Failure := .message ⟨"onedrive-runtime-install-rollback-failed", []⟩

/-- The timer; if it cannot be installed, the service is put back. -/
def installTimer (service timer : UnitDocument) (previousService : Option String) : Call Unit := do
  match ← Program.attempt (unitStep (UnitController.install fl timer)) with
  | .ok () => return ()
  | .error error =>
      match ← Program.attempt (unitStep (restoreService fl service.name previousService)) with
      | .ok () => throw error
      | .error _ => throw rollbackFailed

def installPausedRcloneUnits (service timer : UnitDocument) : Call Unit := do
  ensureOwned service.name
  ensureOwned timer.name
  let previousService ← unitStep (UnitController.read service.name)
  let timerState ← unitStep (UnitController.state timer.name)
  -- the existing trigger is stopped before either unit is replaced
  if timerState ≠ .missing then pauseOfflineRepairTrigger fl ⟨service.name, some timer.name⟩
  unitStep (UnitController.install fl service)
  installTimer fl service timer previousService
  let _ ← unitStep (UnitController.action .disable (some service.name))
  pauseOfflineRepairTrigger fl ⟨service.name, some timer.name⟩

/-! ## Pausing and resuming -/

def pauseRcloneBackgroundWith (id : ConnectionId) : Call String := do
  let service : UnitName := ⟨id, .service⟩
  pauseOfflineRepairTrigger fl ⟨service, some ⟨id, .timer⟩⟩
  let _ ← offlineRepairAction .stop service ⟨"ui-app-could-not-stop-offline-mirror-service", []⟩
  let _ ← offlineRepairAction .disable service ⟨"ui-app-could-not-disable-offline-mirror-service", []⟩
  let status ← offlineRepairStatus fl service ⟨"ui-app-could-not-inspect-stopped-offline-mirror-service", []⟩
  Program.check (requireRepairedUnit status (fl ⟨"offline-service-role", []⟩) true)
  return fl ⟨"ui-app-background-sync-timer-stopped-manual-sync-now", []⟩

def startIncomplete : Failure := .message ⟨"mirror-background-start-incomplete", []⟩

def startRollbackFailed : Failure := .message ⟨"mirror-background-start-rollback-failed", []⟩

def startAction (action : SystemdAction) (timer : UnitName) : Call (Option UnitStatus) :=
  Program.reporting (fun _ ↦ startIncomplete) (UnitController.action action (some timer))

def startTimer (timer : UnitName) : Call Unit := do
  let _ ← startAction .enable timer
  let _ ← startAction .start timer
  let status ← startAction .status timer
  Program.ensure (status.any fun status ↦ status.enabled && status.active == .active) startIncomplete

/-- Both actions are tried, whatever the first one answers. -/
def stopAgain (timer : UnitName) (error : Failure) : Call Unit := do
  let stop ← Program.attempt (unitStep (UnitController.action .stop (some timer)))
  let disable ← Program.attempt (unitStep (UnitController.action .disable (some timer)))
  throw (if stop.toOption.isNone || disable.toOption.isNone then startRollbackFailed else error)

def resumeRcloneTimerWith (timer : UnitName) : Call Unit := do
  let cancelled ← UnitController.isCancelled
  Program.ensure (!cancelled) (.message ⟨"microsoft-oauth-cancelled", []⟩)
  match ← Program.attempt (startTimer timer) with
  | .ok () => return ()
  | .error error => stopAgain timer error

end CosmicMounter.Lifecycle

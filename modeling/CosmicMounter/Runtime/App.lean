import CosmicMounter.Mirror.Repair
import CosmicMounter.Runtime.Controller
import CosmicMounter.Saves.Paths

/-!
# The runtime state of the applet

The part of `AppModel` (`app.rs`) that admits operations, waits for unit
observations and reports completions.  Every handler of `dispatch_message` is
a function of the state and the time at which the message is handled.
-/

namespace CosmicMounter.Runtime

open Rust

/-- Milliseconds of the monotonic clock. -/
abbrev Instant := Nat

/-- `Arc<ManualOperationControl>`: the serial number of its allocation. -/
abbrev Control := Nat

def unitStatusLifetime : Nat := 15000
def repairConfirmMinDelay : Nat := 1000
def repairConfirmMaxDelay : Nat := 30000
def runtimeOperationCompletionLimit : Nat := 16

structure UnitObservation where
  services : ById UnitStatus := ∅
  timers : ById UnitStatus := ∅
  coordinatorStates : ById OfflineOperationState := ∅
  failed : Ids := ∅
  retiredMissingServices : Ids := ∅

structure OperationCompletion where
  revision : UInt64
  connectionId : ConnectionId
  operation : Operation
  notice : Message
  deriving DecidableEq

structure RuntimeStatus where
  unmountBeforeSleep : Bool
  restoreAfterWake : Bool
  preload : PreloadSettings
  sleepStatus : Option Message
  sleepNeedsAttention : Bool
  operationRevision : UInt64
  operationCompletions : List OperationCompletion
  deriving DecidableEq

structure RuntimeOperationWait where
  connectionId : ConnectionId
  operation : Operation
  afterRevision : Option UInt64
  deriving DecidableEq

/-- `runtime_ipc::Command`. -/
inductive RuntimeCommand
  | status
  | preference (preference : RuntimePreference)
  | configurationChanged
  | runOperation (id : ConnectionId) (operation : Operation)
  deriving DecidableEq

structure AppModel where
  standalone : Bool := false
  runtimeOwner : Bool := false
  document : ConfigDocument
  popup : Bool := false
  mountEntries : List Mounts.MountEntry := []
  onlineRepairRequired : Ids := ∅
  vpnReady : ById Bool := ∅
  networkReady : Option Bool := none
  preloading : Ids := ∅
  pendingRepair : Option (ConnectionId × Instant) := none
  repairOperationsPending : Ids := ∅
  unmountPending : Ids := ∅
  mirrorOperationsPending : Ids := ∅
  mirrorOperationControls : ById Control := ∅
  nextControl : Control := 0
  unitObservation : UnitObservation := {}
  unitObservationConnections : List Connection := []
  unitObservedAt : Option Instant := none
  unitObservationPending : Bool := false
  unitObservationInvalidated : Bool := false
  unitObservationRevision : UInt64 := 0
  unitOperationsWaiting : ById (Connection × Operation) := ∅
  runtimeRoutedOperations : ById Operation := ∅
  runtimeOperationRevision : UInt64 := 0
  runtimeOperationCompletions : List OperationCompletion := []
  sleepStatus : Option Message := none
  sleepNeedsAttention : Bool := false
  runtimeAvailable : Bool := false
  runtimePending : Bool := false
  runtimePollPending : Bool := false
  runtimePollObsolete : Bool := false
  runtimeError : Option Message := none
  runtimeOperationWait : Option RuntimeOperationWait := none
  lastNotice : Option Message := none

/-- An operation that runs in the background until its completion arrives. -/
inductive Work
  | onlineMount (connection : Connection) (operation : Operation)
  | restoreOnline (connection : Connection)
  | onlineRepair (connection : Connection)
  | offlineRepair (connection : Connection) (manualOperation : Option Control)
  | mirror (engine : OfflineEngine) (connection : Connection) (operation : Operation) (control : Control)
  deriving DecidableEq

inductive Task
  | observeUnits (revision : UInt64) (connections : List Connection)
  | loadConfiguration
  | readVpnStates
  | request (command : RuntimeCommand)
  | perform (work : Work)
  deriving DecidableEq

def Work.connection : Work → Connection
  | .onlineMount connection _ | .restoreOnline connection | .onlineRepair connection
  | .offlineRepair connection _ | .mirror _ connection _ _ => connection

def Work.operation : Work → Operation
  | .onlineMount _ operation | .mirror _ _ operation _ => operation
  | .restoreOnline _ => .mount
  | .onlineRepair _ | .offlineRepair _ _ => .repair

inductive RepairConfirmationDecision
  | arm
  | wait
  | confirm
  deriving DecidableEq

def repairConfirmationDecision (pending : Option (ConnectionId × Instant)) (id : ConnectionId)
    (now : Instant) : RepairConfirmationDecision :=
  match pending with
  | none => .arm
  | some (pendingId, armedAt) =>
      if pendingId ≠ id then .arm
      else if now - armedAt < repairConfirmMinDelay then .wait
      else if now - armedAt ≤ repairConfirmMaxDelay then .confirm
      else .arm

def isLive (status : Option UnitStatus) : Bool :=
  status.any fun status ↦ status.active == .active || status.active == .activating

def hasFailed (status : Option UnitStatus) : Bool := status.any fun status ↦ status.active == .failed

def offlineMirrorStateFromStatus (engine : OfflineEngine) (service timer : Option UnitStatus) :
    SyncRuntimeState :=
  match engine with
  | .legacyOnedrive =>
      if isLive service then .idle
      else if hasFailed service then .failed
      else .paused
  | .rclone =>
      if isLive service then .running
      else if !isLive timer then .paused
      else if hasFailed service then .failed
      else .idle

def isLegacyOnedriveMirror (connection : Connection) : Bool :=
  connection.provider == .onedrive && connection.offlineEngine == some .legacyOnedrive

namespace AppModel

variable (app : AppModel)

/-! ## The cached units -/

def unitStatusFresh (now : Instant) (id : ConnectionId) : Bool :=
  !app.unitObservationInvalidated &&
    app.unitObservationConnections == app.document.connections &&
    app.unitObservedAt.any (fun time ↦ now - time < unitStatusLifetime) &&
    id ∉ app.unitObservation.failed &&
    (id ∈ app.unitObservation.services || id ∈ app.unitObservation.retiredMissingServices)

def findConnection (id : ConnectionId) : Option Connection :=
  app.document.connections.find? fun connection ↦ connection.id = id

def refreshUnitObservation (force : Bool) : AppModel × List Task :=
  if app.standalone || (app.unitObservationPending && !force) then (app, [])
  else
    ({ app with
        unitObservationRevision := app.unitObservationRevision + 1
        unitObservationPending := true
        unitObservationInvalidated := app.unitObservationInvalidated || force },
      [.observeUnits (app.unitObservationRevision + 1) app.document.connections])

def cachedOfflineUnitState (connection : Connection) : SyncRuntimeState :=
  let service := app.unitObservation.services[connection.id]?
  let timer := app.unitObservation.timers[connection.id]?
  match connection.offlineEngine with
  | none => .unknown
  | some engine =>
      if service.isNone || (isRcloneOfflineMirror connection && timer.isNone && !isLive service) then
        .unknown
      else offlineMirrorStateFromStatus engine service timer

def cachedOfflineState (connection : Connection) : SyncRuntimeState :=
  let coordinator := app.unitObservation.coordinatorStates[connection.id]?
  if !isLive app.unitObservation.services[connection.id]? &&
      (coordinator == some .failed || coordinator == some .cancelled) then .failed
  else app.cachedOfflineUnitState connection

def offlineMirrors : List Connection :=
  app.document.connections.filter fun connection ↦ !Config.isOnlineMount connection

def cachedSyncStates : ById SyncRuntimeState :=
  (∅ : ById SyncRuntimeState).insertMany
    (app.offlineMirrors.map fun connection ↦ (connection.id, app.cachedOfflineState connection))

def cachedPausedSyncs : Ids :=
  (∅ : Ids).insertMany ((app.offlineMirrors.filter fun connection ↦
    app.cachedOfflineUnitState connection = .paused).map (·.id))

/-- A mirror whose operation is pending counts as running. -/
def controllerSnapshot : ControllerSnapshot where
  config := app.document
  serviceStatus := app.unitObservation.services
  syncState := app.cachedSyncStates.insertMany
    (app.mirrorOperationsPending.toList.map fun id ↦ (id, SyncRuntimeState.running))
  pausedSyncs := app.cachedPausedSyncs.eraseMany app.mirrorOperationsPending.toList
  mountEntries := app.mountEntries
  onlineRepairRequired := app.onlineRepairRequired
  vpnReady := app.vpnReady
  networkReady := app.networkReady.getD true

def viewState : List ConnectionRowState := restore app.controllerSnapshot

/-! ## Completions -/

def runtimeStatus : RuntimeStatus where
  unmountBeforeSleep := app.document.unmountBeforeSleep
  restoreAfterWake := app.document.restoreAfterWake
  preload := app.document.preload
  sleepStatus := app.sleepStatus
  sleepNeedsAttention := app.sleepNeedsAttention
  operationRevision := app.runtimeOperationRevision
  operationCompletions := app.runtimeOperationCompletions

def notify (notice : Message) : AppModel := { app with lastNotice := some notice }

def nextRevision : UInt64 := max (app.runtimeOperationRevision + 1) 1

/-- The completion that is recorded next. -/
def completion (id : ConnectionId) (operation : Operation) : OperationCompletion where
  revision := app.nextRevision
  connectionId := id
  operation := operation
  notice := app.lastNotice.getD ⟨"ui-app-operation-completed", []⟩

def keepLast (completions : List OperationCompletion) : List OperationCompletion :=
  completions.drop (completions.length - runtimeOperationCompletionLimit)

def completeRoutedOperation (id : ConnectionId) (operation : Operation) : AppModel :=
  if app.runtimeRoutedOperations[id]? = some operation then
    { app with
      runtimeRoutedOperations := app.runtimeRoutedOperations.erase id
      runtimeOperationRevision := app.nextRevision
      runtimeOperationCompletions :=
        keepLast (app.runtimeOperationCompletions ++ [app.completion id operation]) }
  else app

/-- An early return of `record_operation_request`. -/
def turnAway (id : ConnectionId) (operation : Operation) (notice : Message) : AppModel × List Task :=
  ((app.notify notice).completeRoutedOperation id operation, [])

/-! ## Requests -/

def requested (key : String) (label : Message) (connection : Connection) : Message :=
  ⟨key, [("operation", label.key), ("name", connection.name)]⟩

def startMirror (engine : OfflineEngine) (id : ConnectionId) (connection : Connection)
    (operation : Operation) (label : Message) : AppModel × List Task :=
  ({ app with
      lastNotice := some (requested "notice-operation-requested" label connection)
      mirrorOperationsPending := app.mirrorOperationsPending.insert id
      mirrorOperationControls := app.mirrorOperationControls.insert id app.nextControl
      nextControl := app.nextControl + 1 },
    [.perform (.mirror engine connection operation app.nextControl)])

def notWired (id : ConnectionId) (name : String) (operation : Operation) (label : Message) :
    AppModel × List Task :=
  app.turnAway id operation
    ⟨"notice-operation-not-wired", [("operation", label.key), ("name", name)]⟩

def startOnlineOperation (id : ConnectionId) (name : String) (connection : Connection)
    (operation : Operation) (label : Message) : AppModel × List Task :=
  match operation with
  | .mount =>
      ({ app with lastNotice := some (requested "notice-operation-requested" label connection) },
        [.perform (.onlineMount connection operation)])
  | .unmount =>
      ({ app with
          unmountPending := app.unmountPending.insert id
          lastNotice := some ⟨if id ∈ app.preloading then "notice-unmounting-preload"
            else "notice-unmounting", [("name", connection.name)]⟩ },
        [.perform (.onlineMount connection operation)])
  | .repair =>
      ({ app with
          pendingRepair := none
          repairOperationsPending := app.repairOperationsPending.insert connection.id
          lastNotice := some (requested "notice-repair-requested" label connection) },
        [.perform (.onlineRepair connection)])
  | .previewInitialSync | .syncNow | .pauseSync | .resumeSync => app.notWired id name operation label

def startOfflineOperation (id : ConnectionId) (name : String) (connection : Connection)
    (operation : Operation) (label : Message) : AppModel × List Task :=
  match operation with
  | .repair =>
      ({ app with
          pendingRepair := none
          repairOperationsPending := app.repairOperationsPending.insert connection.id
          lastNotice := some (requested "notice-offline-repair-requested" label connection) },
        [.perform (.offlineRepair connection app.mirrorOperationControls[connection.id]?)])
  | .mount | .unmount => app.notWired id name operation label
  | .previewInitialSync | .syncNow | .pauseSync | .resumeSync =>
      if isRcloneOfflineMirror connection then
        app.startMirror .rclone id connection operation label
      else if isLegacyOnedriveMirror connection then
        app.startMirror .legacyOnedrive id connection operation label
      else app.notWired id name operation label

/-- The final match of `record_operation_request`. -/
def startOperation (id : ConnectionId) (name : String) (connection : Connection)
    (operation : Operation) (label : Message) : AppModel × List Task :=
  match connection.mode with
  | .onlineMount _ => app.startOnlineOperation id name connection operation label
  | .offlineMirror _ => app.startOfflineOperation id name connection operation label

def confirmRepairNotice (connection : Connection) : Message :=
  match connection.mode with
  | .onlineMount _ =>
      ⟨"notice-repair-confirm", [("name", connection.name), ("path", connection.localPath)]⟩
  | .offlineMirror _ => ⟨"notice-offline-repair-confirm", [("name", connection.name)]⟩

def actionUnavailable (label : Message) (name : String) (reason : Message) : Message :=
  ⟨"notice-action-unavailable",
    [("operation", label.key), ("name", name), ("reason", reason.key)]⟩

/-- A request for a saved connection whose unit status is not fresh. -/
def mustWait (now : Instant) (id : ConnectionId) : Option Connection :=
  if app.unitStatusFresh now id then none else app.findConnection id

def wait (id : ConnectionId) (connection : Connection) (operation : Operation) :
    AppModel × List Task :=
  refreshUnitObservation
    { app with
      unitOperationsWaiting := app.unitOperationsWaiting.insert id (connection, operation)
      lastNotice := some ⟨"unit-status-wait", []⟩ } false

/-- What follows once the row of the connection allows the operation. -/
def confirmOperation (now : Instant) (id : ConnectionId) (name : String) (connection : Connection)
    (operation : Operation) (label : Message) : AppModel × List Task :=
  if id ∈ app.repairOperationsPending then
    app.turnAway id operation
      (actionUnavailable label connection.name ⟨"operation-unavailable-state", []⟩)
  else if operation = .repair then
    match repairConfirmationDecision app.pendingRepair id now with
    | .confirm => app.startOperation id name connection operation label
    | .arm => turnAway { app with pendingRepair := some (id, now) } id operation
        (confirmRepairNotice connection)
    | .wait => app.turnAway id operation (confirmRepairNotice connection)
  else startOperation { app with pendingRepair := none } id name connection operation label

def recordOperationRequest (now : Instant) (id : ConnectionId) (operation : Operation) :
    AppModel × List Task :=
  match app.mustWait now id with
  | some connection => app.wait id connection operation
  | none =>
      match app.viewState.find? fun row ↦ row.id = id with
      | none => app.turnAway id operation ⟨"notice-connection-unavailable", []⟩
      | some row =>
          let decision := decideOperation row operation
          let label := rowOperationLabel row.status operation
          if !decision.allowed then
            app.turnAway id operation (actionUnavailable label row.name
              (decision.reason.getD ⟨"operation-unavailable-state", []⟩))
          else
            match app.findConnection id with
            | none => app.turnAway id operation ⟨"notice-connection-unavailable", []⟩
            | some connection => app.confirmOperation now id row.name connection operation label

/-- One turn of the loop over the requests that waited. -/
def resumeOperation (now : Instant) (id : ConnectionId) (connection : Connection)
    (operation : Operation) : AppModel × List Task :=
  if app.unitStatusFresh now id && connection ∈ app.document.connections then
    app.recordOperationRequest now id operation
  else app.turnAway id operation ⟨"unit-status-refresh-unavailable", []⟩

end AppModel

abbrev Waiting := List (ConnectionId × Connection × Operation)

def resumeOperations (now : Instant) : Waiting → AppModel → AppModel × List Task
  | [], app => (app, [])
  | (id, connection, operation) :: rest, app =>
      let resumed := app.resumeOperation now id connection operation
      let others := resumeOperations now rest resumed.1
      (others.1, resumed.2 ++ others.2)

end CosmicMounter.Runtime

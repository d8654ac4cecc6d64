import CosmicMounter.Runtime.App

/-!
# Messages

`update` and the handlers of `dispatch_message` (`app.rs`) that touch the
runtime state.  What a handler reads from the host (the stored configuration,
the answer of a request) comes with its message.
-/

namespace CosmicMounter.Runtime

open Rust

inductive AppMessage
  | unitObservationTick
  | unitObservationCompleted (revision : UInt64) (connections : List Connection)
      (observation : UnitObservation)
  | mountInspectionCompleted (entries : List Mounts.MountEntry)
  | vpnStatusChecked (ready : ById Bool)
  | networkStatusChecked (ready : Bool)
  | preloadJobsChanged (preloading : Ids)
  | sleepStatus (text : Message) (needsAttention : Bool)
  | wake (ids : List ConnectionId) (loaded : ConfigDocument)
  | runtimeReady
  | runtimeClientReady
  | runtimeFailed (error : Message)
  | runtimeOwnerConfigurationLoaded (loaded : Except Message ConfigDocument)
  | runtimeRequest (command : RuntimeCommand) (loaded : Except Message ConfigDocument)
      (saved : Except Message Unit)
  | runtimeConfigurationReloaded (ready : ById Bool)
  | runtimePoll
  | runtimeResult (command : RuntimeCommand) (result : Except Message RuntimeStatus)
  | preferenceRequested (preference : RuntimePreference)
  | togglePopup (loaded : ConfigDocument)
  | openSettings
  | operationRequested (id : ConnectionId) (operation : Operation)
  | onlineRepairCompleted (id : ConnectionId) (notice : Message) (loaded : ConfigDocument)
  | offlineRepairCompleted (id : ConnectionId) (notice : Message) (loaded : ConfigDocument)
  | mirrorOperationCompleted (id : ConnectionId) (notice : Message) (loaded : ConfigDocument)
  | managedOnlineOperationCompleted (connection : Connection) (operation : Operation)
      (result : Except Message Unit) (loaded : ConfigDocument)

/-- What a handler leaves: the state, the tasks that it starts, and its answer to a request. -/
structure Handled where
  app : AppModel
  tasks : List Task := []
  reply : Option (Except Message RuntimeStatus) := none

namespace AppModel

variable (app : AppModel)

/-! ## Unit observations -/

def retainIds {V : Type} (connections : List Connection) (values : ById V) : ById V :=
  values.filter fun id _ ↦ connections.any fun connection ↦ connection.id = id

/-- Known absence replaces a cached service; a failed reading retains it. -/
def acceptObservation (now : Instant) (connections : List Connection)
    (observation : UnitObservation) : AppModel :=
  { app with
    unitObservationPending := false
    unitObservation :=
      { services := retainIds connections ((app.unitObservation.services.eraseMany
          observation.retiredMissingServices.toList).insertMany observation.services.toList)
        timers := retainIds connections
          (app.unitObservation.timers.insertMany observation.timers.toList)
        coordinatorStates := observation.coordinatorStates
        failed := observation.failed
        retiredMissingServices := observation.retiredMissingServices }
    unitObservationConnections := connections
    unitObservedAt := some now
    unitObservationInvalidated := false
    unitOperationsWaiting := ∅ }

def unitObservationCompleted (now : Instant) (revision : UInt64) (connections : List Connection)
    (observation : UnitObservation) : AppModel × List Task :=
  if revision ≠ app.unitObservationRevision then (app, [])
  else if connections ≠ app.document.connections then
    refreshUnitObservation { app with unitObservationPending := false } true
  else resumeOperations now app.unitOperationsWaiting.toList
    (app.acceptObservation now connections observation)

/-! ## Requests to the runtime -/

def reloadConfiguration (document : ConfigDocument) : AppModel := { app with document }

def applyRuntimePreference (preference : RuntimePreference) (loaded : Except Message ConfigDocument)
    (saved : Except Message Unit) : Handled :=
  match loaded with
  | .error error => { app, reply := some (.error error) }
  | .ok document =>
      match saved with
      | .error error => { app := app.reloadConfiguration document, reply := some (.error error) }
      | .ok () =>
          let updated := app.reloadConfiguration (document.setPreference preference)
          let updated := match preference with
            | .setUnmount value =>
                { updated with sleepStatus := if value then some ⟨"sleep-listener-starting", []⟩ else none }
            | _ => updated
          { app := updated, reply := some (.ok updated.runtimeStatus) }

def registerRoutedOperation (id : ConnectionId) (operation : Operation) : AppModel :=
  { app with runtimeRoutedOperations := app.runtimeRoutedOperations.insert id operation }

def runRoutedOperation (now : Instant) (id : ConnectionId) (operation : Operation)
    (loaded : Except Message ConfigDocument) : Handled :=
  if id ∈ app.runtimeRoutedOperations then
    { app
      reply := some (.error ⟨"ui-app-another-routed-operation-is-already-pending-for", []⟩) }
  else
    match loaded with
    | .error error => { app, reply := some (.error error) }
    | .ok document =>
        let registered := (app.reloadConfiguration document).registerRoutedOperation id operation
        let recorded := registered.recordOperationRequest now id operation
        { app := recorded.1, tasks := recorded.2, reply := some (.ok registered.runtimeStatus) }

def runtimeRequest (now : Instant) (command : RuntimeCommand)
    (loaded : Except Message ConfigDocument) (saved : Except Message Unit) : Handled :=
  if app.standalone then
    { app, reply := some (.error ⟨"ui-app-this-window-is-not-the-runtime-owner", []⟩) }
  else
    match command with
    | .runOperation id operation => app.runRoutedOperation now id operation loaded
    | .configurationChanged =>
        match loaded with
        | .error error => { app, reply := some (.error error) }
        | .ok document => { app := app.reloadConfiguration document, tasks := [.readVpnStates] }
    | .status => { app, reply := some (.ok app.runtimeStatus) }
    | .preference preference => app.applyRuntimePreference preference loaded saved

/-! ## Answers of the runtime -/

def reconcileRuntimeOperationCompletion (status : RuntimeStatus) : AppModel :=
  match app.runtimeOperationWait with
  | none => app
  | some wait =>
      match wait.afterRevision with
      | none => app
      | some afterRevision =>
          match status.operationCompletions.reverse.find? fun completion ↦
            afterRevision < completion.revision && completion.connectionId = wait.connectionId &&
              completion.operation = wait.operation with
          | none => app
          | some completion =>
              { app with lastNotice := some completion.notice, runtimeOperationWait := none }

/-- A status poll that started before a setting was written does not replace the setting. -/
def acceptStatus (status : RuntimeStatus) : AppModel :=
  let reached := { app with runtimeAvailable := true, runtimeError := none }
  if app.runtimePending then reached
  else
    { reached with
      document := { app.document with
        unmountBeforeSleep := status.unmountBeforeSleep
        restoreAfterWake := status.restoreAfterWake
        preload := status.preload }
      sleepStatus := status.sleepStatus
      sleepNeedsAttention := status.sleepNeedsAttention }

def operationAccepted (id : ConnectionId) (operation : Operation) (status : RuntimeStatus) :
    AppModel :=
  { app with
    runtimeOperationWait := app.runtimeOperationWait.map fun wait ↦
      if wait.connectionId = id ∧ wait.operation = operation then
        { wait with afterRevision := some status.operationRevision }
      else wait
    lastNotice := some ⟨"notice-operation-requested", [("operation", (operationLabel operation).key),
      ("name", ((app.findConnection id).map (·.name)).getD "access-offline")]⟩ }

def operationRefused (id : ConnectionId) (operation : Operation) (error : Message) : AppModel :=
  { app with
    runtimeAvailable := false
    runtimeOperationWait := app.runtimeOperationWait.filter fun wait ↦
      ¬(wait.connectionId = id ∧ wait.operation = operation)
    lastNotice := some error }

/-- The reply to a poll; one that an action of the user made obsolete is discarded. -/
def statusResult (result : Except Message RuntimeStatus) : AppModel :=
  let polled := { app with runtimePollPending := false, runtimePollObsolete := false }
  if app.runtimePollObsolete then polled
  else
    match result with
    | .ok status => (polled.reconcileRuntimeOperationCompletion status).acceptStatus status
    | .error error => { polled with runtimeAvailable := false, runtimeError := some error }

def runtimeResult (command : RuntimeCommand) (result : Except Message RuntimeStatus) : AppModel :=
  match command with
  | .status => app.statusResult result
  | .runOperation id operation =>
      let answered := { app with runtimePending := false }
      match result with
      | .ok status => (answered.acceptStatus status).operationAccepted id operation status
      | .error error => answered.operationRefused id operation error
  | .preference _ | .configurationChanged =>
      let answered := { app with runtimePending := false }
      match result with
      | .ok status => answered.acceptStatus status
      | .error error =>
          match command with
          | .preference _ => { answered with runtimeAvailable := false }
          | _ => { answered with runtimeAvailable := false, lastNotice := some error }

/-- The fields that every request of a window sets. -/
def sendRequest (command : RuntimeCommand) : AppModel × List Task :=
  ({ app with runtimePollObsolete := app.runtimePollPending, runtimePending := true },
    [.request command])

def runtimePoll : AppModel × List Task :=
  if !app.runtimePending && !app.runtimePollPending then
    ({ app with runtimePollPending := true }, [.request .status])
  else (app, [])

def operationRequested (now : Instant) (id : ConnectionId) (operation : Operation) :
    AppModel × List Task :=
  if app.runtimeOwner then app.recordOperationRequest now id operation
  else sendRequest { app with runtimeOperationWait := some ⟨id, operation, none⟩ }
    (.runOperation id operation)

/-! ## Completions -/

def repairCompleted (id : ConnectionId) (notice : Message) (loaded : ConfigDocument) : AppModel :=
  completeRoutedOperation
    { app with
      repairOperationsPending := app.repairOperationsPending.erase id
      document := loaded
      pendingRepair := none
      lastNotice := some notice }
    id .repair

def onlineRepairCompleted (id : ConnectionId) (notice : Message) (loaded : ConfigDocument) :
    AppModel :=
  repairCompleted { app with onlineRepairRequired := app.onlineRepairRequired.erase id } id notice loaded

def offlineRepairCompleted (id : ConnectionId) (notice : Message) (loaded : ConfigDocument) :
    AppModel :=
  app.repairCompleted id notice loaded

def mirrorOperationCompleted (id : ConnectionId) (notice : Message) (loaded : ConfigDocument) :
    AppModel :=
  let ended :=
    { app with
      mirrorOperationsPending := app.mirrorOperationsPending.erase id
      mirrorOperationControls := app.mirrorOperationControls.erase id
      document := loaded
      lastNotice := some notice }
  match ended.runtimeRoutedOperations[id]? with
  | some operation => ended.completeRoutedOperation id operation
  | none => ended

def updateOnlineRepairRequirement (required : Ids) (id : ConnectionId) (operation : Operation)
    (result : Except Message Unit) : Ids :=
  match result with
  | .ok () => required.erase id
  | .error _ => if operation = .unmount then required.insert id else required

def operationNotice (connection : Connection) (operation : Operation) :
    Except Message Unit → Message
  | .ok () => ⟨"notice-operation-completed",
      [("operation", (operationLabel operation).key), ("name", connection.name)]⟩
  | .error error => ⟨"notice-operation-failed",
      [("operation", (operationLabel operation).key), ("name", connection.name), ("error", error.key)]⟩

def managedOnlineOperationCompleted (connection : Connection) (operation : Operation)
    (result : Except Message Unit) (loaded : ConfigDocument) : AppModel :=
  completeRoutedOperation
    { app with
      unmountPending := if operation = .unmount then app.unmountPending.erase connection.id
        else app.unmountPending
      onlineRepairRequired := updateOnlineRepairRequirement app.onlineRepairRequired connection.id
        operation result
      document := loaded
      pendingRepair := none
      lastNotice := some (operationNotice connection operation result) }
    connection.id operation

/-! ## All messages -/

/-- The mounts that are restored after a wake-up. -/
def restored (ids : List ConnectionId) (document : ConfigDocument) : List Connection :=
  if document.unmountBeforeSleep && document.restoreAfterWake then
    document.connections.filter fun connection ↦
      ids.contains connection.id && connection.enabled && Config.isOnlineMount connection
  else []

def handled (result : AppModel × List Task) : Handled := { app := result.1, tasks := result.2 }

def dispatchMessage (now : Instant) : AppMessage → Handled
  | .unitObservationTick => handled (app.refreshUnitObservation false)
  | .unitObservationCompleted revision connections observation =>
      handled (app.unitObservationCompleted now revision connections observation)
  | .mountInspectionCompleted entries => { app := { app with mountEntries := entries } }
  | .vpnStatusChecked ready => { app := { app with vpnReady := ready } }
  | .networkStatusChecked ready => { app := { app with networkReady := some ready } }
  | .preloadJobsChanged preloading => { app := { app with preloading } }
  | .sleepStatus text needsAttention =>
      { app := { app with sleepStatus := some text, sleepNeedsAttention := needsAttention } }
  | .wake ids loaded =>
      { app := app.reloadConfiguration loaded
        tasks := (restored ids loaded).map fun connection ↦ .perform (.restoreOnline connection) }
  | .runtimeReady =>
      { app := { app with runtimeOwner := !app.standalone, runtimeError := none }
        tasks := if app.standalone then [] else [.loadConfiguration] }
  | .runtimeClientReady => { app := { app with runtimeOwner := false, runtimeError := none } }
  | .runtimeFailed error =>
      { app := { app with
          runtimeOwner := false
          runtimeAvailable := false
          lastNotice := if app.standalone then some error else app.lastNotice
          runtimeError := some error } }
  | .runtimeOwnerConfigurationLoaded loaded =>
      if app.runtimeOwner && !app.standalone then
        match loaded with
        | .ok document => { app := app.reloadConfiguration document }
        | .error error => { app := { app with runtimeError := some error } }
      else { app }
  | .runtimeRequest command loaded saved => app.runtimeRequest now command loaded saved
  | .runtimeConfigurationReloaded ready =>
      let reloaded := { app with vpnReady := ready }
      { app := reloaded, reply := some (.ok reloaded.runtimeStatus) }
  | .runtimePoll => handled app.runtimePoll
  | .runtimeResult command result => { app := app.runtimeResult command result }
  | .preferenceRequested preference => handled (app.sendRequest (.preference preference))
  | .togglePopup loaded =>
      if app.popup then { app := { app with popup := false } }
      else { app := { app with popup := true, document := loaded, pendingRepair := none, vpnReady := ∅ } }
  | .openSettings => { app := { app with pendingRepair := none } }
  | .operationRequested id operation => handled (app.operationRequested now id operation)
  | .onlineRepairCompleted id notice loaded => { app := app.onlineRepairCompleted id notice loaded }
  | .offlineRepairCompleted id notice loaded => { app := app.offlineRepairCompleted id notice loaded }
  | .mirrorOperationCompleted id notice loaded =>
      { app := app.mirrorOperationCompleted id notice loaded }
  | .managedOnlineOperationCompleted connection operation result loaded =>
      { app := app.managedOnlineOperationCompleted connection operation result loaded }

/-- The messages after which the mounts and the units are read again. -/
def refreshesMounts : AppMessage → Bool
  | .togglePopup _ | .managedOnlineOperationCompleted .. | .onlineRepairCompleted ..
  | .offlineRepairCompleted .. | .mirrorOperationCompleted .. | .runtimeConfigurationReloaded _ => true
  | _ => false

def isTogglePopup : AppMessage → Bool
  | .togglePopup _ => true
  | _ => false

/-- `update`: the units are read again by force, except for the popup, which reads them when it opens. -/
def update (now : Instant) (message : AppMessage) : Handled :=
  let dispatched := app.dispatchMessage now message
  if refreshesMounts message && !(isTogglePopup message && !dispatched.app.popup) then
    let refreshed := dispatched.app.refreshUnitObservation (!isTogglePopup message)
    { dispatched with app := refreshed.1, tasks := dispatched.tasks ++ refreshed.2 }
  else dispatched

end AppModel

end CosmicMounter.Runtime

import CosmicMounter.Runtime.Update

/-!
# What a request can lead to

`record_operation_request` makes a request wait, turns it away or starts one
operation; every other message leaves the requests alone.
-/

namespace CosmicMounter.Runtime

open Rust

namespace AppModel

variable {app : AppModel} {now : Instant} {id : ConnectionId} {operation : Operation}

theorem id_of_findConnection {connection : Connection}
    (hfind : app.findConnection id = some connection) : connection.id = id := by
  simpa using List.find?_some hfind

/-- The row of a connection is computed from the saved connection. -/
theorem find_viewState : (app.viewState.find? fun row ↦ row.id = id) =
    (app.findConnection id).map (restoreConnection app.controllerSnapshot) := by
  rw [viewState, restore, List.find?_map]
  rfl

/-- The running mirrors are those with a pending operation, in the snapshot too. -/
theorem syncState_of_pending (hpending : id ∈ app.mirrorOperationsPending) :
    app.controllerSnapshot.syncState[id]? = some .running := by
  have hdistinct : (app.mirrorOperationsPending.toList.map fun id ↦ (id, SyncRuntimeState.running)).Pairwise
      fun a b ↦ ¬compare a.1 b.1 = .eq := by
    rw [List.pairwise_map]
    exact Std.TreeSet.distinct_toList (t := app.mirrorOperationsPending)
  refine Std.TreeMap.getElem?_insertMany_list_of_mem (k := id) Std.ReflCmp.compare_self hdistinct ?_
  exact List.mem_map_of_mem (Std.TreeSet.mem_toList.mpr hpending)

/-! ## Outcomes -/

/-- Whether the operation is one that runs for a mirror. -/
def isMirrorOperation : Operation → Bool
  | .previewInitialSync | .syncNow | .pauseSync | .resumeSync => true
  | _ => false

inductive Outcome (app : AppModel) (now : Instant) (id : ConnectionId) (operation : Operation) :
    AppModel × List Task → Prop
  | waits {connection : Connection} (hwait : app.mustWait now id = some connection) :
      Outcome app now id operation (app.wait id connection operation)
  | turnedAway (hwait : app.mustWait now id = none) (pending : Option (ConnectionId × Instant))
      (notice : Message) :
      Outcome app now id operation
        (turnAway { app with pendingRepair := pending } id operation notice)
  | mounts {connection : Connection} (hwait : app.mustWait now id = none)
      (hfind : app.findConnection id = some connection) (unmounting : Ids) (notice : Message) :
      Outcome app now id operation
        ({ app with pendingRepair := none, unmountPending := unmounting, lastNotice := some notice },
          [.perform (.onlineMount connection operation)])
  | repairs {connection : Connection} {work : Work} (hwait : app.mustWait now id = none)
      (hfind : app.findConnection id = some connection) (hoperation : operation = .repair)
      (hwork : work = .onlineRepair connection ∨
        work = .offlineRepair connection app.mirrorOperationControls[id]?) (notice : Message) :
      Outcome app now id operation
        ({ app with
            pendingRepair := none
            repairOperationsPending := app.repairOperationsPending.insert id
            lastNotice := some notice }, [.perform work])
  | mirrors {connection : Connection} {options : OfflineMirrorConfig} {engine : OfflineEngine}
      (hwait : app.mustWait now id = none) (hfind : app.findConnection id = some connection)
      (hmode : connection.mode = .offlineMirror options)
      (hallowed : (decideOperation (restoreConnection app.controllerSnapshot connection)
        operation).allowed = true)
      (hoperation : isMirrorOperation operation = true) (notice : Message) :
      Outcome app now id operation
        ({ app with
            pendingRepair := none
            lastNotice := some notice
            mirrorOperationsPending := app.mirrorOperationsPending.insert id
            mirrorOperationControls := app.mirrorOperationControls.insert id app.nextControl
            nextControl := app.nextControl + 1 },
          [.perform (.mirror engine connection operation app.nextControl)])

variable {connection : Connection} {label : Message} {name : String}

theorem outcome_startOnlineOperation (hwait : app.mustWait now id = none)
    (hfind : app.findConnection id = some connection) (pending : Option (ConnectionId × Instant))
    (hpending : operation = .repair ∨ pending = none) :
    Outcome app now id operation
      (startOnlineOperation { app with pendingRepair := pending } id name connection operation label) := by
  have hid := id_of_findConnection hfind
  cases operation with
  | mount =>
      obtain rfl : pending = none := hpending.resolve_left nofun
      exact .mounts hwait hfind app.unmountPending _
  | unmount =>
      obtain rfl : pending = none := hpending.resolve_left nofun
      exact .mounts hwait hfind _ _
  | repair =>
      rw [startOnlineOperation, hid]
      exact .repairs hwait hfind rfl (.inl rfl) _
  | syncNow | pauseSync | resumeSync | previewInitialSync => exact .turnedAway hwait pending _

theorem outcome_startOfflineOperation {options : OfflineMirrorConfig}
    (hwait : app.mustWait now id = none) (hfind : app.findConnection id = some connection)
    (hmode : connection.mode = .offlineMirror options)
    (hallowed : (decideOperation (restoreConnection app.controllerSnapshot connection)
      operation).allowed = true)
    (pending : Option (ConnectionId × Instant)) (hpending : operation = .repair ∨ pending = none) :
    Outcome app now id operation
      (startOfflineOperation { app with pendingRepair := pending } id name connection operation label) := by
  have hid := id_of_findConnection hfind
  cases operation with
  | mount | unmount => exact .turnedAway hwait pending _
  | repair =>
      rw [startOfflineOperation, hid]
      exact .repairs hwait hfind rfl (.inr rfl) _
  | syncNow | pauseSync | resumeSync | previewInitialSync =>
      obtain rfl : pending = none := hpending.resolve_left nofun
      simp only [startOfflineOperation]
      split_ifs
      · exact .mirrors hwait hfind hmode hallowed rfl _
      · exact .mirrors hwait hfind hmode hallowed rfl _
      · exact .turnedAway hwait none _

theorem outcome_startOperation (hwait : app.mustWait now id = none)
    (hfind : app.findConnection id = some connection)
    (hallowed : (decideOperation (restoreConnection app.controllerSnapshot connection)
      operation).allowed = true)
    (pending : Option (ConnectionId × Instant)) (hpending : operation = .repair ∨ pending = none) :
    Outcome app now id operation
      (startOperation { app with pendingRepair := pending } id name connection operation label) := by
  unfold startOperation
  split
  · exact outcome_startOnlineOperation hwait hfind pending hpending
  · next options hmode => exact outcome_startOfflineOperation hwait hfind hmode hallowed pending hpending

theorem outcome_confirmOperation (hwait : app.mustWait now id = none)
    (hfind : app.findConnection id = some connection)
    (hallowed : (decideOperation (restoreConnection app.controllerSnapshot connection)
      operation).allowed = true) :
    Outcome app now id operation (app.confirmOperation now id name connection operation label) := by
  unfold confirmOperation
  split
  · exact .turnedAway hwait app.pendingRepair _
  · split
    · next hrepair =>
        split
        · exact outcome_startOperation hwait hfind hallowed app.pendingRepair (.inl hrepair)
        · exact .turnedAway hwait _ _
        · exact .turnedAway hwait app.pendingRepair _
    · exact outcome_startOperation hwait hfind hallowed none (.inr rfl)

theorem outcome_recordOperationRequest (app : AppModel) (now : Instant) (id : ConnectionId)
    (operation : Operation) :
    Outcome app now id operation (app.recordOperationRequest now id operation) := by
  unfold recordOperationRequest
  split
  · next hwait => exact .waits hwait
  · next hwait =>
      rw [find_viewState]
      cases hfind : app.findConnection id with
      | none => exact .turnedAway hwait app.pendingRepair _
      | some connection =>
          dsimp only [Option.map_some]
          split
          · exact .turnedAway hwait app.pendingRepair _
          · next hallowed => exact outcome_confirmOperation hwait hfind (by simpa using hallowed)

/-! ## Messages that leave the requests alone -/

/-- The requests and their completions stay as they are. -/
structure SameRequests (app after : AppModel) : Prop where
  standalone : after.standalone = app.standalone
  routed : after.runtimeRoutedOperations = app.runtimeRoutedOperations
  waiting : after.unitOperationsWaiting = app.unitOperationsWaiting
  observing : app.standalone = false → app.unitObservationPending = true →
    after.unitObservationPending = true
  revision : after.runtimeOperationRevision = app.runtimeOperationRevision
  completions : after.runtimeOperationCompletions = app.runtimeOperationCompletions

structure SameMirrors (app after : AppModel) : Prop where
  pending : after.mirrorOperationsPending = app.mirrorOperationsPending
  controls : after.mirrorOperationControls = app.mirrorOperationControls
  nextControl : after.nextControl = app.nextControl

structure Untouched (app after : AppModel) : Prop where
  requests : SameRequests app after
  mirrors : SameMirrors app after

theorem SameRequests.refl (app : AppModel) : SameRequests app app :=
  ⟨rfl, rfl, rfl, fun _ h ↦ h, rfl, rfl⟩

theorem SameRequests.trans {first second third : AppModel} (h : SameRequests first second)
    (h' : SameRequests second third) : SameRequests first third where
  standalone := h'.standalone.trans h.standalone
  routed := h'.routed.trans h.routed
  waiting := h'.waiting.trans h.waiting
  observing := fun happlet hpending ↦
    h'.observing (h.standalone.trans happlet) (h.observing happlet hpending)
  revision := h'.revision.trans h.revision
  completions := h'.completions.trans h.completions

theorem SameMirrors.refl (app : AppModel) : SameMirrors app app := ⟨rfl, rfl, rfl⟩

theorem SameMirrors.trans {first second third : AppModel} (h : SameMirrors first second)
    (h' : SameMirrors second third) : SameMirrors first third :=
  ⟨h'.pending.trans h.pending, h'.controls.trans h.controls, h'.nextControl.trans h.nextControl⟩

theorem Untouched.refl (app : AppModel) : Untouched app app := ⟨.refl app, .refl app⟩

theorem Untouched.trans {first second third : AppModel} (h : Untouched first second)
    (h' : Untouched second third) : Untouched first third :=
  ⟨h.requests.trans h'.requests, h.mirrors.trans h'.mirrors⟩

/-- The fields that the requests live in. -/
def requestFields (app : AppModel) :=
  (app.standalone, app.runtimeRoutedOperations, app.unitOperationsWaiting,
    app.unitObservationPending, app.runtimeOperationRevision, app.runtimeOperationCompletions)

def mirrorFields (app : AppModel) :=
  (app.mirrorOperationsPending, app.mirrorOperationControls, app.nextControl)

theorem SameRequests.of_fields {after : AppModel} (h : after.requestFields = app.requestFields) :
    SameRequests app after := by
  simp only [requestFields, Prod.mk.injEq] at h
  obtain ⟨hstandalone, hrouted, hwaiting, hpending, hrevision, hcompletions⟩ := h
  exact ⟨hstandalone, hrouted, hwaiting, fun _ h ↦ hpending ▸ h, hrevision, hcompletions⟩

theorem SameMirrors.of_fields {after : AppModel} (h : after.mirrorFields = app.mirrorFields) :
    SameMirrors app after := by
  simp only [mirrorFields, Prod.mk.injEq] at h
  exact ⟨h.1, h.2.1, h.2.2⟩

theorem Untouched.of_fields {after : AppModel} (hrequests : after.requestFields = app.requestFields)
    (hmirrors : after.mirrorFields = app.mirrorFields) : Untouched app after :=
  ⟨.of_fields hrequests, .of_fields hmirrors⟩

theorem untouched_refreshUnitObservation (app : AppModel) (force : Bool) :
    Untouched app (app.refreshUnitObservation force).1 := by
  unfold refreshUnitObservation
  split
  · exact .refl app
  · exact ⟨⟨rfl, rfl, rfl, fun _ _ ↦ rfl, rfl, rfl⟩, .of_fields rfl⟩

/-- A reading of the units for another configuration is replaced by a new one. -/
theorem untouched_unitObservationCompleted {revision : UInt64} {connections : List Connection}
    {observation : UnitObservation}
    (hstale : ¬(revision = app.unitObservationRevision ∧ connections = app.document.connections)) :
    Untouched app (app.unitObservationCompleted now revision connections observation).1 := by
  unfold unitObservationCompleted
  split
  · exact .refl app
  · next hrevision =>
      rw [if_pos (fun hconnections ↦ hstale ⟨not_not.mp hrevision, hconnections⟩)]
      unfold refreshUnitObservation
      split
      · next hnone =>
          refine ⟨⟨rfl, rfl, rfl, fun happlet _ ↦ ?_, rfl, rfl⟩, .of_fields rfl⟩
          simp [happlet] at hnone
      · exact ⟨⟨rfl, rfl, rfl, fun _ _ ↦ rfl, rfl, rfl⟩, .of_fields rfl⟩

theorem untouched_acceptStatus (status : RuntimeStatus) : Untouched app (app.acceptStatus status) := by
  unfold acceptStatus
  dsimp only
  split <;> exact .of_fields rfl rfl

theorem untouched_reconcile (status : RuntimeStatus) :
    Untouched app (app.reconcileRuntimeOperationCompletion status) := by
  unfold reconcileRuntimeOperationCompletion
  repeat' split
  all_goals exact .of_fields rfl rfl

theorem untouched_runtimeResult (command : RuntimeCommand) (result : Except Message RuntimeStatus) :
    Untouched app (app.runtimeResult command result) := by
  have hfields (answered : AppModel) (h : Untouched app answered) (status : RuntimeStatus) :
      Untouched app (answered.acceptStatus status) := h.trans (untouched_acceptStatus status)
  cases command with
  | status =>
      simp only [runtimeResult, statusResult]
      split
      · exact .of_fields rfl rfl
      · cases result with
        | ok status =>
            refine hfields _ (.trans ?_ (untouched_reconcile status)) status
            exact .of_fields rfl rfl
        | error error => exact .of_fields rfl rfl
  | runOperation id operation =>
      cases result with
      | ok status =>
          refine (hfields { app with runtimePending := false } ?_ status).trans ?_
          all_goals exact .of_fields rfl rfl
      | error error => exact .of_fields rfl rfl
  | preference | configurationChanged =>
      cases result with
      | ok status =>
          refine hfields { app with runtimePending := false } ?_ status
          exact .of_fields rfl rfl
      | error error => exact .of_fields rfl rfl

theorem untouched_applyRuntimePreference (preference : RuntimePreference)
    (loaded : Except Message ConfigDocument) (saved : Except Message Unit) :
    Untouched app (app.applyRuntimePreference preference loaded saved).app := by
  unfold applyRuntimePreference
  repeat' split
  all_goals
    first
    | exact .refl app
    | exact .of_fields rfl rfl

end AppModel

/-- The messages that neither request, admit nor complete an operation. -/
def AppMessage.isQuiet : AppMessage → Bool
  | .unitObservationCompleted .. | .operationRequested .. | .wake .. | .onlineRepairCompleted ..
  | .offlineRepairCompleted .. | .mirrorOperationCompleted .. | .managedOnlineOperationCompleted ..
  | .runtimeRequest (.runOperation ..) (.ok _) _ => false
  | _ => true

namespace AppModel

variable {app : AppModel} {now : Instant}

theorem untouched_runtimeRequest {command : RuntimeCommand} {loaded : Except Message ConfigDocument}
    {saved : Except Message Unit} (hquiet : (AppMessage.runtimeRequest command loaded saved).isQuiet = true) :
    Untouched app (app.runtimeRequest now command loaded saved).app := by
  unfold runtimeRequest
  split
  · exact .refl app
  · cases command with
    | status => exact .refl app
    | preference preference => exact untouched_applyRuntimePreference preference loaded saved
    | configurationChanged =>
        cases loaded with
        | error error => exact .refl app
        | ok document => exact .of_fields rfl rfl
    | runOperation id operation =>
        cases loaded with
        | error error =>
            dsimp only [runRoutedOperation]
            split <;> exact .refl app
        | ok document => cases hquiet

theorem untouched_dispatchMessage {message : AppMessage} (hquiet : message.isQuiet = true) :
    Untouched app (app.dispatchMessage now message).app := by
  cases message with
  | unitObservationTick => exact untouched_refreshUnitObservation app false
  | runtimeRequest command loaded saved => exact untouched_runtimeRequest hquiet
  | runtimeResult command result => exact untouched_runtimeResult command result
  | runtimeOwnerConfigurationLoaded loaded =>
      simp only [dispatchMessage]
      split
      · cases loaded <;> exact .of_fields rfl rfl
      · exact .refl app
  | runtimePoll =>
      simp only [dispatchMessage, handled, runtimePoll]
      split <;> exact .of_fields rfl rfl
  | togglePopup loaded =>
      simp only [dispatchMessage]
      split <;> exact .of_fields rfl rfl
  | unitObservationCompleted | operationRequested | wake | onlineRepairCompleted
  | offlineRepairCompleted | mirrorOperationCompleted | managedOnlineOperationCompleted => cases hquiet
  | _ => exact .of_fields rfl rfl

theorem untouched_of_dispatchMessage {message : AppMessage}
    (h : Untouched app (app.dispatchMessage now message).app) :
    Untouched app (app.update now message).app := by
  unfold update
  dsimp only
  split
  · exact h.trans (untouched_refreshUnitObservation _ _)
  · exact h

theorem untouched_update {message : AppMessage} (hquiet : message.isQuiet = true) :
    Untouched app (app.update now message).app :=
  untouched_of_dispatchMessage (untouched_dispatchMessage hquiet)

/-! ## Completions -/

/-- The completion that was recorded last. -/
def recorded (app : AppModel) (id : ConnectionId) (operation : Operation) : OperationCompletion where
  revision := app.runtimeOperationRevision
  connectionId := id
  operation := operation
  notice := app.lastNotice.getD ⟨"ui-app-operation-completed", []⟩

/-- A call of `complete_routed_operation`, whatever else the handler changes. -/
structure Completes (app : AppModel) (id : ConnectionId) (operation : Operation) (after : AppModel) :
    Prop where
  standalone : after.standalone = app.standalone
  waiting : after.unitOperationsWaiting = app.unitOperationsWaiting
  observing : app.standalone = false → app.unitObservationPending = true →
    after.unitObservationPending = true
  routed : after.runtimeRoutedOperations = if app.runtimeRoutedOperations[id]? = some operation then
    app.runtimeRoutedOperations.erase id else app.runtimeRoutedOperations
  completions : after.runtimeOperationCompletions =
    if app.runtimeRoutedOperations[id]? = some operation then
      keepLast (app.runtimeOperationCompletions ++ [recorded after id operation])
    else app.runtimeOperationCompletions

variable {id : ConnectionId} {operation : Operation}

theorem SameRequests.completes {base : AppModel} (h : SameRequests app base) :
    Completes app id operation (base.completeRoutedOperation id operation) := by
  unfold completeRoutedOperation
  rw [h.routed]
  split
  · next hrouted =>
      refine ⟨h.standalone, h.waiting, h.observing, (if_pos hrouted).symm, ?_⟩
      rw [if_pos hrouted, ← h.completions]
      rfl
  · next hrouted =>
      refine ⟨h.standalone, h.waiting, h.observing, ?_, ?_⟩
      · rw [if_neg hrouted, h.routed]
      · rw [if_neg hrouted, h.completions]

theorem Completes.refresh {after : AppModel} (h : Completes app id operation after) (force : Bool) :
    Completes app id operation (after.refreshUnitObservation force).1 := by
  have hsame := (untouched_refreshUnitObservation after force).requests
  have hrecorded : recorded (after.refreshUnitObservation force).1 id operation =
      recorded after id operation := by
    unfold refreshUnitObservation
    split <;> rfl
  refine ⟨hsame.standalone.trans h.standalone, hsame.waiting.trans h.waiting,
    fun happlet hpending ↦ hsame.observing (h.standalone.trans happlet) (h.observing happlet hpending),
    hsame.routed.trans h.routed, ?_⟩
  rw [hsame.completions, hrecorded]
  exact h.completions

theorem completes_managedOnlineOperationCompleted (app : AppModel) (connection : Connection)
    (operation : Operation) (result : Except Message Unit) (loaded : ConfigDocument) :
    Completes app connection.id operation
      (app.managedOnlineOperationCompleted connection operation result loaded) := by
  unfold managedOnlineOperationCompleted
  exact SameRequests.completes (.of_fields rfl)

theorem completes_onlineRepairCompleted (app : AppModel) (id : ConnectionId) (notice : Message)
    (loaded : ConfigDocument) :
    Completes app id .repair (app.onlineRepairCompleted id notice loaded) := by
  unfold onlineRepairCompleted repairCompleted
  exact SameRequests.completes (.of_fields rfl)

theorem completes_offlineRepairCompleted (app : AppModel) (id : ConnectionId) (notice : Message)
    (loaded : ConfigDocument) :
    Completes app id .repair (app.offlineRepairCompleted id notice loaded) := by
  unfold offlineRepairCompleted repairCompleted
  exact SameRequests.completes (.of_fields rfl)

/-- A mirror completes what is routed, or nothing. -/
theorem completes_mirrorOperationCompleted (app : AppModel) (id : ConnectionId) (notice : Message)
    (loaded : ConfigDocument) : ∃ operation,
      (app.runtimeRoutedOperations[id]?).getD operation = operation ∧
        Completes app id operation (app.mirrorOperationCompleted id notice loaded) := by
  unfold mirrorOperationCompleted
  dsimp only
  split
  · next operation hrouted =>
      exact ⟨operation, by rw [hrouted]; rfl, SameRequests.completes (.of_fields rfl)⟩
  · next hrouted =>
      refine ⟨.mount, by rw [hrouted]; rfl, ⟨rfl, rfl, fun _ h ↦ h, ?_, ?_⟩⟩
      all_goals
        rw [hrouted]
        rfl

end AppModel

end CosmicMounter.Runtime

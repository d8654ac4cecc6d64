import CosmicMounter.Config.Validation
import CosmicMounter.Mounts.Table
import CosmicMounter.Services.Unit

/-!
# The controller

`controller.rs`: the status of a connection as the applet shows it, and the
operations that it offers in that status.
-/

namespace CosmicMounter

open Rust

namespace Uuid

/-- `ConnectionId` is ordered as its UUID, and the displayed form keeps that order. -/
instance : Ord Uuid := ⟨fun first second ↦ compare first.text second.text⟩

theorem compare_def (first second : Uuid) : compare first second = compare first.text second.text := rfl

instance : Std.TransOrd Uuid where
  eq_swap := by
    intro first second
    rw [compare_def, compare_def]
    exact Std.OrientedCmp.eq_swap
  isLE_trans := by
    intro first second third hfirst hsecond
    rw [compare_def] at hfirst hsecond ⊢
    exact Std.TransCmp.isLE_trans hfirst hsecond

instance : Std.LawfulEqOrd Uuid where
  compare_self := by
    intro id
    rw [compare_def]
    exact Std.ReflCmp.compare_self
  eq_of_compare := by
    intro first second h
    rw [compare_def] at h
    exact Uuid.ext (Std.LawfulEqCmp.eq_of_compare h)

end Uuid

inductive Operation
  | mount
  | unmount
  | syncNow
  | pauseSync
  | resumeSync
  | previewInitialSync
  | repair
  deriving DecidableEq, Repr

namespace Runtime

abbrev ById (V : Type) := Std.TreeMap Uuid V

abbrev Ids := Std.TreeSet Uuid

inductive OnlineMountStatus
  | unmounted
  | waitingForNetwork
  | waitingForVpn
  | mounting
  | mounted
  | degraded
  | pendingWrites
  | detaching
  | error
  | unavailable
  deriving DecidableEq, Repr

inductive OfflineMirrorStatus
  | idle
  | offline
  | waitingForVpn
  | previewing
  | syncing
  | paused
  | meteredPaused
  | conflict
  | error
  | unavailable
  deriving DecidableEq, Repr

inductive ConnectionStatus
  | onlineMount (status : OnlineMountStatus)
  | offlineMirror (status : OfflineMirrorStatus)
  deriving DecidableEq, Repr

inductive SyncRuntimeState
  | idle
  | running
  | paused
  | failed
  | unknown
  deriving DecidableEq, Repr

structure ControllerSnapshot where
  config : ConfigDocument
  serviceStatus : ById UnitStatus
  syncState : ById SyncRuntimeState
  pausedSyncs : Ids
  conflicts : List ConnectionId := []
  mountEntries : List Mounts.MountEntry
  onlineRepairRequired : Ids
  vpnReady : ById Bool
  networkReady : Bool
  meteredNetwork : Bool := false

structure OperationAction where
  operation : Operation
  enabled : Bool
  deriving DecidableEq, Repr

structure ConnectionRowState where
  id : ConnectionId
  name : String
  status : ConnectionStatus
  actions : List OperationAction
  deriving DecidableEq, Repr

structure OperationDecision where
  operation : Operation
  allowed : Bool
  reason : Option Message
  deriving DecidableEq, Repr

def vpnReady (snapshot : ControllerSnapshot) (profileId : Option VpnProfileId) : Bool :=
  match profileId with
  | none => true
  | some id => snapshot.vpnReady[id]?.getD true

def onlineStatus (snapshot : ControllerSnapshot) (connection : Connection) : OnlineMountStatus :=
  if !connection.enabled then .unavailable
  else if connection.id ∈ snapshot.onlineRepairRequired then .error
  else
    let service : Option ActiveState := (snapshot.serviceStatus[connection.id]?).map (·.active)
    if snapshot.mountEntries.any fun entry ↦ Path.Same entry.target connection.localPath then
      if service = some .inactive ∨ service = some .failed then .error
      else if !snapshot.networkReady || !vpnReady snapshot connection.vpnProfileId then .degraded
      else .mounted
    else if !snapshot.networkReady then .waitingForNetwork
    else if !vpnReady snapshot connection.vpnProfileId then .waitingForVpn
    else
      match service with
      | some .failed => .error
      | some .active | some .activating => .mounting
      | _ => .unmounted

/-- Live work comes before everything that is stored about the connection. -/
def offlineStatus (snapshot : ControllerSnapshot) (connection : Connection) : OfflineMirrorStatus :=
  match snapshot.syncState[connection.id]? with
  | some .running => .syncing
  | some .failed => .error
  | state =>
      let observedActive := state == some .idle
      if !connection.ensureSupportedEngine.isOk && !observedActive then .unavailable
      else if !connection.enabled && !observedActive then .unavailable
      else if connection.id ∈ snapshot.conflicts then .conflict
      else if connection.id ∈ snapshot.pausedSyncs then .paused
      else if !snapshot.networkReady then .offline
      else if !vpnReady snapshot connection.vpnProfileId then .waitingForVpn
      else
        match connection.mode with
        | .offlineMirror options =>
            if snapshot.meteredNetwork && !options.syncOnMetered then .meteredPaused else .idle
        | .onlineMount _ => .idle

def actions : ConnectionStatus → List OperationAction
  | .onlineMount .degraded => [⟨.unmount, true⟩, ⟨.repair, true⟩]
  | .onlineMount .error => [⟨.mount, true⟩, ⟨.repair, true⟩]
  | .onlineMount .mounted => [⟨.unmount, true⟩]
  | .onlineMount .unmounted => [⟨.mount, true⟩]
  | .onlineMount .mounting => [⟨.unmount, true⟩, ⟨.repair, false⟩]
  | .onlineMount .pendingWrites | .onlineMount .detaching => [⟨.repair, false⟩]
  | .onlineMount .waitingForVpn => [⟨.mount, true⟩]
  | .onlineMount .waitingForNetwork | .onlineMount .unavailable => [⟨.mount, false⟩]
  | .offlineMirror .idle | .offlineMirror .offline | .offlineMirror .meteredPaused =>
      [⟨.syncNow, true⟩, ⟨.pauseSync, true⟩, ⟨.previewInitialSync, true⟩]
  | .offlineMirror .paused =>
      [⟨.resumeSync, true⟩, ⟨.syncNow, true⟩, ⟨.previewInitialSync, true⟩]
  | .offlineMirror .syncing => [⟨.pauseSync, true⟩, ⟨.syncNow, false⟩, ⟨.repair, true⟩]
  | .offlineMirror .previewing => [⟨.pauseSync, false⟩, ⟨.repair, false⟩]
  | .offlineMirror .conflict | .offlineMirror .error => [⟨.syncNow, false⟩, ⟨.repair, true⟩]
  | .offlineMirror .waitingForVpn | .offlineMirror .unavailable =>
      [⟨.syncNow, false⟩, ⟨.repair, true⟩]

/-- A retired engine keeps Pause only. -/
def restrictActions (connection : Connection) (available : List OperationAction) :
    List OperationAction :=
  if connection.ensureSupportedEngine.isOk then available
  else available.map fun action ↦
    if action.operation = .pauseSync then action else { action with enabled := false }

def connectionStatus (snapshot : ControllerSnapshot) (connection : Connection) : ConnectionStatus :=
  match connection.mode with
  | .onlineMount _ => .onlineMount (onlineStatus snapshot connection)
  | .offlineMirror _ => .offlineMirror (offlineStatus snapshot connection)

def restoreConnection (snapshot : ControllerSnapshot) (connection : Connection) :
    ConnectionRowState where
  id := connection.id
  name := connection.name
  status := connectionStatus snapshot connection
  actions := restrictActions connection (actions (connectionStatus snapshot connection))

/-- The rows of `restore`. -/
def restore (snapshot : ControllerSnapshot) : List ConnectionRowState :=
  snapshot.config.connections.map (restoreConnection snapshot)

def refusalReason : ConnectionStatus → Message
  | .onlineMount .waitingForNetwork | .offlineMirror .offline => ⟨"operation-unavailable-network", []⟩
  | .onlineMount .waitingForVpn | .offlineMirror .waitingForVpn => ⟨"operation-unavailable-vpn", []⟩
  | .onlineMount .pendingWrites => ⟨"operation-unavailable-pending-writes", []⟩
  | .offlineMirror .syncing => ⟨"operation-unavailable-sync-running", []⟩
  | .onlineMount .unavailable | .offlineMirror .unavailable =>
      ⟨"operation-unavailable-connection", []⟩
  | _ => ⟨"operation-unavailable-state", []⟩

def decideOperation (row : ConnectionRowState) (operation : Operation) : OperationDecision :=
  let allowed := ((row.actions.find? fun action ↦ action.operation = operation).map (·.enabled)).getD false
  ⟨operation, allowed, if allowed then none else some (refusalReason row.status)⟩

def operationLabel : Operation → Message
  | .mount => ⟨"operation-mount", []⟩
  | .unmount => ⟨"operation-unmount", []⟩
  | .syncNow => ⟨"operation-sync-now", []⟩
  | .pauseSync => ⟨"operation-pause", []⟩
  | .resumeSync => ⟨"operation-resume", []⟩
  | .previewInitialSync => ⟨"operation-preview", []⟩
  | .repair => ⟨"operation-repair", []⟩

def rowOperationLabel : ConnectionStatus → Operation → Message
  | .offlineMirror _, .pauseSync => ⟨"operation-stop", []⟩
  | .offlineMirror _, .resumeSync => ⟨"operation-start", []⟩
  | _, operation => operationLabel operation

/-! ## What a running mirror allows -/

theorem offlineStatus_of_running {snapshot : ControllerSnapshot} {connection : Connection}
    (hrunning : snapshot.syncState[connection.id]? = some .running) :
    offlineStatus snapshot connection = .syncing := by
  rw [offlineStatus, hrunning]

/-- Only Pause and Repair are offered for a mirror that is running. -/
theorem allowed_of_running {snapshot : ControllerSnapshot} {connection : Connection}
    {options : OfflineMirrorConfig} {operation : Operation}
    (hmode : connection.mode = .offlineMirror options)
    (hrunning : snapshot.syncState[connection.id]? = some .running)
    (hallowed : (decideOperation (restoreConnection snapshot connection) operation).allowed = true) :
    operation = .pauseSync ∨ operation = .repair := by
  have hstatus : connectionStatus snapshot connection = .offlineMirror .syncing := by
    rw [connectionStatus, hmode]
    exact congrArg ConnectionStatus.offlineMirror (offlineStatus_of_running hrunning)
  simp only [decideOperation, restoreConnection, hstatus, restrictActions, actions] at hallowed
  cases operation <;> split at hallowed <;> simp_all

end Runtime

end CosmicMounter

import CosmicMounter.Vpn.NetworkManager

/-!
# Activating a VPN and giving it back

What the applet does with a VPN profile around its operations (`app.rs`): it
makes sure that the tunnel is up before storage is used, and brings a tunnel
down again that it brought up itself once no connection uses it.
-/

namespace CosmicMounter.Vpn

open Rust Interaction

abbrev Call (α : Type) := ExceptT String (Program VpnRequest.Answer) α

variable (fl : Message → String)

/-- A step over D-Bus whose error is shown in a text of the catalogue. -/
def wrapped {α : Type} (key : String) (step : Dbus α) : Call α :=
  Program.reporting (fun error ↦ fl ⟨key, [("error", error.display fl)]⟩) step

/-- A step over D-Bus whose error is shown as it is. -/
def shown {α : Type} (step : Dbus α) : Call α := Program.reporting (·.display fl) step

/-- A step over D-Bus whose error counts as an answer. -/
def orElse {α : Type} (default : α) (step : Dbus α) : Call α := do
  let result ← liftM step.run
  match result with
  | .ok value => return value
  | .error _ => return default

def work (step : Work) : Call String := ExceptT.mk (ask (.work step))

/-! ## What the applet activated -/

/-- The list is read and written again without a lock. -/
def markVpnAppletActivated (id : VpnProfileId) : Call Unit := do
  let profiles ← ask .readActivated
  ask (.writeActivated (insert id profiles))

def unmarkVpnAppletActivated (id : VpnProfileId) : Call Unit := do
  let profiles ← ask .readActivated
  ask (.writeActivated (profiles.erase id))

/-! ## Readiness -/

def vpnTunnelReady (vpn : VpnProfile) : Call Bool :=
  match vpn.kind with
  | .networkManager => do
      let state ← shown fl (state vpn)
      return state.ready
  | .legacyCisco => throw (fl ⟨"ui-app-legacy-cisco-profiles-are-unsupported-select-a", []⟩)

def vpnProfileReady (vpn : VpnProfile) : Call Bool := do
  let connected ← vpnTunnelReady fl vpn
  if connected then shown fl (readinessReport vpn.readinessChecks) else return false

def vpnActivationTerminalError (state : VpnConnectionState) (activationRequested : Bool) : Option String :=
  match state with
  | .failed => some (fl ⟨"vpn-activation-failed", []⟩)
  | .disconnected => if activationRequested then some (fl ⟨"vpn-activation-cancelled", []⟩) else none
  | _ => none

/-- What one look tells: an error that ends the waiting, or whether the profile is ready. -/
def lookAtVpn (vpn : VpnProfile) (activationRequested : Bool) : Call Bool := do
  let result ← liftM (state vpn).run
  match result with
  | .error _ => return false
  | .ok state =>
      match vpnActivationTerminalError fl state activationRequested with
      | some error => throw error
      | none =>
          if state.ready then do
            let ready ← liftM (vpnProfileReady fl vpn).run
            match ready with
            | .ok ready => return ready
            | .error _ => return false
          else return false

/-- The loop comes round so often before its deadline is past. -/
def waitForVpnReady (vpn : VpnProfile) (activationRequested : Bool) : Nat → Call Bool
  | 0 => return false
  | rounds + 1 =>
      match vpn.kind with
      | .legacyCisco => vpnProfileReady fl vpn
      | .networkManager => do
          let ready ← lookAtVpn fl vpn activationRequested
          if ready then return true
          ask .sleep
          waitForVpnReady vpn activationRequested rounds

/-! ## Activating -/

def applyOpenconnectTimeout (vpn : VpnProfile) (isOpenconnect : Bool) : VpnProfile :=
  if isOpenconnect then { vpn with timeoutSeconds := max vpn.timeoutSeconds 90 } else vpn

def cleanupTimedOutVpnActivation (vpn : VpnProfile) (isOpenconnect : Bool) : Call Unit := do
  wrapped fl "ui-app-could-not-deactivate-timed-out-vpn-error" (deactivate vpn)
  if isOpenconnect then
    wrapped fl "ui-app-could-not-close-the-timed-out-authentication" (ExceptT.mk (ask .restartOpenconnectAgent))

/-- The words for a wait that was in vain, with what came of the cleanup. -/
def timedOut (vpn : VpnProfile) (cleanup : Except String Unit) : String :=
  let error := fl ⟨"ui-app-value1-did-not-become-ready-within-value2",
    [("value1", vpn.name), ("value2", toString vpn.timeoutSeconds)]⟩
  match cleanup with
  | .ok () => error
  | .error cleanupError =>
      error ++ fl ⟨"ui-app-timeout-cleanup-failed-cleanup-error", [("cleanup_error", cleanupError)]⟩

def startActivation (vpn : VpnProfile) : Call Unit :=
  match vpn.kind with
  | .networkManager => wrapped fl "ui-app-could-not-activate-networkmanager-vpn-error" (activate fl vpn)
  | .legacyCisco => throw (fl ⟨"ui-app-this-connection-still-references-an-unsupported-legacy", []⟩)

/-- What the wait leads to: only an activation of its own is listed, or taken back. -/
def settleActivation (vpn : VpnProfile) (isOpenconnect alreadyConnected ready : Bool) : Call Unit :=
  match ready, alreadyConnected with
  | true, true => return ()
  | true, false => markVpnAppletActivated vpn.id
  | false, true => throw (timedOut fl vpn (.ok ()))
  | false, false => do
      let cleanup ← Program.attempt (cleanupTimedOutVpnActivation fl vpn isOpenconnect)
      throw (timedOut fl vpn cleanup)

/-- What is done while the activation lock of the profile is held. -/
def ensureLocked (rounds : Nat) (vpn : VpnProfile) (isOpenconnect : Bool) : Call Unit := do
  let tunnel ← liftM (vpnTunnelReady fl vpn).run
  let alreadyConnected := tunnel.toOption.getD false
  if !alreadyConnected then
    startActivation fl vpn
  let ready ← waitForVpnReady fl vpn (!alreadyConnected) rounds
  settleActivation fl vpn isOpenconnect alreadyConnected ready

/-- One activation of a profile at a time: the guard is dropped on every way out. -/
def ensureVpnProfileReady (rounds : Nat) (vpn : VpnProfile) (isOpenconnect : Bool) : Call Unit := do
  ask (.lockActivation vpn.id)
  let result ← Program.attempt (ensureLocked fl rounds vpn isOpenconnect)
  ask (.unlockActivation vpn.id)
  Program.check result

def isOpenconnectProfile (vpn : VpnProfile) : Call Bool :=
  match vpn.kind, vpn.externalProfileId with
  | .networkManager, some uuid => orElse false (profileIsOpenconnect fl uuid)
  | _, _ => return false

def ensureVpnReadyForConnection (rounds : Nat) (connection : Connection) : Call Unit :=
  match connection.vpnProfileId with
  | none => return ()
  | some id => do
      let document ← ask .loadRuntime
      match document.vpnProfiles.find? fun vpn ↦ vpn.id = id with
      | none => throw (fl ⟨"ui-app-configured-vpn-profile-is-no-longer-available", []⟩)
      | some vpn => do
          let isOpenconnect ← isOpenconnectProfile fl vpn
          ensureVpnProfileReady fl rounds (applyOpenconnectTimeout vpn isOpenconnect) isOpenconnect

/-! ## Giving back -/

def hostMountEntries : Call (List Mounts.MountEntry) := do
  let text ← ExceptT.mk (ask .hostMountInfo)
  Program.check (((Str.lines text).mapM Mounts.parseMountinfoLine).mapError fl)

def isUp : Option UnitStatus → Bool
  | some status => status.active = .active || status.active = .activating
  | none => false

def unitIsUp (connection : ConnectionId) (kind : UnitKind) : Call Bool := do
  let status ← ask (.unitStatus ⟨connection, kind⟩)
  return isUp status

/-- Each unit is asked about only where nothing before shows that the connection is active. -/
def connectionAppearsActive (connection : Connection) (mounts : List Mounts.MountEntry) : Call Bool :=
  match connection.mode with
  | .onlineMount _ =>
      if Detach.isMountedAt connection mounts then return true else unitIsUp connection.id .service
  | .offlineMirror _ => do
      let service ← unitIsUp connection.id .service
      if service then return true else unitIsUp connection.id .timer

def activeAmong (mounts : List Mounts.MountEntry) : List Connection → Call (Finset ConnectionId)
  | [] => return ∅
  | connection :: rest => do
      let active ← connectionAppearsActive connection mounts
      let others ← activeAmong mounts rest
      return if active then insert connection.id others else others

/-- The other connections of the profile in the configuration. -/
def othersUsing (id : VpnProfileId) (except : ConnectionId) (document : ConfigDocument) : List Connection :=
  document.connections.filter fun connection ↦ connection.vpnProfileId = some id && connection.id ≠ except

def activeConnectionsUsingVpn (id : VpnProfileId) (except : ConnectionId) : Call (Finset ConnectionId) := do
  let document ← ask .loadRuntime
  let mounts ← hostMountEntries fl
  let active ← activeAmong mounts (othersUsing id except document)
  let users ← ask (.finiteUsers id)
  return active ∪ users.erase except

def disconnectVpnProfile (id : VpnProfileId) : Call Unit := do
  let document ← ask .loadRuntime
  match document.vpnProfiles.find? fun vpn ↦ vpn.id = id with
  | none => return ()
  | some vpn =>
      match vpn.kind with
      | .networkManager => wrapped fl "ui-app-could-not-disconnect-networkmanager-vpn-error" (deactivate vpn)
      | .legacyCisco => throw (fl ⟨"ui-app-legacy-cisco-profiles-are-unsupported-no-proprietary", []⟩)

def maybeShutdownVpnAfterUnmount (connection : Connection) : Call Unit :=
  match connection.vpnProfileId with
  | none => return ()
  | some id =>
      if !connection.disconnectVpnWhenUnused then return () else do
        let activated ← ask .readActivated
        let active ← activeConnectionsUsingVpn fl id connection.id
        match shutdownDecision {
            profileId := id
            appletActivated := decide (id ∈ activated)
            activeConnectionIds := active } with
        | .disconnect => do
            disconnectVpnProfile fl id
            unmarkVpnAppletActivated id
        | .noAction | .keepAliveShared | .keepAlivePreExisting => return ()

/-! ## Finite operations of a mirror -/

def strictNetworkReady : Call Bool :=
  wrapped fl "ui-app-could-not-inspect-networkmanager-readiness-error" connected

def currentMeteredNetwork : Call Bool := orElse false metered

def beginFiniteOfflineVpnUse (rounds : Nat) (connection : Connection) : Call Unit := do
  let ready ← strictNetworkReady fl
  if !ready then
    throw (fl ⟨"ui-app-offline-synchronization-is-waiting-for-network-readiness", []⟩)
  ensureVpnReadyForConnection fl rounds connection
  match connection.vpnProfileId with
  | some id => ask (.registerUser id connection.id)
  | none => return ()

def finishOfflineVpnUse (connection : Connection) : Call Unit := do
  match connection.vpnProfileId with
  | some id => ask (.unregisterUser id connection.id)
  | none => pure ()
  maybeShutdownVpnAfterUnmount fl connection

def mergeOfflineVpnRelease (operation : Except String String) (release : Except String Unit) :
    Except String String :=
  match operation, release with
  | result, .ok () => result
  | .ok summary, .error error =>
      .ok (fl ⟨"ui-app-summary-vpn-remains-connected-because-automatic-release",
        [("summary", summary), ("error", error)]⟩)
  | .error operationError, .error releaseError =>
      .error (fl ⟨"ui-app-operation-error-vpn-remains-connected-because-automatic",
        [("operation_error", operationError), ("release_error", releaseError)]⟩)

/-! ## Whether a synchronization may start -/

inductive SyncTrigger
  | initial
  | manual
  | connectivityRestored
  | scheduled
  | resyncOrStateRebuild
  deriving DecidableEq, Repr

structure SyncReadiness where
  networkReady : Bool
  vpnReady : Bool

structure SyncRequest where
  trigger : SyncTrigger
  previewCompleted : Bool
  userConfirmed : Bool
  meteredNetwork : Bool
  running : Bool
  readiness : SyncReadiness

inductive SyncDecisionRejection
  | concurrentRun
  | previewRequired
  | confirmationRequired
  | resyncPreviewRequired
  deriving DecidableEq, Repr

inductive SyncDecision
  | run
  | pauseMetered
  | waitForNetwork
  | waitForVpn
  | reject (rejection : SyncDecisionRejection)
  deriving DecidableEq, Repr

def syncNowRequest (request : SyncRequest) (options : OfflineMirrorConfig) : SyncDecision :=
  if request.running then .reject .concurrentRun
  else if !request.readiness.networkReady then .waitForNetwork
  else if !request.readiness.vpnReady then .waitForVpn
  else if request.meteredNetwork && !options.syncOnMetered && request.trigger ≠ .manual then .pauseMetered
  else match request.trigger with
    | .initial =>
        if !request.previewCompleted then .reject .previewRequired
        else if !request.userConfirmed then .reject .confirmationRequired
        else .run
    | .resyncOrStateRebuild =>
        if !request.previewCompleted || !request.userConfirmed then .reject .resyncPreviewRequired else .run
    | _ => .run

def syncRejectionMessage : SyncDecisionRejection → Message
  | .concurrentRun => ⟨"sync-rejection-concurrent", []⟩
  | .previewRequired => ⟨"sync-rejection-preview", []⟩
  | .confirmationRequired => ⟨"sync-rejection-confirmation", []⟩
  | .resyncPreviewRequired => ⟨"sync-rejection-resync", []⟩

def ensureBackgroundSyncMayStart (rounds : Nat) (connection : Connection) : Call Unit :=
  match connection.mode with
  | .onlineMount _ => throw (fl ⟨"ui-app-connection-is-not-an-offline-mirror", []⟩)
  | .offlineMirror options => do
      let networkReady ← strictNetworkReady fl
      let meteredNetwork ← currentMeteredNetwork
      match syncNowRequest {
          trigger := .scheduled
          previewCompleted := true
          userConfirmed := true
          meteredNetwork
          running := false
          readiness := { networkReady, vpnReady := true } } options with
      | .run => ensureVpnReadyForConnection fl rounds connection
      | .waitForNetwork => throw (fl ⟨"ui-app-background-sync-is-waiting-for-network-readiness", []⟩)
      | .waitForVpn => throw (fl ⟨"ui-app-background-sync-is-waiting-for-vpn-readiness", []⟩)
      | .pauseMetered => throw (fl ⟨"ui-app-background-sync-is-paused-on-metered-networks", []⟩)
      | .reject rejection => throw (fl (syncRejectionMessage rejection))

end CosmicMounter.Vpn

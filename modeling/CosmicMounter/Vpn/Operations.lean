import CosmicMounter.Vpn.Activation

/-!
# Operations that use a VPN

The operations of a connection (`app.rs`) as far as they concern its VPN: when
each makes sure of the tunnel, and when it gives it back.  What else they do is
one step each, which may go either way.
-/

namespace CosmicMounter.Vpn

open Rust Interaction

variable (fl : Message → String)

/-! ## Online mounts -/

/-- The operation ends where its token is cancelled for sleep, which may be at any request. -/
def runManagedOnlineMountOperationResult (rounds : Nat) (connection : Connection) (operation : Operation) :
    Call String :=
  match Detach.onlineMountEngine connection with
  | none => throw (fl ⟨"ui-app-value1-is-not-an-online-mount", [("value1", connection.name)]⟩)
  | some engine => do
      let _ ← work .beginOnlineOperation
      match operation with
      | .mount => do
          let _ ← work .prepareMount
          ensureVpnReadyForConnection fl rounds connection
          work .startMount
      | .unmount => do
          let summary ← work .stopMount
          maybeShutdownVpnAfterUnmount fl connection
          return summary
      | _ =>
          let key := match engine with
            | .rclone => "ui-app-value1-is-not-a-managed-mount-operation"
            | .onedriver => "ui-app-value1-is-not-a-managed-onedriver-mount"
          throw (fl ⟨key, [("value1", fl (Runtime.operationLabel operation))]⟩)

/-! ## Mirrors -/

/-- The record is told of the end whatever came of the step. -/
def runTrackedOfflineOperation (step : Call String) : Call String := do
  let result ← Program.attempt (do
    let _ ← work .recordRunning
    step)
  let recorded ← Program.attempt (work .recordEnd)
  let summary ← Program.check result
  let _ ← Program.check recorded
  return summary

def startRcloneOfflineMirrorBackground (rounds : Nat) (connection : Connection) : Call String := do
  let initialized ← ask .initialSyncMarkerExists
  if !initialized then
    throw (fl ⟨"ui-app-background-sync-requires-a-successful-preview-and", []⟩)
  ensureBackgroundSyncMayStart fl rounds connection
  let result ← Program.attempt (work .startTimer)
  match result with
  | .ok summary => return summary
  | .error error => do
      let release ← Program.attempt (finishOfflineVpnUse fl connection)
      Program.check (mergeOfflineVpnRelease fl (.error error) release)

def isFinite (operation : Operation) : Bool := operation = .previewInitialSync || operation = .syncNow

/-- What is done between the use of the VPN and its return. -/
def mirrorStep (rounds : Nat) (connection : Connection) (operation : Operation) : Call String :=
  match operation with
  | .pauseSync => runTrackedOfflineOperation do
      let _ ← work .prepareMirror
      work .stopTimer
  | .resumeSync => runTrackedOfflineOperation do
      let _ ← work .prepareMirror
      startRcloneOfflineMirrorBackground fl rounds connection
  | .previewInitialSync | .syncNow => work (.bisync operation)
  | _ => do
      let _ ← work .plan
      throw (fl ⟨"ui-app-operation-is-not-a-finite-rclone-bisync", []⟩)

def checkSupportedEngine (connection : Connection) : Call Unit :=
  Program.check (connection.ensureSupportedEngine.mapError fun _ ↦ fl ⟨"onedrive-legacy-engine-retired", []⟩)

/-- A mirror of the retired engine can only be retired. -/
def legacyStep (connection : Connection) (operation : Operation) : Call String :=
  runTrackedOfflineOperation do
    if operation = .pauseSync ∧ connection.provider = .onedrive ∧
        connection.offlineEngine = some .legacyOnedrive then work .retireLegacyMirror
    else do
      checkSupportedEngine fl connection
      throw (fl ⟨"ui-app-connection-is-not-an-offline-mirror", []⟩)

/-- A finite operation is a user of the VPN while its step lasts. -/
def usingVpn (rounds : Nat) (connection : Connection) (operation : Operation) (step : Call String) :
    Call String := do
  if isFinite operation then
    beginFiniteOfflineVpnUse fl rounds connection
  let result ← Program.attempt step
  if isFinite operation || (operation == .pauseSync && result.isOk) then do
    let release ← Program.attempt (finishOfflineVpnUse fl connection)
    Program.check (mergeOfflineVpnRelease fl result release)
  else Program.check result

def runManagedOfflineMirrorOperation (rounds : Nat) (connection : Connection) (operation : Operation) :
    Call String := usingVpn fl rounds connection operation (mirrorStep fl rounds connection operation)

def runManagedOnedriveOfflineMirrorOperation (rounds : Nat) (connection : Connection) (operation : Operation) :
    Call String := do
  if operation ≠ .pauseSync then
    checkSupportedEngine fl connection
  usingVpn fl rounds connection operation (legacyStep fl connection operation)

/-- Only a repair that succeeded gives the VPN back, and what came of that changes nothing. -/
def runOfflineMirrorRepairOperation (connection : Connection) : Call String := do
  let result ← Program.attempt (work .repair)
  let recorded ← Program.attempt (work .recordEnd)
  let summary ← Program.check result
  let _ ← Program.check recorded
  let _ ← Program.attempt (finishOfflineVpnUse fl connection)
  return summary

/-! ## Tests and observation -/

def testConnectionPlanAndAccess (rounds : Nat) (connection : Connection) : Call String := do
  checkSupportedEngine fl connection
  let plan ← work .plan
  ensureVpnReadyForConnection fl rounds connection
  let access ← work .verifyAccess
  return plan ++ " " ++ access

def referencedActiveVpnProfiles (connections : List Connection) (active : Finset ConnectionId) :
    List VpnProfileId :=
  (connections.filter fun connection ↦ connection.enabled && decide (connection.id ∈ active)).filterMap
    (·.vpnProfileId)

def readyStates : List VpnProfile → Call (List (VpnProfileId × Bool))
  | [] => return []
  | vpn :: rest => do
      let ready ← match vpn.kind with
        | .networkManager => do
            let state ← orElse .unknown (state vpn)
            pure state.ready
        | .legacyCisco => pure false
      if !ready then
        unmarkVpnAppletActivated vpn.id
      let others ← readyStates rest
      return (vpn.id, ready) :: others

/-- A profile that is seen down is no longer the applet's. -/
def currentVpnReadyStates (config : ConfigDocument) : Call (List (VpnProfileId × Bool)) := do
  let mounts ← Program.attempt (hostMountEntries fl)
  let active ← activeAmong (mounts.toOption.getD []) config.connections
  let referenced := referencedActiveVpnProfiles config.connections active
  readyStates (config.vpnProfiles.filter fun vpn ↦ decide (vpn.id ∈ referenced))

/-! ## All of them -/

inductive Use
  | online (connection : Connection) (operation : Operation)
  | mirror (connection : Connection) (operation : Operation)
  | legacyMirror (connection : Connection) (operation : Operation)
  | repair (connection : Connection)
  | test (connection : Connection)
  | observe (config : ConfigDocument)

def Use.program (rounds : Nat) : Use → Call Unit
  | .online connection operation => do
      let _ ← runManagedOnlineMountOperationResult fl rounds connection operation
  | .mirror connection operation => do
      let _ ← runManagedOfflineMirrorOperation fl rounds connection operation
  | .legacyMirror connection operation => do
      let _ ← runManagedOnedriveOfflineMirrorOperation fl rounds connection operation
  | .repair connection => do
      let _ ← runOfflineMirrorRepairOperation fl connection
  | .test connection => do
      let _ ← testConnectionPlanAndAccess fl rounds connection
  | .observe config => do
      let _ ← currentVpnReadyStates fl config

end CosmicMounter.Vpn

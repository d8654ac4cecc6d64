import CosmicMounter.Interaction.Asks
import CosmicMounter.Mounts.Detach
import CosmicMounter.Runtime.Controller

/-!
# VPN profiles of NetworkManager

Saved profiles and active connections as NetworkManager tells of them, and
the readiness checks of a profile (`vpn.rs`).  An answer is also an error where
the time for an operation ran out while it was awaited.
-/

namespace CosmicMounter.Vpn

open Rust Interaction

/-! ## Requests -/

abbrev ObjectPath := String

/-- The settings of a saved connection that are texts, by section and name. -/
abbrev NmSettings := String → String → Option String

inductive VpnError
  | invalidProfileKind
  | missingExternalProfileId
  | invalidEndpoint
  | readinessCancelled
  | dbus (error : String)
  | authenticationAgent (error : String)
  deriving DecidableEq, Repr

def VpnError.display (fl : Message → String) : VpnError → String
  | .invalidProfileKind => fl ⟨"ui-vpn-invalid-vpn-profile-kind", []⟩
  | .missingExternalProfileId => fl ⟨"ui-vpn-missing-external-vpn-profile-id", []⟩
  | .invalidEndpoint => fl ⟨"ui-vpn-invalid-endpoint-readiness-check", []⟩
  | .readinessCancelled => fl ⟨"ui-vpn-readiness-check-was-cancelled", []⟩
  | .dbus error => fl ⟨"ui-vpn-networkmanager-d-bus-error-error", [("error", error)]⟩
  | .authenticationAgent error => fl ⟨"ui-vpn-openconnect-authentication-agent-error", [("error", error)]⟩

/-- What the operations on a connection do besides; how it goes does not concern the VPN. -/
inductive Work
  | beginOnlineOperation
  | prepareMount
  | startMount
  | stopMount
  | recordRunning
  | recordEnd
  | prepareMirror
  | bisync (operation : Operation)
  | retireLegacyMirror
  | startTimer
  | stopTimer
  | repair
  | plan
  | verifyAccess
  deriving DecidableEq, Repr

inductive VpnRequest
  | managerState
  | managerMetered
  | listConnections
  | getSettings (path : ObjectPath)
  | activeConnections
  | activeUuid (path : ObjectPath)
  | activeState (path : ObjectPath)
  | activateConnection (path : ObjectPath)
  | deactivateConnection (path : ObjectPath)
  | devices
  | deviceInterface (path : ObjectPath)
  | deviceState (path : ObjectPath)
  | routeReady (target : String)
  | dnsReady (name : String)
  | endpointReady (host : String) (port : Nat)
  | restartOpenconnectAgent
  | lockActivation (id : VpnProfileId)
  | unlockActivation (id : VpnProfileId)
  | registerUser (id : VpnProfileId) (connection : ConnectionId)
  | unregisterUser (id : VpnProfileId) (connection : ConnectionId)
  | finiteUsers (id : VpnProfileId)
  | readActivated
  | writeActivated (ids : Finset VpnProfileId)
  | loadRuntime
  | hostMountInfo
  | unitStatus (unit : UnitName)
  | sleep
  | initialSyncMarkerExists
  | work (step : Work)
  deriving DecidableEq

/-- A profile list that cannot be read is answered as an empty one, and a
configuration that cannot be loaded by the defaults. -/
abbrev VpnRequest.Answer : VpnRequest → Type
  | managerState | managerMetered => Except VpnError Nat
  | listConnections | activeConnections | devices => Except VpnError (List ObjectPath)
  | getSettings _ => Except VpnError NmSettings
  | activeUuid _ | deviceInterface _ => Except VpnError String
  | activeState _ | deviceState _ => Except VpnError Nat
  | activateConnection _ | deactivateConnection _ => Except VpnError Unit
  | routeReady _ | dnsReady _ | endpointReady _ _ => Bool
  | restartOpenconnectAgent => Except VpnError Unit
  | lockActivation _ | unlockActivation _ => Unit
  | registerUser _ _ | unregisterUser _ _ => Unit
  | finiteUsers _ => Finset ConnectionId
  | readActivated => Finset VpnProfileId
  | writeActivated _ => Unit
  | loadRuntime => ConfigDocument
  | hostMountInfo => Except String String
  | unitStatus _ => Option UnitStatus
  | sleep => Unit
  | initialSyncMarkerExists => Bool
  | work _ => Except String String

abbrev Dbus (α : Type) := ExceptT VpnError (Program VpnRequest.Answer) α

def ask (q : VpnRequest) : Program VpnRequest.Answer q.Answer :=
  Program.request (R := VpnRequest.Answer) q

/-! ## Saved profiles -/

def openconnectServiceType : String := "org.freedesktop.NetworkManager.openconnect"

structure NetworkManagerVpnProfile where
  name : String
  uuid : String
  vpnType : String
  serviceType : Option String
  deriving DecidableEq, Repr

def NetworkManagerVpnProfile.isOpenconnect (profile : NetworkManagerVpnProfile) : Bool :=
  decide (profile.serviceType = some openconnectServiceType)

def isVpnType (value : String) : Bool :=
  ["vpn", "wireguard", "openvpn", "anyconnect"].any fun name ↦ Str.contains name (Str.toAsciiLowercase value)

def profileFromSettings (values : NmSettings) : Option NetworkManagerVpnProfile := do
  let name ← values "connection" "id"
  let uuid ← values "connection" "uuid"
  let vpnType ← values "connection" "type"
  if isVpnType vpnType then some { name, uuid, vpnType, serviceType := values "vpn" "service-type" } else none

def profilesAt : List ObjectPath → Dbus (List (NetworkManagerVpnProfile × ObjectPath))
  | [] => pure []
  | path :: rest => do
      let values ← ExceptT.mk (ask (.getSettings path))
      let profiles ← profilesAt rest
      match profileFromSettings values with
      | some profile => return (profile, path) :: profiles
      | none => return profiles

def profiles : Dbus (List (NetworkManagerVpnProfile × ObjectPath)) := do
  let paths ← ExceptT.mk (ask .listConnections)
  profilesAt paths

def found (fl : Message → String) (uuid : String) (profiles : List (NetworkManagerVpnProfile × ObjectPath)) :
    Except VpnError (NetworkManagerVpnProfile × ObjectPath) :=
  match profiles.find? fun entry ↦ entry.1.uuid = uuid with
  | some entry => .ok entry
  | none => .error (.dbus (fl ⟨"ui-vpn-saved-vpn-profile-was-not-found", []⟩))

def profile (fl : Message → String) (uuid : String) : Dbus (NetworkManagerVpnProfile × ObjectPath) := do
  let profiles ← profiles
  Program.check (found fl uuid profiles)

def profileIsOpenconnect (fl : Message → String) (uuid : String) : Dbus Bool := do
  let entry ← profile fl uuid
  return entry.1.isOpenconnect

/-! ## Active connections -/

inductive VpnConnectionState
  | unknown
  | disconnected
  | activating
  | activated
  | failed
  deriving DecidableEq, Repr

def VpnConnectionState.ready : VpnConnectionState → Bool
  | .activated => true
  | _ => false

/-- The state as NetworkManager numbers it. -/
def VpnConnectionState.ofCode : Nat → VpnConnectionState
  | 1 => .activating
  | 2 => .activated
  | 3 => .disconnected
  | 4 => .failed
  | _ => .unknown

def activePathAmong (uuid : String) : List ObjectPath → Dbus (Option ObjectPath)
  | [] => pure none
  | path :: rest => do
      let activeUuid ← ExceptT.mk (ask (.activeUuid path))
      if activeUuid = uuid then return some path else activePathAmong uuid rest

def activePath (uuid : String) : Dbus (Option ObjectPath) := do
  let paths ← ExceptT.mk (ask .activeConnections)
  activePathAmong uuid paths

def ensureKind (profile : VpnProfile) : Except VpnError Unit :=
  if profile.kind = .networkManager then .ok () else .error .invalidProfileKind

/-- A blank identifier is none. -/
def externalProfileId (profile : VpnProfile) : Except VpnError String :=
  match profile.externalProfileId with
  | some value => if Str.trim value = "" then .error .missingExternalProfileId else .ok value
  | none => .error .missingExternalProfileId

def activate (fl : Message → String) (vpn : VpnProfile) : Dbus Unit := do
  Program.check (ensureKind vpn)
  let uuid ← Program.check (externalProfileId vpn)
  let saved ← profile fl uuid
  if saved.1.isOpenconnect then
    ExceptT.mk (ask .restartOpenconnectAgent)
  ExceptT.mk (ask (.activateConnection saved.2))

def deactivate (vpn : VpnProfile) : Dbus Unit := do
  Program.check (ensureKind vpn)
  let uuid ← Program.check (externalProfileId vpn)
  let path ← activePath uuid
  match path with
  | none => return ()
  | some path => ExceptT.mk (ask (.deactivateConnection path))

def state (vpn : VpnProfile) : Dbus VpnConnectionState := do
  Program.check (ensureKind vpn)
  let uuid ← Program.check (externalProfileId vpn)
  let path ← activePath uuid
  match path with
  | none => return .disconnected
  | some path => do
      let code ← ExceptT.mk (ask (.activeState path))
      return .ofCode code

def connected : Dbus Bool := do
  let state ← ExceptT.mk (ask .managerState)
  return state == 60 || state == 70

def metered : Dbus Bool := do
  let metered ← ExceptT.mk (ask .managerMetered)
  return metered == 1 || metered == 3

/-! ## Readiness checks -/

def interfaceReadyAmong (name : String) : List ObjectPath → Dbus Bool
  | [] => pure false
  | path :: rest => do
      let interface ← ExceptT.mk (ask (.deviceInterface path))
      if interface = name then do
        let state ← ExceptT.mk (ask (.deviceState path))
        return state == 100
      else interfaceReadyAmong name rest

def interfaceReady (name : String) : Dbus Bool := do
  let paths ← ExceptT.mk (ask .devices)
  interfaceReadyAmong name paths

/-- `str::rsplit_once`: the text before and after the last occurrence. -/
def rsplitOnce (c : Char) (s : String) : Option (String × String) :=
  (Str.splitOnce c (.ofList s.toList.reverse)).map fun parts ↦
    (.ofList parts.2.toList.reverse, .ofList parts.1.toList.reverse)

def isBracket (c : Char) : Bool := c == '[' || c == ']'

def parseEndpoint (endpoint : String) : Except VpnError (String × Nat) :=
  match rsplitOnce ':' endpoint with
  | none => .error .invalidEndpoint
  | some (host, port) =>
      match (Str.parseU64 port).filter (· < 2 ^ 16) with
      | none => .error .invalidEndpoint
      | some port =>
          let host := String.ofList ((host.toList.dropWhile isBracket).rdropWhile isBracket)
          if host = "" then .error .invalidEndpoint else .ok (host, port)

/-- The answer of a bounded check is no where its time ran out. -/
def probe : ReadinessCheck → Dbus Bool
  | .networkManagerState => connected
  | .interface name => interfaceReady name
  | .route target => ask (.routeReady target)
  | .dnsName name => ask (.dnsReady name)
  | .endpoint endpoint => do
      let target ← Program.check (parseEndpoint endpoint)
      ask (.endpointReady target.1 target.2)

/-- Every check is made, also after one that is not ready. -/
def readinessReport : List ReadinessCheck → Dbus Bool
  | [] => pure true
  | check :: rest => do
      let ready ← probe check
      let restReady ← readinessReport rest
      return ready && restReady

/-! ## Using a profile -/

structure VpnUsageSnapshot where
  profileId : VpnProfileId
  appletActivated : Bool
  activeConnectionIds : Finset ConnectionId

inductive VpnShutdownDecision
  | noAction
  | keepAliveShared
  | keepAlivePreExisting
  | disconnect
  deriving DecidableEq, Repr

def shutdownDecision (snapshot : VpnUsageSnapshot) : VpnShutdownDecision :=
  if snapshot.activeConnectionIds ≠ ∅ then .keepAliveShared
  else if snapshot.appletActivated then .disconnect
  else .keepAlivePreExisting

end CosmicMounter.Vpn

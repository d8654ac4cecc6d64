import CosmicMounter.Interaction.Exits
import CosmicMounter.Interaction.Interference
import CosmicMounter.Vpn.Operations

/-!
# Users of a VPN side by side

Operations run in several processes, and the user and NetworkManager do what
they like.  The activation locks and the finite users are kept by each process
for itself; the list of activated profiles is one file for all of them.  What an
operation may ask is told by what it has been answered so far.
-/

namespace CosmicMounter.Vpn

open Rust Interaction

/-! ## The shared state -/

section World

variable {T P : Type} [DecidableEq P]

/-- Who holds the activation lock of a profile in a process, which finite
operations use it there, and which profiles are listed as activated. -/
structure Shared (T P : Type) where
  holder : P × VpnProfileId → Option T
  users : P × VpnProfileId → Finset ConnectionId
  activated : Finset VpnProfileId

variable (process : T → P) (t : T)

/-- What the answer tells of the shared state is so; a list that cannot be read is empty. -/
def Honest (s : Shared T P) : (q : VpnRequest) → q.Answer → Prop
  | .lockActivation id, _ => s.holder (process t, id) = none
  | .finiteUsers id, users => users = s.users (process t, id)
  | .readActivated, ids => ids = s.activated ∨ ids = ∅
  | _, _ => True

def holderAfter (s : Shared T P) : VpnRequest → P × VpnProfileId → Option T
  | .lockActivation id => Function.update s.holder (process t, id) (some t)
  | .unlockActivation id => Function.update s.holder (process t, id) none
  | _ => s.holder

def usersAfter (s : Shared T P) : VpnRequest → P × VpnProfileId → Finset ConnectionId
  | .registerUser id connection =>
      Function.update s.users (process t, id) (insert connection (s.users (process t, id)))
  | .unregisterUser id connection =>
      Function.update s.users (process t, id) ((s.users (process t, id)).erase connection)
  | _ => s.users

/-- A list that is written is the new one, stays the old one, or can no longer be read. -/
def IsWritten (old new : Finset VpnProfileId) : VpnRequest → Prop
  | .writeActivated ids => new = ids ∨ new = old ∨ new = ∅
  | _ => new = old

structure Answers (s : Shared T P) (q : VpnRequest) (r : q.Answer) (s' : Shared T P) : Prop where
  honest : Honest process t s q r
  holder : s'.holder = holderAfter process t s q
  users : s'.users = usersAfter process t s q
  activated : IsWritten s.activated s'.activated q

def Holds (id : VpnProfileId) (s : Shared T P) : Prop := s.holder (process t, id) = some t

/-- The locks of a thread are its own. -/
def Relied (s s' : Shared T P) : Prop := ∀ id, Holds process t id s' ↔ Holds process t id s

end World

/-! ## What an operation has seen -/

abbrev Past := History VpnRequest.Answer

section Evidence

variable (vpn : VpnProfile) (past : Past)

/-- The saved connection at the path is the one of the profile. -/
def SavedAs (path : ObjectPath) : Prop :=
  ∃ values saved, ⟨.getSettings path, .ok values⟩ ∈ past ∧ profileFromSettings values = some saved ∧
    vpn.externalProfileId = some saved.uuid

/-- The active connection at the path is one of the profile. -/
def ActiveAs (path : ObjectPath) : Prop :=
  ∃ uuid, vpn.externalProfileId = some uuid ∧ ⟨.activeUuid path, .ok uuid⟩ ∈ past

def CheckedReady : ReadinessCheck → Prop
  | .networkManagerState => ∃ state, ⟨.managerState, .ok state⟩ ∈ past ∧ (state = 60 ∨ state = 70)
  | .interface name => ∃ path, ⟨.deviceInterface path, .ok name⟩ ∈ past ∧ ⟨.deviceState path, .ok 100⟩ ∈ past
  | .route target => ⟨.routeReady target, true⟩ ∈ past
  | .dnsName name => ⟨.dnsReady name, true⟩ ∈ past
  | .endpoint endpoint => ∃ target, parseEndpoint endpoint = .ok target ∧
      ⟨.endpointReady target.1 target.2, true⟩ ∈ past

/-- The tunnel of the profile was seen up, and every readiness check has passed. -/
structure SeenUp : Prop where
  active : ∃ path, ActiveAs vpn past path ∧ ⟨.activeState path, .ok 2⟩ ∈ past
  checked : ∀ check ∈ vpn.readinessChecks, CheckedReady past check

/-- No tunnel was seen up yet, and none was activated. -/
structure Fresh : Prop where
  notSeen : ∀ path, ⟨.activeState path, .ok 2⟩ ∉ past
  notActivated : ∀ path r, ⟨.activateConnection path, r⟩ ∉ past

/-- The tunnel was not seen up, was activated, and was up then. -/
def BroughtUp : Prop :=
  ∃ before path after, past = before ++ ⟨.activateConnection path, .ok ()⟩ :: after ∧ Fresh before ∧
    SavedAs vpn before path ∧ SeenUp vpn after

/-- The tunnel was not seen up, and its activation was accepted. -/
def Activated : Prop :=
  ∃ before path after, past = before ++ ⟨.activateConnection path, .ok ()⟩ :: after ∧ Fresh before ∧
    SavedAs vpn before path

end Evidence

/-- No mount and no unit shows that the connection is active. -/
def SeenInactive (mounts : List Mounts.MountEntry) (past : Past) (connection : Connection) : Prop :=
  match connection.mode with
  | .onlineMount _ => Detach.isMountedAt connection mounts = false ∧
      ∃ status, ⟨.unitStatus ⟨connection.id, .service⟩, status⟩ ∈ past ∧ isUp status = false
  | .offlineMirror _ => ∀ kind, ∃ status, ⟨.unitStatus ⟨connection.id, kind⟩, status⟩ ∈ past ∧ isUp status = false

/-- No other connection of the profile is active, and no finite operation of another one uses it. -/
structure SeenUnused (id : VpnProfileId) (connection : ConnectionId) (past : Past) : Prop where
  inactive : ∃ document text mounts, ⟨.loadRuntime, document⟩ ∈ past ∧ ⟨.hostMountInfo, .ok text⟩ ∈ past ∧
    (Str.lines text).mapM Mounts.parseMountinfoLine = .ok mounts ∧
    ∀ other ∈ othersUsing id connection document, SeenInactive mounts past other
  unused : ∃ users, ⟨.finiteUsers id, users⟩ ∈ past ∧ users.erase connection = ∅

/-- The connection gives its VPN back, which is listed as activated and which nothing else uses. -/
structure Releases (id : VpnProfileId) (connection : Connection) (past : Past) : Prop where
  wanted : connection.disconnectVpnWhenUnused = true
  listed : ∃ ids, ⟨.readActivated, ids⟩ ∈ past ∧ id ∈ ids
  unused : SeenUnused id connection.id past

/-! ## What an operation may ask -/

def Use.connection? : Use → Option Connection
  | .online connection _ | .mirror connection _ | .legacyMirror connection _ | .repair connection
  | .test connection => some connection
  | .observe _ => none

/-- The profile of the connection. -/
def Use.Of (use : Use) (id : VpnProfileId) : Prop :=
  ∃ connection, use.connection? = some connection ∧ connection.vpnProfileId = some id

/-- The profile of the connection as it was configured when it was looked up, perhaps with more time. -/
structure Configured (use : Use) (past : Past) (vpn : VpnProfile) : Prop where
  own : use.Of vpn.id
  loaded : ∃ document saved isOpenconnect, ⟨.loadRuntime, document⟩ ∈ past ∧ saved ∈ document.vpnProfiles ∧
    vpn = applyOpenconnectTimeout saved isOpenconnect

/-- The VPN of a connection, if it has one, was seen up with all checks passed. -/
def Ensured (use : Use) (past : Past) : Prop :=
  ∀ id, use.Of id → ∃ vpn, vpn.id = id ∧ Configured use past vpn ∧ SeenUp vpn past

def Registers (id : VpnProfileId) (connection : ConnectionId) (reply : (q : VpnRequest) × q.Answer) : Prop :=
  reply.1 = .registerUser id connection

def Unregisters (id : VpnProfileId) (connection : ConnectionId) (reply : (q : VpnRequest) × q.Answer) : Prop :=
  reply.1 = .unregisterUser id connection

/-- The connection is registered as a user of its VPN. -/
def InUse (use : Use) (past : Past) : Prop :=
  ∀ connection id, use.connection? = some connection → connection.vpnProfileId = some id →
    Pending (Registers id connection.id) (Unregisters id connection.id) past

/-- Storage that is reached through the VPN. -/
def Work.NeedsVpn : Work → Prop
  | .startMount | .bisync _ | .startTimer | .verifyAccess => True
  | _ => False

section Permits

variable {T P : Type} (process : T → P) (use : Use) (t : T) (s : Shared T P) (past : Past)

/-- A tunnel is brought down because its own activation was in vain, or because nothing uses it any more. -/
def MayDeactivate (vpn : VpnProfile) : Prop :=
  Holds process t vpn.id s ∧ Activated vpn past ∨
    ∃ connection, use.connection? = some connection ∧ Releases vpn.id connection past

/-- A profile is listed only by who brought it up, and while it holds the lock. -/
def MayList (ids : Finset VpnProfileId) : Prop :=
  ∃ id read, ⟨.readActivated, read⟩ ∈ past ∧ (ids = read.erase id ∨ ids = insert id read ∧
    ∃ vpn, vpn.id = id ∧ Configured use past vpn ∧ Holds process t id s ∧ BroughtUp vpn past)

def MayAsk : VpnRequest → Prop
  | .activateConnection path => ∃ vpn, Configured use past vpn ∧ Holds process t vpn.id s ∧ Fresh past ∧
      SavedAs vpn past path
  | .deactivateConnection path => ∃ vpn, Configured use past vpn ∧ ActiveAs vpn past path ∧
      MayDeactivate process use t s past vpn
  | .writeActivated ids => MayList process use t s past ids
  | .lockActivation id => use.Of id
  | .unlockActivation id => Holds process t id s
  | .registerUser id connection => Ensured use past ∧
      ∃ own, use.connection? = some own ∧ own.vpnProfileId = some id ∧ own.id = connection
  | .unregisterUser id connection =>
      ∃ own, use.connection? = some own ∧ own.vpnProfileId = some id ∧ own.id = connection
  | .work step => (step.NeedsVpn → Ensured use past) ∧ (∀ operation, step = .bisync operation → InUse use past)
  | _ => True

/-- What an operation may ask in a state, with its answers so far. -/
def Permitted (use : Use) (t : T) (s : Shared T P × Past) (q : VpnRequest) : Prop :=
  MayAsk process use t s.1 s.2 q

end Permits

section Contract

variable {T P : Type} [DecidableEq P] (process : T → P)

def guarded (use : Use) (t : T) : Contract VpnRequest.Answer (Shared T P × Past) :=
  .recorded (World.interfered (Answers process t) (Relied process t)) (Permitted process use t)

end Contract

end CosmicMounter.Vpn

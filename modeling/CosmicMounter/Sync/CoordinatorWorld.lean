import CosmicMounter.Interaction.Exits
import CosmicMounter.Interaction.Interference
import CosmicMounter.Sync.Coordinator
import CosmicMounter.Sync.RetentionContract
import CosmicMounter.Sync.WorkRoot

/-!
# Coordinated runs side by side

The operations of one mirror may run in several processes at once and may die
at any request.  They share the files of the work root, the operation lock and
the operation record.  What a run may ask is told by its plan, by what it has
been answered so far, and by the state it asks in.
-/

namespace CosmicMounter.Coordinator

open Rust Interaction Host Retention Retargeting

/-! ## The shared state -/

/-- Where there are files, who holds the lock, and what the record says. -/
structure Shared (T : Type) where
  files : String → Bool
  holder : Option T
  record : Option OfflineCoordinatorState

/-- The answered request may have changed whether there is a file at the path.
A failed rename or removal has changed nothing; a failed write may have left a file. -/
def Touches : (q : HostRequest) → q.Answer → String → Prop
  | .createNew target _, _, path | .writePrivate target _, _, path => path = target
  | .rename source target, .ok (), path => path = source ∨ path = target
  | .removeFile target, .ok (), path => path = target
  | .removeDirAll directory, _, path =>
      IsDirect directory → IsDirect path → Path.startsWith directory path = true
  | _, _, _ => False

/-- Where the answered request leaves a file, and where it leaves none. -/
def Leaves : (q : HostRequest) → q.Answer → String → Bool → Prop
  | .rename _ target, .ok (), path, here => path = target ∧ here = true
  | .removeFile target, .ok (), path, here => path = target ∧ here = false
  | _, _, _, _ => False

/-! ## Markers -/

/-- A marker of this name below the work root. -/
structure IsMarker (workRoot name path : String) : Prop where
  below : Path.startsWith workRoot path = true
  named : Path.fileName path = some name
  direct : IsDirect path

abbrev syncMarkerName : String := "initial-sync-complete"

abbrev previewMarkerName : String := "initial-preview-confirmable"

def IsSomeMarker (workRoot path : String) : Prop :=
  IsMarker workRoot syncMarkerName path ∨ IsMarker workRoot previewMarkerName path

/-! ## Answers -/

section World

variable {T : Type} [DecidableEq T] (workRoot : String) (id : ConnectionId) (t : T)

/-- What the answer tells of the shared state is so.  A directory is granted outside the work root. -/
def Honest (s : Shared T) : (q : HostRequest) → q.Answer → Prop
  | .isFile path, answer => answer = s.files path
  | .acquireGuard directory, .ok () => directory = coordinatorDirectory workRoot id → s.holder = none
  | .readState path, .ok record => path = statePath workRoot id → record = s.record
  | .resolveDirectory _, .ok granted => pathsOverlap workRoot granted = false ∧ IsDirect granted
  | _, _ => True

def holderAfter (s : Shared T) : (q : HostRequest) → q.Answer → Option T
  | .acquireGuard directory, .ok () =>
      if directory = coordinatorDirectory workRoot id then some t else s.holder
  | .releaseGuard directory, _ =>
      if directory = coordinatorDirectory workRoot id ∧ s.holder = some t then none else s.holder
  | _, _ => s.holder

def recordAfter (s : Shared T) : (q : HostRequest) → q.Answer → Option OfflineCoordinatorState
  | .writeState path state, .ok () => if path = statePath workRoot id then some state else s.record
  | _, _ => s.record

/-- How the requests of a thread are answered, and what they change.  Commands
leave the lock, the record and the markers alone. -/
structure Answers (s : Shared T) (q : HostRequest) (r : q.Answer) (s' : Shared T) : Prop where
  honest : Honest workRoot id s q r
  holder : s'.holder = holderAfter workRoot id t s q r
  record : s'.record = recordAfter workRoot id s q r
  markers : ∀ path, IsSomeMarker workRoot path → ¬Touches q r path → s'.files path = s.files path
  leaves : ∀ path here, IsSomeMarker workRoot path → Leaves q r path here → s'.files path = here

end World

/-- What a thread may rely on while the others go on. -/
structure Relied {T : Type} (workRoot : String) (t : T) (s s' : Shared T) : Prop where
  holder : s.holder = some t → s'.holder = some t
  record : s.holder = some t → s'.record = s.record
  markers : s.holder = some t → ∀ path, IsSomeMarker workRoot path → s'.files path = s.files path
  complete : ∀ path, IsMarker workRoot syncMarkerName path → s.files path = true → s'.files path = true

/-! ## What a run may ask -/

abbrev Past := History HostRequest.Answer

structure Operation where
  connection : Connection
  mode : BisyncMode

def globalFlags : List String := ["--contimeout", "10s", "--timeout", "30s"]

/-- A command with these arguments has succeeded. -/
def Succeeded (past : Past) (arguments : List String) : Prop :=
  ∃ request output, request.args = globalFlags ++ arguments ∧ ⟨.run request, .ok output⟩ ∈ past

/-- The command's output was read completely and satisfies `P`. -/
def Showed (past : Past) (arguments : List String) (P : String → Prop) : Prop :=
  ∃ request output text, request.args = globalFlags ++ arguments ∧ ⟨.run request, .ok output⟩ ∈ past ∧
    completeText output = some text ∧ P text

def Published (past : Past) (path : String) : Prop := ∃ source, ⟨.rename source path, .ok ()⟩ ∈ past

section Permitted

variable (id : ConnectionId) (plan : RcloneBisyncPlan)

/-- The directory names this connection as its owner, or nothing was in it. -/
def LocallyVerified (past : Past) (directory : String) : Prop :=
  (∃ owner, ⟨.readToString (Path.join directory ownerMarker), .ok owner⟩ ∈ past ∧
    Str.trimEnd owner = id.text) ∨ ⟨.readDir directory, .ok []⟩ ∈ past

def RemotelyVerified (past : Past) (remote : String) : Prop :=
  Showed past ["cat", remoteMarker remote] (Str.trimEnd · = id.text) ∨
    Showed past ["lsf", remote] (Str.trim · = "")

/-- Both recovery directories of the day were verified and marked as the connection's own. -/
structure RecoveryClaimed (past : Past) (day : String) : Prop where
  locally : ∃ recovery, LocallyVerified id past (Path.join recovery day) ∧
    Published past (Path.join (Path.join recovery day) ownerMarker)
  remotely : RemotelyVerified id past (remoteDay plan day)
  published : ∃ staged, Succeeded past ["copyto", staged, remoteMarker (remoteDay plan day)]

variable (op : Operation)

/-- The anchors on both sides were read again, and the two sides are equal. -/
structure AnchorsVerified (past : Past) : Prop where
  locally : ∀ name, plan.accessMarkerName = some name →
    ∃ mirror, ⟨.readToString (Path.join mirror name), .ok (accessMarkerText op.connection)⟩ ∈ past
  remotely : ∀ name, plan.accessMarkerName = some name →
    Showed past ["cat", Str.trimEndMatches '/' plan.path1Remote ++ "/" ++ name]
      (Str.trimEnd · = op.connection.id.text)
  checked : Succeeded past (checkArguments plan)

/-- The first preview was seen to be confirmable. -/
def Confirmed (past : Past) : Prop := ⟨.isFile (initialPreviewMarker plan), true⟩ ∈ past

/-- All that an initial synchronization has to pass. -/
structure Established (past : Past) : Prop where
  confirmed : Confirmed plan past
  synchronized : ∃ day stamp, RecoveryClaimed op.connection.id plan past day ∧
    Succeeded past (requestArguments plan .initialSync day stamp) ∧
    (plan.verifyAfterSync = true → Succeeded past (requestArguments plan .sync day stamp) ∧
      Succeeded past (checkArguments plan))
  anchors : isRcloneOneDrive op.connection = true → AnchorsVerified plan op past

/-- The command of the run's own mode has succeeded. -/
def HasSynchronized (past : Past) : Prop :=
  ∃ day stamp, Succeeded past (requestArguments plan op.mode day stamp)

/-- The run has done all it was asked for. -/
structure Completed (past : Past) : Prop where
  synchronized : HasSynchronized plan op past
  confirmed : op.mode = .initialPreview → Published past (initialPreviewMarker plan)
  initialized : op.mode = .initialSync → Published past (initialSyncMarker plan)

/-- The commands of a run, and when it may send them. -/
inductive Sends (past : Past) : List String → Prop
  | bisync {day stamp : String} (hrecovery : op.mode.isPreview = false →
      RecoveryClaimed op.connection.id plan past day) :
      Sends past (globalFlags ++ requestArguments plan op.mode day stamp)
  | convergence {day stamp : String} (hverified : plan.verifyAfterSync = true)
      (hinitial : op.mode = .initialSync) (hdone : Succeeded past (requestArguments plan op.mode day stamp))
      (hrecovery : RecoveryClaimed op.connection.id plan past day) :
      Sends past (globalFlags ++ requestArguments plan .sync day stamp)
  | check (hdone : HasSynchronized plan op past) : Sends past (globalFlags ++ checkArguments plan)
  | anchor {name : String} (hname : plan.accessMarkerName = some name) :
      Sends past (globalFlags ++ ["cat", Str.trimEndMatches '/' plan.path1Remote ++ "/" ++ name])
  | listing {target : String} (hdone : HasSynchronized plan op past) (hpreview : op.mode.isPreview = true) :
      Sends past ["lsjson", target, "--recursive", "--files-only", "--no-mimetype", "--filter-from",
        plan.filtersFile]
  | mkdir {day : String} (hpreview : op.mode.isPreview = false) :
      Sends past (globalFlags ++ ["mkdir", remoteDay plan day])
  | owner {name : String} (hpreview : op.mode.isPreview = false) :
      Sends past (globalFlags ++ ["cat", remoteMarker (remoteTarget plan name)])
  | contents {day : String} (hpreview : op.mode.isPreview = false) :
      Sends past (globalFlags ++ ["lsf", remoteDay plan day])
  | publish {day staged : String} (hpreview : op.mode.isPreview = false)
      (hverified : RemotelyVerified op.connection.id past (remoteDay plan day)) :
      Sends past (globalFlags ++ ["copyto", staged, remoteMarker (remoteDay plan day)])
  | days (hpreview : op.mode.isPreview = false) (hdone : HasSynchronized plan op past) :
      Sends past (globalFlags ++ listingArguments plan)
  | purge {name : String} (hpreview : op.mode.isPreview = false) (hdone : HasSynchronized plan op past)
      (hday : strictDay name = true) : Sends past (globalFlags ++ ["purge", remoteTarget plan name])

variable (workRoot : String)

/-- The record is the run's own, and says that it is running; a first
synchronization has seen its preview. -/
structure IsRunning (past : Past) (record : Option OfflineCoordinatorState) : Prop where
  claimed : ∃ state, record = some state ∧ state.connectionId = op.connection.id ∧
    state.operation = op.mode.operation ∧ state.state = .running ∧
    ⟨.writeState (statePath workRoot op.connection.id) state, .ok ()⟩ ∈ past
  confirmed : op.mode = .initialSync → Confirmed plan past

/-- What may be published at the path. -/
structure Publishes (past : Past) (target : String) : Prop where
  complete : IsMarker workRoot syncMarkerName target →
    target = initialSyncMarker plan ∧ op.mode = .initialSync ∧ Established plan op past
  confirmable : IsMarker workRoot previewMarkerName target →
    target = initialPreviewMarker plan ∧ op.mode = .initialPreview ∧ HasSynchronized plan op past
  owner : Path.fileName target = some ownerMarker →
    ∃ directory, target = Path.join directory ownerMarker ∧ LocallyVerified op.connection.id past directory

/-- What may be recorded: a result only of what was recorded as running. -/
structure Records (record : Option OfflineCoordinatorState) (past : Past) (path : String)
    (state : OfflineCoordinatorState) : Prop where
  path_eq : path = statePath workRoot op.connection.id
  connectionId : state.connectionId = op.connection.id
  operation : state.operation = op.mode.operation
  begins : state.state = .running → record.all (·.state != .running) = true
  ends : state.state ≠ .running →
    ∃ running, ⟨.writeState path running, .ok ()⟩ ∈ past ∧ running.state = .running
  succeeds : state.state = .succeeded → Completed plan op past

variable {T : Type} (t : T)

/-- What is asked may be asked now. -/
def MayAsk (s : Shared T) (past : Past) : HostRequest → Prop
  | .acquireGuard directory => directory = coordinatorDirectory workRoot op.connection.id ∧ past = []
  | .releaseGuard directory => directory = coordinatorDirectory workRoot op.connection.id
  | .createNew path _ | .writePrivate path _ => ¬IsSomeMarker workRoot path
  | .rename source target => ¬IsSomeMarker workRoot source ∧ Publishes plan op workRoot past target
  | .removeFile path => ¬IsMarker workRoot syncMarkerName path ∧
      (IsMarker workRoot previewMarkerName path → path = initialPreviewMarker plan ∧
        op.mode = .initialSync ∧ Published past (initialSyncMarker plan))
  | .removeDirAll path => HasSynchronized plan op past ∧ op.mode.isPreview = false ∧
      ∀ marker, IsSomeMarker workRoot marker → IsDirect path ∧ Path.startsWith path marker = false
  | .run request => IsRunning plan op workRoot past s.record ∧ s.files (initialSyncMarker plan) = !op.mode.isInitial ∧
      Sends plan op past request.args
  | .writeState path state => Records plan op workRoot s.record past path state
  | .systemd _ _ | .cancelAndWait | .finish => False
  | _ => True

/-- Everything but asking for the lock, and giving it back, is done under the lock. -/
def IsLocking : HostRequest → Bool
  | .acquireGuard _ | .releaseGuard _ => true
  | _ => false

structure Permitted (s : Shared T × Past) (q : HostRequest) : Prop where
  locked : IsLocking q = false → s.1.holder = some t
  mayAsk : MayAsk plan op workRoot s.1 s.2 q

end Permitted

end CosmicMounter.Coordinator

import CosmicMounter.Interaction.Log
import CosmicMounter.Saves.Paths
import CosmicMounter.Sync.Target

/-!
# Retargeting a mirror

Saving a draft removes the markers of a SharePoint mirror that gets another
target, before the configuration is stored (`app.rs`).  The runs of a mirror
read and write the same markers (`bisync_coordinator.rs`).
-/

namespace CosmicMounter.Retargeting

open Rust Interaction

/-! ## Markers -/

inductive Marker
  | initialPreviewConfirmable
  | initialSyncComplete
  deriving DecidableEq, Repr

/-- The markers that exist, by work directory. -/
abbrev Markers := String → Marker → Bool

def Markers.set (markers : Markers) (workDirectory : String) (marker : Marker) (present : Bool) : Markers :=
  Function.update markers workDirectory (Function.update (markers workDirectory) marker present)

inductive BisyncMode
  | initialPreview
  | preview
  | initialSync
  | sync
  | scheduled
  deriving DecidableEq, Repr

def validateModeMarkers (mode : BisyncMode) (plan : RcloneBisyncPlan) (markers : Markers) : Except Message Unit :=
  let initialized := markers plan.workDirectory .initialSyncComplete
  match mode with
  | .initialPreview =>
      if initialized then .error ⟨"ui-bisync-coordinator-initial-preview-is-unavailable-after-initialization", []⟩
      else .ok ()
  | .preview =>
      if !initialized then
        .error ⟨"ui-bisync-coordinator-normal-preview-requires-completed-initial-synchronization", []⟩
      else .ok ()
  | .initialSync =>
      if initialized then .error ⟨"ui-bisync-coordinator-initial-synchronization-is-already-complete", []⟩
      else if !markers plan.workDirectory .initialPreviewConfirmable then
        .error ⟨"ui-bisync-coordinator-initial-synchronization-requires-a-successful-preview", []⟩
      else .ok ()
  | .sync | .scheduled =>
      if !initialized then
        .error ⟨"ui-bisync-coordinator-synchronization-requires-completed-initial-synchronization", []⟩
      else .ok ()

/-! ## Saving -/

/-- The markers whose removal fails otherwise than for their absence, with the error. -/
abbrev RemovalErrors := Marker → Option String

def removeMarkers (errors : RemovalErrors) (workDirectory : String) :
    List Marker → Markers → Except Message Unit × Markers
  | [], markers => (.ok (), markers)
  | marker :: rest, markers =>
      match errors marker with
      | some error => (.error ⟨"sharepoint-confirmation-invalidate-error", [("error", error)]⟩, markers)
      | none => removeMarkers errors workDirectory rest (markers.set workDirectory marker false)

def isOfflineMirror (connection : Connection) : Bool :=
  match connection.mode with
  | .offlineMirror _ => true
  | .onlineMount _ => false

/-- Both are SharePoint mirrors, which alone are invalidated. -/
def areSharePointMirrors (existing next : Connection) : Bool :=
  existing.provider = .teams && next.provider = .teams && isOfflineMirror existing && isOfflineMirror next

section Save

variable (ext : Externals) (workRoot : String) (errors : RemovalErrors)

def invalidateSharepointMirrorConfirmationOnRetarget (existing next : Connection) (markers : Markers) :
    Except Message Unit × Markers :=
  if !areSharePointMirrors existing next then (.ok (), markers)
  else
    match rcloneBisyncPlan ext existing workRoot, rcloneBisyncPlan ext next workRoot with
    | .error error, _ | .ok _, .error error => (.error error.message, markers)
    | .ok oldPlan, .ok newPlan =>
        if oldPlan.workDirectory = newPlan.workDirectory then (.ok (), markers)
        else removeMarkers errors oldPlan.workDirectory [.initialPreviewConfirmable, .initialSyncComplete] markers

/-- The saved connection with the same id. -/
def existing (config : Config) (id : ConnectionId) : Option Connection :=
  config.document.connections.find? (·.id == id)

def invalidateExisting (config : Config) (next : Connection) (markers : Markers) : Except Message Unit × Markers :=
  match existing config next.id with
  | none => (.ok (), markers)
  | some found => invalidateSharepointMirrorConfirmationOnRetarget ext workRoot errors found next markers

def saveValidatedDraftWith (writes : Writes) (current : Config) (stored : Stored) (next : Connection)
    (markers : Markers) : Effect × Markers :=
  match invalidateExisting ext workRoot errors current next markers with
  | (.error _, markers) => (⟨.refused, current, stored⟩, markers)
  | (.ok (), markers) =>
      (effectOf (current.updateValidatedWith ext writes.save stored (·.saveConnection next)), markers)

end Save

/-! ## Runs -/

/-- A run that got past the check of the markers. -/
structure Run where
  mode : BisyncMode
  plan : RcloneBisyncPlan

/-- What goes well at the end of a run: all commands, the write of the marker, the
removal of the other one, and the write of the state. -/
structure Ending where
  transaction : Bool
  written : Bool
  removed : Bool
  stateWritten : Bool
  deriving DecidableEq, Repr

/-- Whether the transaction succeeds, and the markers that it leaves. -/
def Run.transaction (run : Run) (ending : Ending) (markers : Markers) : Bool × Markers :=
  if !ending.transaction then (false, markers)
  else
    match run.mode with
    | .initialPreview =>
        if ending.written then (true, markers.set run.plan.workDirectory .initialPreviewConfirmable true)
        else (false, markers)
    | .initialSync =>
        if !ending.written then (false, markers)
        else
          let complete := markers.set run.plan.workDirectory .initialSyncComplete true
          if ending.removed then (true, complete.set run.plan.workDirectory .initialPreviewConfirmable false)
          else (false, complete)
    | _ => (true, markers)

def Run.finish (run : Run) (ending : Ending) (markers : Markers) : Bool × Markers :=
  ((run.transaction ending markers).1 && ending.stateWritten, (run.transaction ending markers).2)

/-! ## Interleavings -/

/-- What happened, oldest first; a target goes by its work directory. -/
inductive Entry
  | save (outcome : Outcome) (before after : Markers)
  | left (workDirectory : String)
  | returned (workDirectory : String)
  | previewed (workDirectory : String)
  | synced (workDirectory : String)

structure State where
  stored : Stored
  markers : Markers
  running : List Run
  log : List Entry

/-- The work directory of a bound mirror that is saved with another target. -/
def leaves (ext : Externals) (workRoot : String) (found next : Connection) : Option String :=
  match rcloneBisyncPlan ext found workRoot with
  | .ok plan => if found.hasBoundTarget ∧ next.target ≠ found.target then some plan.workDirectory else none
  | .error _ => none

def moves (ext : Externals) (workRoot : String) (outcome : Outcome) (current : Config) (next : Connection) :
    List Entry :=
  match outcome, existing current next.id with
  | .saved, some found => ((leaves ext workRoot found next).map .left).toList ++
      ((leaves ext workRoot next found).map .returned).toList
  | _, _ => []

def Run.entries (run : Run) (succeeded : Bool) : List Entry :=
  match run.mode, succeeded with
  | .initialPreview, true => [.previewed run.plan.workDirectory]
  | .initialSync, true => [.synced run.plan.workDirectory]
  | _, _ => []

inductive Event
  | save (next : Connection) (writes : Writes) (errors : RemovalErrors)
  | change (stored : Stored)
  | start (mode : BisyncMode) (connection : Connection)
  | finish (index : Nat) (ending : Ending)

/-- Every save edits what is stored at that time, and other windows store what they like. -/
inductive Step (ext : Externals) (workRoot : String) (s : State) : Event → State → Prop
  | refused {next : Connection} {writes : Writes} {errors : RemovalErrors} {warnings : List LoadWarning}
      (hload : (s.stored.load ext writes.migration).1.complete = .error warnings) :
      Step ext workRoot s (.save next writes errors)
        { s with
          stored := (s.stored.load ext writes.migration).2
          log := s.log ++ [.save .refused s.markers s.markers] }
  | save {next : Connection} {writes : Writes} {errors : RemovalErrors} {current : Config} {effect : Effect}
      {markers : Markers} (hload : (s.stored.load ext writes.migration).1.complete = .ok current)
      (hsave : saveValidatedDraftWith ext workRoot errors writes current (s.stored.load ext writes.migration).2 next
        s.markers = (effect, markers)) :
      Step ext workRoot s (.save next writes errors)
        { s with
          stored := effect.stored
          markers := markers
          log := s.log ++ (.save effect.outcome s.markers markers :: moves ext workRoot effect.outcome current next) }
  | change (stored : Stored) : Step ext workRoot s (.change stored) { s with stored := stored }
  | start {mode : BisyncMode} {connection : Connection} {plan : RcloneBisyncPlan}
      (hplan : rcloneBisyncPlan ext connection workRoot = .ok plan)
      (hlock : ∀ run ∈ s.running, run.plan.connectionId ≠ connection.id)
      (hmarkers : validateModeMarkers mode plan s.markers = .ok ()) :
      Step ext workRoot s (.start mode connection) { s with running := s.running ++ [⟨mode, plan⟩] }
  | finish {index : Nat} {run : Run} (ending : Ending) (hrun : s.running[index]? = some run) :
      Step ext workRoot s (.finish index ending)
        { s with
          markers := (run.finish ending s.markers).2
          running := s.running.eraseIdx index
          log := s.log ++ run.entries (run.finish ending s.markers).1 }

/-! ## What is promised -/

/-- A new Preview and then a new initial synchronization have succeeded. -/
def Renewed (workDirectory : String) (log : List Entry) : Prop :=
  ∃ before between after, log = before ++ .previewed workDirectory :: between ++ .synced workDirectory :: after

/-- A save that is not stored keeps the markers, and a target that was left and is
taken again is not synchronized before it was renewed. -/
structure State.Atomic (s : State) : Prop where
  kept : ∀ outcome before after, .save outcome before after ∈ s.log → outcome ≠ .saved → after = before
  forgotten : ∀ workDirectory before between after,
    s.log = before ++ .left workDirectory :: (between ++ .returned workDirectory :: after) →
    ∀ mode plan, mode = .sync ∨ mode = .scheduled → plan.workDirectory = workDirectory →
      validateModeMarkers mode plan s.markers = .ok () →
        Renewed workDirectory (between ++ .returned workDirectory :: after)

end CosmicMounter.Retargeting

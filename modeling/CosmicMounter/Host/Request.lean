import CosmicMounter.Interaction.Program
import CosmicMounter.Sync.Binding

/-!
# What operations ask of the host

The calls of the mirror operations that are not computed by the applet itself:
files, the operation lock and the operation record, commands, the user's
service manager, the manual operation's control, the clock.  Writing the
record is one call: it is staged in a private file and renamed into place.
-/

namespace CosmicMounter

open Rust Interaction

/-! ## Commands (`process.rs`) -/

/-- A command of the rclone executable; the timeout is in nanoseconds. -/
structure CommandRequest where
  args : List String
  timeout : Nat
  outputLimit : Nat
  deriving DecidableEq, Repr

structure CapturedOutput where
  text : String
  truncated : Bool
  invalidUtf8 : Bool
  deriving DecidableEq, Repr

structure CommandOutput where
  stdout : CapturedOutput
  stderr : CapturedOutput
  deriving DecidableEq, Repr

inductive CommandError
  | missingExecutable
  | invalidArgument
  | spawn (command message : String)
  | timeout (command : String) (timeout : Nat)
  | cancelled (command : String)
  | nonZero (command : String) (code : Option Int) (stdout stderr : CapturedOutput)
  deriving DecidableEq, Repr

/-! ## The operation record (`offline_coordinator.rs`) -/

inductive OfflineOperation
  | initialPreview
  | preview
  | initialSync
  | sync
  | scheduled
  | resume
  | pause
  | repair
  deriving DecidableEq, Repr

inductive OfflineOperationState
  | running
  | succeeded
  | failed
  | cancelled
  | paused
  deriving DecidableEq, Repr

structure OfflineCoordinatorState where
  version : Nat := 1
  connectionId : ConnectionId
  operation : OfflineOperation
  state : OfflineOperationState
  updatedUnixSeconds : Nat
  warnings : List String := []
  deriving DecidableEq, Repr

def coordinatorDirectory (workRoot : String) (id : ConnectionId) : String :=
  Path.join (Path.join workRoot "offline-coordinator") id.text

def statePath (workRoot : String) (id : ConnectionId) : String :=
  Path.join (coordinatorDirectory workRoot id) "state.json"

/-! ## Requests -/

inductive FileType
  | file
  | directory
  | symlink
  | other
  deriving DecidableEq, Repr

inductive HostRequest
  | isFile (path : String)
  | pathExists (path : String)
  | symlinkMetadata (path : String)
  | createDirAll (path : String)
  | createNew (path content : String)
  | writePrivate (path content : String)
  | rename (source target : String)
  | readToString (path : String)
  | readDir (path : String)
  | removeFile (path : String)
  | removeDirAll (path : String)
  | acquireGuard (directory : String)
  | releaseGuard (directory : String)
  | readState (path : String)
  | writeState (path : String) (state : OfflineCoordinatorState)
  | run (request : CommandRequest)
  | verifyMirrorBinding (connection : Connection)
  | resolveDirectory (path : String)
  | systemd (action : SystemdAction) (unit : UnitName)
  | cancelAndWait
  | finish
  | isCancelled
  | now
  | newUuid
  | invocationId

/-- Failures come as the texts the applet shows, or as the error it inspects. -/
abbrev HostRequest.Answer : HostRequest → Type
  | isFile _ | pathExists _ => Bool
  | symlinkMetadata _ => Except IoError FileType
  | createDirAll _ | createNew _ _ | rename _ _ | removeFile _ | removeDirAll _ =>
      Except IoError Unit
  | writePrivate _ _ => Except String Unit
  | readToString _ => Except IoError String
  | readDir _ => Except IoError (List (Except IoError String))
  | acquireGuard _ | writeState _ _ | verifyMirrorBinding _ => Except String Unit
  | releaseGuard _ | finish => Unit
  | readState _ => Except String (Option OfflineCoordinatorState)
  | run _ => Except CommandError CommandOutput
  | resolveDirectory _ => Except String String
  | systemd _ _ => Except String (Option UnitStatus)
  | cancelAndWait | isCancelled => Bool
  -- nanoseconds since the Unix epoch
  | now => Int
  | newUuid => Uuid
  | invocationId => Option String

namespace Host

abbrev Ask (α : Type) := Program HostRequest.Answer α
abbrev Call (α : Type) := ExceptT String (Program HostRequest.Answer) α

def ask (q : HostRequest) : Ask q.Answer := Program.request (R := HostRequest.Answer) q

def systemd (action : SystemdAction) (unit : UnitName) : Call (Option UnitStatus) :=
  ExceptT.mk (ask (.systemd action unit))

def acquireGuard (directory : String) : Call Unit := ExceptT.mk (ask (.acquireGuard directory))

def readState (path : String) : Call (Option OfflineCoordinatorState) :=
  ExceptT.mk (ask (.readState path))

def writeState (path : String) (state : OfflineCoordinatorState) : Call Unit :=
  ExceptT.mk (ask (.writeState path state))

/-- Run what needs the guard of this directory and release it, whatever came of it. -/
def holding {α : Type} (directory : String) (body : Call α) : Call α := do
  let result ← Program.attempt body
  ask (.releaseGuard directory)
  Program.check result

/-- A record of the current second; a clock before the epoch counts as its start. -/
def newState (id : ConnectionId) (operation : OfflineOperation) (state : OfflineOperationState) :
    Ask OfflineCoordinatorState := do
  let now ← ask .now
  return { connectionId := id, operation, state,
           updatedUnixSeconds := now.toNat / 1000000000 }

end Host

end CosmicMounter

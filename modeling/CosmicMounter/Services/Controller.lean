import CosmicMounter.Interaction.Program
import CosmicMounter.Services.Store

/-!
# The unit controller

`UnitController` changes a unit file together with the systemd manager that
has to load it.  Its operations are programs over the calls they make on the
two traits `UnitStore` and `SystemdManager`.
-/

namespace CosmicMounter

open Rust Interaction

inductive UnitRequest
  | state (name : UnitName)
  | read (name : UnitName)
  | write (document : UnitDocument)
  | remove (name : UnitName)

abbrev UnitRequest.Answer : UnitRequest → Type
  | state _ => Except ServiceError UnitFileState
  | read _ => Except ServiceError (Option String)
  | write _ => Except ServiceError Unit
  | remove _ => Except ServiceError Unit

inductive ControllerRequest
  | store (request : UnitRequest)
  | action (action : SystemdAction) (unit : Option UnitName)
  | isCancelled

abbrev ControllerRequest.Answer : ControllerRequest → Type
  | store request => request.Answer
  | action _ _ => Except ServiceError (Option UnitStatus)
  | isCancelled => Bool

namespace UnitController

abbrev Call (α : Type) := ExceptT ServiceError (Program ControllerRequest.Answer) α

def read (name : UnitName) : Call (Option String) :=
  ExceptT.mk (Program.request (R := ControllerRequest.Answer) (.store (.read name)))

def state (name : UnitName) : Call UnitFileState :=
  ExceptT.mk (Program.request (R := ControllerRequest.Answer) (.store (.state name)))

def write (document : UnitDocument) : Call Unit :=
  ExceptT.mk (Program.request (R := ControllerRequest.Answer) (.store (.write document)))

def removeFile (name : UnitName) : Call Unit :=
  ExceptT.mk (Program.request (R := ControllerRequest.Answer) (.store (.remove name)))

def action (action : SystemdAction) (unit : Option UnitName) : Call (Option UnitStatus) :=
  ExceptT.mk (Program.request (R := ControllerRequest.Answer) (.action action unit))

def isCancelled : Program ControllerRequest.Answer Bool :=
  Program.request (R := ControllerRequest.Answer) .isCancelled

def restore (name : UnitName) : Option String → Call Unit
  | some content => write ⟨name, content⟩
  | none => removeFile name

/-- Load the new unit file. -/
def load (name : UnitName) : Call Unit := do
  let _ ← action .daemonReload none
  let _ ← action .validateLoaded (some name)

/-- Undo a write whose unit could not be loaded. -/
def rollBack (fl : Message → String) (name : UnitName) (previous : Option String)
    (error : ServiceError) : Call Unit := do
  restore name previous
  match ← Program.attempt (action .daemonReload none) with
  | .error rollbackError =>
      throw (.runtime ⟨"ui-services-error-unit-file-was-restored-but-systemd",
        [("error", error.display fl), ("rollback_error", rollbackError.display fl)]⟩)
  | .ok _ => throw error

/-- Load the written unit; if that fails, put the earlier file back. -/
def loadOrRollBack (fl : Message → String) (name : UnitName) (previous : Option String) :
    Call Unit := do
  match ← Program.attempt (load name) with
  | .error error => rollBack fl name previous error
  | .ok () => pure ()

def install (fl : Message → String) (document : UnitDocument) : Call Unit := do
  let previous ← read document.name
  write document
  loadOrRollBack fl document.name previous

def restoreRemoved (name : UnitName) (previous : Option String) (error : ServiceError) :
    Call Unit := do
  if previous.isSome then restore name previous
  throw error

/-- Make the manager forget the removed unit; if that fails, put the file back. -/
def reloadOrRestore (name : UnitName) (previous : Option String) : Call Unit := do
  match ← Program.attempt (action .daemonReload none) with
  | .error error => restoreRemoved name previous error
  | .ok _ => pure ()

def remove (name : UnitName) : Call Unit := do
  let previous ← read name
  removeFile name
  reloadOrRestore name previous

/-- A check that the unit file still holds this content. -/
def stillHolds (name : UnitName) (content : String) : Call Unit := do
  Program.ensure ((← read name) == some content) (.validation ⟨"legacy-retirement-ownership", []⟩)

def retirementAction (name : UnitName) (content : String) (step : SystemdAction) : Call Unit := do
  let cancelled ← isCancelled
  Program.ensure (!cancelled) (.runtime ⟨"legacy-retirement-incomplete", []⟩)
  stillHolds name content
  let _ ← action step (some name)

def isRetired (status : UnitStatus) : Bool :=
  !status.enabled && (status.active == .inactive || status.active == .failed)

/-- Retire only a structurally valid, owned legacy monitor.  A failure never
re-enables or restarts it; the retained file permits a safe retry. -/
def retireLegacyMirror (id : ConnectionId) : Call Unit := do
  let name : UnitName := ⟨id, .service⟩
  match ← read name with
  | none => pure ()
  | some content => do
      Program.check (StructuralUnitValidator.validate ⟨name, content⟩)
      Program.ensure ((← state name) == .managed id &&
          (Str.lines content).any (Str.startsWith "ExecStart=\"/usr/bin/onedrive\" "))
        (.validation ⟨"legacy-retirement-ownership", []⟩)
      retirementAction name content .validateRetirementLoaded
      retirementAction name content .disable
      retirementAction name content .stop
      let status ← action .status (some name)
      let cancelled ← isCancelled
      Program.ensure (status.any isRetired && !cancelled)
        (.runtime ⟨"legacy-retirement-incomplete", []⟩)
      stillHolds name content
      remove name

end UnitController

end CosmicMounter

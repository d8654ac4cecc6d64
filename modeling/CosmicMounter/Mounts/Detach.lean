import CosmicMounter.Interaction.Program
import CosmicMounter.Mounts.Table
import CosmicMounter.Process.Argument
import CosmicMounter.Services.Controller

/-!
# Detaching an online mount

The unmount operations and the repair of an online mount (`app.rs`), as
programs over the mount table, the two helper commands, the service manager
and the clock.  The loops run for as many rounds as the clock lets them.
-/

namespace CosmicMounter.Detach

open Rust Interaction Mounts

/-! ## Requests -/

inductive TableError
  | inspection (text : String)
  | line (message : Message)
  deriving DecidableEq

inductive Argument
  | text (text : String)
  | command (error : CommandError)
  | table (error : TableError)
  | service (error : ServiceError)
  deriving DecidableEq

/-- An error as it is shown: of a callee, or a text of the catalogue around one. -/
inductive Failure
  | shown (argument : Argument)
  | message (key : String) (arguments : List (String × Argument))
  | outOfRounds
  deriving DecidableEq

inductive DetachRequest
  | persistOnlinePopupState (mounted : Bool)
  | cancelRefresh
  | cancelPreloadBeforeUnmount
  | cancelPreload
  | hostMountInfo
  | unmount (lazy : Bool) (path : String)
  | isPastDeadline
  | sleep
  | action (action : SystemdAction) (unit : UnitName)
  | shutdownVpn
  deriving DecidableEq

abbrev DetachRequest.Answer : DetachRequest → Type
  | persistOnlinePopupState _ => Except String Unit
  | cancelRefresh => Unit
  | cancelPreloadBeforeUnmount => Except String Unit
  | cancelPreload => Unit
  | hostMountInfo => Except String String
  | unmount _ _ => Except CommandError CommandOutput
  | isPastDeadline => Bool
  | sleep => Unit
  | action _ _ => Except ServiceError (Option UnitStatus)
  | shutdownVpn => Except String Unit

abbrev Call (α : Type) := ExceptT Failure (Program DetachRequest.Answer) α

def ask (q : DetachRequest) : Program DetachRequest.Answer q.Answer :=
  Program.request (R := DetachRequest.Answer) q

def shownText (text : String) : Failure := .shown (.text text)

/-- A request whose error is shown as it is. -/
def askShown {α : Type} (answer : Program DetachRequest.Answer (Except String α)) : Call α :=
  Program.reporting shownText (ExceptT.mk answer)

def manage (wrap : ServiceError → Failure) (action : SystemdAction) (unit : UnitName) :
    Call (Option UnitStatus) :=
  Program.reporting wrap (ExceptT.mk (ask (.action action unit)))

/-! ## The mount table -/

def entriesOf (text : String) : Except TableError (List MountEntry) :=
  ((Str.lines text).mapM parseMountinfoLine).mapError .line

def tableOf (answer : Except String String) : Except TableError (List MountEntry) :=
  match answer with
  | .error text => .error (.inspection text)
  | .ok text => entriesOf text

def hostMountEntries (wrap : TableError → Failure) : Call (List MountEntry) :=
  ExceptT.mk (ask .hostMountInfo >>= fun answer ↦ .done ((tableOf answer).mapError wrap))

def isMountedAt (connection : Connection) (mounts : List MountEntry) : Bool :=
  mounts.any fun mount ↦ decide (Path.Same mount.target connection.localPath)

/-! ## Repair plans -/

inductive OnlineMountEngine
  | rclone
  | onedriver
  deriving DecidableEq, Repr

structure OnlineRepairPlan where
  engine : OnlineMountEngine
  cancelRcloneRefresh : Bool
  cancelDirectoryPreload : Bool
  deriving DecidableEq, Repr

def OnlineRepairPlan.expectedFilesystem (plan : OnlineRepairPlan) : String :=
  match plan.engine with
  | .rclone => "fuse.rclone"
  | .onedriver => "fuse.onedriver"

def onlineMountEngine (connection : Connection) : Option OnlineMountEngine :=
  match connection.provider, connection.mode with
  | .onedrive, .onlineMount _ => some .onedriver
  | _, .onlineMount _ => some .rclone
  | _, .offlineMirror _ => none

def usesDirectoryPreload (connection : Connection) : Bool :=
  match connection.provider, connection.mode with
  | .googleDrive, _ => false
  | _, .onlineMount _ => true
  | _, .offlineMirror _ => false

def onlineRepairPlan (connection : Connection) : Option OnlineRepairPlan :=
  (onlineMountEngine connection).map fun engine ↦
    { engine
      cancelRcloneRefresh := decide (connection.provider = .googleDrive)
      cancelDirectoryPreload := usesDirectoryPreload connection }

def onlyForOnlineMounts : Failure := .message "ui-app-repair-is-only-available-for-online-mounts" []

/-- Whether the mount is still there; one of another type is an error. -/
def repairNeedsLazyDetach (connection : Connection) (mounts : List MountEntry) : Except Failure Bool :=
  match mounts.find? fun mount ↦ decide (Path.Same mount.target connection.localPath) with
  | none => .ok false
  | some mount =>
      match onlineRepairPlan connection with
      | none => .error onlyForOnlineMounts
      | some plan =>
          if mount.filesystem ≠ plan.expectedFilesystem then
            .error (.message "ui-app-repair-found-an-unexpected-filesystem-at-the" [])
          else .ok true

/-! ## Unmounting -/

/-- `clean_unmount_request` and `lazy_unmount_request`, run. -/
def runUnmount (isLazy : Bool) (path : String) : Call (Except CommandError CommandOutput) := do
  Program.ensure (isPlainArgument path) (.shown (.command .invalidArgument))
  ask (.unmount isLazy path)

def CommandError.isNonZero : CommandError → Bool
  | .nonZero .. => true
  | _ => false

def checkFailed (error : TableError) : Failure :=
  .message "ui-app-could-not-check-mount-before-unmount-error" [("error", .table error)]

def recheckFailed (path : String) (error : CommandError) (check : TableError) : Failure :=
  .message "ui-app-clean-unmount-failed-for-value1-error-could"
    [("value1", .text path), ("error", .command error), ("check_error", .table check)]

def couldNotDetach (path : String) (error : CommandError) : Failure :=
  .message "ui-app-clean-unmount-could-not-detach-value1-error"
    [("value1", .text path), ("error", .command error)]

section Unmount

variable (connection : Connection)

/-- A failed clean unmount, reconciled with the table; `true` when another attempt follows. -/
def reconcileFailure (error : CommandError) : Call Bool := do
  let mounts ← hostMountEntries (recheckFailed connection.localPath error)
  if !isMountedAt connection mounts then return false
  else do
    let isPast ← ask .isPastDeadline
    Program.ensure (!isPast && CommandError.isNonZero error) (couldNotDetach connection.localPath error)
    ask .sleep
    return true

def cleanDetachBeforeServiceStop : Nat → Call Unit
  | 0 => throw .outOfRounds
  | rounds + 1 => do
      let mounts ← hostMountEntries checkFailed
      if !isMountedAt connection mounts then return ()
      else do
        match ← runUnmount false connection.localPath with
        | .ok _ => return ()
        | .error error => do
            let isRetried ← reconcileFailure connection error
            if isRetried then cleanDetachBeforeServiceStop rounds else return ()

def requireMountDisappearanceAfterCleanStop : Nat → Call Unit
  | 0 => throw .outOfRounds
  | rounds + 1 => do
      let mounts ← hostMountEntries fun error ↦
        .message "ui-app-could-not-verify-unmount-error" [("error", .table error)]
      if !isMountedAt connection mounts then return ()
      else do
        let isPast ← ask .isPastDeadline
        Program.ensure (!isPast) (.message "ui-app-clean-unmount-left-a-busy-fuse-endpoint"
          [("value1", .text connection.localPath)])
        ask .sleep
        requireMountDisappearanceAfterCleanStop rounds

def service : UnitName := ⟨connection.id, .service⟩

def stopOnlineServiceAndReleaseVpn (rounds : Nat) : Call Unit := do
  let _ ← manage (.shown ∘ .service) .stop (service connection)
  requireMountDisappearanceAfterCleanStop connection rounds
  askShown (ask .shutdownVpn)

def cancelGoogleRefresh : Call Unit :=
  if connection.provider = .googleDrive then ExceptT.lift (ask .cancelRefresh) else return ()

def cancelUsedPreload : Call Unit :=
  if usesDirectoryPreload connection then askShown (ask .cancelPreloadBeforeUnmount) else return ()

/-- `run_managed_rclone_online_mount_operation_result_inner`, for an unmount. -/
def unmountManagedRclone (rounds : Nat) : Call Unit := do
  askShown (ask (.persistOnlinePopupState false))
  cancelGoogleRefresh connection
  cancelUsedPreload connection
  cleanDetachBeforeServiceStop connection rounds
  stopOnlineServiceAndReleaseVpn connection rounds

/-- `run_managed_onedriver_online_mount_operation_result_inner`, for an unmount. -/
def unmountManagedOnedriver (rounds : Nat) : Call Unit := do
  askShown (ask (.persistOnlinePopupState false))
  askShown (ask .cancelPreloadBeforeUnmount)
  cleanDetachBeforeServiceStop connection rounds
  stopOnlineServiceAndReleaseVpn connection rounds

/-- `run_managed_online_mount_operation_result`, for an unmount. -/
def runUnmountOperation (rounds : Nat) : Call Unit :=
  match onlineMountEngine connection with
  | none => throw (.message "ui-app-value1-is-not-an-online-mount" [("value1", .text connection.name)])
  | some .rclone => unmountManagedRclone connection rounds
  | some .onedriver => unmountManagedOnedriver connection rounds

/-! ## Repair -/

def detachLazily : Call Unit := do
  match ← runUnmount true connection.localPath with
  | .ok _ => return ()
  | .error error => throw (.shown (.command error))

def awaitDetached : Nat → Call Unit
  | 0 => throw .outOfRounds
  | rounds + 1 => do
      let mounts ← hostMountEntries (.shown ∘ .table)
      let isMounted ← Program.check (repairNeedsLazyDetach connection mounts)
      if !isMounted then return ()
      else do
        let isPast ← ask .isPastDeadline
        Program.ensure (!isPast)
          (.message "ui-app-repair-could-not-detach-the-mountpoint-inspect" [])
        ask .sleep
        awaitDetached rounds

def repairRequiresFailedReset (status : UnitStatus) : Bool := status.active == .failed

def reconcileOnlineRepairService : Call Unit := do
  let status ← manage (fun error ↦ .message "online-service-repair-read-failed" [("error", .service error)])
    .status (service connection)
  match status with
  | none => throw (.message "online-service-repair-unknown-state" [])
  | some status =>
      if repairRequiresFailedReset status then do
        let _ ← manage
          (fun error ↦ .message "online-service-repair-reset-failed" [("error", .service error)])
          .resetFailed (service connection)
        return ()
      else return ()

/-- The steps before the table is read; a failed stop is ignored. -/
def prepareRepair (plan : OnlineRepairPlan) : Call Unit := do
  askShown (ask (.persistOnlinePopupState false))
  if plan.cancelRcloneRefresh then ExceptT.lift (ask .cancelRefresh)
  if plan.cancelDirectoryPreload then ExceptT.lift (ask .cancelPreload)
  let _ ← ask (.action .stop (service connection))

def detachForRepair : Call Unit := do
  let mounts ← hostMountEntries (.shown ∘ .table)
  let isMounted ← Program.check (repairNeedsLazyDetach connection mounts)
  if isMounted then detachLazily connection else return ()

def runOnlineMountRepairOperationResult (rounds : Nat) : Call Unit := do
  match onlineRepairPlan connection with
  | none => throw onlyForOnlineMounts
  | some plan => do
      prepareRepair connection plan
      detachForRepair connection
      awaitDetached connection rounds
      reconcileOnlineRepairService connection

end Unmount

end CosmicMounter.Detach

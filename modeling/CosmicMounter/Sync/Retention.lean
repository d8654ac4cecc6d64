import CosmicMounter.Calendar.Text
import CosmicMounter.Host.Request
import CosmicMounter.Process.Argument
import CosmicMounter.Sync.Plan

/-!
# Retention of recovery days

`cleanup_retention` of `bisync_coordinator.rs`: after a synchronization, the
recovery directories of days past the retention are deleted, here and on the
remote, where a marker names this connection as their owner.
-/

namespace CosmicMounter.Retention

open Rust Interaction Host Calendar

def ownerMarker : String := ".cosmic-mounter-owner"

def retentionDays : Nat := 32

def nanosPerSecond : Int := 1000000000

structure RetentionCleanupIssues where
  localListingFailed : Bool := false
  localEntriesUnreadable : Nat := 0
  localOwnershipUnverified : Nat := 0
  localDeletionsFailed : Nat := 0
  remoteListingFailed : Bool := false
  remoteOwnershipUnverified : Nat := 0
  remoteDeletionsFailed : Nat := 0
  cancelled : Bool := false
  deriving DecidableEq, Repr

/-- A warning that counts what it is about, when there is any of it. -/
def countWarning (key : String) (count : Nat) : List Message :=
  if 0 < count then [⟨key, [("count", toString count)]⟩] else []

def RetentionCleanupIssues.warnings (issues : RetentionCleanupIssues) : List Message :=
  (if issues.cancelled then
    [⟨"ui-bisync-coordinator-retention-cleanup-was-interrupted-after-synchronization-succeeded", []⟩]
  else []) ++
  (if issues.localListingFailed then
    [⟨"ui-bisync-coordinator-local-retention-cleanup-could-not-inspect-the", []⟩]
  else []) ++
  countWarning "ui-bisync-coordinator-local-retention-cleanup-could-not-inspect-value1"
    issues.localEntriesUnreadable ++
  countWarning "ui-bisync-coordinator-local-retention-cleanup-preserved-value1-expired-recovery"
    issues.localOwnershipUnverified ++
  countWarning "ui-bisync-coordinator-local-retention-cleanup-could-not-remove-value1"
    issues.localDeletionsFailed ++
  (if issues.remoteListingFailed then
    [⟨"ui-bisync-coordinator-remote-retention-cleanup-could-not-list-the", []⟩]
  else []) ++
  countWarning "ui-bisync-coordinator-remote-retention-cleanup-preserved-value1-expired-recovery"
    issues.remoteOwnershipUnverified ++
  countWarning "ui-bisync-coordinator-remote-retention-cleanup-could-not-remove-value1"
    issues.remoteDeletionsFailed

/-! ## Days -/

/-- The month's last day, if there is such a month. -/
def maximumDay (year month : Nat) : Option Nat :=
  match month with
  | 1 | 3 | 5 | 7 | 8 | 10 | 12 => some 31
  | 4 | 6 | 9 | 11 => some 30
  | 2 => some (if year % 4 == 0 && (year % 100 != 0 || year % 400 == 0) then 29 else 28)
  | _ => none

/-- Ten bytes of which two are dashes and the others digits are ten characters. -/
@[irreducible] def strictDay (value : String) : Bool :=
  match value.toList with
  | [y₁, y₂, y₃, y₄, first, m₁, m₂, second, d₁, d₂] =>
      first == '-' && second == '-' &&
        [y₁, y₂, y₃, y₄, m₁, m₂, d₁, d₂].all Char.isDigit &&
        match maximumDay (Nat.ofDigitChars 10 [y₁, y₂, y₃, y₄] 0) (Nat.ofDigitChars 10 [m₁, m₂] 0) with
        | some maximum =>
            let day := Nat.ofDigitChars 10 [d₁, d₂] 0
            decide (1 ≤ day) && decide (day ≤ maximum)
        | none => false
  | _ => false

def epoch : Date := ⟨1970, 1, 1, by decide, by decide⟩

/-- `gmtime_r`: no result where the year is beyond its type. -/
def gmtime (seconds : Nat) : Option Date :=
  let date := Date.ofDayNumber (epoch.dayNumber + seconds / 86400)
  if date.year - 1900 < 2 ^ 31 then some date else none

def utcTm (seconds : Nat) : Except Message Date :=
  if 2 ^ 63 ≤ seconds then .error ⟨"ui-bisync-coordinator-system-time-is-out-of-range", []⟩
  else
    match gmtime seconds with
    | some date => .ok date
    | none => .error ⟨"ui-bisync-coordinator-could-not-convert-utc-time", []⟩

/-- The day of a time in nanoseconds since the epoch. -/
def utcDay (now : Int) : Except Message String :=
  if now < 0 then .error ⟨"ui-bisync-coordinator-system-clock-precedes-unix-epoch", []⟩
  else (utcTm (now / nanosPerSecond).toNat).map Date.text

/-! ## Commands -/

@[irreducible] def rcloneRequest (arguments : List String) (timeout : Nat) : Except CommandError CommandRequest :=
  if arguments.all isPlainArgument then
    .ok {
      args := ["--contimeout", "10s", "--timeout", "30s"] ++ arguments
      timeout
      outputLimit := 256 * 1024 }
  else .error .invalidArgument

@[irreducible] def completeStdout (output : CommandOutput) (stage : String) : Except Message String :=
  if output.stdout.truncated || output.stdout.invalidUtf8 then
    .error ⟨"ui-bisync-coordinator-stage-returned-incomplete-or-invalid-output", [("stage", stage)]⟩
  else .ok output.stdout.text

def oneMinute : Nat := 60 * 1000000000

def listingArguments (plan : RcloneBisyncPlan) : List String :=
  ["lsf", "--dirs-only", "--max-depth", "1", plan.remoteRecoveryPath]

def remoteTarget (plan : RcloneBisyncPlan) (name : String) : String :=
  Str.trimEndMatches '/' plan.remoteRecoveryPath ++ "/" ++ name

def remoteMarker (target : String) : String := target ++ "/" ++ ownerMarker

/-! ## The cleanup -/

/-- A failure is an early return with the issues found so far. -/
abbrev Cleanup (α : Type) := ExceptT RetentionCleanupIssues (Program HostRequest.Answer) α

def checkCancelled (issues : RetentionCleanupIssues) : Cleanup Unit := do
  if ← ask .isCancelled then throw { issues with cancelled := true } else pure ()

def localUnverified (issues : RetentionCleanupIssues) : RetentionCleanupIssues :=
  { issues with localOwnershipUnverified := issues.localOwnershipUnverified + 1 }

def remoteUnverified (issues : RetentionCleanupIssues) : RetentionCleanupIssues :=
  { issues with remoteOwnershipUnverified := issues.remoteOwnershipUnverified + 1 }

def remoteUndeleted (issues : RetentionCleanupIssues) : RetentionCleanupIssues :=
  { issues with remoteDeletionsFailed := issues.remoteDeletionsFailed + 1 }

/-- The deletion of an owned day. -/
def deleteLocalDay (path : String) (issues : RetentionCleanupIssues) :
    Ask RetentionCleanupIssues := do
  match ← ask (.removeDirAll path) with
  | .ok _ => return issues
  | .error _ => return { issues with localDeletionsFailed := issues.localDeletionsFailed + 1 }

/-- An expired day: it is deleted once its owner is verified. -/
def cleanupLocalDay (connection : Connection) (path : String) (issues : RetentionCleanupIssues) :
    Ask RetentionCleanupIssues := do
  match ← ask (.symlinkMetadata path) with
  | .ok .directory =>
      match ← ask (.symlinkMetadata (Path.join path ownerMarker)) with
      | .ok .file =>
          match ← ask (.readToString (Path.join path ownerMarker)) with
          | .ok owner =>
              if Str.trimEnd owner = connection.id.text then deleteLocalDay path issues
              else return issues
          | .error _ => return localUnverified issues
      | _ => return localUnverified issues
  | _ => return localUnverified issues

/-- A name that is not UTF-8 shows a replacement character, and so is no day. -/
def cleanupLocalEntries (connection : Connection) (directory cutoff : String) :
    List (Except IoError String) → RetentionCleanupIssues → Cleanup RetentionCleanupIssues
  | [], issues => pure issues
  | .error _ :: rest, issues =>
      cleanupLocalEntries connection directory cutoff rest
        { issues with localEntriesUnreadable := issues.localEntriesUnreadable + 1 }
  | .ok name :: rest, issues => do
      checkCancelled issues
      if !strictDay name || !decide (name < cutoff) then
        cleanupLocalEntries connection directory cutoff rest issues
      else
        let issues ← cleanupLocalDay connection (Path.join directory name) issues
        cleanupLocalEntries connection directory cutoff rest issues

def cleanupLocal (connection : Connection) (directory cutoff : String) :
    Cleanup RetentionCleanupIssues := do
  match ← ask (.readDir directory) with
  | .ok entries => cleanupLocalEntries connection directory cutoff entries {}
  | .error _ => pure { localListingFailed := true }

def purgeRemoteDay (target : String) (issues : RetentionCleanupIssues) :
    Ask RetentionCleanupIssues := do
  match rcloneRequest ["purge", target] oneMinute with
  | .error _ => return remoteUndeleted issues
  | .ok request =>
      match ← ask (.run request) with
      | .ok _ => return issues
      | .error _ => return remoteUndeleted issues

variable (fl : Message → String)

def cleanupRemoteDay (connection : Connection) (target : String) (issues : RetentionCleanupIssues) :
    Ask RetentionCleanupIssues := do
  match rcloneRequest ["cat", remoteMarker target] oneMinute with
  | .error _ => return remoteUnverified issues
  | .ok request =>
      match ← ask (.run request) with
      | .error _ => return remoteUnverified issues
      | .ok output =>
          match completeStdout output (fl ⟨"ui-bisync-coordinator-retention-owner", []⟩) with
          | .error _ => return remoteUnverified issues
          | .ok owner =>
              if Str.trimEnd owner = connection.id.text then purgeRemoteDay target issues
              else return issues

def cleanupRemoteEntries (connection : Connection) (plan : RcloneBisyncPlan) (cutoff : String) :
    List String → RetentionCleanupIssues → Cleanup RetentionCleanupIssues
  | [], issues => pure issues
  | entry :: rest, issues => do
      checkCancelled issues
      let name := Str.trimEndMatches '/' entry
      if !strictDay name || !decide (name < cutoff) then
        cleanupRemoteEntries connection plan cutoff rest issues
      else
        let issues ← cleanupRemoteDay fl connection (remoteTarget plan name) issues
        cleanupRemoteEntries connection plan cutoff rest issues

def cleanupRemote (connection : Connection) (plan : RcloneBisyncPlan) (cutoff : String)
    (issues : RetentionCleanupIssues) : Cleanup RetentionCleanupIssues := do
  match rcloneRequest (listingArguments plan) oneMinute with
  | .error _ => throw { issues with remoteListingFailed := true }
  | .ok request =>
      match ← ask (.run request) with
      | .error _ => throw { issues with remoteListingFailed := true }
      | .ok listing =>
          match completeStdout listing (fl ⟨"ui-bisync-coordinator-retention-listing", []⟩) with
          | .error _ => throw { issues with remoteListingFailed := true }
          | .ok text => cleanupRemoteEntries fl connection plan cutoff (Str.lines text) issues

/-- The days before this one have expired. -/
def retentionCutoff : Cleanup String := do
  let now ← ask .now
  match utcDay (now - retentionDays * 86400 * nanosPerSecond) with
  | .ok cutoff => pure cutoff
  | .error _ => throw { localListingFailed := true, remoteListingFailed := true }

def cleanupDays (connection : Connection) (plan : RcloneBisyncPlan) :
    Cleanup RetentionCleanupIssues := do
  checkCancelled {}
  let cutoff ← retentionCutoff
  let issues ← cleanupLocal connection plan.recoveryDirectory cutoff
  checkCancelled issues
  cleanupRemote fl connection plan cutoff issues

def cleanupRetention (connection : Connection) (plan : RcloneBisyncPlan) : Ask (List Message) := do
  match ← (cleanupDays fl connection plan).run with
  | .ok issues => return issues.warnings
  | .error issues => return issues.warnings

end CosmicMounter.Retention

import CosmicMounter.Guards.Bindings
import CosmicMounter.Microsoft.Requests

/-!
# The identity of a SharePoint library

The checks of `sharepoint.rs`: the configured drive of a remote, the drive
that Microsoft reports, and the guard of a mirror.
-/

namespace CosmicMounter.Microsoft

open Rust Serde Interaction

/-! ## Failures of rclone -/

/-- The first of these groups of words that the text holds decides. -/
def readFailures (folderSelected : Bool) : List (List String × String) :=
  [(["aadsts65001", "consent_required", "admin consent", "consent is required"],
      "ui-teams-microsoft-tenant-consent-is-required-for-this"),
    (["invalid_grant", "token expired", "expired token", "couldn't fetch token", "unauthorized", "401"],
      "ui-teams-sharepoint-rclone-authorization-expired-or-was-revoked"),
    (["429", "503", "too many requests", "throttl", "server too busy"],
      "ui-teams-sharepoint-is-limiting-requests-wait-before-retrying"),
    (["403", "accessdenied", "access denied", "forbidden", "permission denied"],
      "ui-teams-the-signed-in-account-cannot-read-this"),
    (["404", "itemnotfound", "directory not found", "object not found", "not found"],
      if folderSelected then "ui-teams-the-selected-sharepoint-folder-was-not-found"
      else "ui-teams-the-sharepoint-library-is-unavailable-to-this"),
    (["network", "connection", "timeout", "no route", "dns"],
      "ui-teams-could-not-reach-sharepoint-check-network-or")]

def nonZeroError (detail : String) (folderSelected : Bool) : Message :=
  match (readFailures folderSelected).find? fun group ↦ group.1.any fun word ↦ Str.contains word detail with
  | some (_, key) => ⟨key, []⟩
  | none => ⟨"ui-teams-the-sharepoint-read-only-access-check-failed", []⟩

def rcloneReadError (folderSelected : Bool) : CommandError → Message
  | .missingExecutable => ⟨"ui-teams-rclone-is-missing-install-it-before-testing", []⟩
  | .invalidArgument => ⟨"ui-teams-sharepoint-remote-or-folder-contains-an-invalid", []⟩
  | .timeout _ _ => ⟨"ui-teams-the-sharepoint-read-only-access-check-timed", []⟩
  | .cancelled _ => ⟨"ui-teams-the-sharepoint-access-check-was-cancelled", []⟩
  | .spawn _ _ => ⟨"ui-teams-could-not-start-rclone-for-the-sharepoint", []⟩
  | .nonZero _ _ stdout stderr =>
      let detail := if Str.trim stderr.text = "" then stdout.text else stderr.text
      nonZeroError (Str.toAsciiLowercase detail) folderSelected

/-- The displayed text of an argument that is refused before the command runs. -/
def invalidArgument : Message := ⟨"ui-process-command-argument-contains-unsafe-bytes", []⟩

def listRoot (target : String) (timeoutSeconds : Nat) (folderSelected : Bool) : Call Message Unit := do
  let request ← orFail (fun _ ↦ invalidArgument)
    (pure (rclone ["lsf", target, "--max-depth", "1"] timeoutSeconds (16 * 1024)))
  let _ ← orFail (rcloneReadError folderSelected) (ask (.run request))

/-! ## The configured drive -/

structure RemoteCredentials where
  driveId : String
  accessToken : String

variable (json : ConfigJson)

/-- What a configuration dump says about the remote. -/
def libraryCredentials (dump : Value) (remoteName : String) : Except Message RemoteCredentials := do
  let some remote := dump.get remoteName
    | .error ⟨"ui-teams-rclone-remote-remote-name-was-not-found", [("remote_name", remoteName)]⟩
  if (remote.get "type").bind Value.asStr ≠ some "onedrive" ∨
      (remote.get "drive_type").bind Value.asStr ≠ some "documentLibrary" then
    .error ⟨"ui-teams-choose-a-rclone-onedrive-remote-configured-for", []⟩
  let some driveId := ((remote.get "drive_id").bind Value.asStr).filter (· ≠ "")
    | .error ⟨"ui-teams-the-sharepoint-remote-has-no-drive-id", []⟩
  let accessToken ← (accessTokenFromRemote json remote).mapError OAuthError.message
  return ⟨driveId, accessToken⟩

/-- `remote_credentials`, which reads the printed dump again. -/
def remoteCredentials (configJson remoteName : String) : Except Message RemoteCredentials := do
  let dump ← (json.fromStr configJson).mapError fun _ ↦
    (⟨"ui-teams-rclone-returned-invalid-configuration-data", []⟩ : Message)
  libraryCredentials json dump remoteName

/-! ## The reported drive -/

variable (ext : Externals)

def sameLibraryUrl (left right : String) : Bool :=
  match ext.parseLibraryUrl left, ext.parseLibraryUrl right with
  | .ok left, .ok right => Str.toAsciiLowercase left.libraryUrl == Str.toAsciiLowercase right.libraryUrl
  | _, _ => false

def verifyGraphDrive (response : Value) (expected : SharePointLibraryIdentity) (configuredDriveId : String) :
    Except Message SharePointLibraryIdentity := do
  if (response.get "id").bind Value.asStr ≠ some configuredDriveId ∨
      (response.get "driveType").bind Value.asStr ≠ some "documentLibrary" then
    .error ⟨"ui-teams-microsoft-returned-a-different-drive-or-a", []⟩
  let some actualUrl := (response.get "webUrl").bind Value.asStr
    | .error ⟨"ui-teams-microsoft-did-not-return-the-document-library", []⟩
  if !sameLibraryUrl ext expected.libraryUrl actualUrl then
    .error ⟨"ui-teams-the-rclone-remote-points-to-a-different", []⟩
  if expected.driveId ≠ "" ∧ expected.driveId ≠ configuredDriveId then
    .error ⟨"ui-teams-the-rclone-remote-s-drive-id-changed", []⟩
  return { expected with driveId := configuredDriveId }

structure VerifiedSharePointLibrary where
  identity : SharePointLibraryIdentity
  account : Option String
  deriving DecidableEq, Repr

inductive ProfileLookup
  | skip
  | optional
  deriving DecidableEq, Repr

def libraryGraph (target : LibraryGraphTarget) (accessToken : String) : Call Message Value :=
  ExceptT.mk (ask (.libraryGraph target accessToken))

def accountOf (profile : Value) : Option String :=
  (["userPrincipalName", "mail"].filterMap fun name ↦ (profile.get name).bind Value.asStr).find?
    fun value ↦ Str.trim value != ""

/-- The profile is of interest, but not required. -/
def lookUpAccount (profile : ProfileLookup) (accessToken : String) : Call Message (Option String) :=
  match profile with
  | .skip => pure none
  | .optional => do
      let result ← Program.attempt (libraryGraph .profile accessToken)
      return result.toOption.bind accountOf

def libraryDump : Call Message Value :=
  Program.reporting (fun _ ↦ ⟨"ui-teams-could-not-inspect-the-sharepoint-rclone-remote", []⟩)
    (configDump json .fresh)

/-- `verify_remote_with_graph`, with the client made first. -/
def verifyRemote (remoteName : String) (expected : SharePointLibraryIdentity) (profile : ProfileLookup) :
    Call Message VerifiedSharePointLibrary := do
  let client ← ask .libraryClient
  require client ⟨"ui-teams-could-not-prepare-microsoft-library-verification", []⟩
  listRoot (remoteName ++ ":") 25 false
  let dump ← libraryDump json
  let credentials ← Program.check (remoteCredentials json (json.toString dump) remoteName)
  let response ← libraryGraph (.drive credentials.driveId) credentials.accessToken
  let identity ← Program.check (verifyGraphDrive ext response expected credentials.driveId)
  let account ← lookUpAccount profile credentials.accessToken
  return ⟨identity, account⟩

/-! ## The guard of a mirror -/

def verifyLibraryBinding (binding : SharePoint.MirrorGuardBinding) (connection : Connection) :
    Call Message Unit := do
  Program.check (binding.matchesSavedConnection ext connection)
  let expected ← orElse connection.teamsIdentity
    ⟨"ui-teams-the-sharepoint-connection-has-no-verified-library", []⟩
  let _ ← verifyRemote json ext binding.remoteName expected .skip
  listRoot (binding.remoteName ++ ":" ++ binding.remoteSubpath) 20 (binding.remoteSubpath != "")

end CosmicMounter.Microsoft

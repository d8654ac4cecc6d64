import CosmicMounter.Guards.Bindings
import CosmicMounter.Microsoft.Requests

/-!
# The identity of a OneDrive drive

The checks of `onedrive.rs`: the configured drive and its token, the drive
that Microsoft reports, the selected folder, and the guard of a mirror.
-/

namespace CosmicMounter.Microsoft

open Rust Serde Interaction

/-! ## Commands -/

def rcloneError (operation : RcloneOperation) (error : CommandError) : OneDriveError :=
  match CommandFailure.of error with
  | .cancelled => .cancelled
  | failure => .rcloneFailed operation failure

def catOperation (path : String) : RcloneOperation :=
  if Str.endsWith "/.prototype-owner" path then .ownerRead
  else if Str.contains "/.cloud-mounter-onedrive-anchor-" path then .anchorRead
  else .other

def commandOperation : List String → RcloneOperation
  | "lsjson" :: _ => .identityAccess
  | "config" :: _ => .config
  | "cat" :: path :: _ => catOperation path
  | "check" :: _ => .downloadVerification
  | _ => .other

def complete (output : CommandOutput) : Except OneDriveError String :=
  if output.stdout.truncated || output.stdout.invalidUtf8 then .error .incompleteOutput
  else .ok output.stdout.text

/-- A failure counts as a cancellation when the token is cancelled by then. -/
def failedCommand (cancel : Token) (args : List String) (error : CommandError) :
    Call OneDriveError CommandOutput := do
  let cancelled ← isCancelled cancel
  throw (if cancelled then .cancelled else rcloneError (commandOperation args) error)

def command (args : List String) (timeoutSeconds : Nat) (cancel : Token) : Call OneDriveError String := do
  let cancelled ← isCancelled cancel
  require (!cancelled) .cancelled
  let request ← orFail (fun _ ↦ .invalidInput) (pure (rclone args timeoutSeconds (1024 * 1024)))
  let result ← ask (.run request)
  let output ← match result with
    | .ok output => pure output
    | .error error => failedCommand cancel args error
  let cancelled ← isCancelled cancel
  require (!cancelled) .cancelled
  Program.check (complete output)

def microsoftOAuthError : OAuthError → OneDriveError
  | .existingRemote => .existingRemote
  | .invalidRemoteName => .invalidInput
  | .invalidResponse | .unstructuredResponse => .invalidConfigResponse
  | .tooManySteps => .unsupportedQuestion
  | .command .cancelled => .cancelled
  | .command failure => .rcloneFailed .config failure
  | .cleanupRequired => .cleanupRequired
  | _ => .commandFailed

def bindingError : OneDrive.Error → OneDriveError
  | .invalidInput => .invalidInput
  | .invalidState => .invalidState
  | .wrongDrive => .wrongDrive

/-! ## Answers of Microsoft Graph -/

def text (value : Value) (name : String) : Option String := (value.get name).bind Value.asStr

/-- `value.pointer` along a path of names. -/
def pointer (value : Value) : List String → Option Value
  | [] => some value
  | name :: rest => (value.get name).bind fun field ↦ pointer field rest

def nonEmpty (value : Option String) : Except OneDriveError String :=
  match value.filter (· ≠ "") with
  | some s => .ok s
  | none => .error .invalidMetadata

def businessDrive (value : Value) : Except OneDriveError (String × String) := do
  if text value "driveType" ≠ some "business" then .error .wrongDrive
  let id ← nonEmpty (text value "id")
  let owner ← nonEmpty ((pointer value ["owner", "user", "id"]).bind Value.asStr)
  return (id, owner)

def isUpn (account : String) : Bool :=
  match Str.splitOnce '@' account with
  | none => false
  | some (name, domain) =>
      account.utf8ByteSize ≤ 320 && name != "" && domain != "" && !domain.toList.contains '@' &&
        !account.toList.any (fun c ↦ Str.isControl c || Str.isWhitespace c) &&
        !account.toList.any fun c ↦ decide (c ∈ ['/', '\\', '?'])

def businessUpn (account : String) : Except OneDriveError String :=
  if isUpn (Str.trim account) then .ok (Str.trim account) else .error .invalidInput

/-! ## The drive of the signed-in account -/

structure Identity where
  driveFingerprint : String
  accountFingerprint : String
  driveType : OneDriveDriveType
  deriving DecidableEq, Repr

structure VerifiedRemote where
  identity : OneDriveIdentity
  fingerprints : Identity
  deriving DecidableEq, Repr

def graph (target : GraphTarget) (accessToken : String) : Call OneDriveError Value :=
  ExceptT.mk (ask (.graph target accessToken))

variable (sha256Hex : String → String)

def primaryBusiness (token account : String) : Call OneDriveError (String × Identity) := do
  let account ← Program.check (businessUpn account)
  let signedIn ← graph .primaryDrive token
  let (drive, owner) ← Program.check (businessDrive signedIn)
  let expected ← graph (.expectedBusinessDrive account) token
  let (expectedDrive, expectedOwner) ← Program.check (businessDrive expected)
  require (drive == expectedDrive && owner == expectedOwner) .wrongAccount
  return (drive, ⟨sha256Hex drive, sha256Hex owner, .business⟩)

def profileError : OneDriveError → OneDriveError
  | .graphHttp 401 => .accountProfileUnauthorized 401
  | .graphHttp 403 => .accountProfileUnauthorized 403
  | error => error

def namesAccount (profile : Value) (account : String) : Bool :=
  ["userPrincipalName", "mail"].any fun name ↦
    (text profile name).any fun value ↦ Str.toAsciiLowercase value == Str.toAsciiLowercase (Str.trim account)

def primaryPersonal (token account : String) : Call OneDriveError (String × Identity) := do
  let me ← Program.reporting profileError (graph .profile token)
  let id ← Program.check (nonEmpty (text me "id"))
  require (namesAccount me account) .wrongAccount
  let drive ← graph .primaryDrive token
  let driveId ← Program.check (nonEmpty (text drive "id"))
  require (text drive "driveType" == some "personal") .wrongDrive
  return (driveId, ⟨sha256Hex driveId, sha256Hex id, .personal⟩)

def primary (token : String) (driveType : OneDriveDriveType) (account : String) :
    Call OneDriveError (String × Identity) := do
  require (Str.trim account != "" && isPlainArgument account) .invalidInput
  match driveType with
  | .business => primaryBusiness sha256Hex token account
  | .personal => primaryPersonal sha256Hex token account

variable (json : ConfigJson)

def dump (cancel : Token) : Call OneDriveError Value :=
  Program.reporting microsoftOAuthError (configDump json cancel)

/-- Fields that only a remote with a client or a root of its own has. -/
def customFields : List String :=
  ["client_id", "client_secret", "tenant", "tenant_url", "root_folder_id", "auth_url", "token_url"]

def isUnset : Value → Bool
  | .null => true
  | .bool b => !b
  | .string s => s == "" || s == "false"
  | _ => false

def usesCustomClient (remote : Value) : Bool :=
  customFields.any fun name ↦ (remote.get name).any fun value ↦ value.asStr != some ""

def usesClientCredentials (remote : Value) : Bool :=
  ["client_credentials", "expose_onenote_files"].any fun name ↦
    (remote.get name).any fun value ↦ !isUnset value

def configuredIdentity (remote : Value) (driveType : OneDriveDriveType) :
    Except OneDriveError OneDriveIdentity := do
  let some driveId := text remote "drive_id" | .error .invalidMetadata
  let identity : OneDriveIdentity := ⟨driveId, driveType⟩
  if identity.isValid then .ok identity else .error .invalidMetadata

/-- What a configuration dump says about the remote. -/
def credentialsOf (dump : Value) (remote : String) (driveType : OneDriveDriveType) :
    Except OneDriveError (OneDriveIdentity × String) := do
  let some fields := dump.get remote | .error .invalidMetadata
  if text fields "type" ≠ some "onedrive" ∨ text fields "drive_type" ≠ some driveType.serialized then
    .error .wrongDrive
  if usesCustomClient fields then .error .customClient
  let token ← (oauthAccessToken json (json.toString dump) remote).mapError fun _ ↦
    OneDriveError.invalidMetadata
  if usesClientCredentials fields then .error .customClient
  let identity ← configuredIdentity fields driveType
  return (identity, token)

def validateRemote (remote : String) : Except OneDriveError Unit :=
  (OneDrive.validateRemote remote).mapError bindingError

/-- Reading the root lets rclone refresh the token first. -/
def credentials (remote : String) (driveType : OneDriveDriveType) (cancel : Token) :
    Call OneDriveError (OneDriveIdentity × String) := do
  Program.check (validateRemote remote)
  let _ ← command ["lsjson", remote ++ ":", "--stat"] 30 cancel
  let dump ← dump json cancel
  Program.check (credentialsOf json dump remote driveType)

def verify (remote : String) (driveType : OneDriveDriveType) (account : String) (cancel : Token) :
    Call OneDriveError VerifiedRemote := do
  let _ ← Program.check (businessUpn account)
  let (configured, token) ← credentials json remote driveType cancel
  let (id, fingerprints) ← primary sha256Hex token driveType account
  require (configured.driveId == id) .wrongDrive
  require (OneDriveIdentity.isValid ⟨id, driveType⟩) .invalidMetadata
  return ⟨⟨id, driveType⟩, fingerprints⟩

/-! ## Folders -/

def isUnsupportedItem (folder : Value) : Bool :=
  ["remoteItem", "package"].any fun name ↦ (folder.get name).any fun value ↦ !value.isNull

def isFolderOf (folder : Value) (driveId : String) : Bool :=
  (folder.get "folder").any Value.isObject && (text folder "id").any (· != "") &&
    (pointer folder ["parentReference", "driveId"]).bind Value.asStr == some driveId

def isDirectory (output : String) : Bool :=
  match json.fromStr output with
  | .ok value => (value.get "IsDir").bind Value.asBool == some true
  | .error _ => false

def verifySubtree (remote subpath : String) (identity : OneDriveIdentity) (token : String)
    (cancel : Token) : Call OneDriveError Unit := do
  Program.check (validateRemote remote)
  Program.check ((OneDrive.validateSubpath subpath).mapError bindingError)
  let folder ← graph (.folder identity.driveId subpath) token
  require (!isUnsupportedItem folder) .unsupportedItem
  require (isFolderOf folder identity.driveId) .invalidMetadata
  let output ← command ["lsjson", remote ++ ":" ++ subpath, "--stat"] 30 cancel
  require (isDirectory json output) .invalidMetadata

/-! ## The guard of a mirror -/

def reportsDrive (primary : Value) (identity : OneDriveIdentity) : Bool :=
  text primary "id" == some identity.driveId &&
    text primary "driveType" == some identity.driveType.serialized

def verifyBoundFolder (binding : OneDrive.MirrorGuardBinding) (token : String) (cancel : Token) :
    Call OneDriveError Unit :=
  match binding.remoteSubpath with
  | none => pure ()
  | some path => verifySubtree json binding.remoteName path binding.identity token cancel

def verifyMirrorBinding (binding : OneDrive.MirrorGuardBinding) (connection : Connection)
    (cancel : Token) : Call OneDriveError Unit := do
  Program.check ((binding.matchesSavedConnection connection).mapError bindingError)
  let (configured, token) ← credentials json binding.remoteName binding.identity.driveType cancel
  require (configured == binding.identity) .wrongDrive
  let primary ← graph .primaryDrive token
  require (reportsDrive primary binding.identity) .wrongDrive
  verifyBoundFolder json binding token cancel

end CosmicMounter.Microsoft

import CosmicMounter.Host.Request
import CosmicMounter.Process.Argument
import CosmicMounter.Process.Redaction

/-!
# Talking to rclone and Microsoft

The shared authorization transport of `microsoft_oauth.rs`: requests, the
private configuration responses of rclone, and the creation of a new remote.
-/

namespace CosmicMounter.Microsoft

open Rust Serde Interaction

/-! ## Errors -/

inductive CommandFailure
  | missingExecutable
  | invalidArgument
  | spawn
  | timeout
  | cancelled
  | nonZero (code : Option Int)
  deriving DecidableEq, Repr

def CommandFailure.of : CommandError → CommandFailure
  | .missingExecutable => .missingExecutable
  | .invalidArgument => .invalidArgument
  | .spawn _ _ => .spawn
  | .timeout _ _ => .timeout
  | .cancelled _ => .cancelled
  | .nonZero _ code _ _ => .nonZero code

inductive OAuthError
  | invalidRemoteName
  | existingRemote
  | invalidResponse
  | unstructuredResponse
  | rejected
  | tooManySteps
  | remoteNotFound
  | wrongBackend
  | notAuthenticated
  | invalidToken
  | reauthorizationRequired
  | cleanupRequired
  | command (failure : CommandFailure)
  deriving DecidableEq, Repr

def OAuthError.message : OAuthError → Message
  | .invalidRemoteName => ⟨"microsoft-oauth-invalid-name", []⟩
  | .existingRemote => ⟨"microsoft-oauth-remote-exists", []⟩
  | .invalidResponse | .unstructuredResponse => ⟨"microsoft-oauth-invalid-response", []⟩
  | .rejected => ⟨"microsoft-oauth-rejected", []⟩
  | .tooManySteps => ⟨"microsoft-oauth-too-many-steps", []⟩
  | .remoteNotFound => ⟨"microsoft-oauth-remote-missing", []⟩
  | .wrongBackend => ⟨"microsoft-oauth-wrong-backend", []⟩
  | .notAuthenticated => ⟨"microsoft-oauth-not-authenticated", []⟩
  | .invalidToken => ⟨"microsoft-oauth-invalid-token", []⟩
  | .reauthorizationRequired => ⟨"microsoft-oauth-reauthorize", []⟩
  | .cleanupRequired => ⟨"microsoft-oauth-cleanup-required", []⟩
  | .command .missingExecutable => ⟨"microsoft-oauth-rclone-missing", []⟩
  | .command .timeout => ⟨"microsoft-oauth-timeout", []⟩
  | .command .cancelled => ⟨"microsoft-oauth-cancelled", []⟩
  | .command _ => ⟨"microsoft-oauth-command-failed", []⟩

inductive RcloneOperation
  | identityAccess
  | config
  | ownerRead
  | anchorRead
  | downloadVerification
  | other
  deriving DecidableEq, Repr

inductive OneDriveError
  | invalidInput
  | commandFailed
  | rcloneFailed (operation : RcloneOperation) (failure : CommandFailure)
  | incompleteOutput
  | invalidMetadata
  | invalidConfigResponse
  | wrongAccount
  | wrongDrive
  | unsupportedItem
  | customClient
  | existingRemote
  | cleanupRequired
  | unsupportedQuestion
  | cancelled
  | graphFailed
  | graphHttp (status : Nat)
  | accountProfileUnauthorized (status : Nat)
  | invalidState
  deriving DecidableEq, Repr

/-! ## Requests -/

/-- The caller's token; a fresh one is never cancelled. -/
inductive Token
  | caller
  | fresh
  deriving DecidableEq, Repr

inductive GraphTarget
  | profile
  | primaryDrive
  | expectedBusinessDrive (account : String)
  | folder (driveId path : String)
  deriving DecidableEq, Repr

inductive LibraryGraphTarget
  | drive (driveId : String)
  | profile
  deriving DecidableEq, Repr

/-- A Graph response for one candidate drive: its status, and its body when that is JSON. -/
structure DriveResponse where
  status : Nat
  body : Option Value

inductive MicrosoftRequest
  | isCancelled
  | run (request : CommandRequest)
  | privateConfig (request : CommandRequest)
  | graph (target : GraphTarget) (accessToken : String)
  | libraryClient
  | libraryGraph (target : LibraryGraphTarget) (accessToken : String)
  | discoveryClient
  | candidateDrive (driveId accessToken : String)
  deriving DecidableEq, Repr

/-- A candidate has no response when Microsoft cannot be reached. -/
abbrev MicrosoftRequest.Answer : MicrosoftRequest → Type
  | isCancelled => Bool
  | run _ | privateConfig _ => Except CommandError CommandOutput
  | graph _ _ => Except OneDriveError Value
  | libraryClient | discoveryClient => Bool
  | libraryGraph _ _ => Except Message Value
  | candidateDrive _ _ => Option DriveResponse

abbrev Ask (α : Type) := Program MicrosoftRequest.Answer α
abbrev Call (ε α : Type) := ExceptT ε (Program MicrosoftRequest.Answer) α

def ask (q : MicrosoftRequest) : Ask q.Answer := Program.request (R := MicrosoftRequest.Answer) q

/-- A request that answers with a result, whose failures are reported in other words. -/
def orFail {ε ε' α : Type} (f : ε → ε') (p : Ask (Except ε α)) : Call ε' α :=
  Program.reporting f (ExceptT.mk p)

def require {ε : Type} (condition : Bool) (error : ε) : Call ε Unit := Program.ensure condition error

/-- `ok_or`. -/
def orElse {ε α : Type} (a : Option α) (error : ε) : Call ε α := Program.check (a.elim (.error error) .ok)

def isCancelled : Token → Ask Bool
  | .caller => ask .isCancelled
  | .fresh => pure false

/-- A command line of rclone, with its limits. -/
def rclone (args : List String) (timeoutSeconds outputLimit : Nat) : Except CommandError CommandRequest :=
  if args.all isPlainArgument then .ok ⟨args, timeoutSeconds * 1000000000, outputLimit⟩
  else .error .invalidArgument

/-! ## Private configuration responses (`process.rs`) -/

/-- `serde_json`, with the first value of a stream. -/
structure ConfigJson extends SerdeJson where
  first : String → Option Value

variable (json : ConfigJson)

def isComplete (output : CommandOutput) : Bool :=
  !output.stdout.truncated && !output.stdout.invalidUtf8 && !output.stderr.truncated &&
    !output.stderr.invalidUtf8

/-- What follows each of the first braces. -/
def braceTails (text : String) : List String :=
  ((text.toList.tails.filter fun tail ↦ decide (tail.head? = some '\x7b')).take 32).map .ofList

/-- A browser launcher may surround the OAuth JSON with diagnostics. -/
def oauthJson (output : CommandOutput) : Except CommandError Value :=
  if !isComplete output then .error .invalidArgument
  else
    let values := ((braceTails output.stdout.text ++ braceTails output.stderr.text).filterMap json.first)
    match values.find? fun value ↦ ((value.get "State").bind Value.asStr).isSome with
    | some value => .ok value
    | none => .error .invalidArgument

def configJson (output : CommandOutput) : Except CommandError Value :=
  if !isComplete output then .error .invalidArgument
  else (json.fromStr output.stdout.text).mapError fun _ ↦ .invalidArgument

def Value.isObject : Value → Bool
  | .object _ => true
  | _ => false

/-- A dump maps each remote to its fields. -/
def isDump : Value → Bool
  | .object remotes => remotes.toList.all fun remote ↦ Value.isObject remote.2
  | _ => false

def dumpOf (output : CommandOutput) : Except OAuthError Value :=
  match configJson json output with
  | .error _ => .error .invalidResponse
  | .ok value => if isDump value then .ok value else .error .invalidResponse

def commandError (error : CommandError) : OAuthError := .command (CommandFailure.of error)

def dumpArgs : List String := ["config", "dump"]

def configDump (cancel : Token) : Call OAuthError Value := do
  let cancelled ← isCancelled cancel
  require (!cancelled) (.command .cancelled)
  let request ← orFail commandError (pure (rclone dumpArgs 10 (1024 * 1024)))
  let output ← orFail commandError (ask (.privateConfig request))
  Program.check (dumpOf json output)

def accessTokenFromRemote (remote : Value) : Except OAuthError String := do
  let some token := remote.get "token" | .error .notAuthenticated
  let token ← match token.asStr with
    | some text => (json.fromStr text).mapError fun _ ↦ OAuthError.invalidToken
    | none => .ok token
  match ((token.get "access_token").bind Value.asStr).filter (· ≠ "") with
  | some accessToken => .ok accessToken
  | none => .error .reauthorizationRequired

def oauthAccessToken (configJson name : String) : Except OAuthError String := do
  let dump ← (json.fromStr configJson).mapError fun _ ↦ OAuthError.invalidResponse
  let some remote := dump.get name | .error .remoteNotFound
  if (remote.get "type").bind Value.asStr ≠ some "onedrive" then .error .wrongBackend
  accessTokenFromRemote json remote

def validateRemoteName (name : String) : Except OAuthError Unit :=
  if name = "" ∨ name.utf8ByteSize > 96 ∨
      !name.toList.all fun c ↦ isAsciiAlphanumeric c || c ∈ ['_', '-', '.'] then
    .error .invalidRemoteName
  else .ok ()

end CosmicMounter.Microsoft

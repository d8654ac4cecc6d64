import CosmicMounter.Host.Request
import CosmicMounter.Interaction.Contract
import CosmicMounter.Process.Argument
import CosmicMounter.Process.Redaction

/-!
# Setting up a remote

The setups of Google Drive, Box and SMB remotes in `app.rs`: a look at the
configuration, the commands that change it, and a probe.  The stages named in
messages stand as their catalogue keys.
-/

namespace CosmicMounter.Remotes

open Rust Serde Interaction

structure SmbRemoteSetup where
  name : String
  host : Option String
  user : Option String
  domain : Option String
  password : Option String
  deriving DecidableEq, Repr

structure SmbRemoteApplyResult where
  remoteName : String
  passwordUpdated : Bool
  deriving DecidableEq, Repr

structure BoxRemoteSetup where
  name : String
  deriving DecidableEq, Repr

structure GoogleDriveRemoteSetup where
  name : String
  clientId : Option String
  clientSecret : Option String
  deriving DecidableEq, Repr

structure GoogleDriveRemoteApplyResult where
  remoteName : String
  updated : Bool
  deriving DecidableEq, Repr

inductive GoogleDriveRemoteAction
  | create
  | update
  deriving DecidableEq, Repr

inductive BrowserOAuthProvider
  | googleDrive
  | box
  deriving DecidableEq, Repr

/-! ## Requests -/

/-- Whether rclone can be found, and its commands. -/
inductive SetupRequest
  | resolve
  | run (request : CommandRequest)
  deriving DecidableEq, Repr

/-- What a command did: its report, and whether it took effect whatever it reports. -/
structure Outcome where
  report : Except CommandError CommandOutput
  effective : Bool

abbrev SetupRequest.Answer : SetupRequest → Type
  | resolve => Bool
  | run _ => Outcome

abbrev Ask (α : Type) := Program SetupRequest.Answer α
abbrev Call (α : Type) := ExceptT Message (Program SetupRequest.Answer) α

def ask (q : SetupRequest) : Ask q.Answer := Program.request (R := SetupRequest.Answer) q

def require (condition : Bool) (error : Message) : Call Unit := Program.ensure condition error

/-- A command line of rclone with its limits, refused for an unsafe argument. -/
def rclone (args : List String) (timeoutSeconds outputLimit : Nat) : Except Message CommandRequest :=
  if args.all isPlainArgument then .ok ⟨args, timeoutSeconds * 10 ^ 9, outputLimit⟩
  else .error ⟨"ui-process-command-argument-contains-unsafe-bytes", []⟩

def ordinaryLimit : Nat := 64 * 1024

/-- Only the report of a command is seen. -/
def run (request : CommandRequest) : Ask (Except CommandError CommandOutput) := do
  let outcome ← ask (.run request)
  return outcome.report

/-- A command that may be refused, and whose failure is reported in other words. -/
def execute (request : Except Message CommandRequest) (f : CommandError → Message) : Call CommandOutput := do
  let request ← Program.check request
  Program.reporting f (ExceptT.mk (run request))

/-! ## Errors -/

def rcloneSetupCommandError (stage : String) : CommandError → Message
  | .missingExecutable => ⟨"ui-app-value1-is-missing", [("value1", "rclone")]⟩
  | .invalidArgument => ⟨"ui-app-rclone-setup-command-argument-contains-unsupported-characters", []⟩
  | .timeout _ timeout =>
      ⟨"ui-app-rclone-stage-timed-out-after-value2-seconds",
        [("stage", stage), ("value2", toString (timeout / 10 ^ 9))]⟩
  | .cancelled _ => ⟨"ui-app-rclone-stage-was-cancelled", [("stage", stage)]⟩
  | .spawn _ message => ⟨"ui-app-could-not-start-rclone-message", [("message", message)]⟩
  | .nonZero _ _ stdout stderr =>
      let detail := if Str.trim stderr.text = "" then Str.trim stdout.text else Str.trim stderr.text
      if detail = "" then ⟨"ui-app-rclone-stage-failed-without-diagnostic-output", [("stage", stage)]⟩
      else ⟨"ui-app-rclone-stage-failed-detail", [("stage", stage), ("detail", detail)]⟩

namespace BrowserOAuthProvider

def setupStage : BrowserOAuthProvider → String
  | googleDrive => "ui-app-google-drive-oauth-setup"
  | box => "ui-app-box-oauth-setup"

def incomplete : BrowserOAuthProvider → Message
  | googleDrive => ⟨"google-drive-auth-incomplete", []⟩
  | box => ⟨"box-auth-incomplete", []⟩

def accessStage : BrowserOAuthProvider → String
  | googleDrive => "google-drive-access-stage"
  | box => "box-access-stage"

def commandFailed : BrowserOAuthProvider → String
  | googleDrive => "google-drive-command-failed"
  | box => "box-command-failed"

end BrowserOAuthProvider

def browserOauthSetupCommandError (provider : BrowserOAuthProvider) (stage : String) :
    CommandError → Message
  | .nonZero _ code _ _ =>
      ⟨provider.commandFailed,
        [("stage", stage), ("code", code.elim "browser-oauth-exit-unknown" toString)]⟩
  | other => rcloneSetupCommandError stage other

/-! ## The configuration -/

section Flows

variable (json : SerdeJson)

def dumpArgs : List String := ["config", "dump"]

/-- The text of a dump, when rclone is there. -/
def configDump : Call String := do
  let found ← ask .resolve
  require found ⟨"ui-app-rclone-is-missing-install-rclone-1-74-2", []⟩
  let dump ← execute (rclone dumpArgs 5 ordinaryLimit) (rcloneSetupCommandError "ui-app-config-dump")
  return dump.stdout.text

def configSections (output : String) : Except Message Fields :=
  match json.fromStr output with
  | .error error => .error ⟨"ui-app-invalid-json-error", [("error", error)]⟩
  | .ok (.object sections) => .ok sections
  | .ok _ => .error ⟨"ui-app-rclone-config-dump-did-not-return-an", []⟩

def rcloneConfigHasSection (output remoteName : String) : Except Message Bool := do
  let sections ← configSections json output
  return (sections.get remoteName).isSome

def rcloneConfigSectionBackend (output remoteName : String) : Except Message (Option String) := do
  let sections ← configSections json output
  return (sections.get remoteName).map fun config ↦
    ((config.get "type").bind Value.asStr).getD "<missing>"

def ensureRcloneRemoteNameAvailable (remoteName : String) : Call Unit := do
  let dump ← configDump
  let taken ← Program.check (rcloneConfigHasSection json dump remoteName)
  require (!taken) ⟨"ui-app-rclone-remote-remote-name-already-exists-choose", [("remote_name", remoteName)]⟩

def rcloneRemoteBackend (remoteName : String) : Call (Option String) := do
  let dump ← configDump
  Program.check (rcloneConfigSectionBackend json dump remoteName)

/-! ## Commands -/

def validateRcloneRemoteCreateName (value : String) : Except Message Unit :=
  if value ≠ "" ∧ value.toList.all fun c ↦ isAsciiAlphanumeric c || c ∈ ['_', '-', '.'] then .ok ()
  else .error ⟨"validation-rclone-name", []⟩

def deleteArgs (remoteName : String) : List String := ["config", "delete", remoteName]

/-- Whether the remote was reported as deleted. -/
def cleanupFailedRcloneRemoteCreate (remoteName : String) : Ask Bool :=
  match validateRcloneRemoteCreateName remoteName, rclone (deleteArgs remoteName) 10 ordinaryLimit with
  | .ok (), .ok request => do
      let report ← run request
      return report.toOption.isSome
  | _, _ => return false

/-- A value given on the command line where there is one. -/
def optionArgs (name : String) (value : Option String) : List String :=
  value.elim [] fun value ↦ [name, value]

def googleDriveCreateArgs (setup : GoogleDriveRemoteSetup) : List String :=
  ["config", "create", setup.name, "drive"] ++
    (match setup.clientId, setup.clientSecret with
      | some clientId, some clientSecret => ["client_id", clientId, "client_secret", clientSecret]
      | _, _ => []) ++
    ["scope", "drive", "config_is_local", "true", "--obscure"]

def googleDriveRcloneConfigCreateRequest (setup : GoogleDriveRemoteSetup) : Except Message CommandRequest :=
  rclone (googleDriveCreateArgs setup) (5 * 60) ordinaryLimit

def googleDriveRcloneConfigUpdateRequest (setup : GoogleDriveRemoteSetup) : Except Message CommandRequest := do
  let some clientId := setup.clientId
    | .error ⟨"ui-app-google-oauth-client-id-is-required-to", []⟩
  let some clientSecret := setup.clientSecret
    | .error ⟨"ui-app-google-oauth-client-secret-is-required-to", []⟩
  rclone ["config", "update", setup.name, "client_id", clientId, "client_secret", clientSecret,
    "config_is_local", "true", "--obscure"] (5 * 60) ordinaryLimit

def boxRcloneConfigCreateRequest (setup : BoxRemoteSetup) : Except Message CommandRequest :=
  rclone ["config", "create", setup.name, "box", "config_is_local", "true"] (5 * 60) ordinaryLimit

def smbRcloneConfigCreateRequest (setup : SmbRemoteSetup) : Except Message CommandRequest := do
  let some host := setup.host | .error ⟨"ui-app-smb-host-is-required-to-create-a", []⟩
  rclone (["config", "create", setup.name, "smb", "host", host] ++ optionArgs "user" setup.user ++
    optionArgs "domain" setup.domain ++ ["--non-interactive"]) 30 ordinaryLimit

def smbRcloneConfigUpdateRequest (setup : SmbRemoteSetup) : Except Message CommandRequest :=
  rclone (["config", "update", setup.name] ++ optionArgs "host" setup.host ++
    optionArgs "user" setup.user ++ optionArgs "domain" setup.domain ++ ["--non-interactive"]) 30 ordinaryLimit

def smbRcloneConfigPasswordRequest (setup : SmbRemoteSetup) : Except Message CommandRequest := do
  let some password := setup.password | .error ⟨"ui-app-smb-password-is-not-set", []⟩
  rclone ["config", "password", setup.name, "pass", password] 30 ordinaryLimit

def accessArgs (name : String) : List String := ["lsf", name ++ ":", "--max-depth", "1"]

/-! ## Browser authorization -/

def ensureRcloneConfigCompleted (stage : String) (output : CommandOutput) : Except Message Unit :=
  let stdout := Str.trim output.stdout.text
  if stdout = "" then .ok ()
  else match json.fromStr stdout with
    | .error _ => .ok ()
    | .ok response =>
        if ((response.get "State").bind Value.asStr).any (· ≠ "") ∨
            (response.get "Option").any (!·.isNull) then
          .error ⟨"ui-app-rclone-stage-requires-another-configuration-response-and", [("stage", stage)]⟩
        else .ok ()

def ensureBrowserOauthCompleted (provider : BrowserOAuthProvider) (output : CommandOutput) :
    Except Message Unit := do
  if output.stdout.truncated || output.stdout.invalidUtf8 || output.stderr.truncated ||
      output.stderr.invalidUtf8 then
    .error provider.incomplete
  ensureRcloneConfigCompleted json provider.setupStage output
  let error := (json.fromStr (Str.trim output.stdout.text)).toOption.bind fun value ↦
    (value.get "Error").bind Value.asStr
  if error.any (· ≠ "") then .error provider.incomplete

def verifyBrowserOauthSetupAccess (provider : BrowserOAuthProvider) (name : String) : Call Unit := do
  Program.check (validateRcloneRemoteCreateName name)
  let _ ← execute (rclone (accessArgs name) 20 (16 * 1024))
    (browserOauthSetupCommandError provider provider.accessStage)

/-- The commands that create a remote by authorization in a browser. -/
def createInBrowser (provider : BrowserOAuthProvider) (request : Except Message CommandRequest)
    (name : String) : Call Unit := do
  let output ← execute request (browserOauthSetupCommandError provider provider.setupStage)
  Program.check (ensureBrowserOauthCompleted json provider output)
  verifyBrowserOauthSetupAccess provider name

/-- A failure is rolled back; one that cannot be is reported in other words. -/
def orCleanUp (body : Call Unit) (name : String) (rollbackFailed : Message → Message) : Call Unit := do
  match ← Program.attempt body with
  | .ok () => return ()
  | .error error =>
      let cleaned ← cleanupFailedRcloneRemoteCreate name
      throw (if cleaned then error else rollbackFailed error)

/-! ## The setups -/

-- the texts of the catalogue, for errors that quote another one
variable (fl : Message → String)

def rollbackFailed (key name : String) (error : Message) : Message :=
  ⟨key, [("error", fl error), ("name", name)]⟩

def applyGoogleDriveRcloneRemoteWith (setup : GoogleDriveRemoteSetup) (action : GoogleDriveRemoteAction) :
    Call GoogleDriveRemoteApplyResult := do
  let backend ← rcloneRemoteBackend json setup.name
  match action, backend with
  | .create, none =>
      orCleanUp (createInBrowser json .googleDrive (googleDriveRcloneConfigCreateRequest setup) setup.name)
        setup.name (rollbackFailed fl "google-drive-rollback-failed" setup.name)
      return { remoteName := setup.name, updated := false }
  | .create, some backend =>
      throw ⟨"ui-app-rclone-remote-value1-already-exists-with-backend",
        [("value1", setup.name), ("backend", backend)]⟩
  | .update, some backend =>
      require (backend == "drive") ⟨"ui-app-rclone-remote-value1-uses-backend-backend-not",
        [("value1", setup.name), ("backend", backend)]⟩
      require setup.clientId.isSome ⟨"ui-app-enter-the-google-oauth-client-id-and", []⟩
      let output ← execute (googleDriveRcloneConfigUpdateRequest setup)
        (browserOauthSetupCommandError .googleDrive "ui-app-google-drive-oauth-update")
      Program.check (ensureBrowserOauthCompleted json .googleDrive output)
      verifyBrowserOauthSetupAccess .googleDrive setup.name
      return { remoteName := setup.name, updated := true }
  | .update, none =>
      throw ⟨"ui-app-google-drive-rclone-remote-value1-no-longer", [("value1", setup.name)]⟩

def createBoxRcloneRemoteWith (setup : BoxRemoteSetup) : Call String := do
  ensureRcloneRemoteNameAvailable json setup.name
  orCleanUp (createInBrowser json .box (boxRcloneConfigCreateRequest setup) setup.name)
    setup.name (rollbackFailed fl "box-rollback-failed" setup.name)
  return setup.name

def SmbRemoteSetup.hasMetadata (setup : SmbRemoteSetup) : Bool :=
  setup.host.isSome || setup.user.isSome || setup.domain.isSome

/-- The new remote; what its cleanup reports is not looked at. -/
def createSmbRemote (setup : SmbRemoteSetup) : Call Unit := do
  let request ← Program.check (smbRcloneConfigCreateRequest setup)
  match ← run request with
  | .ok _ => return ()
  | .error error =>
      let _ ← cleanupFailedRcloneRemoteCreate setup.name
      throw (rcloneSetupCommandError "ui-app-config-create" error)

def updateSmbRemote (setup : SmbRemoteSetup) : Call Unit := do
  require (setup.hasMetadata || setup.password.isSome) ⟨"ui-app-enter-smb-host-username-domain-or-password", []⟩
  if setup.hasMetadata then
    let _ ← execute (smbRcloneConfigUpdateRequest setup) (rcloneSetupCommandError "ui-app-config-update")

def setSmbPassword (setup : SmbRemoteSetup) : Call Unit := do
  if setup.password.isSome then
    let _ ← execute (smbRcloneConfigPasswordRequest setup) (rcloneSetupCommandError "ui-app-config-password")

def createSmbRcloneRemoteWith (setup : SmbRemoteSetup) : Call SmbRemoteApplyResult := do
  match ← rcloneRemoteBackend json setup.name with
  | none => createSmbRemote setup
  | some backend =>
      require (backend == "smb") ⟨"ui-app-rclone-remote-value1-already-exists-with-backend-2",
        [("value1", setup.name), ("backend", backend)]⟩
      updateSmbRemote setup
  setSmbPassword setup
  return { remoteName := setup.name, passwordUpdated := setup.password.isSome }

end Flows

end CosmicMounter.Remotes

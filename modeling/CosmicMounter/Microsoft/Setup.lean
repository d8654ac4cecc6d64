import CosmicMounter.Microsoft.OneDrive
import CosmicMounter.Microsoft.SharePoint

/-!
# Guided creation of a remote

`NewRemote` of `microsoft_oauth.rs`, and the two setups that answer rclone's
questions with it: `onedrive::authenticate` and `create_sharepoint_remote`.
-/

namespace CosmicMounter.Microsoft

open Rust Serde Interaction

/-! ## The new remote -/

inductive OAuthTarget
  | sharePoint (siteUrl : String)
  | personal
  | business
  deriving DecidableEq, Repr

def personalScopes : String :=
  "Files.Read Files.ReadWrite Files.Read.All Files.ReadWrite.All Sites.Read.All offline_access User.Read"

def OAuthTarget.maximum : OAuthTarget → Nat
  | .sharePoint _ => 8
  | _ => 12

def OAuthTarget.args : OAuthTarget → List String
  | .sharePoint siteUrl => ["url", "config_site_url", siteUrl]
  | _ => ["onedrive"]

/-- Rolling back needs a started creation. -/
structure NewRemote where
  name : String
  target : OAuthTarget
  started : Bool
  steps : Nat
  deriving DecidableEq, Repr

def commonArgs (target : OAuthTarget) : List String :=
  ["config_is_local", "true", "config_type"] ++ target.args

def scopeArgs (target : OAuthTarget) : List String :=
  if target = .personal then ["access_scopes", personalScopes] else []

namespace NewRemote

variable (json : ConfigJson)

def prepare (name : String) (target : OAuthTarget) (cancel : Token) : Call OAuthError NewRemote := do
  Program.check (validateRemoteName name)
  let dump ← configDump json cancel
  require (dump.get name).isNone .existingRemote
  return ⟨name, target, false, 0⟩

def createArgs (remote : NewRemote) : List String :=
  ["config", "create", remote.name, "onedrive"] ++ commonArgs remote.target ++ scopeArgs remote.target ++
    ["--non-interactive"]

def updateArgs (remote : NewRemote) (state answer : String) : List String :=
  ["config", "update", remote.name, "--continue"] ++ commonArgs remote.target ++ ["--non-interactive"] ++
    ["--state", state, "--result", answer]

def deleteArgs (remote : NewRemote) : List String := ["config", "delete", remote.name]

def hasError (response : Value) : Except OAuthError Bool :=
  match response.get "Error" with
  | none => .ok false
  | some (.string error) => .ok (error != "")
  | some _ => .error .invalidResponse

def readResponse (result : Except CommandError CommandOutput) : Except OAuthError Value := do
  let output ← result.mapError commandError
  if !isComplete output then .error .invalidResponse
  let response ← (oauthJson json output).mapError fun _ ↦ OAuthError.unstructuredResponse
  if ← hasError response then .error .rejected
  return response

/-- Once the command is asked for, the remote counts as started, whatever comes of it. -/
def execute (remote : NewRemote) (request : CommandRequest) (cancel : Token) :
    Ask (Except OAuthError Value × NewRemote) := do
  let cancelled ← isCancelled cancel
  if cancelled then return (.error (.command .cancelled), remote)
  if remote.target.maximum ≤ remote.steps then return (.error .tooManySteps, remote)
  let result ← ask (.privateConfig request)
  return (readResponse json result, { remote with started := true, steps := remote.steps + 1 })

def executeArgs (remote : NewRemote) (args : List String) (cancel : Token) :
    Ask (Except OAuthError Value × NewRemote) :=
  match rclone args 300 (256 * 1024) with
  | .ok request => remote.execute json request cancel
  | .error error => pure (.error (commandError error), remote)

def create (remote : NewRemote) (cancel : Token) : Ask (Except OAuthError Value × NewRemote) :=
  if remote.started then pure (.error .invalidResponse, remote)
  else remote.executeArgs json remote.createArgs cancel

def continueWith (remote : NewRemote) (state answer : String) (cancel : Token) :
    Ask (Except OAuthError Value × NewRemote) :=
  if !remote.started ∨ state = "" ∨ state.utf8ByteSize > 16 * 1024 ∨ answer.utf8ByteSize > 16 * 1024 then
    pure (.error .invalidResponse, remote)
  else remote.executeArgs json (remote.updateArgs state answer) cancel

def delete (remote : NewRemote) : Call OAuthError Unit := do
  let request ← orFail commandError (pure (rclone remote.deleteArgs 10 (16 * 1024)))
  let _ ← orFail (fun _ ↦ .cleanupRequired) (ask (.run request))

def rollback (remote : NewRemote) : Call OAuthError Unit :=
  if !remote.started then pure ()
  else do
    let dump ← Program.reporting (fun _ ↦ .cleanupRequired) (configDump json .fresh)
    if (dump.get remote.name).isSome then remote.delete

end NewRemote

/-- A setup has verified its remote, or it answers a question. -/
inductive SetupStep (α : Type)
  | finished (verified : α)
  | answer (state answer : String) (selected : Bool)

def asArray : Value → Option (List Value)
  | .array items => some items.toList
  | _ => none

def field (value : Value) (outer inner : String) : Option Value := (value.get outer).bind (Value.get inner)

/-! ## OneDrive -/

structure RemoteSetup where
  remoteName : String
  driveType : OneDriveDriveType
  expectedAccount : String
  remoteSubpath : Option String
  previousIdentity : Option OneDriveIdentity
  deriving DecidableEq, Repr

namespace RemoteSetup

def identityMatches (setup : RemoteSetup) (identity : OneDriveIdentity) : Bool :=
  identity.isValid && identity.driveType == setup.driveType

def validate (setup : RemoteSetup) : Except OneDriveError Unit := do
  validateRemote setup.remoteName
  let _ ← businessUpn setup.expectedAccount
  (OneDrive.validateFolder setup.remoteSubpath).mapError bindingError
  if !setup.previousIdentity.all setup.identityMatches then .error .wrongDrive

def accept (setup : RemoteSetup) (verified : VerifiedRemote) : Except OneDriveError Unit :=
  if setup.previousIdentity.all (· == verified.identity) then .ok () else .error .wrongDrive

def target (setup : RemoteSetup) : OAuthTarget :=
  match setup.driveType with
  | .personal => .personal
  | .business => .business

end RemoteSetup

section Authenticate

variable (json : ConfigJson) (sha256Hex : String → String) (setup : RemoteSetup) (cancel : Token)

def setupToken (dump : Value) : Except OneDriveError String :=
  (oauthAccessToken json (json.toString dump) setup.remoteName).mapError microsoftOAuthError

def verifySetupSubtree (identity : OneDriveIdentity) : Call OneDriveError Unit :=
  match setup.remoteSubpath with
  | none => pure ()
  | some path => do
      let dump ← dump json cancel
      let token ← Program.check (setupToken json setup dump)
      verifySubtree json setup.remoteName path identity token cancel

def verifySetup : Call OneDriveError VerifiedRemote :=
  verify sha256Hex json setup.remoteName setup.driveType setup.expectedAccount cancel

def finishSetup : Call OneDriveError VerifiedRemote := do
  let verified ← verifySetup json sha256Hex setup cancel
  Program.check (setup.accept verified)
  verifySetupSubtree json setup cancel verified.identity
  return verified

def offersDrive (response : Value) (id : String) : Except OneDriveError Unit :=
  match (field response "Option" "Examples").bind asArray with
  | none => .error .invalidMetadata
  | some examples =>
      if examples.length ≤ 40 ∧ examples.any (fun value ↦ text value "Value" == some id) then .ok ()
      else .error .wrongDrive

def selectDrive (response : Value) : Call OneDriveError String := do
  let dump ← dump json cancel
  let token ← Program.check ((oauthAccessToken json (json.toString dump) setup.remoteName).mapError
    fun _ ↦ OneDriveError.invalidMetadata)
  let (id, _) ← primary sha256Hex token setup.driveType setup.expectedAccount
  Program.check (offersDrive response id)
  return id

def questionName (response : Value) : Option String := (field response "Option" "Name").bind Value.asStr

def answerSetup (response : Value) (selected : Bool) : Call OneDriveError (String × Bool) :=
  if questionName response = some "config_is_local" then pure ("true", selected)
  else if questionName response = some "config_type" then pure ("onedrive", selected)
  else if questionName response = some "config_driveid" then do
    let id ← selectDrive json sha256Hex setup cancel response
    return (id, true)
  else if questionName response = some "config_drive_ok" ∧ selected then pure ("true", selected)
  else throw .unsupportedQuestion

@[irreducible] def examineSetup (response : Value) (selected : Bool) :
    Call OneDriveError (SetupStep VerifiedRemote) := do
  require ((text response "Error").all (· == "")) .commandFailed
  let state ← orElse (text response "State") .invalidMetadata
  if state = "" then do
    let verified ← finishSetup json sha256Hex setup cancel
    return .finished verified
  else do
    let (answer, selected) ← answerSetup json sha256Hex setup cancel response selected
    return .answer state answer selected

def configure : Nat → Value → Bool → NewRemote → Ask (Except OneDriveError VerifiedRemote × NewRemote)
  | 0, _, _, remote => pure (.error .unsupportedQuestion, remote)
  | n + 1, response, selected, remote => do
      let step ← (examineSetup json sha256Hex setup cancel response selected).run
      match step with
      | .error error => return (.error error, remote)
      | .ok (.finished verified) => return (.ok verified, remote)
      | .ok (.answer state answer selected) =>
          let (next, remote) ← remote.continueWith json state answer cancel
          match next with
          | .error error => return (.error (microsoftOAuthError error), remote)
          | .ok response => configure n response selected remote

def createRemote (remote : NewRemote) : Ask (Except OneDriveError VerifiedRemote × NewRemote) := do
  let (response, remote) ← remote.create json cancel
  match response with
  | .error error => return (.error (microsoftOAuthError error), remote)
  | .ok response => configure json sha256Hex setup cancel 12 response false remote

def settle (remote : NewRemote) : Except OneDriveError VerifiedRemote → Call OneDriveError VerifiedRemote
  | .ok verified => pure verified
  | .error error => do
      Program.reporting microsoftOAuthError (remote.rollback json)
      throw error

/-- `validate` has checked the account of either drive. -/
def authenticate : Call OneDriveError VerifiedRemote := do
  Program.check setup.validate
  let remote ← Program.reporting microsoftOAuthError
    (NewRemote.prepare json setup.remoteName setup.target cancel)
  let created ← (createRemote json sha256Hex setup cancel remote : Ask _)
  settle json created.2 created.1

end Authenticate

/-! ## SharePoint -/

structure SharePointSetup where
  remoteName : String
  library : SharePointLibraryIdentity
  deriving DecidableEq, Repr

structure SharePointSetupOutcome where
  remoteName : String
  libraryUrl : String
  verified : VerifiedSharePointLibrary
  deriving DecidableEq, Repr

section CreateSharePointRemote

variable (json : ConfigJson) (ext : Externals) (setup : SharePointSetup)

/-- What one candidate's response means: a failure, or whether it is the library. -/
def candidateMatches (driveId : String) : Option DriveResponse → Except Message Bool
  | none => .error ⟨"teams-oauth-discovery-contact", []⟩
  | some response =>
      if response.status = 401 ∨ response.status = 403 then .error ⟨"teams-oauth-discovery-denied", []⟩
      else if response.status / 100 ≠ 2 then .ok false
      else .ok (response.body.any fun metadata ↦
        (verifyGraphDrive ext metadata setup.library driveId).toOption.isSome)

def matchingDrives (token : String) : List Value → Call Message (List String)
  | [] => pure []
  | candidate :: rest =>
      match text candidate "Value" with
      | none => matchingDrives token rest
      | some driveId => do
          let response ← ask (.candidateDrive driveId token)
          let found ← Program.check (candidateMatches ext setup driveId response)
          let others ← matchingDrives token rest
          return if found then driveId :: others else others

def onlyDrive : List String → Except Message String
  | [driveId] => .ok driveId
  | [] => .error ⟨"teams-oauth-no-matching-library", []⟩
  | _ => .error ⟨"teams-oauth-multiple-libraries", []⟩

def driveChoices (option : Value) : Except Message (List Value) :=
  match (option.get "Examples").bind asArray with
  | none => .error ⟨"teams-oauth-no-library-list", []⟩
  | some examples =>
      if examples = [] ∨ examples.length > 40 then .error ⟨"teams-oauth-library-count", []⟩
      else .ok examples

def selectLibraryDrive (option : Value) : Call Message String := do
  let examples ← Program.check (driveChoices option)
  let dump ← Program.reporting OAuthError.message (configDump json .fresh)
  let token ← Program.check ((oauthAccessToken json (json.toString dump) setup.remoteName).mapError
    OAuthError.message)
  let client ← ask .discoveryClient
  require client ⟨"teams-oauth-discovery-prepare", []⟩
  let drives ← matchingDrives ext setup token examples
  Program.check (onlyDrive drives)

def answerLibrary (option : Value) (name : String) (selected : Bool) : Call Message (String × Bool) :=
  if name = "config_is_local" then pure ("true", selected)
  else if name = "config_type" then pure ("url", selected)
  else if name = "config_site_url" then pure (setup.library.siteUrl, selected)
  else if name = "config_driveid" then do
    let drive ← selectLibraryDrive json ext setup option
    return (drive, true)
  else if name = "config_drive_ok" ∧ selected then pure ("true", selected)
  else throw ⟨"teams-oauth-unsupported-choice", []⟩

/-- `verify_remote` of the new library. -/
def verifyLibrary : Call Message VerifiedSharePointLibrary :=
  verifyRemote json ext setup.remoteName setup.library .optional

def SharePointSetup.outcome (verified : VerifiedSharePointLibrary) : SharePointSetupOutcome :=
  ⟨setup.remoteName, setup.library.libraryUrl, verified⟩

def unverified (error : Message) : Message := ⟨"microsoft-oauth-unverified", [("error", ext.fl error)]⟩

def examineLibrary (response : Value) (selected : Bool) :
    Call Message (SetupStep SharePointSetupOutcome) := do
  let state ← orElse (text response "State") ⟨"teams-oauth-missing-state", []⟩
  if state = "" then do
    let verified ← verifyLibrary json ext setup
    return .finished (setup.outcome verified)
  else do
    let option ← orElse (response.get "Option") ⟨"teams-oauth-missing-question", []⟩
    let name ← orElse (text option "Name") ⟨"teams-oauth-unnamed-question", []⟩
    let (answer, selected) ← answerLibrary json ext setup option name selected
    return .answer state answer selected

/-- A plain-text completion is accepted only after full verification. -/
@[irreducible] def examineNext (next : Except OAuthError Value) (selected : Bool) :
    Call Message (SetupStep SharePointSetupOutcome) :=
  match next with
  | .ok response => examineLibrary json ext setup response selected
  | .error .unstructuredResponse => do
      let verified ← Program.reporting (unverified ext) (verifyLibrary json ext setup)
      return .finished (setup.outcome verified)
  | .error error => throw error.message

def configureLibrary : Nat → Except OAuthError Value → Bool → NewRemote →
    Ask (Except Message SharePointSetupOutcome × NewRemote)
  | 0, _, _, remote => pure (.error ⟨"teams-oauth-too-many-steps", []⟩, remote)
  | n + 1, next, selected, remote => do
      let step ← (examineNext json ext setup next selected).run
      match step with
      | .error error => return (.error error, remote)
      | .ok (.finished outcome) => return (.ok outcome, remote)
      | .ok (.answer state answer selected) =>
          let (next, remote) ← remote.continueWith json state answer .fresh
          configureLibrary n next selected remote

def createNewRemote (remote : NewRemote) :
    Ask (Except Message SharePointSetupOutcome × NewRemote) := do
  let (next, remote) ← remote.create json .fresh
  configureLibrary json ext setup 8 next false remote

def removePartial (error : Message) : Message :=
  ⟨"teams-oauth-remove-partial", [("error", ext.fl error), ("name", setup.remoteName)]⟩

def settleLibrary (remote : NewRemote) :
    Except Message SharePointSetupOutcome → Call Message SharePointSetupOutcome
  | .ok outcome => pure outcome
  | .error error => do
      Program.reporting (fun _ ↦ removePartial ext setup error) (remote.rollback json)
      throw error

def createSharePointRemote : Call Message SharePointSetupOutcome := do
  let remote ← Program.reporting OAuthError.message
    (NewRemote.prepare json setup.remoteName (.sharePoint setup.library.siteUrl) .fresh)
  let created ← (createNewRemote json ext setup remote : Ask _)
  settleLibrary json ext setup created.2 created.1

end CreateSharePointRemote

end CosmicMounter.Microsoft

import CosmicMounter.App.Sftp
import CosmicMounter.Config.Validation

/-!
# The draft of the connection editor

The editor holds a connection as text.  `draft_from_connection` fills it in,
`connection_from_draft` reads it back (`app.rs`), and the editor compares what
it reads with what is saved (`editor_actions.rs`).
-/

namespace CosmicMounter.Editor

open Rust Sftp

inductive AccessMode
  | onlineMount
  | offlineMirror
  deriving DecidableEq, Repr

structure ConnectionDraft where
  id : Option ConnectionId
  name : String
  provider : Provider
  accessMode : AccessMode
  offlineEngine : Option OfflineEngine
  legacyOnedrive : Bool
  onedriveIdentity : Option OneDriveIdentity
  onedriveDriveType : OneDriveDriveType
  onedriveExpectedAccount : String
  remoteReference : String
  remoteSubpath : String
  sharepointLibraryUrl : String
  teamsDriveId : String
  googleClientId : String
  googleClientSecret : String
  smbHost : String
  smbUser : String
  smbDomain : String
  smbPassword : String
  sftp : SftpDraft
  localPath : String
  enabled : Bool
  startAtLogin : Bool
  cacheLimitGib : String
  syncIntervalMinutes : String
  syncOnMetered : Bool
  recoveryDirectory : String
  vpnProfileId : Option VpnProfileId
  disconnectVpnWhenUnused : Bool
  connectionPreloadUseGlobal : Bool
  connectionPreloadEnabled : Bool
  connectionPreloadSeconds : String
  connectionPreloadDepth : String
  deriving DecidableEq, Repr

/-- The texts of the fields that belong to one of the two modes. -/
structure ModeDraft where
  accessMode : AccessMode
  startAtLogin : Bool
  cacheLimitGib : String
  syncIntervalMinutes : String
  syncOnMetered : Bool
  recoveryDirectory : String

def gib : Nat := 1024 * 1024 * 1024

def modeDraft : ConnectionMode → ModeDraft
  | .onlineMount options =>
      { accessMode := .onlineMount
        startAtLogin := options.startAtLogin
        cacheLimitGib := toString (options.cacheLimitBytes / gib)
        syncIntervalMinutes := "15"
        syncOnMetered := false
        recoveryDirectory := "" }
  | .offlineMirror options =>
      { accessMode := .offlineMirror
        startAtLogin := false
        cacheLimitGib := "20"
        syncIntervalMinutes := toString options.syncIntervalMinutes
        syncOnMetered := options.syncOnMetered
        recoveryDirectory := options.recoveryDirectory }

def storedPreloadOverride (connection : Connection) : Option ConnectionPreloadOverride :=
  if connection.provider = .sftp then connection.sftpPreloadOverride else connection.smbPreloadOverride

def preloadDefault (provider : Provider) : PreloadPolicy :=
  if provider = .sftp then .sftpDefault else ({} : PreloadSettings).smb

variable (env : Environment)

def draftFromConnection (connection : Connection) : ConnectionDraft :=
  let mode := modeDraft connection.mode
  let override := storedPreloadOverride connection
  let default := preloadDefault connection.provider
  { id := some connection.id
    name := connection.name
    provider := connection.provider
    accessMode := mode.accessMode
    offlineEngine :=
      match connection.mode with
      | .offlineMirror options => options.engine
      | .onlineMount _ => none
    legacyOnedrive :=
      connection.provider == .onedrive && connection.offlineEngine == some .legacyOnedrive
    onedriveIdentity := connection.onedriveIdentity
    onedriveDriveType := (connection.onedriveIdentity.map (·.driveType)).getD .personal
    onedriveExpectedAccount := ""
    remoteReference := connection.remoteReference
    remoteSubpath := connection.remoteSubpath.getD ""
    sharepointLibraryUrl := (connection.teamsIdentity.map (·.libraryUrl)).getD ""
    teamsDriveId := (connection.teamsIdentity.map (·.driveId)).getD ""
    googleClientId := ""
    googleClientSecret := ""
    smbHost := ""
    smbUser := if connection.provider = .smb then "" else env.user.getD ""
    smbDomain := if connection.provider = .smb then "" else "WORKGROUP"
    smbPassword := ""
    sftp := .default env
    localPath := connection.localPath
    enabled := connection.enabled
    startAtLogin := mode.startAtLogin
    cacheLimitGib := mode.cacheLimitGib
    syncIntervalMinutes := mode.syncIntervalMinutes
    syncOnMetered := mode.syncOnMetered
    recoveryDirectory := mode.recoveryDirectory
    vpnProfileId := connection.vpnProfileId
    disconnectVpnWhenUnused := connection.disconnectVpnWhenUnused
    connectionPreloadUseGlobal := override.isNone
    connectionPreloadEnabled := (override.map (·.enabled)).getD default.enabled
    connectionPreloadSeconds := toString ((override.map (·.maximumSeconds)).getD default.maximumSeconds)
    connectionPreloadDepth :=
      toString ((override.map (·.maximumDepth)).getD (default.maximumDepth.getD 2)) }

/-! ## Reading a draft -/

/-- `str::parse` for an unsigned integer of this many bits. -/
def parseUnsigned (bits : Nat) (text : String) : Option Nat :=
  (Str.parseU64 text).filter fun n ↦ decide (n < 2 ^ bits)

def safePathComponent (value : String) : String :=
  .ofList (value.toList.map fun c ↦ if c.isAlphanum || decide (c ∈ ['.', '-', '_']) then c else '_')

def defaultRecoveryDirectoryFor (localPath : String) (id : ConnectionId) : String :=
  let parent := (Path.parent localPath).getD "."
  let leaf := (((Path.fileName localPath).map safePathComponent).filter (· ≠ "")).getD "mirror"
  Path.join (Path.join parent ".cosmic-mounter-recovery") (leaf ++ "-" ++ id.text)

def preloadTime : Message :=
  ⟨"validation-connection-preload-time",
    [("min", toString minPreloadSeconds), ("max", toString maxPreloadSeconds)]⟩

def preloadDepth : Message :=
  ⟨"validation-connection-preload-depth",
    [("min", toString minPreloadDepth), ("max", toString maxPreloadDepth)]⟩

/-- A text that must not be blank, trimmed. -/
def requiredText (key text : String) : Except Message String :=
  if Str.trim text = "" then .error ⟨key, []⟩ else .ok (Str.trim text)

def draftTeamsIdentity (ext : Externals) (draft : ConnectionDraft) :
    Except Message (Option SharePointLibraryIdentity) :=
  if draft.provider = .teams then
    (ext.parseLibraryUrl draft.sharepointLibraryUrl).map fun identity ↦
      some { identity with driveId := draft.teamsDriveId }
  else .ok none

def draftEngine (draft : ConnectionDraft) : Option OfflineEngine :=
  if draft.provider = .onedrive ∧ !draft.legacyOnedrive then some .rclone else draft.offlineEngine

def draftRecoveryDirectory (draft : ConnectionDraft) (localPath : String) (id : ConnectionId) : String :=
  if Str.trim draft.recoveryDirectory = "" then defaultRecoveryDirectoryFor localPath id
  else expandUserPath env (Str.trim draft.recoveryDirectory)

def draftMode (draft : ConnectionDraft) (localPath : String) (id : ConnectionId) :
    Except Message ConnectionMode :=
  match draft.accessMode with
  | .onlineMount =>
      match parseUnsigned 64 (Str.trim draft.cacheLimitGib) with
      | none => .error ⟨"validation-cache-limit", []⟩
      | some limit => .ok (.onlineMount {
          cacheDirectory := none
          cacheLimitBytes := min (limit * gib) (2 ^ 64 - 1)
          startAtLogin := draft.startAtLogin })
  | .offlineMirror =>
      match parseUnsigned 32 (Str.trim draft.syncIntervalMinutes) with
      | none => .error ⟨"validation-sync-interval", []⟩
      | some minutes => .ok (.offlineMirror {
          engine := draftEngine draft
          recoveryDirectory := draftRecoveryDirectory env draft localPath id
          syncIntervalMinutes := minutes
          syncOnMetered := draft.syncOnMetered })

def isWithin (least value most : Nat) : Bool := least ≤ value && value ≤ most

/-- Both numbers are read before either range is checked. -/
def draftPreloadOverride (draft : ConnectionDraft) : Except Message (Option ConnectionPreloadOverride) :=
  if (draft.provider = .smb ∨ draft.provider = .sftp) ∧ draft.accessMode = .onlineMount ∧
      !draft.connectionPreloadUseGlobal then
    match parseUnsigned 64 (Str.trim draft.connectionPreloadSeconds) with
    | none => .error preloadTime
    | some seconds =>
        match parseUnsigned 8 (Str.trim draft.connectionPreloadDepth) with
        | none => .error preloadDepth
        | some depth =>
            if !isWithin minPreloadSeconds seconds maxPreloadSeconds then .error preloadTime
            else if !isWithin minPreloadDepth depth maxPreloadDepth then .error preloadDepth
            else .ok (some ⟨draft.connectionPreloadEnabled, seconds, depth⟩)
  else .ok none

def draftSubpath (draft : ConnectionDraft) : Option String :=
  if Str.trim draft.remoteSubpath = "" then none else some (Str.trim draft.remoteSubpath)

/-- A draft without an identifier gets the one given. -/
def connectionFromDraft (ext : Externals) (newId : ConnectionId) (draft : ConnectionDraft) :
    Except Message Connection := do
  let id := draft.id.getD newId
  let name ← requiredText "validation-name-required" draft.name
  let remoteReference ← requiredText "validation-remote-required" draft.remoteReference
  let localText ← requiredText "validation-local-required" draft.localPath
  let localPath := expandUserPath env localText
  let teamsIdentity ← draftTeamsIdentity ext draft
  let mode ← draftMode env draft localPath id
  let preloadOverride ← draftPreloadOverride draft
  return {
    id, name, mode, remoteReference, localPath, teamsIdentity
    provider := draft.provider
    remoteSubpath := draftSubpath draft
    enabled := draft.enabled
    vpnProfileId := draft.vpnProfileId
    disconnectVpnWhenUnused := draft.disconnectVpnWhenUnused
    tuningProfile := .balanced
    smbPreloadOverride := if draft.provider = .smb then preloadOverride else none
    sftpPreloadOverride := if draft.provider = .sftp then preloadOverride else none
    onedriveIdentity := draft.onedriveIdentity }

/-! ## What has changed -/

/-- Equality of modes: their directories are compared as paths. -/
def SameMode : ConnectionMode → ConnectionMode → Prop
  | .onlineMount first, .onlineMount second =>
      { first with cacheDirectory := second.cacheDirectory } = second ∧
        first.cacheDirectory.map Path.components = second.cacheDirectory.map Path.components
  | .offlineMirror first, .offlineMirror second =>
      { first with recoveryDirectory := second.recoveryDirectory } = second ∧
        Path.Same first.recoveryDirectory second.recoveryDirectory
  | _, _ => False

instance : (first second : ConnectionMode) → Decidable (SameMode first second)
  | .onlineMount _, .onlineMount _ => inferInstanceAs (Decidable (_ ∧ _))
  | .offlineMirror _, .offlineMirror _ => inferInstanceAs (Decidable (_ ∧ _))
  | .onlineMount _, .offlineMirror _ | .offlineMirror _, .onlineMount _ => inferInstanceAs (Decidable False)

/-- Equality of connections. -/
def SameConnection (first second : Connection) : Prop :=
  { first with localPath := second.localPath, mode := second.mode } = second ∧
    Path.Same first.localPath second.localPath ∧ SameMode first.mode second.mode

instance (first second : Connection) : Decidable (SameConnection first second) :=
  inferInstanceAs (Decidable (_ ∧ _))

structure EditorModel where
  connections : List Connection
  draft : ConnectionDraft
  validatedId : Option ConnectionId

def editorSaved (editor : EditorModel) : Option Connection :=
  editor.draft.id.bind fun id ↦ editor.connections.find? fun connection ↦ decide (connection.id = id)

def editorConnection (ext : Externals) (newId : ConnectionId) (editor : EditorModel) : Except Message Connection :=
  connectionFromDraft env ext newId { editor.draft with id := editor.draft.id.or editor.validatedId }

def editorChanged (ext : Externals) (newId : ConnectionId) (editor : EditorModel) : Bool :=
  match editorSaved editor, editorConnection env ext newId editor with
  | some saved, .ok current => !decide (SameConnection saved current)
  | _, _ => true

end CosmicMounter.Editor

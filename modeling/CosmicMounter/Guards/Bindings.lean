import CosmicMounter.Data.Decode
import CosmicMounter.Process.Redaction
import CosmicMounter.Sync.Target

/-!
# Guard arguments

The three bindings of a service guard (`sharepoint.rs`, `onedrive.rs`): the
arguments in which a unit carries a binding, what the guard reads from them,
and the check against the saved connection.
-/

namespace CosmicMounter

open Rust Serde

/-! ## Identifiers -/

/-- The hyphenated form of an identifier that stands in braces, as a URN or without hyphens. -/
def hyphenated (cs : List Char) : List Char :=
  if cs.length = 32 then
    cs.take 8 ++ '-' :: (cs.drop 8).take 4 ++ '-' :: (cs.drop 12).take 4 ++
      '-' :: (cs.drop 16).take 4 ++ '-' :: cs.drop 20
  else if cs.length = 38 ∧ cs.head? = some '\x7b' ∧ cs.getLast? = some '\x7d' then cs.tail.dropLast
  else if cs.length = 45 ∧ cs.take 9 = "urn:uuid:".toList then cs.drop 9
  else cs

@[irreducible] def Uuid.parseStr (s : String) : Option Uuid :=
  if h : isCanonicalUuid (Str.toAsciiLowercase (.ofList (hyphenated s.toList))) = true then
    some ⟨Str.toAsciiLowercase (.ofList (hyphenated s.toList)), h⟩
  else none

theorem toLower_of_isLowerHex {c : Char} (h : c = '-' ∨ isLowerHex c = true) : c.toLower = c := by
  rcases h with rfl | hhex
  · rfl
  · rw [isLowerHex, Bool.or_eq_true] at hhex
    unfold Char.toLower
    split_ifs with hupper
    · exfalso
      rcases hhex with hdigit | hletter
      · rw [Char.isDigit, Bool.and_eq_true, decide_eq_true_eq, decide_eq_true_eq] at hdigit
        have hup := hupper.1
        simp only [UInt32.le_iff_toNat_le] at hdigit hup
        simp at hdigit hup
        omega
      · rw [Bool.and_eq_true, decide_eq_true_eq, decide_eq_true_eq] at hletter
        have hup := hupper.2
        have hlow := hletter.1
        simp only [Char.le_def, UInt32.le_iff_toNat_le] at hlow hup
        simp at hlow hup
        omega
    · rfl

theorem Uuid.parseStr_text (id : Uuid) : Uuid.parseStr id.text = some id := by
  have hlower : Str.toAsciiLowercase id.text = id.text := by
    have hmap : id.text.toList.map Char.toLower = id.text.toList := by
      conv_rhs => rw [← List.map_id id.text.toList]
      exact List.map_congr_left fun c hc ↦ toLower_of_isLowerHex (mem_text hc)
    rw [Str.toAsciiLowercase, hmap, String.ofList_toList]
  have hsame : hyphenated id.text.toList = id.text.toList := by
    simp [hyphenated, id.length_text]
  have htext : Str.toAsciiLowercase (.ofList (hyphenated id.text.toList)) = id.text := by
    rw [hsame, String.ofList_toList, hlower]
  unfold Uuid.parseStr
  rw [dif_pos (by rw [htext]; exact id.isCanonical)]
  exact congrArg some (Uuid.ext htext)

def Uuid.ofValue (value : Value) : Option Uuid := value.asStr.bind Uuid.parseStr

/-! ## The check against the saved connection -/

/-- The saved connection is enabled and still has this binding. -/
def matchesSaved {ε β : Type} [DecidableEq β] (changed : ε) (enabled : Bool) (saved : Except ε β)
    (binding : β) : Except ε Unit := do
  if !enabled then .error changed
  if (← saved) ≠ binding then .error changed

theorem matchesSaved_iff {ε β : Type} [DecidableEq β] {changed : ε} {enabled : Bool}
    {saved : Except ε β} {binding : β} :
    matchesSaved changed enabled saved binding = .ok () ↔ enabled = true ∧ saved = .ok binding := by
  unfold matchesSaved
  cases enabled with
  | false => exact iff_of_false nofun nofun
  | true =>
      cases saved with
      | error e => exact iff_of_false nofun nofun
      | ok b =>
          by_cases heq : b = binding
          · exact iff_of_true (if_neg (not_not.mpr heq)) ⟨rfl, congrArg _ heq⟩
          · refine iff_of_false ?_ fun h ↦ heq (Except.ok.inj h.2)
            rw [if_neg (by decide), Rust.Result.ok_bind, if_pos heq]
            exact nofun

/-! ## Mounts of a SharePoint library -/

inductive GuardError
  | message (message : Message)
  | text (text : String)
  deriving DecidableEq, Repr

namespace SharePoint

structure ServiceGuardBinding where
  connectionId : ConnectionId
  remoteName : String
  remoteSubpath : Option String
  mountpoint : String
  driveId : String
  libraryUrl : String
  deriving DecidableEq, Repr

def serviceGuardFlag : String := "--verify-teams-mount"

def siteIsVerified (ext : Externals) (identity : SharePointLibraryIdentity) : Bool :=
  Str.trim identity.driveId != "" &&
    match ext.parseLibraryUrl identity.libraryUrl with
    | .ok parsed => parsed.siteUrl == identity.siteUrl
    | .error _ => false

namespace ServiceGuardBinding

def fromConnection (ext : Externals) (connection : Connection) : Except Message ServiceGuardBinding := do
  let notOnline : Message := ⟨"ui-teams-the-service-guard-requires-a-sharepoint-online", []⟩
  if connection.provider ≠ .teams then .error notOnline
  let .onlineMount _ := connection.mode | .error notOnline
  let some identity := connection.teamsIdentity
    | .error ⟨"ui-teams-the-sharepoint-connection-has-no-verified-library", []⟩
  if !siteIsVerified ext identity then
    .error ⟨"ui-teams-the-sharepoint-connection-has-an-invalid-verified", []⟩
  return { connectionId := connection.id
           remoteName := connection.remoteReference
           remoteSubpath := connection.remoteSubpath
           mountpoint := connection.localPath
           driveId := identity.driveId
           libraryUrl := identity.libraryUrl }

def arguments (binding : ServiceGuardBinding) : List String :=
  [serviceGuardFlag, binding.connectionId.text, binding.remoteName,
    (Json.optional binding.remoteSubpath).text, binding.mountpoint, binding.driveId, binding.libraryUrl]

variable (fromStr : String → Except String Value)

def parseSubpath (encoded : String) : Option (Option String) :=
  (fromStr encoded).toOption.bind (Value.orNull Value.asStr)

def parseArguments : List String → Except GuardError ServiceGuardBinding
  | [id, remoteName, encodedSubpath, mountpoint, driveId, libraryUrl] =>
      match Uuid.parseStr id with
      | none => .error (.text "The SharePoint service guard received an invalid connection ID.")
      | some connectionId =>
          if remoteName = "" ∨ mountpoint = "" ∨ driveId = "" then
            .error (.message ⟨"ui-teams-the-sharepoint-service-guard-received-incomplete-identity", []⟩)
          else match parseSubpath fromStr encodedSubpath with
            | none => .error (.text "The SharePoint service guard received an invalid remote folder.")
            | some remoteSubpath =>
                .ok { connectionId, remoteName, remoteSubpath, mountpoint, driveId, libraryUrl }
  | _ => .error (.message ⟨"ui-teams-the-sharepoint-service-guard-received-invalid-arguments", []⟩)

def matchesSavedConnection (ext : Externals) (binding : ServiceGuardBinding) (connection : Connection) :
    Except Message Unit :=
  matchesSaved ⟨"ui-teams-the-sharepoint-connection-changed-or-was-disabled", []⟩ connection.enabled
    (fromConnection ext connection) binding

end ServiceGuardBinding

/-! ## Mirrors of a SharePoint library -/

namespace MirrorGuardBinding

def fieldNames : List String :=
  ["connection_id", "remote_name", "remote_subpath", "local_path", "recovery_directory", "drive_id",
    "site_url", "library_url"]

def ofValue (value : Value) : Option MirrorGuardBinding := do
  let record ← value.record true fieldNames
  return { connectionId := ← required record Uuid.ofValue "connection_id"
           remoteName := ← required record Value.asStr "remote_name"
           remoteSubpath := ← required record Value.asStr "remote_subpath"
           localPath := ← required record Value.asStr "local_path"
           recoveryDirectory := ← required record Value.asStr "recovery_directory"
           driveId := ← required record Value.asStr "drive_id"
           siteUrl := ← required record Value.asStr "site_url"
           libraryUrl := ← required record Value.asStr "library_url" }

def arguments (binding : MirrorGuardBinding) : List String := [mirrorGuardFlag, binding.json.text]

variable (fromStr : String → Except String Value)

/-- What `run_mirror_service_guard` reads. -/
def parseArguments : List String → Except Message MirrorGuardBinding
  | [encoded] =>
      match (fromStr encoded).toOption.bind ofValue with
      | some binding => .ok binding
      | none => .error ⟨"ui-teams-the-sharepoint-mirror-guard-received-an-invalid", []⟩
  | _ => .error ⟨"ui-teams-the-sharepoint-mirror-guard-received-invalid-arguments", []⟩

def matchesSavedConnection (ext : Externals) (binding : MirrorGuardBinding) (connection : Connection) :
    Except Message Unit :=
  matchesSaved ⟨"ui-teams-the-sharepoint-mirror-target-changed-or-was", []⟩ connection.enabled
    (fromConnection ext connection) binding

end MirrorGuardBinding

end SharePoint

/-! ## Mirrors of OneDrive -/

def OneDriveDriveType.ofValue (value : Value) : Option OneDriveDriveType :=
  match value.asStr with
  | some "personal" => some .personal
  | some "business" => some .business
  | _ => none

def OneDriveIdentity.ofValue (value : Value) : Option OneDriveIdentity := do
  let record ← value.record false ["drive_id", "drive_type"]
  return { driveId := ← required record Value.asStr "drive_id"
           driveType := ← required record OneDriveDriveType.ofValue "drive_type" }

namespace OneDrive

namespace MirrorGuardBinding

def fieldNames : List String :=
  ["connection_id", "remote_name", "remote_subpath", "local_path", "recovery_directory", "identity"]

def ofValue (value : Value) : Option MirrorGuardBinding := do
  let record ← value.record true fieldNames
  return { connectionId := ← required record Uuid.ofValue "connection_id"
           remoteName := ← required record Value.asStr "remote_name"
           remoteSubpath := ← optional record Value.asStr "remote_subpath"
           localPath := ← required record Value.asStr "local_path"
           recoveryDirectory := ← required record Value.asStr "recovery_directory"
           identity := ← required record OneDriveIdentity.ofValue "identity" }

def arguments (binding : MirrorGuardBinding) : List String := [mirrorGuardFlag, binding.json.text]

variable (fromStr : String → Except String Value)

def parseArguments : List String → Except Error MirrorGuardBinding
  | [encoded] =>
      match (fromStr encoded).toOption.bind ofValue with
      | some binding => .ok binding
      | none => .error .invalidInput
  | _ => .error .invalidInput

def matchesSavedConnection (binding : MirrorGuardBinding) (connection : Connection) :
    Except Error Unit :=
  matchesSaved .invalidState connection.enabled (fromConnection connection) binding

end MirrorGuardBinding

end OneDrive

end CosmicMounter

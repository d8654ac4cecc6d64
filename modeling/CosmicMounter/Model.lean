import CosmicMounter.Rust.Path

/-!
# Connections

The stored connection types of `model.rs`.  Identifiers are UUIDs, held in
the canonical hyphenated form in which they are displayed everywhere.
-/

namespace CosmicMounter

open Rust

/-- A text of the interface: its catalogue key and the values put into it. -/
structure Message where
  key : String
  arguments : List (String × String) := []
  deriving DecidableEq, Repr

inductive IoErrorKind
  | notFound
  | invalidData
  | other
  deriving DecidableEq, Repr

/-- `std::io::Error`: the kinds the applet tells apart, and the displayed text. -/
structure IoError where
  kind : IoErrorKind
  text : String
  deriving DecidableEq, Repr

def isLowerHex (c : Char) : Bool := c.isDigit || ('a' ≤ c && c ≤ 'f')

/-- The displayed form of a UUID: 36 characters in groups of 8-4-4-4-12. -/
def isCanonicalUuid (s : String) : Bool :=
  s.toList.length == 36 && s.toList.zipIdx.all fun (c, i) ↦
    if i ∈ [8, 13, 18, 23] then c == '-' else isLowerHex c

structure Uuid where
  text : String
  isCanonical : isCanonicalUuid text = true
  deriving DecidableEq, Repr

abbrev ConnectionId := Uuid
abbrev VpnProfileId := Uuid

namespace Uuid

@[ext] theorem ext {id id' : Uuid} (h : id.text = id'.text) : id = id' := by
  cases id
  cases id'
  cases h
  rfl

theorem length_text (id : Uuid) : id.text.toList.length = 36 := by
  have h := id.isCanonical
  rw [isCanonicalUuid, Bool.and_eq_true] at h
  exact eq_of_beq h.1

/-- Only lower-case hexadecimal digits and hyphens occur in an identifier. -/
theorem mem_text {id : Uuid} {c : Char} (hc : c ∈ id.text.toList) :
    c = '-' ∨ isLowerHex c = true := by
  have h := id.isCanonical
  rw [isCanonicalUuid, Bool.and_eq_true, List.all_eq_true] at h
  obtain ⟨i, hi, rfl⟩ := List.mem_iff_getElem.mp hc
  have hci := h.2 (_, i) (List.mem_zipIdx_iff_getElem?.mpr (List.getElem?_eq_getElem hi))
  by_cases hpos : i ∈ [8, 13, 18, 23]
  · exact .inl (by simpa [hpos] using hci)
  · exact .inr (by simpa [hpos] using hci)

theorem notMem_text {id : Uuid} {c : Char} (hdash : c ≠ '-') (hhex : isLowerHex c = false) :
    c ∉ id.text.toList := by
  intro hc
  rcases mem_text hc with h | h
  · exact hdash h
  · simp [hhex] at h

theorem text_ne_of_length {id : Uuid} {s : String} (hs : s.toList.length ≠ 36) :
    id.text ≠ s := by
  rintro rfl
  exact hs id.length_text

theorem isName_text (id : Uuid) : Path.IsName id.text where
  noSlash := notMem_text (by decide) (by decide)
  notEmpty := text_ne_of_length (by decide)
  notDot := text_ne_of_length (by decide)
  notDots := text_ne_of_length (by decide)

end Uuid

/-- An identifier for examples. -/
def sampleId : ConnectionId := ⟨"6f1c2d3e-0a1b-4c2d-8e3f-0123456789ab", by decide⟩

inductive Provider
  | onedrive
  | teams
  | googleDrive
  | box
  | smb
  | sftp
  deriving DecidableEq, Repr

structure OnlineMountConfig where
  cacheDirectory : Option String := none
  cacheLimitBytes : Nat := 20 * 1024 * 1024 * 1024
  startAtLogin : Bool := false
  deriving DecidableEq, Repr

inductive OfflineEngine
  | rclone
  | legacyOnedrive
  deriving DecidableEq, Repr

structure OfflineMirrorConfig where
  engine : Option OfflineEngine := none
  recoveryDirectory : String := ""
  syncIntervalMinutes : Nat := 15
  syncOnMetered : Bool := false
  deriving DecidableEq, Repr

inductive ConnectionMode
  | onlineMount (options : OnlineMountConfig)
  | offlineMirror (options : OfflineMirrorConfig)
  deriving DecidableEq, Repr

inductive OneDriveDriveType
  | personal
  | business
  deriving DecidableEq, Repr

structure OneDriveIdentity where
  driveId : String
  driveType : OneDriveDriveType
  deriving DecidableEq, Repr

def OneDriveIdentity.isValid (identity : OneDriveIdentity) : Bool :=
  let id := identity.driveId
  id != "" && id.utf8ByteSize ≤ 512 && id.toList.all (fun c ↦ c.toNat < 128) &&
    !id.toList.any fun c ↦ Str.isControl c || Str.isWhitespace c || c == '/' || c == '\\'

inductive TuningProfile
  | balanced
  | conservative
  | custom
  deriving DecidableEq, Repr

structure ConnectionPreloadOverride where
  enabled : Bool
  maximumSeconds : Nat
  maximumDepth : Nat
  deriving DecidableEq, Repr

structure SharePointLibraryIdentity where
  siteUrl : String
  libraryUrl : String
  driveId : String
  deriving DecidableEq, Repr

structure Connection where
  id : ConnectionId
  name : String
  provider : Provider
  mode : ConnectionMode
  remoteReference : String
  remoteSubpath : Option String := none
  localPath : String
  enabled : Bool := true
  vpnProfileId : Option VpnProfileId := none
  disconnectVpnWhenUnused : Bool := false
  tuningProfile : TuningProfile := .balanced
  smbPreloadOverride : Option ConnectionPreloadOverride := none
  sftpPreloadOverride : Option ConnectionPreloadOverride := none
  teamsIdentity : Option SharePointLibraryIdentity := none
  onedriveIdentity : Option OneDriveIdentity := none
  deriving DecidableEq, Repr

namespace Connection

/-- The engine of a mirror; documents without one resolve it by provider. -/
def offlineEngine (connection : Connection) : Option OfflineEngine :=
  match connection.mode with
  | .onlineMount _ => none
  | .offlineMirror options => some (options.engine.getD
      (if connection.provider = .onedrive then .legacyOnedrive else .rclone))

/-- The retired engine is still readable, but nothing runs it. -/
def ensureSupportedEngine (connection : Connection) : Except OfflineEngine Unit :=
  match connection.offlineEngine with
  | some .legacyOnedrive => .error .legacyOnedrive
  | _ => .ok ()

end Connection

end CosmicMounter

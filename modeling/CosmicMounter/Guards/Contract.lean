import CosmicMounter.Data.Reader
import CosmicMounter.Guards.Verification

/-!
# The contract of the guards

Bindings survive their arguments, match one saved target, and are verified on
the bound drive only.
-/

namespace CosmicMounter

open Rust Serde Interaction Microsoft

/-- What a guard started with these arguments decides about a saved connection. -/
structure GuardContract {β ε ε' : Type} (c d : Connection) (fromConnection : Connection → Except ε β)
    (decoded : Except ε' β) (accepts : Except ε Unit) (binding : β) : Prop where
  decodes : decoded = .ok binding
  accepted : accepts = .ok () ↔ Authorizes c d ∧ ∃ binding', fromConnection d = .ok binding'

def sampleDriveRoot : Connection :=
  { sampleMirror .onedrive none with
    mode := .offlineMirror { engine := some .rclone, recoveryDirectory := "/home/u/recovery" }
    onedriveIdentity := some ⟨"drive1", .personal⟩ }

def sampleRootBinding : OneDrive.MirrorGuardBinding where
  connectionId := sampleId
  remoteName := "engr"
  remoteSubpath := none
  localPath := "/home/u/Cloud"
  recoveryDirectory := "/home/u/recovery"
  identity := ⟨"drive1", .personal⟩

theorem fromConnection_sampleDriveRoot :
    OneDrive.MirrorGuardBinding.fromConnection sampleDriveRoot = .ok sampleRootBinding := by
  decide +kernel

def sampleDumpText : String :=
  "\x7b\"engr\":\x7b\"type\":\"onedrive\",\"drive_type\":\"personal\",\"drive_id\":\"drive1\",\"token\":\x7b\"access_token\":\"at\"\x7d\x7d\x7d"

def sampleDump : Value :=
  .ofFields [("engr", .ofFields [("type", .string "onedrive"), ("drive_type", .string "personal"),
    ("drive_id", .string "drive1"), ("token", .ofFields [("access_token", .string "at")])])]

/-- A parser and a writer that know one configuration. -/
def sampleConfigJson : ConfigJson where
  fromStr s := if s = sampleDumpText then .ok sampleDump else .error "expected value"
  toString _ := sampleDumpText
  first _ := none

theorem rereads_sampleConfigJson : Rereads sampleConfigJson := by
  intro s value h
  simp only [sampleConfigJson] at h ⊢
  split_ifs at h
  obtain rfl := Except.ok.inj h
  exact ⟨id, rfl⟩

def sampleStreams (stdout : String) : CommandOutput := ⟨⟨stdout, false, false⟩, ⟨"", false, false⟩⟩

def sampleVerification : MicrosoftHistory :=
  [⟨.isCancelled, false⟩,
    ⟨.run ⟨["lsjson", "engr:", "--stat"], 30000000000, 1048576⟩, .ok (sampleStreams "")⟩,
    ⟨.isCancelled, false⟩, ⟨.isCancelled, false⟩,
    ⟨.privateConfig ⟨dumpArgs, 10000000000, 1048576⟩, .ok (sampleStreams sampleDumpText)⟩,
    ⟨.graph .primaryDrive "at",
      .ok (.ofFields [("id", .string "drive1"), ("driveType", .string "personal")])⟩]

theorem replay_sampleVerification :
    (verifyMirrorBinding sampleConfigJson sampleRootBinding sampleDriveRoot .caller).run.replay
      sampleVerification = some (.ok ()) := by
  rfl

def sampleLibrary : SharePointLibraryIdentity where
  siteUrl := "https://acme.sharepoint.com/sites/eng"
  libraryUrl := "https://acme.sharepoint.com/sites/eng/Docs"
  driveId := "drive1"

def sampleLibraryExternals : Externals := { sampleExternals with parseLibraryUrl _ := .ok sampleLibrary }

def sampleUnnamedMount : Connection where
  id := sampleId
  name := "Engineering"
  provider := .teams
  mode := .onlineMount {}
  remoteReference := ""
  localPath := "/home/u/Cloud"
  teamsIdentity := some sampleLibrary

end CosmicMounter

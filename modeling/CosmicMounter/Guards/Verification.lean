import CosmicMounter.Guards.Authorization
import CosmicMounter.Microsoft.Steps

/-!
# What a guard has verified

A mirror's guard succeeds only when the drive that the remote is configured
for and the drive that Microsoft reports are both the bound one.
-/

namespace CosmicMounter.Microsoft

open Rust Serde Interaction

abbrev MicrosoftHistory := History MicrosoftRequest.Answer

variable {json : ConfigJson} {ext : Externals} {cancel : Token} {history : MicrosoftHistory}

/-! ## Drives in a history -/

/-- The drive of the remote in a configuration dump, if the answer is one. -/
def configuredId (json : ConfigJson) (remote : String) :
    (q : MicrosoftRequest) → q.Answer → Option (Option String)
  | .privateConfig _, r =>
      some ((r.toOption.bind fun output ↦ (dumpOf json output).toOption).bind fun dump ↦
        (dump.get remote).bind fun fields ↦ text fields "drive_id")
  | _, _ => none

/-- The drive that Microsoft reports, if it was asked for one. -/
def reportedId : (q : MicrosoftRequest) → q.Answer → Option (Option String)
  | .graph .primaryDrive _, r => some (r.toOption.bind fun drive ↦ text drive "id")
  | .libraryGraph (.drive _) _, r => some (r.toOption.bind fun drive ↦ text drive "id")
  | _, _ => none

def configuredIds (json : ConfigJson) (remote : String) (history : MicrosoftHistory) :
    List (Option String) := history.filterMap fun reply ↦ configuredId json remote reply.1 reply.2

def reportedIds (history : MicrosoftHistory) : List (Option String) :=
  history.filterMap fun reply ↦ reportedId reply.1 reply.2

/-- One dump and one drive were consulted, and both show the drive. -/
structure ShowsDrive (json : ConfigJson) (remote driveId : String) (history : MicrosoftHistory) : Prop where
  configured : configuredIds json remote history = [some driveId]
  reported : reportedIds history = [some driveId]

theorem ids_of_aside (json : ConfigJson) {q : MicrosoftRequest} (h : Aside q) (remote : String) (r : q.Answer) :
    configuredId json remote q r = none ∧ reportedId q r = none := by
  cases q with
  | graph target token =>
      cases target with
      | folder driveId path => exact ⟨rfl, rfl⟩
      | _ => exact h.elim
  | libraryGraph target token =>
      cases target with
      | profile => exact ⟨rfl, rfl⟩
      | drive driveId => exact h.elim
  | privateConfig request => exact h.elim
  | _ => exact ⟨rfl, rfl⟩

theorem ids_eq_nil (json : ConfigJson) (h : ∀ reply ∈ history, Aside reply.1) (remote : String) :
    configuredIds json remote history = [] ∧ reportedIds history = [] :=
  ⟨List.filterMap_eq_nil_iff.mpr fun reply hreply ↦
      (ids_of_aside json (h reply hreply) remote reply.2).1,
    List.filterMap_eq_nil_iff.mpr fun reply hreply ↦
      (ids_of_aside json (h reply hreply) remote reply.2).2⟩

theorem configuredIds_append (remote : String) (first second : MicrosoftHistory) :
    configuredIds json remote (first ++ second) =
      configuredIds json remote first ++ configuredIds json remote second := List.filterMap_append

theorem reportedIds_append (first second : MicrosoftHistory) :
    reportedIds (first ++ second) = reportedIds first ++ reportedIds second := List.filterMap_append

theorem asks_verifyBoundFolder (binding : OneDrive.MirrorGuardBinding) (token : String) :
    Asks Aside (verifyBoundFolder json binding token cancel) := by
  unfold verifyBoundFolder
  cases binding.remoteSubpath with
  | none => exact asks_pure _
  | some path => exact asks_verifySubtree _ _ _ _

/-! ## Steps that tell of a drive -/

/-- `serde_json` reads a value that it has read and printed, up to the spelling of its floats. -/
def Rereads (json : ConfigJson) : Prop :=
  ∀ s value, json.fromStr s = .ok value → ∃ f, json.fromStr (json.toString value) = .ok (value.rereadFloats f)

def configuredDrive (dump : Value) (remote : String) : Option String :=
  (dump.get remote).bind fun fields ↦ text fields "drive_id"

theorem fromStr_of_dumpOf {output : CommandOutput} {value : Value} (h : dumpOf json output = .ok value) :
    json.fromStr output.stdout.text = .ok value := by
  unfold dumpOf configJson at h
  split_ifs at h
  cases hparsed : json.fromStr output.stdout.text with
  | error e =>
      rw [hparsed] at h
      cases h
  | ok parsed =>
      rw [hparsed] at h
      dsimp only [Except.mapError] at h
      split_ifs at h
      obtain rfl := Except.ok.inj h
      rfl

/-- A dump is the only request of `configDump` that tells of a drive. -/
theorem ids_configDump {value : Value} (h : (configDump json cancel).run.replay history = some (.ok value))
    (remote : String) : configuredIds json remote history = [configuredDrive value remote] ∧
      reportedIds history = [] ∧ ∃ s, json.fromStr s = .ok value := by
  obtain ⟨before, request, output, rfl, haside, -, hvalue⟩ := replay_configDump h
  obtain ⟨hconfigured, hreported⟩ := ids_eq_nil json haside remote
  refine ⟨?_, ?_, output.stdout.text, fromStr_of_dumpOf hvalue⟩
  · rw [configuredIds_append, hconfigured]
    simp [configuredIds, configuredId, configuredDrive, hvalue, Except.toOption]
  · rw [reportedIds_append, hreported]
    simp [reportedIds, reportedId]

/-- A step whose answers tell of no drive leaves the rest of the history to tell of it. -/
theorem ids_only_append {α : Type} {p : Ask α} {a : α} {first : MicrosoftHistory} (hp : p.Only Aside)
    (h : p.replay first = some a) (remote : String) (second : MicrosoftHistory) :
    configuredIds json remote (first ++ second) = configuredIds json remote second ∧
      reportedIds (first ++ second) = reportedIds second := by
  obtain ⟨hconfigured, hreported⟩ := ids_eq_nil json (Program.replay_only hp h) remote
  rw [configuredIds_append, reportedIds_append, hconfigured, hreported]
  exact ⟨rfl, rfl⟩

/-! ## OneDrive -/

theorem configuredIdentity_driveId {fields : Value} {driveType : OneDriveDriveType} {identity : OneDriveIdentity}
    (h : configuredIdentity fields driveType = .ok identity) : text fields "drive_id" = some identity.driveId := by
  unfold configuredIdentity at h
  split at h
  · next driveId hdriveId =>
      dsimp only at h
      split_ifs at h
      obtain rfl := Except.ok.inj h
      exact hdriveId
  · cases h

theorem credentialsOf_driveId {value : Value} {remote token : String} {driveType : OneDriveDriveType}
    {identity : OneDriveIdentity} (h : credentialsOf json value remote driveType = .ok (identity, token)) :
    configuredDrive value remote = some identity.driveId := by
  unfold credentialsOf at h
  split at h
  · next fields hfields =>
      dsimp only at h
      split at h
      · cases h
      · split at h
        · cases h
        · obtain ⟨read, -, h⟩ := Rust.Result.bind_eq_ok h
          split at h
          · cases h
          · obtain ⟨configured, hconfigured, h⟩ := Rust.Result.bind_eq_ok h
            obtain ⟨rfl, rfl⟩ := Prod.mk.inj (Except.ok.inj h)
            rw [configuredDrive, hfields]
            exact configuredIdentity_driveId hconfigured
  · cases h

theorem ids_credentials {remote token : String} {driveType : OneDriveDriveType} {identity : OneDriveIdentity}
    (h : (credentials json remote driveType cancel).run.replay history = some (.ok (identity, token))) :
    configuredIds json remote history = [some identity.driveId] ∧ reportedIds history = [] := by
  unfold credentials at h
  obtain ⟨first, second, ⟨⟩, rfl, hfirst, h₁⟩ := Program.replay_run_bind h
  obtain ⟨rfl, -⟩ := Program.replay_check hfirst
  obtain ⟨listed, third, output, rfl, hlisted, h₂⟩ := Program.replay_run_bind h₁
  obtain ⟨dumped, fourth, value, rfl, hdumped, h₃⟩ := Program.replay_run_bind h₂
  obtain ⟨rfl, hcredentials⟩ := Program.replay_check h₃
  obtain ⟨hconfigured, hreported, -⟩ := ids_configDump (Program.replay_reporting hdumped) remote
  rw [List.nil_append, List.append_nil]
  obtain ⟨hsame, hsame'⟩ := ids_only_append (asks_command (ne_config (by decide) _) _).only hlisted remote dumped
  rw [hsame, hsame', hconfigured, hreported, credentialsOf_driveId hcredentials]
  exact ⟨rfl, rfl⟩

/-- A OneDrive guard succeeds only on the drive it is bound to. -/
theorem showsDrive_of_verifyMirrorBinding {binding : OneDrive.MirrorGuardBinding} {connection : Connection}
    (h : (verifyMirrorBinding json binding connection cancel).run.replay history = some (.ok ())) :
    ShowsDrive json binding.remoteName binding.identity.driveId history := by
  unfold verifyMirrorBinding at h
  obtain ⟨first, second, ⟨⟩, rfl, hfirst, h₁⟩ := Program.replay_run_bind h
  obtain ⟨rfl, -⟩ := Program.replay_check hfirst
  obtain ⟨read, third, ⟨configured, token⟩, rfl, hread, h₂⟩ := Program.replay_run_bind h₁
  obtain ⟨fourth, fifth, ⟨⟩, rfl, hfourth, h₃⟩ := Program.replay_run_bind h₂
  obtain ⟨rfl, hsame⟩ := Program.replay_ensure hfourth
  obtain ⟨reported, sixth, drive, rfl, hreported, h₄⟩ := Program.replay_run_bind h₃
  obtain rfl := Program.replay_request hreported
  obtain ⟨seventh, rest, ⟨⟩, rfl, hseventh, h₅⟩ := Program.replay_run_bind h₄
  obtain ⟨rfl, hdrive⟩ := Program.replay_ensure hseventh
  obtain rfl : configured = binding.identity := eq_of_beq hsame
  have hid : text drive "id" = some binding.identity.driveId := by
    rw [reportsDrive, Bool.and_eq_true] at hdrive
    exact eq_of_beq hdrive.1
  obtain ⟨hids, hids'⟩ := ids_credentials hread
  obtain ⟨hrest, hrest'⟩ := ids_eq_nil json
    (Program.replay_only (asks_verifyBoundFolder _ _).only h₅) binding.remoteName
  constructor
  · simp only [configuredIds_append, hids, hrest]
    rfl
  · simp only [reportedIds_append, hids', hrest']
    simp [reportedIds, reportedId, Except.toOption, hid]

/-! ## SharePoint -/

theorem libraryCredentials_driveId {value : Value} {remote : String} {credentials : RemoteCredentials}
    (h : libraryCredentials json value remote = .ok credentials) :
    configuredDrive value remote = some credentials.driveId := by
  unfold libraryCredentials at h
  split at h
  · next fields hfields =>
      dsimp only at h
      split_ifs at h
      · cases h
      · split at h
        · next driveId hdriveId =>
            obtain ⟨token, -, h⟩ := Rust.Result.bind_eq_ok h
            obtain rfl := Except.ok.inj h
            rw [configuredDrive, hfields]
            exact (Option.filter_eq_some_iff.mp hdriveId).1
        · cases h
  · cases h

theorem configuredDrive_rereadFloats (f : String → String) (value : Value) (remote : String) :
    configuredDrive (value.rereadFloats f) remote = configuredDrive value remote := by
  rw [configuredDrive, configuredDrive, Value.get_rereadFloats, Option.bind_map]
  congr 1
  funext fields
  rw [Function.comp_apply, text, text, Value.get_rereadFloats, Option.bind_map]
  congr 1
  funext field
  exact field.asStr_rereadFloats f

theorem remoteCredentials_driveId (hreread : Rereads json) {s remote : String} {value : Value}
    (hparsed : json.fromStr s = .ok value) {credentials : RemoteCredentials}
    (h : remoteCredentials json (json.toString value) remote = .ok credentials) :
    configuredDrive value remote = some credentials.driveId := by
  obtain ⟨f, hread⟩ := hreread s value hparsed
  rw [remoteCredentials, hread] at h
  rw [← configuredDrive_rereadFloats f]
  exact libraryCredentials_driveId h

theorem verifyGraphDrive_driveId {response : Value} {expected identity : SharePointLibraryIdentity}
    {driveId : String} (h : verifyGraphDrive ext response expected driveId = .ok identity) :
    text response "id" = some driveId ∧ (expected.driveId ≠ "" → expected.driveId = driveId) := by
  unfold verifyGraphDrive at h
  dsimp only at h
  split at h
  · cases h
  · next hdrive =>
      split at h
      · split at h
        · cases h
        · split at h
          · cases h
          · next hchanged =>
              refine ⟨not_not.mp fun hid ↦ hdrive (.inl hid), fun hne ↦ ?_⟩
              exact not_not.mp fun hchange ↦ hchanged ⟨hne, hchange⟩
      · cases h

/-- The remote's drive and the reported drive are one, and the expected one if that is known. -/
theorem ids_verifyRemote (hreread : Rereads json) {remote : String} {expected : SharePointLibraryIdentity}
    {profile : ProfileLookup} {verified : VerifiedSharePointLibrary} (hexpected : expected.driveId ≠ "")
    (h : (verifyRemote json ext remote expected profile).run.replay history = some (.ok verified)) :
    ShowsDrive json remote expected.driveId history := by
  unfold verifyRemote at h
  obtain ⟨asked, first, client, rfl, hasked, h₁⟩ := Program.replay_run_bind h
  obtain rfl := Program.replay_request (Program.replay_lift hasked)
  obtain ⟨second, third, ⟨⟩, rfl, hsecond, h₂⟩ := Program.replay_run_bind h₁
  obtain ⟨rfl, -⟩ := Program.replay_ensure hsecond
  obtain ⟨listed, fourth, ⟨⟩, rfl, hlisted, h₃⟩ := Program.replay_run_bind h₂
  obtain ⟨dumped, fifth, value, rfl, hdumped, h₄⟩ := Program.replay_run_bind h₃
  obtain ⟨sixth, seventh, credentials, rfl, hsixth, h₅⟩ := Program.replay_run_bind h₄
  obtain ⟨rfl, hcredentials⟩ := Program.replay_check hsixth
  obtain ⟨reported, eighth, response, rfl, hreported, h₆⟩ := Program.replay_run_bind h₅
  obtain rfl := Program.replay_request hreported
  obtain ⟨ninth, rest, identity, rfl, hninth, h₇⟩ := Program.replay_run_bind h₆
  obtain ⟨rfl, hidentity⟩ := Program.replay_check hninth
  obtain ⟨profiled, last, account, rfl, hprofiled, h₈⟩ := Program.replay_run_bind h₇
  obtain ⟨rfl, -⟩ := Program.replay_done h₈
  obtain ⟨hids, hids', s, hparsed⟩ := ids_configDump (Program.replay_reporting hdumped) remote
  obtain ⟨hlist, hlist'⟩ := ids_eq_nil json
    (Program.replay_only (asks_listRoot _ _ _).only hlisted) remote
  obtain ⟨hprofile, hprofile'⟩ := ids_eq_nil json
    (Program.replay_only (asks_lookUpAccount _ _).only hprofiled) remote
  obtain ⟨hid, hsame⟩ := verifyGraphDrive_driveId hidentity
  rw [hsame hexpected]
  rw [remoteCredentials_driveId hreread hparsed hcredentials] at hids
  constructor
  · simp only [configuredIds_append, hids, hlist, hprofile]
    rfl
  · simp only [reportedIds_append, hids', hlist', hprofile']
    simp [reportedIds, reportedId, Except.toOption, hid]

/-- The library of a connection that is bound. -/
theorem boundLibrary {connection : Connection} {binding : SharePoint.MirrorGuardBinding}
    (h : SharePoint.MirrorGuardBinding.fromConnection ext connection = .ok binding) :
    ∃ identity, connection.teamsIdentity = some identity ∧ identity.driveId = binding.driveId ∧
      identity.driveId ≠ "" := by
  unfold SharePoint.MirrorGuardBinding.fromConnection at h
  split at h
  · dsimp only at h
    split_ifs at h
    · cases h
    · obtain ⟨⟨⟩, -, h⟩ := Rust.Result.bind_eq_ok h
      obtain ⟨⟨⟩, -, h⟩ := Rust.Result.bind_eq_ok h
      split at h
      · next identity hidentity =>
          split_ifs at h with hverified
          · cases h
          · obtain rfl := Except.ok.inj h
            refine ⟨identity, hidentity, rfl, fun hempty ↦ ?_⟩
            have hblank : (Str.trim "" != "") = false := by decide
            rw [SharePoint.identityIsVerified, hempty, hblank, Bool.false_and] at hverified
            exact hverified rfl
      · cases h
  · cases h

/-- A SharePoint guard succeeds only on the drive it is bound to. -/
theorem showsDrive_of_verifyLibraryBinding (hreread : Rereads json)
    {binding : SharePoint.MirrorGuardBinding} {connection : Connection}
    (h : (verifyLibraryBinding json ext binding connection).run.replay history = some (.ok ())) :
    ShowsDrive json binding.remoteName binding.driveId history := by
  unfold verifyLibraryBinding at h
  obtain ⟨first, second, ⟨⟩, rfl, hfirst, h₁⟩ := Program.replay_run_bind h
  obtain ⟨rfl, hmatches⟩ := Program.replay_check hfirst
  obtain ⟨-, hbound⟩ := matchesSaved_iff.mp hmatches
  obtain ⟨library, hlibrary, hdrive, hne⟩ := boundLibrary hbound
  obtain ⟨third, fourth, expected, rfl, hthird, h₂⟩ := Program.replay_run_bind h₁
  rw [hlibrary] at hthird
  obtain ⟨rfl, hexpected⟩ := Program.replay_check hthird
  obtain rfl := Except.ok.inj hexpected
  obtain ⟨verifiedAt, fifth, verified, rfl, hverified, h₃⟩ := Program.replay_run_bind h₂
  obtain ⟨hconfigured, hreported⟩ := ids_verifyRemote hreread hne hverified
  obtain ⟨hrest, hrest'⟩ := ids_eq_nil json
    (Program.replay_only (asks_listRoot _ _ _).only h₃) binding.remoteName
  rw [← hdrive]
  constructor
  · simp only [List.nil_append, configuredIds_append, hconfigured, hrest, List.append_nil]
  · simp only [List.nil_append, reportedIds_append, hreported, hrest', List.append_nil]

end CosmicMounter.Microsoft

import CosmicMounter.Guards.Bindings

/-!
# What a guard authorizes

A binding survives its way through the arguments of a unit, and a saved
connection matches it exactly when it has the same identifier and target.
-/

namespace CosmicMounter

open Rust Serde

variable {ext : Externals} {fromStr : String → Except String Value} {c d : Connection}

/-! ## Through the arguments -/

theorem Uuid.ofValue_string (id : Uuid) : Uuid.ofValue (.string id.text) = some id := by
  rw [Uuid.ofValue, Value.asStr, Option.bind_some, Uuid.parseStr_text]

namespace SharePoint.MirrorGuardBinding

def fields (binding : MirrorGuardBinding) : List (String × Json.Value) :=
  [("connection_id", .string binding.connectionId.text), ("remote_name", .string binding.remoteName),
    ("remote_subpath", .string binding.remoteSubpath), ("local_path", .string binding.localPath),
    ("recovery_directory", .string binding.recoveryDirectory), ("drive_id", .string binding.driveId),
    ("site_url", .string binding.siteUrl), ("library_url", .string binding.libraryUrl)]

theorem required_string (binding : MirrorGuardBinding) (name s : String)
    (hmem : (name, .string s) ∈ binding.fields) :
    required (fun name ↦ (Json.object binding.fields).parsed.get name) Value.asStr name = some s :=
  Json.required_object (by exact (by decide : fieldNames.Nodup)) hmem rfl

theorem ofValue_parsed (binding : MirrorGuardBinding) : ofValue binding.json.parsed = some binding := by
  have hnodup : (binding.fields.map Prod.fst).Nodup := (by decide : fieldNames.Nodup)
  have hjson : binding.json = Json.object binding.fields := rfl
  have hrecord : (Json.object binding.fields).parsed.record true fieldNames = some _ :=
    Json.record_object hnodup true
  have hid := Json.required_object hnodup List.mem_cons_self (Uuid.ofValue_string binding.connectionId)
  have hname := binding.required_string "remote_name" binding.remoteName (by simp [fields])
  have hsubpath := binding.required_string "remote_subpath" binding.remoteSubpath (by simp [fields])
  have hlocal := binding.required_string "local_path" binding.localPath (by simp [fields])
  have hrecovery :=
    binding.required_string "recovery_directory" binding.recoveryDirectory (by simp [fields])
  have hdrive := binding.required_string "drive_id" binding.driveId (by simp [fields])
  have hsite := binding.required_string "site_url" binding.siteUrl (by simp [fields])
  have hlibrary := binding.required_string "library_url" binding.libraryUrl (by simp [fields])
  rw [hjson, ofValue, hrecord]
  simp only [Option.bind_eq_bind, Option.bind_some, Option.pure_def, hid, hname, hsubpath, hlocal,
    hrecovery, hdrive, hsite, hlibrary]

end SharePoint.MirrorGuardBinding

theorem OneDriveDriveType.ofValue_serialized (driveType : OneDriveDriveType) :
    OneDriveDriveType.ofValue (.string driveType.serialized) = some driveType := by
  cases driveType <;> rfl

def OneDriveIdentity.fields (identity : OneDriveIdentity) : List (String × Json.Value) :=
  [("drive_id", .string identity.driveId), ("drive_type", .string identity.driveType.serialized)]

theorem OneDriveIdentity.ofValue_parsed (identity : OneDriveIdentity) :
    OneDriveIdentity.ofValue (Json.object identity.fields).parsed = some identity := by
  have hnodup : (identity.fields.map Prod.fst).Nodup := (by decide : ["drive_id", "drive_type"].Nodup)
  have hrecord : (Json.object identity.fields).parsed.record false ["drive_id", "drive_type"] = some _ :=
    Json.record_object hnodup false
  have hid : required _ Value.asStr "drive_id" = some identity.driveId :=
    Json.required_object hnodup List.mem_cons_self rfl
  have htype := Json.required_object hnodup (List.mem_cons_of_mem _ List.mem_cons_self)
    (OneDriveDriveType.ofValue_serialized identity.driveType)
  rw [ofValue, hrecord]
  simp only [Option.bind_eq_bind, Option.bind_some, Option.pure_def, hid, htype]

namespace OneDrive.MirrorGuardBinding

def fields (binding : MirrorGuardBinding) : List (String × Json.Value) :=
  [("connection_id", .string binding.connectionId.text), ("remote_name", .string binding.remoteName),
    ("remote_subpath", Json.optional binding.remoteSubpath), ("local_path", .string binding.localPath),
    ("recovery_directory", .string binding.recoveryDirectory),
    ("identity", Json.object binding.identity.fields)]

theorem required_string (binding : MirrorGuardBinding) (name s : String)
    (hmem : (name, .string s) ∈ binding.fields) :
    required (fun name ↦ (Json.object binding.fields).parsed.get name) Value.asStr name = some s :=
  Json.required_object (by exact (by decide : fieldNames.Nodup)) hmem rfl

theorem ofValue_parsed (binding : MirrorGuardBinding) : ofValue binding.json.parsed = some binding := by
  have hnodup : (binding.fields.map Prod.fst).Nodup := (by decide : fieldNames.Nodup)
  have hjson : binding.json = Json.object binding.fields := rfl
  have hrecord : (Json.object binding.fields).parsed.record true fieldNames = some _ :=
    Json.record_object hnodup true
  have hmem : ("remote_subpath", Json.optional binding.remoteSubpath) ∈ binding.fields := by simp [fields]
  have hmem' : ("identity", Json.object binding.identity.fields) ∈ binding.fields := by simp [fields]
  have hid := Json.required_object hnodup List.mem_cons_self (Uuid.ofValue_string binding.connectionId)
  have hname := binding.required_string "remote_name" binding.remoteName (by simp [fields])
  have hsubpath := Json.optional_object hnodup hmem
  have hlocal := binding.required_string "local_path" binding.localPath (by simp [fields])
  have hrecovery :=
    binding.required_string "recovery_directory" binding.recoveryDirectory (by simp [fields])
  have hidentity := Json.required_object hnodup hmem' binding.identity.ofValue_parsed
  rw [hjson, ofValue, hrecord]
  simp only [Option.bind_eq_bind, Option.bind_some, Option.pure_def, hid, hname, hsubpath, hlocal,
    hrecovery, hidentity]

end OneDrive.MirrorGuardBinding

section Arguments

variable (hread : Json.ReadsBack fromStr)
include hread

theorem toOption_fromStr {value : Json.Value} (hdepth : value.depth < 128) :
    (fromStr value.text).toOption = some value.parsed := by
  rw [hread value hdepth]
  rfl

theorem SharePoint.ServiceGuardBinding.parseArguments_arguments
    (binding : SharePoint.ServiceGuardBinding) (hname : binding.remoteName ≠ "")
    (hmount : binding.mountpoint ≠ "") (hdrive : binding.driveId ≠ "") :
    parseArguments fromStr binding.arguments.tail = .ok binding := by
  have hsubpath : parseSubpath fromStr (Json.optional binding.remoteSubpath).text =
      some binding.remoteSubpath := by
    have hdepth : (Json.optional binding.remoteSubpath).depth < 128 := by
      rw [Json.depth_optional]
      exact Nat.zero_lt_succ _
    rw [parseSubpath, toOption_fromStr hread hdepth]
    exact Json.orNull_optional binding.remoteSubpath
  have hcomplete : ¬(binding.remoteName = "" ∨ binding.mountpoint = "" ∨ binding.driveId = "") :=
    fun h ↦ h.elim hname fun h ↦ h.elim hmount hdrive
  rw [arguments, List.tail_cons, parseArguments, Uuid.parseStr_text]
  dsimp only
  rw [if_neg hcomplete, hsubpath]

theorem SharePoint.MirrorGuardBinding.parseArguments_arguments
    (binding : SharePoint.MirrorGuardBinding) :
    parseArguments fromStr binding.arguments.tail = .ok binding := by
  have hdepth : binding.json.depth < 128 := by
    simp [json, Json.object, Json.Value.depth, Json.Fields.depth]
  have hparsed : (fromStr binding.json.text).toOption.bind ofValue = some binding := by
    rw [toOption_fromStr hread hdepth, Option.bind_some, ofValue_parsed]
  rw [arguments, List.tail_cons, parseArguments, hparsed]

theorem OneDrive.MirrorGuardBinding.parseArguments_arguments (binding : OneDrive.MirrorGuardBinding) :
    parseArguments fromStr binding.arguments.tail = .ok binding := by
  have hdepth : binding.json.depth < 128 := by
    simp [json, Json.object, Json.Value.depth, Json.Fields.depth, Json.depth_optional]
  have hparsed : (fromStr binding.json.text).toOption.bind ofValue = some binding := by
    rw [toOption_fromStr hread hdepth, Option.bind_some, ofValue_parsed]
  rw [arguments, List.tail_cons, parseArguments, hparsed]

end Arguments

/-! ## Saved connections -/

/-- The saved connection is to be served, and it is the one that was bound. -/
def Authorizes (c d : Connection) : Prop := d.enabled = true ∧ d.id = c.id ∧ d.target = c.target

theorem matchesSaved_iff_authorizes {ε β : Type} [DecidableEq β] {changed : ε} {saved : Except ε β}
    {binding : β} (hsame : ∀ binding', saved = .ok binding' →
      (binding' = binding ↔ d.id = c.id ∧ d.target = c.target)) :
    matchesSaved changed d.enabled saved binding = .ok () ↔
      Authorizes c d ∧ ∃ binding', saved = .ok binding' := by
  rw [matchesSaved_iff]
  constructor
  · rintro ⟨henabled, hsaved⟩
    exact ⟨⟨henabled, (hsame binding hsaved).mp rfl⟩, binding, hsaved⟩
  · rintro ⟨⟨henabled, htarget⟩, binding', hsaved⟩
    obtain rfl := (hsame binding' hsaved).mpr htarget
    exact ⟨henabled, hsaved⟩

/-- The site of a library is part of its address. -/
theorem SharePoint.siteUrl_eq {identity identity' : SharePointLibraryIdentity}
    (h : siteIsVerified ext identity = true) (h' : siteIsVerified ext identity' = true)
    (hlibrary : identity.libraryUrl = identity'.libraryUrl) : identity.siteUrl = identity'.siteUrl := by
  rw [siteIsVerified, Bool.and_eq_true] at h h'
  have hsite := h.2
  have hsite' := h'.2
  rw [hlibrary] at hsite
  split at hsite'
  · next parsed hparsed =>
      rw [hparsed] at hsite
      exact (eq_of_beq hsite).symm.trans (eq_of_beq hsite')
  · cases hsite'

namespace SharePoint.ServiceGuardBinding

variable {binding : ServiceGuardBinding}

theorem of_fromConnection (h : fromConnection ext c = .ok binding) :
    ∃ identity options, c.provider = .teams ∧ c.mode = .onlineMount options ∧
      c.teamsIdentity = some identity ∧ siteIsVerified ext identity = true ∧
      binding = ⟨c.id, c.remoteReference, c.remoteSubpath, c.localPath, identity.driveId,
        identity.libraryUrl⟩ := by
  unfold fromConnection at h
  dsimp only at h
  split_ifs at h with hteams
  · cases h
  · split at h
    · next options hmode =>
        split at h
        · next identity hidentity =>
            split_ifs at h with hverified
            · cases h
            · obtain rfl := Except.ok.inj h
              rw [Bool.not_eq_true', Bool.not_eq_false] at hverified
              exact ⟨identity, options, not_not.mp hteams, hmode, hidentity, hverified, rfl⟩
        · cases h
    · cases h

theorem driveId_ne (h : fromConnection ext c = .ok binding) : binding.driveId ≠ "" := by
  obtain ⟨identity, options, -, -, -, hverified, rfl⟩ := of_fromConnection h
  rw [siteIsVerified, Bool.and_eq_true] at hverified
  intro hempty
  have hempty : identity.driveId = "" := hempty
  rw [hempty] at hverified
  exact absurd hverified.1 (by decide)

theorem eq_iff {binding' : ServiceGuardBinding} (h : fromConnection ext c = .ok binding)
    (h' : fromConnection ext d = .ok binding') : binding' = binding ↔ d.id = c.id ∧ d.target = c.target := by
  obtain ⟨identity, options, hteams, hmode, hidentity, hverified, rfl⟩ := of_fromConnection h
  obtain ⟨identity', options', hteams', hmode', hidentity', hverified', rfl⟩ := of_fromConnection h'
  rw [ServiceGuardBinding.mk.injEq]
  simp only [Connection.target, hteams, hteams', hmode, hmode', hidentity, hidentity', Option.map_some,
    Target.mk.injEq, Option.some.injEq, BoundDrive.sharePoint.injEq, true_and]
  constructor
  · rintro ⟨hid, hname, hsubpath, hlocal, hdrive, hlibrary⟩
    have hsite := siteUrl_eq hverified' hverified hlibrary
    refine ⟨hid, hname, hsubpath, hlocal, ?_⟩
    cases identity
    cases identity'
    simp_all
  · rintro ⟨hid, hname, hsubpath, hlocal, rfl⟩
    exact ⟨hid, hname, hsubpath, hlocal, rfl, rfl⟩

theorem matches_iff (h : fromConnection ext c = .ok binding) :
    matchesSavedConnection ext binding d = .ok () ↔
      Authorizes c d ∧ ∃ binding', fromConnection ext d = .ok binding' :=
  matchesSaved_iff_authorizes fun _ h' ↦ eq_iff h h'

end SharePoint.ServiceGuardBinding

/-! ### Mirrors -/

namespace SharePoint.MirrorGuardBinding

variable {binding : MirrorGuardBinding}

theorem connectionId_eq (h : fromConnection ext c = .ok binding) : binding.connectionId = c.id := by
  unfold fromConnection at h
  split at h
  · dsimp only at h
    split_ifs at h
    · cases h
    · obtain ⟨⟨⟩, -, h⟩ := Rust.Result.bind_eq_ok h
      obtain ⟨⟨⟩, -, h⟩ := Rust.Result.bind_eq_ok h
      split at h
      · split_ifs at h
        · cases h
        · obtain rfl := Except.ok.inj h
          rfl
      · cases h
  · cases h

theorem eq_iff {binding' : MirrorGuardBinding} (h : fromConnection ext c = .ok binding)
    (h' : fromConnection ext d = .ok binding') : binding' = binding ↔ d.id = c.id ∧ d.target = c.target := by
  rw [← connectionId_eq h, ← connectionId_eq h', fromConnection_target h, fromConnection_target h']
  constructor
  · rintro rfl
    exact ⟨rfl, rfl⟩
  · rintro ⟨hid, htarget⟩
    obtain ⟨-, hname, hsubpath, hlocal, hrecovery, hdrive⟩ := Target.mk.inj htarget
    have hidentity := BoundDrive.sharePoint.inj (Option.some.inj hdrive)
    have hsubpath : binding'.remoteSubpath = binding.remoteSubpath := by
      split_ifs at hsubpath with hempty' hempty
      · exact hempty'.trans hempty.symm
      · exact Option.some.inj hsubpath
    obtain ⟨hsite, hlibrary, hid'⟩ := SharePointLibraryIdentity.mk.inj hidentity
    cases binding
    cases binding'
    simp_all

theorem matches_iff (h : fromConnection ext c = .ok binding) :
    matchesSavedConnection ext binding d = .ok () ↔
      Authorizes c d ∧ ∃ binding', fromConnection ext d = .ok binding' :=
  matchesSaved_iff_authorizes fun _ h' ↦ eq_iff h h'

end SharePoint.MirrorGuardBinding

namespace OneDrive.MirrorGuardBinding

variable {binding : MirrorGuardBinding}

theorem connectionId_eq (h : fromConnection c = .ok binding) : binding.connectionId = c.id := by
  unfold fromConnection at h
  split at h
  · dsimp only at h
    split_ifs at h
    · cases h
    · obtain ⟨⟨⟩, -, h⟩ := Rust.Result.bind_eq_ok h
      obtain ⟨⟨⟩, -, h⟩ := Rust.Result.bind_eq_ok h
      split at h
      · obtain rfl := Except.ok.inj h
        rfl
      · cases h
  · cases h

theorem eq_iff {binding' : MirrorGuardBinding} (h : fromConnection c = .ok binding)
    (h' : fromConnection d = .ok binding') : binding' = binding ↔ d.id = c.id ∧ d.target = c.target := by
  rw [← connectionId_eq h, ← connectionId_eq h', fromConnection_target h, fromConnection_target h']
  constructor
  · rintro rfl
    exact ⟨rfl, rfl⟩
  · rintro ⟨hid, htarget⟩
    obtain ⟨-, hname, hsubpath, hlocal, hrecovery, hdrive⟩ := Target.mk.inj htarget
    have hidentity := BoundDrive.oneDrive.inj (Option.some.inj hdrive)
    cases binding
    cases binding'
    simp_all

theorem matches_iff (h : fromConnection c = .ok binding) :
    matchesSavedConnection binding d = .ok () ↔
      Authorizes c d ∧ ∃ binding', fromConnection d = .ok binding' :=
  matchesSaved_iff_authorizes fun _ h' ↦ eq_iff h h'

end OneDrive.MirrorGuardBinding

end CosmicMounter

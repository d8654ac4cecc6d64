import CosmicMounter.Sync.Plan

/-!
# Baselines and targets

Which edits of a mirror's target give it another work directory, and with it
other markers and filters.  Only the providers whose work directory is named
after the digest of a binding tell targets apart.
-/

namespace CosmicMounter

open Rust

/-- The verified drive of a provider that has one. -/
inductive BoundDrive
  | sharePoint (identity : SharePointLibraryIdentity)
  | oneDrive (identity : OneDriveIdentity)
  deriving DecidableEq, Repr

/-- What a mirror synchronizes: the editable part of its target. -/
structure Target where
  provider : Provider
  remoteReference : String
  remoteSubpath : Option String
  localPath : String
  recoveryDirectory : Option String
  drive : Option BoundDrive
  deriving DecidableEq, Repr

def Connection.target (connection : Connection) : Target where
  provider := connection.provider
  remoteReference := connection.remoteReference
  remoteSubpath := connection.remoteSubpath
  localPath := connection.localPath
  recoveryDirectory :=
    match connection.mode with
    | .offlineMirror options => some options.recoveryDirectory
    | .onlineMount _ => none
  drive :=
    match connection.provider with
    | .teams => connection.teamsIdentity.map .sharePoint
    | .onedrive => connection.onedriveIdentity.map .oneDrive
    | _ => none

/-- The two plans keep their state, with markers and filters, in different places. -/
structure SeparateBaselines (plan plan' : RcloneBisyncPlan) : Prop where
  workDirectory : ¬Path.Same plan.workDirectory plan'.workDirectory
  preview : ¬Path.Same (initialPreviewMarker plan) (initialPreviewMarker plan')
  complete : ¬Path.Same (initialSyncMarker plan) (initialSyncMarker plan')
  filters : ¬Path.Same plan.filtersFile plan'.filtersFile

def Connection.hasBoundTarget (connection : Connection) : Bool :=
  connection.provider = .teams || connection.provider = .onedrive

/-! ## Bindings name their target -/

/-- An explicit folder is not empty, so the empty text stands for no folder. -/
theorem getD_of_validateFolder {subpath : Option String}
    (h : SharePoint.validateFolder subpath = .ok ()) :
    subpath = if subpath.getD "" = "" then none else some (subpath.getD "") := by
  cases subpath with
  | none => rfl
  | some folder =>
      have hne : folder ≠ "" := by
        rintro rfl
        cases h
      simp [hne]

theorem SharePoint.fromConnection_target {ext : Externals} {connection : Connection}
    {binding : SharePoint.MirrorGuardBinding}
    (h : SharePoint.MirrorGuardBinding.fromConnection ext connection = .ok binding) :
    connection.target = {
      provider := .teams
      remoteReference := binding.remoteName
      remoteSubpath := if binding.remoteSubpath = "" then none else some binding.remoteSubpath
      localPath := binding.localPath
      recoveryDirectory := some binding.recoveryDirectory
      drive := some (.sharePoint ⟨binding.siteUrl, binding.libraryUrl, binding.driveId⟩) } := by
  unfold SharePoint.MirrorGuardBinding.fromConnection at h
  split at h
  · rename_i options hmode
    dsimp only at h
    split_ifs at h with hteams
    · cases h
    obtain ⟨⟨⟩, -, h⟩ := Result.bind_eq_ok h
    obtain ⟨⟨⟩, hfolder, h⟩ := Result.bind_eq_ok h
    split at h
    · rename_i identity hidentity
      split_ifs at h
      · cases h
      obtain rfl := Except.ok.inj h
      have hsubpath := getD_of_validateFolder hfolder
      rw [not_not] at hteams
      simp only [Connection.target, hmode, hteams, hidentity, Option.map_some, ← hsubpath]
    · cases h
  · cases h

theorem OneDrive.fromConnection_target {connection : Connection}
    {binding : OneDrive.MirrorGuardBinding}
    (h : OneDrive.MirrorGuardBinding.fromConnection connection = .ok binding) :
    connection.target = {
      provider := .onedrive
      remoteReference := binding.remoteName
      remoteSubpath := binding.remoteSubpath
      localPath := binding.localPath
      recoveryDirectory := some binding.recoveryDirectory
      drive := some (.oneDrive binding.identity) } := by
  unfold OneDrive.MirrorGuardBinding.fromConnection at h
  split at h
  · rename_i options hmode
    dsimp only at h
    split_ifs at h with hengine
    · cases h
    obtain ⟨⟨⟩, -, h⟩ := Result.bind_eq_ok h
    obtain ⟨⟨⟩, -, h⟩ := Result.bind_eq_ok h
    split at h
    · rename_i identity hidentity
      obtain rfl := Except.ok.inj h
      push Not at hengine
      have hidentity := (Option.filter_eq_some_iff.mp hidentity).1
      simp [Connection.target, hmode, hengine.1, hidentity]
    · cases h
  · cases h

theorem SharePoint.MirrorGuardBinding.text_injective :
    Function.Injective fun binding : SharePoint.MirrorGuardBinding ↦ binding.json.text := by
  intro b b' h
  have hjson := Json.Value.text_injective h
  simp only [json, Json.object, List.foldr_cons, List.foldr_nil, Json.Value.object.injEq,
    Json.Fields.cons.injEq, Json.Value.string.injEq, true_and, and_true] at hjson
  obtain ⟨hid, hname, hsubpath, hlocal, hrecovery, hdrive, hsite, hlibrary⟩ := hjson
  cases b
  cases b'
  simp_all [Uuid.ext_iff]

theorem OneDrive.serialized_injective : Function.Injective OneDriveDriveType.serialized := by
  intro a b h
  cases a <;> cases b <;> first | rfl | exact absurd h (by decide)

theorem Json.optional_injective : Function.Injective Json.optional := by
  intro a b h
  cases a <;> cases b <;> simp_all [Json.optional]

theorem OneDrive.MirrorGuardBinding.text_injective :
    Function.Injective fun binding : OneDrive.MirrorGuardBinding ↦ binding.json.text := by
  intro b b' h
  have hjson := Json.Value.text_injective h
  simp only [json, Json.object, List.foldr_cons, List.foldr_nil, Json.Value.object.injEq,
    Json.Fields.cons.injEq, Json.Value.string.injEq, true_and, and_true] at hjson
  obtain ⟨hid, hname, hsubpath, hlocal, hrecovery, hdrive, htype⟩ := hjson
  have hid : b.connectionId = b'.connectionId := Uuid.ext hid
  have hsubpath := Json.optional_injective hsubpath
  have hidentity : b.identity = b'.identity := by
    have htype := OneDrive.serialized_injective htype
    cases hb : b.identity
    cases hb' : b'.identity
    simp_all
  cases b
  cases b'
  simp_all

/-- The two kinds of bindings have different texts: the sixth field differs. -/
theorem text_ne (b : SharePoint.MirrorGuardBinding) (b' : OneDrive.MirrorGuardBinding) :
    b.json.text ≠ b'.json.text := by
  intro h
  have hjson := Json.Value.text_injective h
  simp [SharePoint.MirrorGuardBinding.json, OneDrive.MirrorGuardBinding.json, Json.object] at hjson

/-! ## Work directories -/

/-- What is relied on of the digest: it has no separator, being written in
hexadecimal, and these texts have different ones. -/
structure Externals.Digests (ext : Externals) (texts : Set String) : Prop where
  noSlash : ∀ text, '/' ∉ (ext.sha256Hex text).toList
  collisionFree : Set.InjOn ext.sha256Hex texts

/-- The texts that stand for the targets of a connection. -/
def targetTexts (ext : Externals) (connection : Connection) : Set String :=
  {text | encodedTarget ext connection = .ok (some text)}

variable {ext : Externals} {connection connection' : Connection} {workRoot : String}
  {plan plan' : RcloneBisyncPlan}

theorem mapError_eq_ok {ε ε' α : Type} {f : ε → ε'} {x : Except ε α} {a : α}
    (h : x.mapError f = .ok a) : x = .ok a := by
  cases x with
  | error e => cases h
  | ok b => exact congrArg Except.ok (Except.ok.inj h)

/-- A bound target is named by one of the two bindings. -/
theorem encodedTarget_eq_some {text : String}
    (h : encodedTarget ext connection = .ok (some text)) :
    (∃ binding, SharePoint.MirrorGuardBinding.fromConnection ext connection = .ok binding ∧
      binding.json.text = text) ∨
    ∃ binding, OneDrive.MirrorGuardBinding.fromConnection connection = .ok binding ∧
      binding.json.text = text := by
  unfold encodedTarget at h
  split at h
  · obtain ⟨binding, hbinding, htext⟩ := Result.map_eq_ok h
    exact .inl ⟨binding, mapError_eq_ok hbinding, Option.some.inj htext⟩
  · split_ifs at h
    · obtain ⟨binding, hbinding, htext⟩ := Result.map_eq_ok h
      exact .inr ⟨binding, mapError_eq_ok hbinding, Option.some.inj htext⟩
    · cases h
  · cases h

theorem target_eq_of_text {text : String} (h : encodedTarget ext connection = .ok (some text))
    (h' : encodedTarget ext connection' = .ok (some text)) :
    connection.target = connection'.target := by
  rcases encodedTarget_eq_some h with ⟨b, hb, rfl⟩ | ⟨b, hb, rfl⟩ <;>
    rcases encodedTarget_eq_some h' with ⟨b', hb', htext⟩ | ⟨b', hb', htext⟩
  · obtain rfl := SharePoint.MirrorGuardBinding.text_injective htext
    rw [SharePoint.fromConnection_target hb, SharePoint.fromConnection_target hb']
  · exact absurd htext.symm (text_ne b b')
  · exact absurd htext (text_ne b' b)
  · obtain rfl := OneDrive.MirrorGuardBinding.text_injective htext
    rw [OneDrive.fromConnection_target hb, OneDrive.fromConnection_target hb']

/-- Exactly the bound providers have a text for their target. -/
theorem isSome_encodedTarget {encoded : Option String}
    (h : encodedTarget ext connection = .ok encoded) (hprovider : validateProvider connection = .ok ()) :
    encoded.isSome = connection.hasBoundTarget := by
  unfold encodedTarget at h
  unfold validateProvider at hprovider
  unfold Connection.hasBoundTarget
  split at h
  · rename_i hteams
    obtain ⟨binding, -, rfl⟩ := Result.map_eq_ok h
    simp [hteams]
  · rename_i honedrive
    rw [honedrive] at hprovider
    split_ifs at h with hengine
    · obtain ⟨binding, -, rfl⟩ := Result.map_eq_ok h
      simp [honedrive]
    · simp [hengine] at hprovider
  · rename_i hteams honedrive
    obtain rfl := Except.ok.inj h
    simpa using ⟨hteams, honedrive⟩

theorem isName_targetName {texts : Set String} (hdigests : ext.Digests texts) (text : String) :
    Path.IsName (targetName ext text) := by
  have htext : (targetName ext text).toList =
      't' :: ("arget-".toList ++ (ext.sha256Hex text).toList) := by
    rw [targetName, String.toList_append]
    rfl
  refine ⟨?_, ?_, ?_, ?_⟩
  · rw [htext, List.mem_cons, List.mem_append]
    rintro (h | h | h)
    · exact absurd h (by decide)
    · exact absurd h (by decide)
    · exact hdigests.noSlash _ h
  all_goals
    intro heq
    have hhead := congrArg List.head? htext
    rw [heq] at hhead
    simp at hhead

/-- Joining a name keeps different directories apart. -/
theorem same_join_iff {name a b : String} (h : Path.IsName name) :
    Path.Same (Path.join a name) (Path.join b name) ↔ Path.Same a b := by
  simp [Path.Same, Path.components_join h]

theorem separateBaselines_of_workDirectory {connection connection' : Connection}
    (h : Planned ext connection workRoot plan) (h' : Planned ext connection' workRoot plan') :
    SeparateBaselines plan plan' ↔ ¬Path.Same plan.workDirectory plan'.workDirectory := by
  constructor
  · exact SeparateBaselines.workDirectory
  · intro hne
    refine ⟨hne, ?_, ?_, ?_⟩
    · rwa [initialPreviewMarker, initialPreviewMarker, same_join_iff (by decide)]
    · rwa [initialSyncMarker, initialSyncMarker, same_join_iff (by decide)]
    · rwa [h.filtersFile, h'.filtersFile, same_join_iff (by decide)]

/-- Two work directories of one connection are the same exactly when neither
is named after a target, or both are named after digests that agree. -/
theorem same_workDirectoryFor_iff {id : ConnectionId} {texts : Set String}
    (hdigests : ext.Digests texts) (encoded encoded' : Option String) :
    Path.Same (workDirectoryFor ext workRoot id encoded) (workDirectoryFor ext workRoot id encoded') ↔
      encoded.map ext.sha256Hex = encoded'.map ext.sha256Hex := by
  have hname := isName_targetName hdigests
  cases encoded with
  | none =>
      cases encoded' with
      | none => simp [Path.Same]
      | some text' => simp [Path.Same, workDirectoryFor, Path.components_join (hname text')]
  | some text =>
      cases encoded' with
      | none => simp [Path.Same, workDirectoryFor, Path.components_join (hname text)]
      | some text' =>
          have hdigest : targetName ext text = targetName ext text' ↔
              ext.sha256Hex text = ext.sha256Hex text' := by simp [targetName]
          simp [Path.Same, workDirectoryFor, Path.components_join (hname text),
            Path.components_join (hname text'), hdigest]

/-- Edited targets have separate baselines exactly where one of them is bound. -/
theorem separateBaselines_iff (hid : connection.id = connection'.id)
    (hplan : rcloneBisyncPlan ext connection workRoot = .ok plan)
    (hplan' : rcloneBisyncPlan ext connection' workRoot = .ok plan')
    (hedited : connection.target ≠ connection'.target)
    (hdigests : ext.Digests (targetTexts ext connection ∪ targetTexts ext connection')) :
    SeparateBaselines plan plan' ↔
      connection.hasBoundTarget = true ∨ connection'.hasBoundTarget = true := by
  have h := planned hplan
  have h' := planned hplan'
  obtain ⟨encoded, hencoded, hwork⟩ := h.workDirectory
  obtain ⟨encoded', hencoded', hwork'⟩ := h'.workDirectory
  rw [separateBaselines_of_workDirectory h h', hwork, hwork', ← hid,
    same_workDirectoryFor_iff hdigests, ← isSome_encodedTarget hencoded h.provider,
    ← isSome_encodedTarget hencoded' h'.provider]
  cases encoded with
  | none => cases encoded' <;> simp
  | some text =>
      cases encoded' with
      | none => simp
      | some text' =>
          simp only [Option.map_some, Option.some.injEq, Option.isSome_some, true_or, iff_true]
          intro hdigest
          have htext := hdigests.collisionFree (.inl hencoded) (.inr hencoded') hdigest
          subst htext
          exact hedited (target_eq_of_text hencoded hencoded')

/-! ## A drive with two folders -/

def sampleDriveMirror (folder : String) : Connection :=
  { sampleMirror .onedrive (some folder) with
    mode := .offlineMirror { engine := some .rclone, recoveryDirectory := "/home/u/recovery" }
    onedriveIdentity := some ⟨"drive1", .personal⟩ }

def sampleBinding (folder : String) : OneDrive.MirrorGuardBinding where
  connectionId := sampleId
  remoteName := "engr"
  remoteSubpath := some folder
  localPath := "/home/u/Cloud"
  recoveryDirectory := "/home/u/recovery"
  identity := ⟨"drive1", .personal⟩

@[irreducible] def sampleText (folder : String) : String := (sampleBinding folder).json.text

def projectsDigest : String := "965a41678ec173dd114bce2f07f782e2b6270266268b2df0f1486521e4bb89fa"

def archiveDigest : String := "a3efabb56dee9319b2949ae0438fd75d207bec14742144e2d2463c94c9d77bd8"

def emptyDigest : String := "e3b0c44298fc1c149afbf4c8996fb92427ae41e4649b934ca495991b7852b855"

/-- The SHA-256 digests of the two bindings, and that of the empty text elsewhere. -/
@[irreducible] def sampleDigest (text : String) : String :=
  if text = sampleText "Projects" then projectsDigest
  else if text = sampleText "Archive" then archiveDigest
  else emptyDigest

def sampleDriveExternals : Externals := { sampleExternals with sha256Hex := sampleDigest }

theorem sampleText_ne : sampleText "Archive" ≠ sampleText "Projects" := by
  unfold sampleText
  exact OneDrive.MirrorGuardBinding.text_injective.ne (by decide)

theorem sampleDigest_projects : sampleDigest (sampleText "Projects") = projectsDigest := by
  rw [sampleDigest, if_pos rfl]

theorem sampleDigest_archive : sampleDigest (sampleText "Archive") = archiveDigest := by
  rw [sampleDigest, if_neg sampleText_ne, if_pos rfl]

theorem sampleDigests :
    sampleDriveExternals.Digests {sampleText "Projects", sampleText "Archive"} := by
  have hdigests : projectsDigest ≠ archiveDigest := by decide +kernel
  constructor
  · intro text
    change '/' ∉ (sampleDigest text).toList
    rw [sampleDigest]
    split_ifs <;> decide +kernel
  · rintro text (rfl | rfl) text' (rfl | rfl) h
    · rfl
    · exact absurd (sampleDigest_projects.symm.trans (h.trans sampleDigest_archive)) hdigests
    · exact absurd (sampleDigest_projects.symm.trans (h.symm.trans sampleDigest_archive)) hdigests
    · rfl

theorem encodedTarget_projects : encodedTarget sampleDriveExternals (sampleDriveMirror "Projects") =
    .ok (some (sampleText "Projects")) := by
  unfold sampleText encodedTarget
  rfl

theorem encodedTarget_archive : encodedTarget sampleDriveExternals (sampleDriveMirror "Archive") =
    .ok (some (sampleText "Archive")) := by
  unfold sampleText encodedTarget
  rfl

theorem targetTexts_sample :
    targetTexts sampleDriveExternals (sampleDriveMirror "Projects") ∪
      targetTexts sampleDriveExternals (sampleDriveMirror "Archive") =
      {sampleText "Projects", sampleText "Archive"} := by
  ext text
  simp only [targetTexts, encodedTarget_projects, encodedTarget_archive, Set.mem_union,
    Set.mem_ofPred_eq, Except.ok.injEq, Option.some.injEq, Set.mem_insert_iff,
    Set.mem_singleton_iff, eq_comm]

/-- Two folders of one drive: their mirrors have separate baselines. -/
theorem separateBaselines_iff_sample :
    ∃ plan plan',
      rcloneBisyncPlan sampleDriveExternals (sampleDriveMirror "Projects") "/state" = .ok plan ∧
      rcloneBisyncPlan sampleDriveExternals (sampleDriveMirror "Archive") "/state" = .ok plan' ∧
      SeparateBaselines plan plan' := by
  obtain ⟨plan, hplan⟩ : ∃ plan, rcloneBisyncPlan sampleDriveExternals
      (sampleDriveMirror "Projects") "/state" = .ok plan := ⟨_, rfl⟩
  obtain ⟨plan', hplan'⟩ : ∃ plan', rcloneBisyncPlan sampleDriveExternals
      (sampleDriveMirror "Archive") "/state" = .ok plan' := ⟨_, rfl⟩
  have hid : (sampleDriveMirror "Projects").id = (sampleDriveMirror "Archive").id := rfl
  have hedited : (sampleDriveMirror "Projects").target ≠ (sampleDriveMirror "Archive").target := by
    intro h
    exact absurd (congrArg Target.remoteSubpath h) (by decide)
  have hbound : (sampleDriveMirror "Projects").hasBoundTarget = true := rfl
  refine ⟨plan, plan', hplan, hplan',
    (separateBaselines_iff hid hplan hplan' hedited ?_).mpr (.inl hbound)⟩
  rw [targetTexts_sample]
  exact sampleDigests

/-- A Box mirror that is pointed at another folder keeps the baseline of the first. -/
theorem retargeted_mirror_keeps_baseline :
    ∃ plan plan',
      rcloneBisyncPlan sampleExternals (sampleMirror .box (some "Projects")) "/state" = .ok plan ∧
      rcloneBisyncPlan sampleExternals (sampleMirror .box (some "Archive")) "/state" = .ok plan' ∧
      (sampleMirror .box (some "Projects")).target ≠ (sampleMirror .box (some "Archive")).target ∧
      ¬SeparateBaselines plan plan' := by
  obtain ⟨plan, hplan⟩ : ∃ plan, rcloneBisyncPlan sampleExternals
      (sampleMirror .box (some "Projects")) "/state" = .ok plan := ⟨_, rfl⟩
  obtain ⟨plan', hplan'⟩ : ∃ plan', rcloneBisyncPlan sampleExternals
      (sampleMirror .box (some "Archive")) "/state" = .ok plan' := ⟨_, rfl⟩
  refine ⟨plan, plan', hplan, hplan', by decide, ?_⟩
  obtain ⟨_, hencoded, hwork⟩ := (planned hplan).workDirectory
  obtain ⟨_, hencoded', hwork'⟩ := (planned hplan').workDirectory
  obtain rfl := Except.ok.inj hencoded
  obtain rfl := Except.ok.inj hencoded'
  intro hseparate
  exact hseparate.workDirectory (by rw [hwork, hwork']; rfl)

end CosmicMounter

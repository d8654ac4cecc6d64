import CosmicMounter.Config.Directories
import CosmicMounter.Import.Preview

/-!
# Conflicts that a preview does not show

The preview compares the target as it is written with the local paths as they
are written.  Validation normalizes both, and keeps the target away from the
recovery directories of rclone OneDrive mirrors as well.
-/

namespace CosmicMounter.Import

open Rust Config

/-! ## Reported conflicts -/

def ReportsConflict (ext : Externals) (config : Config) : Prop :=
  ∃ reported first second firstPath secondPath, validate ext config = .error reported ∧
    .conflictingTargets first second firstPath secondPath ∈ reported

/-- The directories that are compared with each other. -/
def comparedTargets (connections : List Connection) : List Config.Target :=
  connections.flatMap fun connection ↦ (validateDirectories connection).2

theorem reportsConflict_iff {ext : Externals} {config : Config} :
    ReportsConflict ext config ↔
      conflicts (rcloneOneDriveIds config.document) (comparedTargets config.document.connections) ≠ [] := by
  constructor
  · rintro ⟨reported, first, second, firstPath, secondPath, hinvalid, hmem⟩
    rw [validate, resultOf] at hinvalid
    split_ifs at hinvalid
    obtain rfl := Except.error.inj hinvalid
    exact List.ne_nil_of_mem (mem_errors_of_isConflict hmem rfl)
  · intro hne
    obtain ⟨error, rest, hcons⟩ := List.exists_cons_of_ne_nil hne
    have hmem : error ∈ conflicts (rcloneOneDriveIds config.document)
        (comparedTargets config.document.connections) := hcons ▸ List.mem_cons_self
    have herror : error ∈ errors ext config := by
      simp only [errors, targets_eq]
      exact List.mem_append_right _ hmem
    obtain ⟨first, -, second, -, hconflict⟩ := mem_conflicts hmem
    dsimp only [conflict] at hconflict
    split_ifs at hconflict
    obtain rfl := Option.some.inj hconflict
    refine ⟨errors ext config, _, _, _, _, ?_, herror⟩
    rw [validate, resultOf, if_neg]
    rw [List.isEmpty_iff]
    exact List.ne_nil_of_mem herror

theorem conflicts_append_singleton {ids : List ConnectionId} {targets : List Config.Target} {target : Config.Target} :
    conflicts ids (targets ++ [target]) = [] ↔
      conflicts ids targets = [] ∧ ∀ other ∈ targets, conflict ids other target = none := by
  induction targets with
  | nil => simp [conflicts]
  | cons first rest ih =>
      simp only [List.cons_append, conflicts, List.append_eq_nil_iff, List.filterMap_append, ih,
        List.forall_mem_cons, List.filterMap_eq_nil_iff, List.mem_singleton, forall_eq]
      tauto

/-- A directory against the local path of another connection. -/
theorem conflict_local_eq_none_iff {ids : List ConnectionId} {target : Config.Target} {id : ConnectionId} (path : String)
    (hne : target.id ≠ id) :
    conflict ids target ⟨id, path, true⟩ = none ↔
      (target.isLocal = true ∨ target.id ∈ ids ∨ id ∈ ids → Config.pathsOverlap target.path path = false) := by
  rw [← or_assoc]
  simp [conflict, hne]

/-! ## The preview -/

section Preview

variable {id : ConnectionId} {unit : LegacyUnit} {existing : List Connection} {activeUnits : List String}
  {home : String} {backends : List (String × Provider)} {preview : ImportPreview}

theorem previewImport_eq_ok
    (h : previewImport id unit existing activeUnits home backends = .ok preview) :
    ∃ parsed, preview.connection = legacyConnection id unit parsed ∧
      preview.localTarget = parsed.localTarget ∧
      preview.localTargetConflict = existing.any fun connection ↦
        pathsOverlap connection.localPath parsed.localTarget := by
  unfold previewImport at h
  obtain ⟨engine, -, h⟩ := Rust.Result.bind_eq_ok h
  cases engine with
  | rcloneMount =>
      obtain ⟨parsed, -, h⟩ := Rust.Result.bind_eq_ok h
      obtain rfl := Except.ok.inj h
      exact ⟨parsed, rfl, rfl, rfl⟩
  | onedriver =>
      obtain ⟨parsed, -, h⟩ := Rust.Result.bind_eq_ok h
      obtain rfl := Except.ok.inj h
      exact ⟨parsed, rfl, rfl, rfl⟩

theorem comparedTargets_legacyConnection (id : ConnectionId) (unit : LegacyUnit)
    (parsed : ParsedLegacyConnection) :
    comparedTargets [legacyConnection id unit parsed] =
      (normalizeAbsolute parsed.localTarget).toList.map fun path ↦ ⟨id, path, true⟩ := by
  simp only [comparedTargets, List.flatMap_cons, List.flatMap_nil, List.append_nil, validateDirectories,
    legacyConnection]
  cases normalizeAbsolute parsed.localTarget <;> rfl

/-- Paths without a `..` overlap as they are written. -/
theorem pathsOverlap_normalized {first second firstPath secondPath : String}
    (hfirst : normalizeAbsolute first = some firstPath) (hsecond : normalizeAbsolute second = some secondPath)
    (hfirstParent : .parentDir ∉ Path.components first) (hsecondParent : .parentDir ∉ Path.components second) :
    Config.pathsOverlap firstPath secondPath = pathsOverlap first second := by
  have hcomponents : ∀ {path normalized : String}, normalizeAbsolute path = some normalized →
      .parentDir ∉ Path.components path → Path.components normalized = Path.components path := by
    intro path normalized hnormalized hparent
    obtain ⟨normalized', hnormalized', hequal⟩ :=
      components_normalized (normalizeAbsolute_eq_some hnormalized).1 hparent
    obtain rfl := Option.some.inj (hnormalized.symm.trans hnormalized')
    exact hequal
  have hwritten : pathsOverlap first second = Config.pathsOverlap first second := rfl
  rw [hwritten, Bool.eq_iff_iff, pathsOverlap_iff, pathsOverlap_iff, hcomponents hfirst hfirstParent,
    hcomponents hsecond hsecondParent]

end Preview

/-! ## What the preview leaves out -/

/-- The target is apart from a connection where the preview does not look: where
one of the paths has a `..`, and from the recovery directory of an rclone OneDrive mirror. -/
structure KeepsApart (target : String) (connection : Connection) : Prop where
  spelled : .parentDir ∈ Path.components target ∨ .parentDir ∈ Path.components connection.localPath →
    ∀ path ∈ normalizeAbsolute target, ∀ localPath ∈ normalizeAbsolute connection.localPath,
      Config.pathsOverlap localPath path = false
  recovery : isRcloneOneDrive connection = true → ∀ options, connection.mode = .offlineMirror options →
    ∀ path ∈ normalizeAbsolute target, ∀ directory ∈ normalizeAbsolute options.recoveryDirectory,
      Config.pathsOverlap directory path = false

def withConnection (config : Config) (connection : Connection) : Config :=
  ⟨{ config.document with connections := config.document.connections ++ [connection] }⟩

section Conflict

variable {ext : Externals} {config : Config} {id : ConnectionId} {unit : LegacyUnit}
  {parsed : ParsedLegacyConnection}

/-- Only pairs with the new connection are compared anew. -/
theorem reportsConflict_withConnection (hvalid : validate ext config = .ok ()) :
    ReportsConflict ext (withConnection config (legacyConnection id unit parsed)) ↔
      ∃ path ∈ normalizeAbsolute parsed.localTarget, ∃ target ∈ comparedTargets config.document.connections,
        conflict (rcloneOneDriveIds config.document) target ⟨id, path, true⟩ ≠ none := by
  have hids : rcloneOneDriveIds (withConnection config (legacyConnection id unit parsed)).document =
      rcloneOneDriveIds config.document := by
    have hmount : isRcloneOneDrive (legacyConnection id unit parsed) = false := Bool.and_false _
    simp [rcloneOneDriveIds, withConnection, hmount]
  have htargets : comparedTargets (withConnection config (legacyConnection id unit parsed)).document.connections =
      comparedTargets config.document.connections ++
        (normalizeAbsolute parsed.localTarget).toList.map fun path ↦ ⟨id, path, true⟩ := by
    rw [← comparedTargets_legacyConnection id unit]
    exact List.flatMap_append
  have hbefore : conflicts (rcloneOneDriveIds config.document)
      (comparedTargets config.document.connections) = [] := (errors_eq_nil (validate_eq_ok.mp hvalid)).2.2
  rw [reportsConflict_iff, hids, htargets]
  cases hpath : normalizeAbsolute parsed.localTarget with
  | none => simpa using hbefore
  | some path =>
      rw [Option.toList_some, List.map_singleton, ne_eq, conflicts_append_singleton, not_and]
      simp only [Option.mem_def, Option.some.injEq, exists_eq_left', not_forall, exists_prop]
      exact ⟨fun h ↦ h hbefore, fun h _ ↦ h⟩

theorem keepsApart_of_not_reportsConflict (hvalid : validate ext config = .ok ())
    (hfresh : ∀ connection ∈ config.document.connections, connection.id ≠ id)
    (h : ¬ReportsConflict ext (withConnection config (legacyConnection id unit parsed))) :
    ∀ connection ∈ config.document.connections, KeepsApart parsed.localTarget connection := by
  rw [reportsConflict_withConnection hvalid] at h
  push Not at h
  intro connection hmem
  have hsafe := (validate_spec ext config).1 hvalid
  obtain ⟨localPath, hlocal, -⟩ := hsafe.localPath connection hmem
  have hnone (path : String) (hpath : path ∈ normalizeAbsolute parsed.localTarget) (target : Config.Target)
      (htarget : target ∈ (validateDirectories connection).2) :=
    h path hpath target (List.mem_flatMap_of_mem hmem htarget)
  refine ⟨?_, ?_⟩
  · intro _ path hpath localPath' hlocal'
    obtain rfl := Option.some.inj (hlocal.symm.trans hlocal')
    have hconflict := hnone path hpath _ (exists_localTarget hlocal)
    exact (conflict_local_eq_none_iff path (hfresh connection hmem)).mp hconflict (.inl rfl)
  · intro hmirror options hmode path hpath directory hdirectory
    have hmemDirectories : directory ∈ directories connection := by
      rw [directories, hmode]
      exact List.mem_append_right _ (Option.mem_toList.mpr hdirectory)
    obtain ⟨target, htarget, hid, rfl⟩ := exists_target hlocal hmemDirectories
    have hne : target.id ≠ id := hid ▸ hfresh connection hmem
    have hrclone : target.id ∈ rcloneOneDriveIds config.document :=
      mem_rcloneOneDriveIds.mpr ⟨connection, hmem, hid.symm, hmirror⟩
    have hconflict := hnone path hpath target htarget
    exact (conflict_local_eq_none_iff path hne).mp hconflict (.inr (.inl hrclone))

theorem not_reportsConflict_of_keepsApart (hvalid : validate ext config = .ok ())
    (hfresh : ∀ connection ∈ config.document.connections, connection.id ≠ id)
    (hflag : ∀ connection ∈ config.document.connections,
      pathsOverlap connection.localPath parsed.localTarget = false)
    (h : ∀ connection ∈ config.document.connections, KeepsApart parsed.localTarget connection) :
    ¬ReportsConflict ext (withConnection config (legacyConnection id unit parsed)) := by
  rw [reportsConflict_withConnection hvalid]
  push Not
  intro path hpath target htarget
  obtain ⟨connection, hmem, htarget⟩ := List.mem_flatMap.mp htarget
  obtain ⟨hid, hdirectory, hlocalOnly⟩ := mem_targets htarget
  have hsafe := (validate_spec ext config).1 hvalid
  obtain ⟨localPath, hlocal, -⟩ := hsafe.localPath connection hmem
  have hne : target.id ≠ id := hid ▸ hfresh connection hmem
  -- The local path is apart from the target whether or not one of them has a `..`.
  have hapart : Config.pathsOverlap localPath path = false := by
    by_cases hparent : .parentDir ∈ Path.components parsed.localTarget ∨
        .parentDir ∈ Path.components connection.localPath
    · exact (h connection hmem).spelled hparent path hpath localPath hlocal
    · push Not at hparent
      rw [pathsOverlap_normalized hlocal hpath hparent.2 hparent.1]
      exact hflag connection hmem
  rw [conflict_local_eq_none_iff path hne]
  intro hcheck
  by_cases hself : target.path = localPath
  · rw [hself]
    exact hapart
  · have hnotLocal : target.isLocal ≠ true := fun hlocalTarget ↦
      hself (Option.some.inj ((hlocalOnly hlocalTarget).symm.trans hlocal))
    have hnew : id ∉ rcloneOneDriveIds config.document := by
      intro hmemId
      obtain ⟨mirror, hmirror, hmirrorId, -⟩ := mem_rcloneOneDriveIds.mp hmemId
      exact hfresh mirror hmirror hmirrorId
    rcases hcheck with hlocalTarget | hrclone | hrclone
    · exact absurd hlocalTarget hnotLocal
    · obtain ⟨mirror, hmirror, hmirrorId, hisRclone⟩ := mem_rcloneOneDriveIds.mp hrclone
      obtain rfl : mirror = connection :=
        List.inj_on_of_nodup_map hsafe.connectionIds hmirror hmem (hmirrorId.trans hid)
      rw [directories, hlocal, List.mem_append] at hdirectory
      rcases hdirectory with hown | hrecovery
      · exact absurd (by simpa using hown) hself
      · cases hmode : mirror.mode with
        | onlineMount options =>
            rw [hmode] at hrecovery
            cases hrecovery
        | offlineMirror options =>
            rw [hmode] at hrecovery
            exact (h mirror hmem).recovery hisRclone options hmode path hpath _ (Option.mem_toList.mp hrecovery)
    · exact absurd hrclone hnew

variable {activeUnits : List String} {home : String} {backends : List (String × Provider)}
  {preview : ImportPreview}

/-- Where the preview shows no conflict of targets, adding its connection makes
validation report one unless the target keeps apart from the others where the
preview does not look. -/
theorem not_reportsConflict_iff (hvalid : validate ext config = .ok ())
    (hfresh : ∀ connection ∈ config.document.connections, connection.id ≠ id)
    (hpreview : previewImport id unit config.document.connections activeUnits home backends = .ok preview)
    (hflag : preview.localTargetConflict = false) :
    ¬ReportsConflict ext (withConnection config preview.connection) ↔
      ∀ connection ∈ config.document.connections, KeepsApart preview.localTarget connection := by
  obtain ⟨parsed, hconnection, htarget, hconflict⟩ := previewImport_eq_ok hpreview
  rw [hconflict, List.any_eq_false] at hflag
  rw [hconnection, htarget]
  constructor
  · exact keepsApart_of_not_reportsConflict hvalid hfresh
  · exact not_reportsConflict_of_keepsApart hvalid hfresh fun connection hmem ↦ by
      simpa using hflag connection hmem

end Conflict

/-! ## Samples -/

/-- A service that mounts a remote of Box below the home directory. -/
def sampleUnit (target : String) : LegacyUnit where
  path := "/home/u/.config/systemd/user/box.service"
  name := "box.service"
  description := none
  installWantedBy := ["default.target"]
  execStart := ["/usr/bin/rclone", "mount", "box:", target]
  unsupportedOptions := []

def samplePreview (target : String) : Except ImportError ImportPreview :=
  previewImport otherId (sampleUnit target) [sampleMirror .box none] [] "/home/u" [("box", .box)]

def sampleConnection (target : String) : Connection where
  id := otherId
  name := "box"
  provider := .box
  mode := .onlineMount { startAtLogin := true }
  remoteReference := "box"
  localPath := target

/-- A target spelled with a `..` is the local path of another connection. -/
theorem preview_misses_conflict :
    validate sampleExternals (sampleConfig [sampleMirror .box none]) = .ok () ∧
      ∃ preview, samplePreview "%h/Documents/../Cloud" = .ok preview ∧ preview.localTargetConflict = false ∧
        ReportsConflict sampleExternals
          (withConnection (sampleConfig [sampleMirror .box none]) preview.connection) := by
  have hread : (samplePreview "%h/Documents/../Cloud").toOption.map
      (fun preview ↦ (preview.localTargetConflict, preview.connection)) =
        some (false, sampleConnection "/home/u/Documents/../Cloud") := by
    decide +kernel
  have hreported : ReportsConflict sampleExternals (withConnection (sampleConfig [sampleMirror .box none])
      (sampleConnection "/home/u/Documents/../Cloud")) := by
    refine ⟨[.conflictingTargets sampleId otherId "/home/u/Cloud" "/home/u/Cloud"], _, _, _, _, ?_,
      List.mem_singleton_self _⟩
    decide +kernel
  refine ⟨by decide +kernel, ?_⟩
  cases h : samplePreview "%h/Documents/../Cloud" with
  | error e =>
      rw [h] at hread
      cases hread
  | ok preview =>
      rw [h] at hread
      obtain ⟨hflag, hconnection⟩ := Prod.mk.inj (Option.some.inj hread)
      exact ⟨preview, rfl, hflag, hconnection ▸ hreported⟩

theorem not_reportsConflict_iff_sample :
    ∃ preview, samplePreview "%h/Box" = .ok preview ∧ preview.localTargetConflict = false ∧
      ¬ReportsConflict sampleExternals
        (withConnection (sampleConfig [sampleMirror .box none]) preview.connection) := by
  have hread : (samplePreview "%h/Box").toOption.map
      (fun preview ↦ (preview.localTargetConflict, preview.localTarget)) = some (false, "/home/u/Box") := by
    decide +kernel
  have hvalid : validate sampleExternals (sampleConfig [sampleMirror .box none]) = .ok () := by decide +kernel
  have hfresh : ∀ connection ∈ (sampleConfig [sampleMirror .box none]).document.connections,
      connection.id ≠ otherId := by
    decide +kernel
  have hkept : ∀ connection ∈ (sampleConfig [sampleMirror .box none]).document.connections,
      KeepsApart "/home/u/Box" connection := by
    intro connection hmem
    obtain rfl := List.mem_singleton.mp hmem
    exact ⟨fun hparent ↦ absurd hparent (by decide +kernel), fun hmirror ↦ absurd hmirror (by decide)⟩
  cases h : samplePreview "%h/Box" with
  | error e =>
      rw [h] at hread
      cases hread
  | ok preview =>
      rw [h] at hread
      obtain ⟨hflag, htarget⟩ := Prod.mk.inj (Option.some.inj hread)
      exact ⟨preview, rfl, hflag, (not_reportsConflict_iff hvalid hfresh h hflag).mpr (htarget ▸ hkept)⟩

end CosmicMounter.Import

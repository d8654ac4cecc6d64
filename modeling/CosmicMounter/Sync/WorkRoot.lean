import CosmicMounter.Config.Directories

/-!
# The work root of a mirror

The planner compares the directories of a mirror as they are spelled, while
the configuration normalizes them first.  The two tests differ on paths
through `..`.
-/

namespace CosmicMounter

open Rust Config

/-- The mirror, the work root and the local recovery directory are three
places once every `..` is resolved. -/
def AreApart (plan : RcloneBisyncPlan) (workRoot : String) : Prop :=
  ∃ mirror work recovery, normalizeAbsolute plan.path2Local = some mirror ∧
    normalizeAbsolute workRoot = some work ∧
    normalizeAbsolute plan.recoveryDirectory = some recovery ∧
    Config.pathsOverlap mirror work = false ∧ Config.pathsOverlap mirror recovery = false ∧
    Config.pathsOverlap work recovery = false

/-- The path is spelled without a `..`. -/
def IsDirect (path : String) : Prop := .parentDir ∉ Path.components path

instance (path : String) : Decidable (IsDirect path) := inferInstanceAs (Decidable (¬_))

section

variable {ext : Externals} {config : Config} {connection : Connection} {workRoot : String}
  {plan : RcloneBisyncPlan}

/-- The mirror of a plan in a valid configuration has its two directories apart. -/
theorem exists_directories (hvalid : validate ext config = .ok ())
    (hmem : connection ∈ config.document.connections)
    (hplan : rcloneBisyncPlan ext connection workRoot = .ok plan) :
    ∃ mirror recovery, normalizeAbsolute plan.path2Local = some mirror ∧
      normalizeAbsolute plan.recoveryDirectory = some recovery ∧
      Config.pathsOverlap mirror recovery = false := by
  have hsafe := safeDirectories_of_errors_nil (validate_eq_ok.mp hvalid)
  have hplanned := planned hplan
  obtain ⟨options, hmode, -, hrecovery, -⟩ := hplanned.options
  obtain ⟨mirror, hmirror, -, -⟩ := hsafe.localPath connection hmem
  obtain ⟨recovery, hnormalized, -, hapart⟩ := hsafe.recovery connection hmem options hmode
  refine ⟨mirror, recovery, ?_, ?_, hapart mirror hmirror⟩
  · rw [hplanned.path2Local]
    exact hmirror
  · rw [hrecovery]
    exact hnormalized

/-- The exception for the retired engine does not concern a planned mirror. -/
theorem directoriesBesideWork_eq (hplan : rcloneBisyncPlan ext connection workRoot = .ok plan) :
    directoriesBesideWork workRoot connection = [plan.path2Local, plan.recoveryDirectory] := by
  have hplanned := planned hplan
  obtain ⟨options, hmode, -, hrecovery, -⟩ := hplanned.options
  have hengine : connection.offlineEngine ≠ some .legacyOnedrive := by
    intro hlegacy
    have hsupported := hplanned.engine
    rw [Connection.ensureSupportedEngine, hlegacy] at hsupported
    cases hsupported
  have hhistoric : isHistoricLegacyRecovery workRoot connection options = false := by
    simp [isHistoricLegacyRecovery, hengine]
  rw [directoriesBesideWork, hmode, hplanned.path2Local, hrecovery]
  simp [hhistoric]

theorem workRootIsInvalid_iff {mirror recovery : String}
    (hplan : rcloneBisyncPlan ext connection workRoot = .ok plan)
    (hmirror : normalizeAbsolute plan.path2Local = some mirror)
    (hrecovery : normalizeAbsolute plan.recoveryDirectory = some recovery) :
    workRootIsInvalid workRoot connection = false ↔
      ∃ work, normalizeAbsolute workRoot = some work ∧ Config.pathsOverlap mirror work = false ∧
        Config.pathsOverlap work recovery = false := by
  rw [workRootIsInvalid, directoriesBesideWork_eq hplan]
  cases hwork : normalizeAbsolute workRoot with
  | none => simp
  | some work =>
      simp [hmirror, hrecovery, pathsOverlap_comm mirror work]

/-- Spelled without `..`, the paths overlap exactly when they do normalized. -/
theorem pathsOverlap_of_isDirect {first second firstNormalized secondNormalized : String}
    (hfirst : normalizeAbsolute first = some firstNormalized)
    (hsecond : normalizeAbsolute second = some secondNormalized)
    (hfirstDirect : IsDirect first) (hsecondDirect : IsDirect second) :
    Config.pathsOverlap firstNormalized secondNormalized =
      CosmicMounter.pathsOverlap first second := by
  have hcomponents {path normalized : String} (h : normalizeAbsolute path = some normalized)
      (hdirect : IsDirect path) : Path.components normalized = Path.components path := by
    obtain ⟨normalized', h', heq⟩ :=
      components_normalized (normalizeAbsolute_eq_some h).1 hdirect
    rw [h] at h'
    rw [Option.some.inj h', heq]
  have hraw : CosmicMounter.pathsOverlap first second = Config.pathsOverlap first second := rfl
  rw [hraw, Bool.eq_iff_iff, pathsOverlap_iff, pathsOverlap_iff, hcomponents hfirst hfirstDirect,
    hcomponents hsecond hsecondDirect]

end

/-- A mirror whose local path is spelled as given. -/
def mirrorAt (localPath : String) : Connection := { sampleMirror .box none with localPath }

end CosmicMounter

import CosmicMounter.Config.Directories
import CosmicMounter.Mounts.DetachOwnership
import CosmicMounter.Runtime.Controller

/-!
# The spelling of a local path

Five readers look the local path up among the targets of the mount table.
They compare components, so separators and inner dots do not matter to them;
a `..` does, which the kernel never prints and the validation resolves.
-/

namespace CosmicMounter

open Rust

/-- The two statuses of a connection are asked of the service manager. -/
def connectionAppearsActive (runtimeUnitStatus : UnitName → Option UnitStatus) (connection : Connection)
    (mountEntries : List Mounts.MountEntry) : Bool :=
  let isRunning (kind : UnitKind) : Bool :=
    (runtimeUnitStatus ⟨connection.id, kind⟩).any fun status ↦
      status.active == .active || status.active == .activating
  match connection.mode with
  | .onlineMount _ =>
      mountEntries.any (fun entry ↦ decide (Path.Same entry.target connection.localPath)) ||
        isRunning .service
  | .offlineMirror _ => isRunning .service || isRunning .timer

namespace Mounts

/-- A target as the kernel prints it. -/
def IsClean (target : String) : Prop :=
  ∃ names, (∀ name ∈ names, Path.IsName name) ∧ target = Config.absolute names

def HasCleanTargets (mounts : List MountEntry) : Prop := ∀ mount ∈ mounts, IsClean mount.target

/-- The lines that read as a mount have a clean target. -/
def IsCleanTable (text : String) : Prop :=
  ∀ line ∈ Str.lines text, ∀ mount, parseMountinfoLine line = .ok mount → IsClean mount.target

/-- What went wrong, without the path that is shown with it. -/
def GuardError.withoutPath : GuardError → GuardError
  | .message text => .message ⟨text.key, []⟩
  | error => error

def verdict (outcome : Except GuardError Unit) : Except GuardError Unit :=
  outcome.mapError GuardError.withoutPath

/-- Every reader finds under `path` what it finds under the local path. -/
structure IsRecognisedUnder (connection : Connection) (path : String) : Prop where
  checkEmptyMountpoint : ∀ mountinfo directory entries,
    (∀ output, mountinfo = .ok output → IsCleanTable output.text) →
      verdict (checkEmptyMountpoint mountinfo directory entries path) =
        verdict (checkEmptyMountpoint mountinfo directory entries connection.localPath)
  onlineStatus : ∀ snapshot : Runtime.ControllerSnapshot, HasCleanTargets snapshot.mountEntries →
    Runtime.onlineStatus snapshot { connection with localPath := path } =
      Runtime.onlineStatus snapshot connection
  isMountedAt : ∀ mounts, HasCleanTargets mounts →
    Detach.isMountedAt { connection with localPath := path } mounts = Detach.isMountedAt connection mounts
  repairNeedsLazyDetach : ∀ mounts, HasCleanTargets mounts →
    Detach.repairNeedsLazyDetach { connection with localPath := path } mounts =
      Detach.repairNeedsLazyDetach connection mounts
  connectionAppearsActive : ∀ unitStatus mounts, HasCleanTargets mounts →
    connectionAppearsActive unitStatus { connection with localPath := path } mounts =
      connectionAppearsActive unitStatus connection mounts

section Readers

variable {connection : Connection} {path : String}

theorem same_congr (h : Path.components path = Path.components connection.localPath) (target : String) :
    Path.Same target path ↔ Path.Same target connection.localPath := by
  rw [Path.Same, Path.Same, h]

theorem verdict_checkLines (h : ∀ target, Path.Same target path ↔ Path.Same target connection.localPath)
    (lines : List String) :
    verdict (checkLines path lines) = verdict (checkLines connection.localPath lines) := by
  induction lines with
  | nil => rfl
  | cons line rest ih =>
      rw [checkLines, checkLines]
      cases parseMountinfoLine line with
      | error error => rfl
      | ok mount =>
          by_cases hsame : Path.Same mount.target connection.localPath
          · simp only [if_pos hsame, if_pos ((h mount.target).mpr hsame)]
            rfl
          · simpa only [if_neg hsame, if_neg (mt (h mount.target).mp hsame)] using ih

theorem verdict_bind {α : Type} {first second : Except GuardError α} {f g : α → Except GuardError Unit}
    (hfirst : first.mapError GuardError.withoutPath = second.mapError GuardError.withoutPath)
    (hnext : ∀ a, verdict (f a) = verdict (g a)) : verdict (first >>= f) = verdict (second >>= g) := by
  cases first with
  | error e =>
      cases second with
      | error e' => exact congrArg Except.error (Except.error.inj hfirst)
      | ok a => cases hfirst
  | ok a =>
      cases second with
      | error e' => cases hfirst
      | ok a' =>
          obtain rfl := Except.ok.inj hfirst
          exact hnext a

theorem verdict_checkEmptyMountpoint
    (h : ∀ target, Path.Same target path ↔ Path.Same target connection.localPath)
    (mountinfo directory entries : Except CommandError CapturedOutput) :
    verdict (checkEmptyMountpoint mountinfo directory entries path) =
      verdict (checkEmptyMountpoint mountinfo directory entries connection.localPath) := by
  refine verdict_bind rfl fun mountinfo ↦ ?_
  split
  · rfl
  refine verdict_bind (verdict_checkLines h _) fun _ ↦ ?_
  refine verdict_bind rfl fun directory ↦ ?_
  split
  · rfl
  refine verdict_bind rfl fun entries ↦ ?_
  split <;> rfl

theorem isRecognisedUnder_of_components
    (h : Path.components path = Path.components connection.localPath) :
    IsRecognisedUnder connection path where
  checkEmptyMountpoint mountinfo directory entries _ :=
    verdict_checkEmptyMountpoint (same_congr h) mountinfo directory entries
  onlineStatus snapshot _ := by
    simp only [Runtime.onlineStatus, same_congr h]
  isMountedAt mounts _ := by
    simp only [Detach.isMountedAt, same_congr h]
  repairNeedsLazyDetach mounts _ := by
    simp only [Detach.repairNeedsLazyDetach, same_congr h]
    rfl
  connectionAppearsActive unitStatus mounts _ := by
    simp only [CosmicMounter.connectionAppearsActive, same_congr h]

/-- A target that is mounted under its normal form is found under the stored spelling only without a `..`. -/
theorem notMem_parentDir_of_isRecognisedUnder {names : List String} (hnames : ∀ name ∈ names, Path.IsName name)
    (h : IsRecognisedUnder connection (Config.absolute names)) :
    .parentDir ∉ Path.components connection.localPath := by
  let mount : MountEntry := ⟨Config.absolute names, [], "", ""⟩
  have hclean : HasCleanTargets [mount] := by
    intro entry hentry
    obtain rfl := List.mem_singleton.mp hentry
    exact ⟨names, hnames, rfl⟩
  have hmounted := h.isMountedAt [mount] hclean
  have hfound : Detach.isMountedAt { connection with localPath := Config.absolute names } [mount] = true := by
    simp [Detach.isMountedAt, mount, Path.Same]
  rw [hfound] at hmounted
  have hsame : Path.Same (Config.absolute names) connection.localPath := by
    simpa [Detach.isMountedAt, mount] using hmounted.symm
  rw [← hsame, Config.components_absolute hnames]
  simp

end Readers

/-- The stored spelling is as good as its normal form exactly without a `..`. -/
theorem isRecognised_iff {ext : Externals} {config : Config} {connection : Connection}
    (hvalid : Config.validate ext config = .ok ()) (hmem : connection ∈ config.document.connections) :
    ∃ normalized, Config.normalizeAbsolute connection.localPath = some normalized ∧
      (IsRecognisedUnder connection normalized ↔ .parentDir ∉ Path.components connection.localPath) := by
  have hsafe := Config.safeDirectories_of_errors_nil (Config.validate_eq_ok.mp hvalid)
  obtain ⟨normalized, hnormalized, -, -⟩ := hsafe.localPath connection hmem
  obtain ⟨habsolute, names, -, rfl, hnames⟩ := Config.normalizeAbsolute_eq_some hnormalized
  refine ⟨_, hnormalized, notMem_parentDir_of_isRecognisedUnder hnames, fun hparent ↦ ?_⟩
  obtain ⟨normalized', hnormalized', hcomponents⟩ := Config.components_normalized habsolute hparent
  rw [hnormalized] at hnormalized'
  obtain rfl := Option.some.inj hnormalized'
  exact isRecognisedUnder_of_components hcomponents

/-! ## A path through a parent -/

def sampleThroughParent : Connection := { Detach.sampleMount with localPath := "/home/u/x/../Cloud" }

theorem validate_sampleThroughParent :
    Config.validate sampleExternals (Config.sampleConfig [sampleThroughParent]) = .ok () := by
  decide +kernel

theorem isRecognised_iff_sample :
    ∃ normalized, Config.normalizeAbsolute sampleThroughParent.localPath = some normalized ∧
      (IsRecognisedUnder sampleThroughParent normalized ↔
        .parentDir ∉ Path.components sampleThroughParent.localPath) :=
  isRecognised_iff validate_sampleThroughParent List.mem_cons_self

/-- The mount is in the table, and none of the spellings with a parent finds it. -/
theorem mount_is_missed :
    Config.validate sampleExternals (Config.sampleConfig [sampleThroughParent]) = .ok () ∧
      Config.normalizeAbsolute sampleThroughParent.localPath = some "/home/u/Cloud" ∧
      ¬IsRecognisedUnder sampleThroughParent "/home/u/Cloud" := by
  refine ⟨validate_sampleThroughParent, by decide +kernel, fun h ↦ ?_⟩
  have hnames : ∀ name ∈ ["home", "u", "Cloud"], Path.IsName name := by decide +kernel
  have hparent := notMem_parentDir_of_isRecognisedUnder hnames h
  revert hparent
  decide +kernel

end Mounts
end CosmicMounter

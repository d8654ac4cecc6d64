import CosmicMounter.Rclone.Filter
import CosmicMounter.Sync.Plan

/-!
# The remote recovery area

Where the recovery directory of a mirror lies relative to its remote side, and
what the mirror's filter file says about it there.
-/

namespace CosmicMounter

open Rust

def isCleanPart (part : String) : Bool := part != "" && part != "."

/-- The parts of a remote path that are neither empty nor `.`. -/
def cleanParts (path : String) : List String := (Str.split '/' path).filter isCleanPart

/-- The clean parts of a remote location behind the name of its remote. -/
def remoteParts (remote : String) : List String :=
  cleanParts ((Str.splitOnce ':' remote).elim remote Prod.snd)

/-- If the recovery area lies at or below the remote side of the mirror, the
filter file's verdict about it there is to exclude it. -/
def RecoveryIsOutside (connection : Connection) (plan : RcloneBisyncPlan) : Prop :=
  ∀ below, remoteParts plan.remoteRecoveryPath = remoteParts plan.path1Remote ++ below →
    Rclone.verdict (Rclone.parse (rcloneBisyncFilterFileForConnection connection))
      (Str.join "/" below).toList = some false

def mirroredFolder (connection : Connection) : List String :=
  cleanParts (connection.remoteSubpath.getD "")

/-- The folders of the recovery area, from the root of a remote. -/
def recoveryParts (id : ConnectionId) : List String := [recoveryRoot, id.text]

def nonEmptyParts (path : String) : List String := (Str.split '/' path).filter (· != "")

/-- The mirrors whose recovery area is kept out of the synchronized set. -/
def RecoveryIsKeptApart (connection : Connection) : Prop :=
  match connection.provider, connection.remoteSubpath with
  | .teams, _ | .onedrive, _ => True
  | .googleDrive, _ | .box, _ =>
      mirroredFolder connection ≠ [recoveryRoot] ∧
        mirroredFolder connection ≠ recoveryParts connection.id
  | .sftp, _ =>
      mirroredFolder connection ≠ [] ∧ mirroredFolder connection ≠ [recoveryRoot] ∧
        mirroredFolder connection ≠ recoveryParts connection.id
  | .smb, none => False
  | .smb, some folder =>
      2 ≤ (nonEmptyParts folder).length ∧ (nonEmptyParts folder).getLast? ≠ some "." ∧
        (nonEmptyParts folder).getLast? ≠ some recoveryRoot

/-! ## Clean parts -/

theorem cleanParts_append (a b : String) : cleanParts (a ++ "/" ++ b) = cleanParts a ++ cleanParts b := by
  rw [cleanParts, show "/" = '/'.toString from rfl, Path.split_append_cons, List.filter_append]
  rfl

theorem cleanParts_of_isName {name : String} (h : Path.IsName name) : cleanParts name = [name] := by
  rw [cleanParts, h.split]
  simp [isCleanPart, h.notEmpty, h.notDot]

theorem isName_recoveryRoot : Path.IsName recoveryRoot := by decide

theorem cleanParts_recoveryName (id : ConnectionId) :
    cleanParts (recoveryName id) = recoveryParts id := by
  rw [recoveryName, cleanParts_append, cleanParts_of_isName isName_recoveryRoot,
    cleanParts_of_isName id.isName_text]
  rfl

theorem remoteParts_remotePath {reference : String} (h : remoteNameIsValid reference = true)
    (subpath : Option String) :
    remoteParts (remotePath reference subpath) = cleanParts (subpath.getD "") := by
  have hcolon : ':' ∉ reference.toList := by
    intro hmem
    rw [remoteNameIsValid, Bool.and_eq_true, List.all_eq_true] at h
    exact absurd (h.2 _ hmem) (by decide)
  have htext : (remotePath reference subpath).toList =
      reference.toList ++ ':' :: (subpath.getD "").toList := by
    simp [remotePath]
  have hsplit : Str.splitOnce ':' (remotePath reference subpath) =
      some (reference, subpath.getD "") := Str.splitOnce_of_toList htext hcolon
  rw [remoteParts, hsplit]
  rfl

theorem component?_eq_none_iff {part : String} :
    Path.component? part = none ↔ isCleanPart part = false := by
  unfold Path.component?
  split_ifs with h hdots
  · rcases h with rfl | rfl <;> simp [isCleanPart]
  · simp [hdots, isCleanPart]
  · push Not at h
    simp [h, isCleanPart]

theorem component?_of_isCleanPart {part : String} (h : isCleanPart part = true) :
    ∃ component, Path.component? part = some component ∧ component ≠ .curDir := by
  simp only [isCleanPart, Bool.and_eq_true, bne_iff_ne] at h
  unfold Path.component?
  rw [if_neg (by simp [h])]
  split_ifs with hdots
  · exact ⟨.parentDir, rfl, by simp⟩
  · exact ⟨.normal part, rfl, by simp⟩

/-- A folder that stands for the root in `Path::components` has no clean part. -/
theorem all_curDir_iff_cleanParts {path : String} (h : Path.isAbsolute path = false) :
    (Path.components path).all (· == .curDir) = true ↔ cleanParts path = [] := by
  have hall : ∀ parts : List String, (parts.filterMap Path.component?).all (· == .curDir) = true ↔
      parts.filter isCleanPart = [] := by
    intro parts
    induction parts with
    | nil => simp
    | cons part parts ih =>
        cases hclean : isCleanPart part with
        | false =>
            rw [List.filterMap_cons_none (component?_eq_none_iff.mpr hclean), ih,
              List.filter_cons_of_neg (by simp [hclean])]
        | true =>
            obtain ⟨component, hcomponent, hne⟩ := component?_of_isCleanPart hclean
            rw [List.filterMap_cons_some hcomponent, List.filter_cons_of_pos hclean]
            simp [hne]
  rw [Path.isAbsolute] at h
  rw [Path.components, h, Path.ofParts, if_neg Bool.false_ne_true, cleanParts]
  cases hparts : Str.split '/' path with
  | nil => simp
  | cons part parts =>
      by_cases hdot : part = "."
      · subst hdot
        have hdot : isCleanPart "." = false := by decide
        rw [List.filter_cons_of_neg (by simp [hdot]), ← hall parts]
        simp
      · rw [List.head?_cons, if_neg (by simpa using hdot)]
        exact hall (part :: parts)

/-! ## What the filters say -/

def excludeRecovery : Rclone.Rule := ⟨false, Rclone.topDirectory recoveryRoot.toList⟩

def includeAll : Rclone.Rule := ⟨true, Rclone.everything⟩

def exclude (extension : String) : Rclone.Rule := ⟨false, Rclone.endingIn extension.toList⟩

theorem parse_filterFile_googleDrive :
    Rclone.parse (rcloneBisyncFilterFile .googleDrive) =
      ([".gdoc", ".gsheet", ".gslides", ".gdraw", ".gform", ".gmap", ".gsite"].map exclude) ++
        [includeAll] := by
  rw [rcloneBisyncFilterFile, googleNativeFilterFile, Rclone.parse_unlines (by decide)]
  decide

theorem parse_filterFile_onedrive :
    Rclone.parse (rcloneBisyncFilterFile .onedrive) =
      excludeRecovery :: [".one", ".onepkg", ".lnk", ".url"].map exclude ++ [includeAll] := by
  rw [rcloneBisyncFilterFile, Rclone.parse_unlines (by decide)]
  decide

theorem parse_filterFile_teams :
    Rclone.parse (rcloneBisyncFilterFile .teams) = [excludeRecovery, includeAll] := by
  rw [rcloneBisyncFilterFile, Rclone.parse_unlines (by decide)]
  decide

theorem parse_includeAll : Rclone.parse (Str.unlines ["+ **"]) = [includeAll] := by
  rw [Rclone.parse_unlines (by decide)]
  decide

theorem parse_rootFilter (rest : String) :
    Rclone.parse (Str.unlines ["- /.cosmic-mounter-recovery/"] ++ rest) =
      excludeRecovery :: Rclone.parse rest := by
  rw [Rclone.parse, Str.lines_unlines_append (by decide), List.filterMap_append]
  rfl

theorem text_recoveryParts (id : ConnectionId) :
    (Str.join "/" (recoveryParts id)).toList = recoveryRoot.toList ++ '/' :: id.text.toList := by
  simp [recoveryParts, Str.join, List.intercalate]

theorem verdict_excludeRecovery (rules : List Rclone.Rule) (id : ConnectionId) :
    Rclone.verdict (excludeRecovery :: rules) (Str.join "/" (recoveryParts id)).toList =
      some false := by
  rw [Rclone.verdict_cons, text_recoveryParts, excludeRecovery,
    if_pos (Rclone.topDirectory_matches_below _ _)]

@[simp] theorem verdict_includeAll (path : List Char) :
    Rclone.verdict [includeAll] path = some true := by
  simp [Rclone.verdict_cons, includeAll]

/-- The extensions of Google documents do not concern a path without a dot. -/
theorem verdict_googleDrive {path : List Char} (h : '.' ∉ path) :
    Rclone.verdict (Rclone.parse (rcloneBisyncFilterFile .googleDrive)) path = some true := by
  rw [parse_filterFile_googleDrive, Rclone.verdict_append]
  · simp
  · intro rule hrule
    obtain ⟨extension, hextension, rfl⟩ := List.mem_map.mp hrule
    rw [← Bool.not_eq_true]
    intro hmatch
    have hdot : '.' ∈ extension.toList := by
      fin_cases hextension <;> decide
    exact h ((Rclone.endingIn_matches hmatch).subset hdot)

/-! ## Where the recovery area lies -/

theorem rcloneRemotePath_eq_ok {reference path : String} {subpath : Option String}
    (h : rcloneRemotePath reference subpath = .ok path) :
    remoteNameIsValid reference = true ∧ path = remotePath reference subpath ∧
      ∀ folder, subpath = some folder → remoteSubpathIsValid false folder = true := by
  obtain ⟨⟨⟩, hname, h⟩ := Result.bind_eq_ok h
  obtain ⟨⟨⟩, hfolder, h⟩ := Result.bind_eq_ok h
  unfold validateRemoteName at hname
  split_ifs at hname with hvalid
  refine ⟨hvalid, (Except.ok.inj h).symm, ?_⟩
  rintro folder rfl
  unfold validateFolder validateRemoteSubpath at hfolder
  dsimp only at hfolder
  split_ifs at hfolder with hsubpath
  exact hsubpath

theorem sftpRemotePath_eq_ok {reference path : String} {subpath : Option String}
    (h : sftpRemotePath reference subpath = .ok path) :
    remoteNameIsValid reference = true ∧ path = remotePath reference subpath := by
  unfold sftpRemotePath at h
  split_ifs at h with hvalid
  rw [Bool.and_eq_true] at hvalid
  exact ⟨hvalid.1, (Except.ok.inj h).symm⟩

/-- The folder, from the root of the remote, in which the recovery area lies. -/
def recoveryHome (connection : Connection) : List String :=
  match connection.provider, connection.remoteSubpath with
  | .teams, some _ | .onedrive, some _ => mirroredFolder connection
  | .smb, some folder => (smbRecoveryComponents folder).filter isCleanPart
  | _, _ => []

theorem cleanParts_smbRecoverySubpath (folder : String) (id : ConnectionId) :
    cleanParts (smbRecoverySubpath folder id) =
      (smbRecoveryComponents folder).filter isCleanPart ++ recoveryParts id := by
  have hslash : ∀ part ∈ smbRecoveryComponents folder, '/' ∉ part.toList := by
    intro part hpart
    refine Str.notMem_of_mem_split (s := folder) ?_
    unfold smbRecoveryComponents at hpart
    dsimp only at hpart
    split_ifs at hpart
    · exact List.mem_of_mem_filter (List.mem_of_mem_dropLast hpart)
    · exact List.mem_of_mem_filter hpart
  unfold smbRecoverySubpath
  by_cases hempty : smbRecoveryComponents folder = []
  · simp [hempty, cleanParts_recoveryName]
  · have hjoin : cleanParts (Str.join "/" (smbRecoveryComponents folder)) =
        (smbRecoveryComponents folder).filter isCleanPart := by
      rw [cleanParts, show "/" = '/'.toString from rfl, Str.split_join hslash hempty]
    dsimp only
    rw [if_neg (by simpa using hempty), cleanParts_append, hjoin, cleanParts_recoveryName]

variable {ext : Externals} {connection : Connection} {workRoot : String} {plan : RcloneBisyncPlan}

theorem Planned.remoteNameIsValid (h : Planned ext connection workRoot plan) :
    remoteNameIsValid connection.remoteReference = true := by
  have hpath := h.path1Remote
  unfold CosmicMounter.path1Remote at hpath
  split_ifs at hpath
  · exact (sftpRemotePath_eq_ok hpath).1
  · exact (rcloneRemotePath_eq_ok hpath).1

theorem Planned.remoteParts_path1Remote (h : Planned ext connection workRoot plan) :
    remoteParts plan.path1Remote = mirroredFolder connection := by
  have hpath := h.path1Remote
  unfold CosmicMounter.path1Remote at hpath
  have htext : plan.path1Remote =
      remotePath connection.remoteReference connection.remoteSubpath := by
    split_ifs at hpath
    · exact (sftpRemotePath_eq_ok hpath).2
    · exact (rcloneRemotePath_eq_ok hpath).2.1
  rw [htext, remoteParts_remotePath h.remoteNameIsValid, mirroredFolder]

theorem Planned.remoteParts_remoteRecovery (h : Planned ext connection workRoot plan) :
    remoteParts plan.remoteRecoveryPath = recoveryHome connection ++ recoveryParts connection.id := by
  have hlocation : ∀ folder, rcloneRemotePath connection.remoteReference (some folder) =
      .ok plan.remoteRecoveryPath → remoteParts plan.remoteRecoveryPath = cleanParts folder := by
    intro folder hfolder
    rw [(rcloneRemotePath_eq_ok hfolder).2.1, remoteParts_remotePath h.remoteNameIsValid]
    rfl
  obtain ⟨⟨⟩, -, hrecovery⟩ := Result.bind_eq_ok h.remoteRecovery
  split at hrecovery
  · rename_i folder hprovider hfolder
    have hhome : recoveryHome connection = cleanParts folder := by
      simp only [recoveryHome, mirroredFolder, hprovider, hfolder]
      rfl
    obtain ⟨⟨⟩, -, hrecovery⟩ := Result.bind_eq_ok hrecovery
    rw [hlocation _ hrecovery, cleanParts_append, cleanParts_recoveryName, hhome]
  · rename_i folder hprovider hfolder
    have hhome : recoveryHome connection = cleanParts folder := by
      simp only [recoveryHome, mirroredFolder, hprovider, hfolder]
      rfl
    obtain ⟨⟨⟩, -, hrecovery⟩ := Result.bind_eq_ok hrecovery
    rw [hlocation _ hrecovery, cleanParts_append, cleanParts_recoveryName, hhome]
  · rename_i folder hprovider hfolder
    have hhome : recoveryHome connection = (smbRecoveryComponents folder).filter isCleanPart := by
      simp only [recoveryHome, hprovider, hfolder]
    obtain ⟨⟨⟩, -, hrecovery⟩ := Result.bind_eq_ok hrecovery
    rw [hlocation _ hrecovery, cleanParts_smbRecoverySubpath, hhome]
  · rename_i hteams honedrive hsmb
    rw [hlocation _ hrecovery, cleanParts_recoveryName]
    have hhome : recoveryHome connection = [] := by
      unfold recoveryHome
      cases hfolder : connection.remoteSubpath with
      | none => cases connection.provider <;> rfl
      | some folder =>
          cases hprovider : connection.provider with
          | teams => exact absurd hfolder (hteams folder hprovider)
          | onedrive => exact absurd hfolder (honedrive folder hprovider)
          | smb => exact absurd hfolder (hsmb folder hprovider)
          | googleDrive | box | sftp => rfl
    rw [hhome, List.nil_append]

/-! ## The providers -/

theorem recoveryParts_eq_append_iff {id : ConnectionId} {xs below : List String} :
    recoveryParts id = xs ++ below ↔ (xs = [] ∧ below = recoveryParts id) ∨
      (xs = [recoveryRoot] ∧ below = [id.text]) ∨ (xs = recoveryParts id ∧ below = []) := by
  constructor
  · intro h
    unfold recoveryParts at h
    rcases List.cons_eq_append_iff.mp h with ⟨hxs, hbelow⟩ | ⟨xs', hxs, htail⟩
    · exact .inl ⟨hxs, hbelow⟩
    rcases List.cons_eq_append_iff.mp htail with ⟨hxs', hbelow⟩ | ⟨xs'', hxs', hnil⟩
    · exact .inr (.inl ⟨by rw [hxs, hxs'], hbelow⟩)
    · obtain ⟨hxs'', hbelow⟩ := List.append_eq_nil_iff.mp hnil.symm
      exact .inr (.inr ⟨by rw [hxs, hxs', hxs'']; rfl, hbelow⟩)
  · rintro (⟨rfl, rfl⟩ | ⟨rfl, rfl⟩ | ⟨rfl, rfl⟩) <;> rfl

/-- With a filter that includes everything, only the location counts. -/
theorem recoveryIsOutside_of_includeAll
    (hfilter : Rclone.parse (rcloneBisyncFilterFileForConnection connection) = [includeAll]) :
    RecoveryIsOutside connection plan ↔
      ∀ below, remoteParts plan.remoteRecoveryPath ≠ remoteParts plan.path1Remote ++ below := by
  unfold RecoveryIsOutside
  rw [hfilter]
  simp

theorem notMem_dot_text (id : ConnectionId) : '.' ∉ (Str.join "/" [id.text]).toList := by
  have hdot : '.' ∉ id.text.toList := Uuid.notMem_text (by decide) (by decide)
  simpa [Str.join, List.intercalate] using hdot

/-- The recovery area in the folder above `last` is not below `last`. -/
theorem beside_iff {id : ConnectionId} {front : List String} {last : String} (hlast : last ≠ "") :
    (∀ below, ¬front.filter isCleanPart ++ recoveryParts id =
      (front ++ [last]).filter isCleanPart ++ below) ↔ last ≠ "." ∧ last ≠ recoveryRoot := by
  have hclean : isCleanPart last = true ↔ last ≠ "." := by simp [isCleanPart, hlast]
  rw [List.filter_append]
  by_cases hdot : last = "."
  · have hfilter : [last].filter isCleanPart = [] := by
      rw [hdot]
      rfl
    rw [hfilter, List.append_nil]
    exact iff_of_false (fun hbeside ↦ hbeside _ rfl) fun hne ↦ hne.1 hdot
  · have hfilter : [last].filter isCleanPart = [last] := by simp [hclean.mpr hdot]
    rw [hfilter]
    simp only [List.append_assoc, List.append_cancel_left_eq, recoveryParts, List.singleton_append]
    constructor
    · intro hbeside
      exact ⟨hdot, fun heq ↦ hbeside [id.text] (by rw [heq])⟩
    · intro ⟨_, hne⟩ below heq
      exact hne (List.cons.inj heq).1.symm

namespace Planned

variable (h : Planned ext connection workRoot plan)

include h

theorem parts_eq_iff {below : List String} :
    remoteParts plan.remoteRecoveryPath = remoteParts plan.path1Remote ++ below ↔
      recoveryHome connection ++ recoveryParts connection.id = mirroredFolder connection ++ below := by
  rw [h.remoteParts_path1Remote, h.remoteParts_remoteRecovery]

/-- The bound providers keep the area inside the mirrored folder and exclude it. -/
theorem recoveryIsOutside_bound (hprovider : connection.provider = .teams ∨
    connection.provider = .onedrive) : RecoveryIsOutside connection plan := by
  intro below hbelow
  rw [h.parts_eq_iff] at hbelow
  have hhome : recoveryHome connection = mirroredFolder connection := by
    unfold recoveryHome mirroredFolder
    cases hsubpath : connection.remoteSubpath with
    | none => rcases hprovider with hp | hp <;> rw [hp] <;> decide
    | some folder => rcases hprovider with hp | hp <;> rw [hp]
  rw [hhome, List.append_cancel_left_eq] at hbelow
  subst hbelow
  unfold rcloneBisyncFilterFileForConnection
  rcases hprovider with hp | hp
  · rw [hp, if_neg (by simp), parse_filterFile_teams]
    exact verdict_excludeRecovery _ _
  · rw [hp, if_neg (by simp), parse_filterFile_onedrive]
    exact verdict_excludeRecovery _ _

/-- Root mirrors of these providers exclude the area, the others include all
that their remote side has of it. -/
theorem recoveryIsOutside_drive (hprovider : connection.provider = .googleDrive ∨
    connection.provider = .box) :
    RecoveryIsOutside connection plan ↔ mirroredFolder connection ≠ [recoveryRoot] ∧
      mirroredFolder connection ≠ recoveryParts connection.id := by
  have hhome : recoveryHome connection = [] := by
    unfold recoveryHome
    rcases hprovider with hp | hp <;> rw [hp]
  have hroot : mirrorsRoot connection = true ↔ mirroredFolder connection = [] := by
    unfold mirrorsRoot mirroredFolder
    cases hsubpath : connection.remoteSubpath with
    | none => decide
    | some folder =>
        have hpath := h.path1Remote
        unfold CosmicMounter.path1Remote at hpath
        rw [if_neg (by rcases hprovider with hp | hp <;> simp [hp])] at hpath
        have hvalid := (rcloneRemotePath_eq_ok hpath).2.2 folder hsubpath
        simp only [remoteSubpathIsValid, Bool.and_eq_true, Bool.false_or, Bool.not_eq_true'] at hvalid
        exact all_curDir_iff_cleanParts hvalid.1.1.1.2
  have hdrive : connection.provider = .box ∨ connection.provider = .googleDrive := hprovider.symm
  unfold RecoveryIsOutside rcloneBisyncFilterFileForConnection
  simp only [h.parts_eq_iff, hhome, List.nil_append, hroot, hdrive, and_true]
  by_cases hfolder : mirroredFolder connection = []
  · rw [if_pos hfolder, parse_rootFilter, hfolder]
    constructor
    · intro _
      exact ⟨by simp, by simp [recoveryParts]⟩
    · rintro _ below hbelow
      rw [← show recoveryParts connection.id = below from hbelow]
      exact verdict_excludeRecovery _ _
  · rw [if_neg hfolder]
    have hverdict : ∀ path : List Char, '.' ∉ path → Rclone.verdict
        (Rclone.parse (rcloneBisyncFilterFile connection.provider)) path = some true := by
      intro path hpath
      rcases hprovider with hp | hp
      · rw [hp]
        exact verdict_googleDrive hpath
      · rw [hp]
        exact (congrArg (Rclone.verdict · path) parse_includeAll).trans (verdict_includeAll path)
    constructor
    · intro houtside
      constructor
      · intro heq
        have hexcluded := houtside [connection.id.text] (by rw [heq]; rfl)
        rw [hverdict _ (notMem_dot_text _)] at hexcluded
        simp at hexcluded
      · intro heq
        have hexcluded := houtside [] (by rw [heq]; simp)
        rw [hverdict _ (by decide)] at hexcluded
        simp at hexcluded
    · intro ⟨hne, hne'⟩ below hbelow
      rcases recoveryParts_eq_append_iff.mp hbelow with ⟨hx, -⟩ | ⟨hx, -⟩ | ⟨hx, -⟩
      · exact absurd hx hfolder
      · exact absurd hx hne
      · exact absurd hx hne'

theorem recoveryIsOutside_sftp (hprovider : connection.provider = .sftp) :
    RecoveryIsOutside connection plan ↔ mirroredFolder connection ≠ [] ∧
      mirroredFolder connection ≠ [recoveryRoot] ∧
      mirroredFolder connection ≠ recoveryParts connection.id := by
  have hfilter : Rclone.parse (rcloneBisyncFilterFileForConnection connection) = [includeAll] := by
    unfold rcloneBisyncFilterFileForConnection
    rw [hprovider, if_neg (by simp)]
    exact parse_includeAll
  have hhome : recoveryHome connection = [] := by
    unfold recoveryHome
    rw [hprovider]
  rw [recoveryIsOutside_of_includeAll hfilter]
  simp only [ne_eq, h.parts_eq_iff, hhome, List.nil_append, recoveryParts_eq_append_iff]
  constructor
  · intro houtside
    refine ⟨fun hx ↦ houtside _ (.inl ⟨hx, rfl⟩), fun hx ↦ houtside _ (.inr (.inl ⟨hx, rfl⟩)),
      fun hx ↦ houtside _ (.inr (.inr ⟨hx, rfl⟩))⟩
  · rintro ⟨h₁, h₂, h₃⟩ below (⟨hx, -⟩ | ⟨hx, -⟩ | ⟨hx, -⟩)
    · exact h₁ hx
    · exact h₂ hx
    · exact h₃ hx

/-- A share's recovery area lies beside the mirrored folder, unless that has no
second component to stand beside. -/
theorem recoveryIsOutside_smb (hprovider : connection.provider = .smb) :
    RecoveryIsOutside connection plan ↔ RecoveryIsKeptApart connection := by
  have hfilter : Rclone.parse (rcloneBisyncFilterFileForConnection connection) = [includeAll] := by
    unfold rcloneBisyncFilterFileForConnection
    rw [hprovider, if_neg (by simp)]
    exact parse_includeAll
  rw [recoveryIsOutside_of_includeAll hfilter]
  simp only [ne_eq, h.parts_eq_iff]
  unfold RecoveryIsKeptApart recoveryHome mirroredFolder
  rw [hprovider]
  cases hsubpath : connection.remoteSubpath with
  | none => exact iff_of_false (fun houtside ↦ houtside (recoveryParts connection.id) rfl) id
  | some folder =>
      have hclean : cleanParts folder = (nonEmptyParts folder).filter isCleanPart := by
        unfold cleanParts nonEmptyParts
        rw [List.filter_filter]
        congr 1
        funext part
        by_cases hpart : part = "" <;> simp [isCleanPart, hpart]
      change (∀ below, ¬(smbRecoveryComponents folder).filter isCleanPart ++
        recoveryParts connection.id = cleanParts folder ++ below) ↔ _
      dsimp only
      rw [hclean]
      rcases lt_or_ge (nonEmptyParts folder).length 2 with hshort | hlong
      · have hhome : smbRecoveryComponents folder = nonEmptyParts folder :=
          if_neg (by simpa [nonEmptyParts] using Nat.lt_succ_iff.mp hshort)
        rw [hhome]
        exact iff_of_false (fun houtside ↦ houtside _ rfl) fun hkept ↦ absurd hkept.1 (by omega)
      · have hhome : smbRecoveryComponents folder = (nonEmptyParts folder).dropLast := if_pos hlong
        have hne : nonEmptyParts folder ≠ [] := by
          intro hempty
          simp [hempty] at hlong
        obtain ⟨front, last, hparts⟩ : ∃ front last, nonEmptyParts folder = front ++ [last] :=
          ⟨_, _, (List.dropLast_concat_getLast hne).symm⟩
        have hlast : last ≠ "" := by
          have hmem : last ∈ nonEmptyParts folder := by simp [hparts]
          simpa using (List.mem_filter.mp hmem).2
        rw [hhome, hparts, List.dropLast_concat, beside_iff hlast, List.getLast?_concat]
        rw [hparts] at hlong
        simp only [ne_eq, Option.some.injEq, hlong, true_and]

end Planned

/-- The recovery area stays out of the synchronized set in exactly these mirrors. -/
theorem recoveryIsOutside_iff {ext : Externals} {connection : Connection} {workRoot : String}
    {plan : RcloneBisyncPlan} (hplan : rcloneBisyncPlan ext connection workRoot = .ok plan) :
    RecoveryIsOutside connection plan ↔ RecoveryIsKeptApart connection := by
  have h := planned hplan
  cases hprovider : connection.provider with
  | teams =>
      have hkept : RecoveryIsKeptApart connection := by simp [RecoveryIsKeptApart, hprovider]
      exact iff_of_true (h.recoveryIsOutside_bound (.inl hprovider)) hkept
  | onedrive =>
      have hkept : RecoveryIsKeptApart connection := by simp [RecoveryIsKeptApart, hprovider]
      exact iff_of_true (h.recoveryIsOutside_bound (.inr hprovider)) hkept
  | googleDrive =>
      rw [h.recoveryIsOutside_drive (.inl hprovider)]
      simp [RecoveryIsKeptApart, hprovider]
  | box =>
      rw [h.recoveryIsOutside_drive (.inr hprovider)]
      simp [RecoveryIsKeptApart, hprovider]
  | smb => exact h.recoveryIsOutside_smb hprovider
  | sftp =>
      rw [h.recoveryIsOutside_sftp hprovider]
      simp [RecoveryIsKeptApart, hprovider]

theorem recoveryIsOutside_iff_sample :
    ∃ plan, rcloneBisyncPlan sampleExternals (sampleMirror .box (some "Projects")) "/state" =
      .ok plan ∧ RecoveryIsOutside (sampleMirror .box (some "Projects")) plan := by
  obtain ⟨plan, hplan⟩ : ∃ plan, rcloneBisyncPlan sampleExternals
      (sampleMirror .box (some "Projects")) "/state" = .ok plan := ⟨_, rfl⟩
  refine ⟨plan, hplan, (recoveryIsOutside_iff hplan).mpr ?_⟩
  change mirroredFolder _ ≠ _ ∧ mirroredFolder _ ≠ _
  decide

/-- A mirrored share holds its own recovery area, which nothing excludes. -/
theorem recovery_inside_mirrored_share :
    ∃ plan, rcloneBisyncPlan sampleExternals (sampleMirror .smb (some "Projects")) "/state" =
      .ok plan ∧ ¬RecoveryIsOutside (sampleMirror .smb (some "Projects")) plan := by
  obtain ⟨plan, hplan⟩ : ∃ plan, rcloneBisyncPlan sampleExternals
      (sampleMirror .smb (some "Projects")) "/state" = .ok plan := ⟨_, rfl⟩
  refine ⟨plan, hplan, ?_⟩
  rw [(planned hplan).recoveryIsOutside_smb rfl]
  change ¬(2 ≤ (nonEmptyParts "Projects").length ∧ _)
  decide

end CosmicMounter

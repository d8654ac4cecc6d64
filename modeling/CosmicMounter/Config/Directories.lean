import CosmicMounter.Config.Validation

/-!
# Directories of a valid configuration

A document without errors keeps the directories of its connections apart from
each other and from the system; a reported conflict is one.
-/

namespace CosmicMounter.Config

open Rust

/-! ## Reports -/

@[simp] theorem report_eq_nil {holds : Bool} {error : ValidationError} :
    report holds error = [] ↔ holds = false := by
  cases holds <;> simp [report]

theorem mem_report {holds : Bool} {error error' : ValidationError} :
    error ∈ report holds error' ↔ holds = true ∧ error = error' := by
  cases holds <;> simp [report]

theorem validate_eq_ok {ext : Externals} {config : Config} :
    validate ext config = .ok () ↔ errors ext config = [] := by
  rw [validate, resultOf]
  split_ifs with hempty
  · simpa using hempty
  · simpa using hempty

/-! ## Identifiers -/

theorem validateVpns_eq_nil {seen : List VpnProfileId} {vpns : List VpnProfile}
    (h : validateVpns seen vpns = []) :
    (vpns.map (·.id)).Nodup ∧ ∀ vpn ∈ vpns, vpn.id ∉ seen := by
  induction vpns generalizing seen with
  | nil => simp
  | cons vpn rest ih =>
      rw [validateVpns, List.append_eq_nil_iff] at h
      obtain ⟨hvpn, hrest⟩ := h
      obtain ⟨hnodup, hseen⟩ := ih hrest
      have hnew : vpn.id ∉ seen := by
        simp only [validateVpn, List.append_eq_nil_iff, report_eq_nil] at hvpn
        simpa using hvpn.1.1.1
      refine ⟨?_, ?_⟩
      · rw [List.map_cons, List.nodup_cons]
        refine ⟨?_, hnodup⟩
        rintro hmem
        obtain ⟨other, hother, hid⟩ := List.mem_map.mp hmem
        exact hseen other hother (by simp [hid])
      · intro other hother
        rcases List.mem_cons.mp hother with rfl | hother
        · exact hnew
        · exact fun hmem ↦ hseen other hother (List.mem_cons_of_mem _ hmem)

/-- What the loop over the connections finds, and the directories it collects. -/
theorem validateConnections_spec {ext : Externals} {vpnIds : List VpnProfileId}
    {seen : List ConnectionId} {connections : List Connection}
    (h : (validateConnections ext vpnIds seen connections).1 = []) :
    ((connections.map (·.id)).Nodup ∧ ∀ connection ∈ connections, connection.id ∉ seen) ∧
      ∀ connection ∈ connections, (∃ seen', validateSettings ext vpnIds seen' connection = []) ∧
        (validateDirectories connection).1 = [] := by
  induction connections generalizing seen with
  | nil => simp
  | cons connection rest ih =>
      rw [validateConnections, validateConnection] at h
      simp only [List.append_eq_nil_iff] at h
      obtain ⟨⟨hsettings, hdirectories⟩, hrest⟩ := h
      obtain ⟨⟨hnodup, hseen⟩, hall⟩ := ih hrest
      have hnew : connection.id ∉ seen := by
        simp only [validateSettings, List.append_eq_nil_iff, report_eq_nil] at hsettings
        obtain ⟨⟨⟨⟨⟨⟨⟨⟨⟨hdistinct, -⟩, -⟩, -⟩, -⟩, -⟩, -⟩, -⟩, -⟩, -⟩ := hsettings
        simpa using hdistinct
      refine ⟨⟨?_, ?_⟩, ?_⟩
      · rw [List.map_cons, List.nodup_cons]
        refine ⟨?_, hnodup⟩
        intro hmem
        obtain ⟨other, hother, hid⟩ := List.mem_map.mp hmem
        exact hseen other hother (by simp [hid])
      · intro other hother
        rcases List.mem_cons.mp hother with rfl | hother
        · exact hnew
        · exact fun hmem ↦ hseen other hother (List.mem_cons_of_mem _ hmem)
      · intro other hother
        rcases List.mem_cons.mp hother with rfl | hother
        · exact ⟨⟨seen, hsettings⟩, hdirectories⟩
        · exact hall other hother

theorem targets_eq (ext : Externals) (vpnIds : List VpnProfileId) (seen : List ConnectionId)
    (connections : List Connection) : (validateConnections ext vpnIds seen connections).2 =
      connections.flatMap fun connection ↦ (validateDirectories connection).2 := by
  induction connections generalizing seen with
  | nil => rfl
  | cons connection rest ih =>
      rw [validateConnections, validateConnection, List.flatMap_cons, ← ih]

/-! ## Directories -/

/-- The normalized local path of a connection, and of a mirror its recovery directory. -/
def directories (connection : Connection) : List String :=
  (normalizeAbsolute connection.localPath).toList ++ match connection.mode with
    | .onlineMount _ => []
    | .offlineMirror options => (normalizeAbsolute options.recoveryDirectory).toList

/-- The directories that a connection compares are its own. -/
theorem mem_targets {connection : Connection} {target : Target}
    (h : target ∈ (validateDirectories connection).2) :
    target.id = connection.id ∧ target.path ∈ directories connection ∧
      (target.isLocal = true → normalizeAbsolute connection.localPath = some target.path) := by
  unfold validateDirectories at h
  split at h
  · exact absurd h List.not_mem_nil
  · rename_i localPath hlocal
    split at h
    · rename_i options hmode
      obtain rfl := List.mem_singleton.mp h
      exact ⟨rfl, by simp [directories, hlocal], fun _ ↦ hlocal⟩
    · rename_i options hmode
      rcases List.mem_append.mp h with h | h
      · obtain ⟨recovery, hrecovery, rfl⟩ := List.mem_map.mp h
        refine ⟨rfl, ?_, fun hfalse ↦ Bool.noConfusion hfalse⟩
        simp only [directories, hmode]
        exact List.mem_append_right _ hrecovery
      · obtain rfl := List.mem_singleton.mp h
        exact ⟨rfl, by simp [directories, hlocal], fun _ ↦ hlocal⟩

/-- Where the local path is absolute every directory is compared. -/
theorem exists_target {connection : Connection} {localPath path : String}
    (hlocal : normalizeAbsolute connection.localPath = some localPath)
    (hpath : path ∈ directories connection) :
    ∃ target ∈ (validateDirectories connection).2, target.id = connection.id ∧
      target.path = path := by
  unfold validateDirectories
  rw [hlocal]
  unfold directories at hpath
  rw [hlocal] at hpath
  cases hmode : connection.mode with
  | onlineMount options =>
      simp only [hmode, List.append_nil, Option.toList_some, List.mem_singleton] at hpath
      exact ⟨_, List.mem_singleton_self _, rfl, hpath.symm⟩
  | offlineMirror options =>
      simp only [hmode, Option.toList_some, List.mem_append, List.mem_singleton] at hpath
      rcases hpath with rfl | hpath
      · exact ⟨_, List.mem_append_right _ (List.mem_singleton_self _), rfl, rfl⟩
      · exact ⟨⟨connection.id, path, false⟩, List.mem_append_left _ (List.mem_map_of_mem hpath),
          rfl, rfl⟩

theorem exists_localTarget {connection : Connection} {localPath : String}
    (hlocal : normalizeAbsolute connection.localPath = some localPath) :
    ⟨connection.id, localPath, true⟩ ∈ (validateDirectories connection).2 := by
  unfold validateDirectories
  rw [hlocal]
  cases connection.mode with
  | onlineMount options => exact List.mem_singleton_self _
  | offlineMirror options => exact List.mem_append_right _ (List.mem_singleton_self _)

/-! ## Conflicts -/

theorem mem_conflicts {ids : List ConnectionId} {targets : List Target} {error : ValidationError}
    (h : error ∈ conflicts ids targets) :
    ∃ first ∈ targets, ∃ second ∈ targets, conflict ids first second = some error := by
  induction targets with
  | nil => exact absurd h List.not_mem_nil
  | cons first rest ih =>
      rcases List.mem_append.mp h with h | h
      · obtain ⟨second, hsecond, hconflict⟩ := List.mem_filterMap.mp h
        exact ⟨first, List.mem_cons_self, second, List.mem_cons_of_mem _ hsecond, hconflict⟩
      · obtain ⟨first', hfirst, second, hsecond, hconflict⟩ := ih h
        exact ⟨first', List.mem_cons_of_mem _ hfirst, second, List.mem_cons_of_mem _ hsecond,
          hconflict⟩

theorem conflict_eq_none_comm {ids : List ConnectionId} {first second : Target} :
    conflict ids first second = none ↔ conflict ids second first = none := by
  simp only [conflict, ite_eq_right_iff, reduceCtorEq, imp_false]
  rw [pathsOverlap_comm first.path, ne_comm, Bool.and_comm first.isLocal]
  simp only [Bool.or_assoc, Bool.or_comm (decide (first.id ∈ ids))]

/-- Every pair is looked at, in one order or the other. -/
theorem conflict_of_conflicts_nil {ids : List ConnectionId} {targets : List Target}
    (h : conflicts ids targets = []) {first second : Target} (hfirst : first ∈ targets)
    (hsecond : second ∈ targets) : conflict ids first second = none := by
  induction targets with
  | nil => exact absurd hfirst List.not_mem_nil
  | cons head rest ih =>
      rw [conflicts, List.append_eq_nil_iff, List.filterMap_eq_nil_iff] at h
      rcases List.mem_cons.mp hfirst with rfl | hfirst'
      · rcases List.mem_cons.mp hsecond with rfl | hsecond'
        · simp [conflict]
        · exact h.1 second hsecond'
      · rcases List.mem_cons.mp hsecond with rfl | hsecond'
        · exact conflict_eq_none_comm.mp (h.1 first hfirst')
        · exact ih h.2 hfirst' hsecond'

/-! ## Valid configurations -/

/-- The directory is apart from the local path and from the system. -/
def KeptApart (connection : Connection) (directory : String) : Prop :=
  ∃ normalized, normalizeAbsolute directory = some normalized ∧ OutsideSystemTrees normalized ∧
    ∀ localPath, normalizeAbsolute connection.localPath = some localPath →
      pathsOverlap localPath normalized = false

structure SafeDirectories (document : ConfigDocument) : Prop where
  connectionIds : (document.connections.map (·.id)).Nodup
  vpnIds : (document.vpnProfiles.map (·.id)).Nodup
  vpnProfiles : ∀ connection ∈ document.connections, ∀ id, connection.vpnProfileId = some id →
    ∃ vpn ∈ document.vpnProfiles, vpn.id = id
  localPath : ∀ connection ∈ document.connections, ∃ localPath,
    normalizeAbsolute connection.localPath = some localPath ∧
      Path.isAbsolute localPath = true ∧ OutsideSystemTrees localPath
  localPaths : ∀ first ∈ document.connections, ∀ second ∈ document.connections,
    first.id ≠ second.id → ∀ firstPath secondPath,
      normalizeAbsolute first.localPath = some firstPath →
      normalizeAbsolute second.localPath = some secondPath →
        pathsOverlap firstPath secondPath = false
  cache : ∀ connection ∈ document.connections, ∀ options cache,
    connection.mode = .onlineMount options → options.cacheDirectory = some cache →
      KeptApart connection cache
  recovery : ∀ connection ∈ document.connections, ∀ options,
    connection.mode = .offlineMirror options → KeptApart connection options.recoveryDirectory
  rcloneOneDrive : ∀ first ∈ document.connections, ∀ second ∈ document.connections,
    first.id ≠ second.id → isRcloneOneDrive first = true →
      ∀ firstPath ∈ directories first, ∀ secondPath ∈ directories second,
        pathsOverlap firstPath secondPath = false

/-- Two connections whose directories the configuration must keep apart, and does not. -/
def InConflict (document : ConfigDocument) (first second : ConnectionId) : Prop :=
  first ≠ second ∧ ∃ a ∈ document.connections, ∃ b ∈ document.connections,
    a.id = first ∧ b.id = second ∧
      ((∃ p q, normalizeAbsolute a.localPath = some p ∧ normalizeAbsolute b.localPath = some q ∧
          pathsOverlap p q = true) ∨
        (∃ mirror ∈ document.connections, (mirror.id = first ∨ mirror.id = second) ∧
            isRcloneOneDrive mirror = true) ∧
          ∃ p ∈ directories a, ∃ q ∈ directories b, pathsOverlap p q = true)

theorem keptApart_of_isApart {connection : Connection} {localPath directory : String}
    (hlocal : normalizeAbsolute connection.localPath = some localPath)
    (h : isApart localPath directory = true) : KeptApart connection directory := by
  rw [isApart, Option.any_eq_true] at h
  obtain ⟨normalized, hnormalized, h⟩ := h
  rw [Bool.and_eq_true, Bool.not_eq_true', Bool.not_eq_true'] at h
  obtain ⟨-, names, -, rfl, hnames⟩ := normalizeAbsolute_eq_some hnormalized
  refine ⟨_, hnormalized, outsideSystemTrees_of_not_unsafe hnames h.2, ?_⟩
  intro localPath' hlocal'
  obtain rfl := Option.some.inj (hlocal.symm.trans hlocal')
  exact h.1

theorem validateDirectories_eq_nil {connection : Connection}
    (h : (validateDirectories connection).1 = []) :
    (∃ localPath, normalizeAbsolute connection.localPath = some localPath ∧
      Path.isAbsolute localPath = true ∧ OutsideSystemTrees localPath) ∧
    (∀ options cache, connection.mode = .onlineMount options →
      options.cacheDirectory = some cache → KeptApart connection cache) ∧
    ∀ options, connection.mode = .offlineMirror options →
      KeptApart connection options.recoveryDirectory := by
  unfold validateDirectories at h
  cases hlocal : normalizeAbsolute connection.localPath with
  | none => simp [hlocal] at h
  | some localPath =>
      obtain ⟨-, names, -, rfl, hnames⟩ := normalizeAbsolute_eq_some hlocal
      have hsystem (hreport : report (isUnsafeSystemPath (absolute names))
          (.unsafeSystemPath connection.id (absolute names)) = []) :
          ∃ localPath, some (absolute names) = some localPath ∧
            Path.isAbsolute localPath = true ∧ OutsideSystemTrees localPath :=
        ⟨_, rfl, isAbsolute_absolute names,
          outsideSystemTrees_of_not_unsafe hnames (report_eq_nil.mp hreport)⟩
      rw [hlocal] at h
      cases hmode : connection.mode with
      | onlineMount options =>
          simp only [hmode, List.append_eq_nil_iff] at h
          refine ⟨hsystem h.1, ?_, fun options hmode' ↦ ConnectionMode.noConfusion hmode'⟩
          intro options' cache hoptions hcache
          obtain rfl := ConnectionMode.onlineMount.inj hoptions
          have hmount := h.2
          simp only [validateOnlineMount, hcache, report_eq_nil, Bool.not_eq_false'] at hmount
          exact keptApart_of_isApart hlocal hmount
      | offlineMirror options =>
          simp only [hmode, List.append_eq_nil_iff] at h
          refine ⟨hsystem h.1, fun _ _ hmode' ↦ ConnectionMode.noConfusion hmode', ?_⟩
          intro options' hoptions
          obtain rfl := ConnectionMode.offlineMirror.inj hoptions
          have hmirror := h.2
          simp only [validateOfflineMirror, List.append_eq_nil_iff, report_eq_nil,
            Bool.not_eq_false'] at hmirror
          exact keptApart_of_isApart hlocal hmirror.1

theorem mem_rcloneOneDriveIds {document : ConfigDocument} {id : ConnectionId} :
    id ∈ rcloneOneDriveIds document ↔
      ∃ mirror ∈ document.connections, mirror.id = id ∧ isRcloneOneDrive mirror = true := by
  simp only [rcloneOneDriveIds, List.mem_map, List.mem_filter]
  constructor
  · rintro ⟨mirror, ⟨hmem, hmirror⟩, hid⟩
    exact ⟨mirror, hmem, hid, hmirror⟩
  · rintro ⟨mirror, hmem, hid, hmirror⟩
    exact ⟨mirror, ⟨hmem, hmirror⟩, hid⟩

/-- The parts of the errors of a document. -/
theorem errors_eq_nil {ext : Externals} {config : Config} (h : errors ext config = []) :
    validateVpns [] config.document.vpnProfiles = [] ∧
      (validateConnections ext (config.document.vpnProfiles.map (·.id)) []
        config.document.connections).1 = [] ∧
      conflicts (rcloneOneDriveIds config.document) (config.document.connections.flatMap
        fun connection ↦ (validateDirectories connection).2) = [] := by
  simp only [errors, List.append_eq_nil_iff, targets_eq] at h
  exact ⟨h.1.1.2, h.1.2, h.2⟩

theorem pathsOverlap_of_conflict_none {ids : List ConnectionId} {first second : Target}
    (h : conflict ids first second = none) (hids : first.id ≠ second.id)
    (hcheck : first.isLocal = true ∧ second.isLocal = true ∨ first.id ∈ ids ∨ second.id ∈ ids) :
    pathsOverlap first.path second.path = false := by
  rw [← Bool.not_eq_true]
  intro hoverlap
  have hmust : (first.isLocal && second.isLocal || decide (first.id ∈ ids) ||
      decide (second.id ∈ ids)) = true := by
    rcases hcheck with ⟨hfirst, hsecond⟩ | hfirst | hsecond
    · simp [hfirst, hsecond]
    · simp [hfirst]
    · simp [hsecond]
  rw [conflict, if_pos ⟨hids, hmust, hoverlap⟩] at h
  cases h

theorem safeDirectories_of_errors_nil {ext : Externals} {config : Config}
    (h : errors ext config = []) : SafeDirectories config.document := by
  obtain ⟨hvpns, hconnections, hconflicts⟩ := errors_eq_nil h
  obtain ⟨⟨hnodup, -⟩, hall⟩ := validateConnections_spec hconnections
  have hdirectories (connection : Connection) (hmem : connection ∈ config.document.connections) :=
    validateDirectories_eq_nil (hall connection hmem).2
  have hapart {first second : Connection} {a b : Target}
      (hfirst : first ∈ config.document.connections) (hsecond : second ∈ config.document.connections)
      (ha : a ∈ (validateDirectories first).2) (hb : b ∈ (validateDirectories second).2) :=
    conflict_of_conflicts_nil hconflicts (List.mem_flatMap_of_mem hfirst ha)
      (List.mem_flatMap_of_mem hsecond hb)
  exact {
    connectionIds := hnodup
    vpnIds := (validateVpns_eq_nil hvpns).1
    vpnProfiles := by
      intro connection hmem id hid
      obtain ⟨⟨seen, hsettings⟩, -⟩ := hall connection hmem
      rw [validateSettings, List.append_eq_nil_iff] at hsettings
      have hvpn := hsettings.2
      simp only [validateVpnReference, hid, report_eq_nil, decide_eq_false_iff_not,
        not_not] at hvpn
      obtain ⟨vpn, hvpn, hid⟩ := List.mem_map.mp hvpn
      exact ⟨vpn, hvpn, hid⟩
    localPath := fun connection hmem ↦ (hdirectories connection hmem).1
    localPaths := by
      intro first hfirst second hsecond hids firstPath secondPath hfirstPath hsecondPath
      have hnone := hapart hfirst hsecond (exists_localTarget hfirstPath)
        (exists_localTarget hsecondPath)
      have hoverlap := pathsOverlap_of_conflict_none hnone hids (.inl ⟨rfl, rfl⟩)
      exact hoverlap
    cache := fun connection hmem ↦ (hdirectories connection hmem).2.1
    recovery := fun connection hmem ↦ (hdirectories connection hmem).2.2
    rcloneOneDrive := by
      intro first hfirst second hsecond hids hmirror firstPath hfirstPath secondPath hsecondPath
      obtain ⟨firstLocal, hfirstLocal, -⟩ := (hdirectories first hfirst).1
      obtain ⟨secondLocal, hsecondLocal, -⟩ := (hdirectories second hsecond).1
      obtain ⟨a, ha, haid, rfl⟩ := exists_target hfirstLocal hfirstPath
      obtain ⟨b, hb, hbid, rfl⟩ := exists_target hsecondLocal hsecondPath
      have hid : a.id ∈ rcloneOneDriveIds config.document :=
        mem_rcloneOneDriveIds.mpr ⟨first, hfirst, haid.symm, hmirror⟩
      have hne : a.id ≠ b.id := by rwa [haid, hbid]
      exact pathsOverlap_of_conflict_none (hapart hfirst hsecond ha hb) hne (.inr (.inl hid)) }

/-! ## Reported conflicts -/

def isConflict : ValidationError → Bool
  | .conflictingTargets .. => true
  | _ => false

theorem any_report (holds : Bool) (error : ValidationError) :
    (report holds error).any isConflict = (holds && isConflict error) := by
  cases holds <;> simp [report]

theorem any_validatePreloadPolicy (name : String) (policy : PreloadPolicy) (requiresDepth : Bool) :
    (validatePreloadPolicy name policy requiresDepth).any isConflict = false := by
  unfold validatePreloadPolicy
  split <;> simp [any_report, isConflict]

theorem any_validateName (field value : String) :
    (validateName field value).any isConflict = false := by
  simp [validateName, any_report, isConflict]

theorem any_validateVpns (seen : List VpnProfileId) (vpns : List VpnProfile) :
    (validateVpns seen vpns).any isConflict = false := by
  induction vpns generalizing seen with
  | nil => rfl
  | cons vpn rest ih =>
      rw [validateVpns, List.any_append, ih, validateVpn]
      simp only [List.any_append, any_report, any_validateName, isConflict, Bool.and_false,
        Bool.or_false]

theorem any_validatePreloadOverride (provider : Provider) (name : String)
    (error : ConnectionId → ValidationError) (herror : ∀ id, isConflict (error id) = false)
    (connection : Connection) (overrides : Option ConnectionPreloadOverride) :
    (validatePreloadOverride provider name error connection overrides).any isConflict = false := by
  cases overrides with
  | none => rfl
  | some overrides =>
      simp only [validatePreloadOverride, List.any_append, any_report, herror,
        any_validatePreloadPolicy, Bool.and_false, Bool.or_false]

theorem any_validateSettings (ext : Externals) (vpnIds : List VpnProfileId)
    (seen : List ConnectionId) (connection : Connection) :
    (validateSettings ext vpnIds seen connection).any isConflict = false := by
  have hteams : (validateTeams ext connection).any isConflict = false := by
    unfold validateTeams
    split_ifs <;> simp [any_report, isConflict]
  have hvpn : (validateVpnReference vpnIds connection).any isConflict = false := by
    unfold validateVpnReference
    split <;> simp [any_report, isConflict]
  have hsmb := any_validatePreloadOverride .smb "smb_connection"
    .invalidSmbPreloadOverride (fun _ ↦ rfl) connection connection.smbPreloadOverride
  have hsftp := any_validatePreloadOverride .sftp "sftp_connection"
    .invalidSftpPreloadOverride (fun _ ↦ rfl) connection connection.sftpPreloadOverride
  simp only [validateSettings, List.any_append, any_report, any_validateName, isConflict,
    Bool.and_false, Bool.or_false, hteams, hvpn, validateSmbPreloadOverride, hsmb,
    validateSftpPreloadOverride, hsftp]

theorem any_validateDirectories (connection : Connection) :
    (validateDirectories connection).1.any isConflict = false := by
  unfold validateDirectories
  split
  · rfl
  · split
    · simp only [List.any_append, any_report, isConflict, Bool.and_false, Bool.false_or]
      unfold validateOnlineMount
      split <;> simp [any_report, isConflict]
    · simp [validateOfflineMirror, any_report, isConflict]

theorem any_validateConnections (ext : Externals) (vpnIds : List VpnProfileId)
    (seen : List ConnectionId) (connections : List Connection) :
    (validateConnections ext vpnIds seen connections).1.any isConflict = false := by
  induction connections generalizing seen with
  | nil => rfl
  | cons connection rest ih =>
      rw [validateConnections, validateConnection]
      simp only [List.any_append, any_validateSettings, any_validateDirectories, ih, Bool.or_false]

/-- A conflict among the errors comes from the comparison of directories. -/
theorem mem_errors_of_isConflict {ext : Externals} {config : Config} {error : ValidationError}
    (h : error ∈ errors ext config) (hconflict : isConflict error = true) :
    error ∈ conflicts (rcloneOneDriveIds config.document) (config.document.connections.flatMap
      fun connection ↦ (validateDirectories connection).2) := by
  have hnot {part : List ValidationError} (hpart : part.any isConflict = false) :
      error ∉ part := by
    intro hmem
    rw [List.any_eq_false] at hpart
    exact hpart error hmem hconflict
  simp only [errors, List.mem_append, targets_eq] at h
  rcases h with (((hschema | hpreload) | hvpns) | hconnections) | hconflicts
  · exact absurd hschema (hnot (by simp [any_report, isConflict]))
  · refine absurd hpreload (hnot ?_)
    simp only [validatePreload, List.any_append, any_validatePreloadPolicy, Bool.or_false]
  · exact absurd hvpns (hnot (any_validateVpns _ _))
  · exact absurd hconnections (hnot (any_validateConnections _ _ _ _))
  · exact hconflicts

theorem inConflict_of_mem_errors {ext : Externals} {config : Config} {first second : ConnectionId}
    {firstPath secondPath : String}
    (h : .conflictingTargets first second firstPath secondPath ∈ errors ext config) :
    InConflict config.document first second := by
  obtain ⟨a, ha, b, hb, hconflict⟩ := mem_conflicts (mem_errors_of_isConflict h rfl)
  obtain ⟨connection, hmem, ha⟩ := List.mem_flatMap.mp ha
  obtain ⟨other, hother, hb⟩ := List.mem_flatMap.mp hb
  obtain ⟨haid, hapath, halocal⟩ := mem_targets ha
  obtain ⟨hbid, hbpath, hblocal⟩ := mem_targets hb
  dsimp only [conflict] at hconflict
  split_ifs at hconflict with hchecked
  obtain ⟨hids, hmust, hoverlap⟩ := hchecked
  injection hconflict with hconflict
  injection hconflict with hfirst hsecond hfirstPath hsecondPath
  subst hfirst hsecond
  refine ⟨hids, connection, hmem, other, hother, haid.symm, hbid.symm, ?_⟩
  simp only [Bool.or_eq_true, Bool.and_eq_true, decide_eq_true_eq] at hmust
  rcases hmust with (⟨hfirstLocal, hsecondLocal⟩ | hfirstMirror) | hsecondMirror
  · exact .inl ⟨a.path, b.path, halocal hfirstLocal, hblocal hsecondLocal, hoverlap⟩
  · obtain ⟨mirror, hmirror, hid, hrclone⟩ := mem_rcloneOneDriveIds.mp hfirstMirror
    exact .inr ⟨⟨mirror, hmirror, .inl hid, hrclone⟩, a.path, hapath, b.path, hbpath, hoverlap⟩
  · obtain ⟨mirror, hmirror, hid, hrclone⟩ := mem_rcloneOneDriveIds.mp hsecondMirror
    exact .inr ⟨⟨mirror, hmirror, .inr hid, hrclone⟩, a.path, hapath, b.path, hbpath, hoverlap⟩

theorem validate_spec (ext : Externals) (config : Config) :
    (validate ext config = .ok () → SafeDirectories config.document) ∧
      ∀ reported first second firstPath secondPath, validate ext config = .error reported →
        .conflictingTargets first second firstPath secondPath ∈ reported →
          InConflict config.document first second := by
  constructor
  · intro hvalid
    exact safeDirectories_of_errors_nil (validate_eq_ok.mp hvalid)
  · intro reported first second firstPath secondPath hinvalid hmem
    rw [validate, resultOf] at hinvalid
    split_ifs at hinvalid
    obtain rfl := Except.error.inj hinvalid
    exact inConflict_of_mem_errors hmem

/-! ## Samples -/

def sampleConfig (connections : List Connection) : Config := ⟨{ connections }⟩

def otherId : ConnectionId := ⟨"0a1b2c3d-0a1b-4c2d-8e3f-0123456789ab", by decide⟩

/-- A mirror, and another connection whose local path may lie in it. -/
def sampleConnections (localPath : String) : List Connection :=
  [sampleMirror .box none,
    { sampleMirror .box none with
      id := otherId
      mode := .onlineMount {}
      localPath := localPath }]

theorem validate_spec_sample :
    SafeDirectories (sampleConfig (sampleConnections "/home/u/Other")).document ∧
      InConflict (sampleConfig (sampleConnections "/home/u/Cloud/x/../Inner")).document
        sampleId otherId := by
  constructor
  · apply (validate_spec sampleExternals _).1
    decide +kernel
  · apply (validate_spec sampleExternals _).2 [.conflictingTargets sampleId otherId "/home/u/Cloud"
      "/home/u/Cloud/Inner"] _ _ _ _ _ (List.mem_singleton_self _)
    decide +kernel

end CosmicMounter.Config

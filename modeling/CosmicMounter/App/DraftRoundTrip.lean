import CosmicMounter.App.ConnectionDraft
import CosmicMounter.Config.Directories
import CosmicMounter.Rust.Pattern
import CosmicMounter.Rust.Trimming

/-!
# Opening a connection in the editor

A valid connection is read back from its own draft, with its texts trimmed and
with the values that the draft has no place for replaced by defaults.
-/

namespace CosmicMounter.Editor

open Rust Sftp Config

/-! ## What validation has checked -/

/-- An override is within the limits and belongs to a mount of the provider. -/
def IsOverrideOf (provider : Provider) (connection : Connection) (override : ConnectionPreloadOverride) :
    Prop :=
  connection.provider = provider ∧ Config.isOnlineMount connection = true ∧
    isWithin minPreloadSeconds override.maximumSeconds maxPreloadSeconds = true ∧
    isWithin minPreloadDepth override.maximumDepth maxPreloadDepth = true

/-- What the conversions rely on. -/
structure IsAccepted (ext : Externals) (connection : Connection) : Prop where
  name : Str.trim connection.name ≠ ""
  remoteReference : Str.trim connection.remoteReference ≠ ""
  remoteSubpath : ∀ path, connection.remoteSubpath = some path → Str.trim path ≠ ""
  localPath : Path.isAbsolute connection.localPath = true
  recoveryDirectory : ∀ options, connection.mode = .offlineMirror options →
    Path.isAbsolute options.recoveryDirectory = true
  library : connection.provider = .teams → ∃ identity parsed, connection.teamsIdentity = some identity ∧
    ext.parseLibraryUrl identity.libraryUrl = .ok parsed ∧ parsed.siteUrl = identity.siteUrl
  noLibrary : connection.provider ≠ .teams → connection.teamsIdentity = none
  smbPreloadOverride : ∀ override, connection.smbPreloadOverride = some override →
    IsOverrideOf .smb connection override
  sftpPreloadOverride : ∀ override, connection.sftpPreloadOverride = some override →
    IsOverrideOf .sftp connection override

section Accepted

variable {ext : Externals} {connection : Connection}

theorem isOverrideOf_of_validate {provider : Provider} {name : String} {error : ConnectionId → ValidationError}
    {override : ConnectionPreloadOverride}
    (h : validatePreloadOverride provider name error connection (some override) = []) :
    IsOverrideOf provider connection override := by
  simp only [validatePreloadOverride, validatePreloadPolicy, List.append_eq_nil_iff, report_eq_nil,
    Bool.or_eq_false_iff, Bool.not_eq_false', bne_eq_false_iff_eq] at h
  obtain ⟨⟨hprovider, honline⟩, hseconds, hdepth⟩ := h
  exact ⟨hprovider, honline, hseconds, hdepth⟩

theorem library_of_validate (h : validateTeams ext connection = []) :
    (connection.provider = .teams → ∃ identity parsed, connection.teamsIdentity = some identity ∧
      ext.parseLibraryUrl identity.libraryUrl = .ok parsed ∧ parsed.siteUrl = identity.siteUrl) ∧
    (connection.provider ≠ .teams → connection.teamsIdentity = none) := by
  unfold validateTeams at h
  constructor
  · intro hteams
    rw [if_pos hteams, report_eq_nil, Bool.not_eq_false', teamsIdentityIsValid, Bool.and_eq_true] at h
    obtain ⟨identity, hidentity, hparsed⟩ := Option.any_eq_true _ _ |>.mp h.1
    rw [Bool.and_eq_true] at hparsed
    have hurl := hparsed.2
    cases hparse : ext.parseLibraryUrl identity.libraryUrl with
    | error e => simp [hparse] at hurl
    | ok parsed => exact ⟨identity, parsed, hidentity, hparse, by simpa [hparse] using hurl⟩
  · intro hteams
    rw [if_neg hteams, report_eq_nil] at h
    exact Option.not_isSome_iff_eq_none.mp (by simp [h])

theorem isAccepted_of_validate {config : Config} (hvalid : validate ext config = .ok ())
    (hmem : connection ∈ config.document.connections) : IsAccepted ext connection := by
  obtain ⟨-, hconnections, -⟩ := errors_eq_nil (validate_eq_ok.mp hvalid)
  obtain ⟨-, hall⟩ := validateConnections_spec hconnections
  obtain ⟨⟨seen, hsettings⟩, -⟩ := hall connection hmem
  have hsafe := safeDirectories_of_errors_nil (validate_eq_ok.mp hvalid)
  simp only [validateSettings, validateName, List.append_eq_nil_iff, report_eq_nil,
    Bool.or_eq_false_iff] at hsettings
  obtain ⟨⟨⟨⟨⟨⟨⟨⟨⟨-, hname⟩, -⟩, -⟩, hreference⟩, hsubpath⟩, hteams⟩, hsmb⟩, hsftp⟩, -⟩ := hsettings
  obtain ⟨localPath, hlocal, -, -⟩ := hsafe.localPath connection hmem
  exact {
    name := by simpa using hname.1
    remoteReference := by simpa using hreference.1
    remoteSubpath := by
      intro path hpath
      simp only [hpath, Option.any_some, Bool.or_eq_false_iff, isUnsafeRemoteSubpath] at hsubpath
      simpa using hsubpath.2.1.1
    localPath := (normalizeAbsolute_eq_some hlocal).1
    recoveryDirectory := by
      intro options hmode
      obtain ⟨recovery, hrecovery, -⟩ := hsafe.recovery connection hmem options hmode
      exact (normalizeAbsolute_eq_some hrecovery).1
    library := (library_of_validate hteams).1
    noLibrary := (library_of_validate hteams).2
    smbPreloadOverride := by
      intro override hoverride
      rw [validateSmbPreloadOverride, hoverride] at hsmb
      exact isOverrideOf_of_validate hsmb
    sftpPreloadOverride := by
      intro override hoverride
      rw [validateSftpPreloadOverride, hoverride] at hsftp
      exact isOverrideOf_of_validate hsftp }

end Accepted

/-! ## Texts -/

section Texts

variable (env : Environment)

theorem head_trim_of_isAbsolute {path : String} (h : Path.isAbsolute path = true) :
    (Str.trim path).toList.head? = some '/' := by
  obtain ⟨rest, hpath⟩ : ∃ rest, path.toList = '/' :: rest := by
    obtain ⟨rest, hrest⟩ := List.isPrefixOf_iff_prefix.mp h
    exact ⟨rest, hrest.symm⟩
  rw [Str.trim_of_head (by rw [hpath]; rfl) (by decide), Str.trimEnd, String.toList_ofList]
  obtain ⟨dropped, hsplit, hblank⟩ := Str.exists_eq_rdropWhile_append Str.isWhitespace path.toList
  cases hkept : path.toList.rdropWhile Str.isWhitespace with
  | nil =>
      rw [hkept, List.nil_append] at hsplit
      have hslash := hblank '/' (by rw [← hsplit, hpath]; exact List.mem_cons_self)
      exact absurd hslash (by decide)
  | cons c kept =>
      rw [hkept, hpath] at hsplit
      exact congrArg some (List.cons.inj hsplit).1.symm

theorem trim_ne_empty_of_isAbsolute {path : String} (h : Path.isAbsolute path = true) :
    Str.trim path ≠ "" := by
  intro hempty
  have hhead := head_trim_of_isAbsolute h
  rw [hempty] at hhead
  cases hhead

/-- An absolute path has no tilde to expand. -/
theorem expandUserPath_trim {path : String} (h : Path.isAbsolute path = true) :
    expandUserPath env (Str.trim path) = Str.trim path := by
  have hhead := head_trim_of_isAbsolute h
  have htilde : Str.trim path ≠ "~" := by
    intro heq
    rw [heq] at hhead
    exact absurd hhead (by decide)
  have hprefix : Str.stripPrefix "~/" (Str.trim path) = none := by
    obtain ⟨c, rest, htext⟩ := List.exists_cons_of_ne_nil (l := (Str.trim path).toList) (by
      intro hnil
      rw [hnil] at hhead
      cases hhead)
    rw [htext] at hhead
    obtain rfl := Option.some.inj hhead
    simp [Str.stripPrefix, htext, List.dropPrefix?]
  rw [expandUserPath, if_neg htilde, hprefix]

theorem trim_toString (n : Nat) : Str.trim (toString n) = toString n := by
  apply Str.trim_of_no_whitespace
  intro c hc
  have hdigits : (toString n).toList = Nat.toDigits 10 n := Nat.toList_repr
  rw [hdigits] at hc
  apply Str.isWhitespace_of_isDigit
  exact Nat.isDigit_of_mem_toDigits (by decide) (by decide) hc

theorem parseUnsigned_trim_toString {bits n : Nat} (hbits : bits ≤ 64) (h : n < 2 ^ bits) :
    parseUnsigned bits (Str.trim (toString n)) = some n := by
  have hwide : n < 2 ^ 64 := h.trans_le (Nat.pow_le_pow_right (by decide) hbits)
  rw [trim_toString, parseUnsigned, Str.parseU64_toString hwide]
  exact if_pos (decide_eq_true h)

theorem requiredText_of_ne {key text : String} (h : Str.trim text ≠ "") :
    requiredText key text = .ok (Str.trim text) := if_neg h

theorem requiredText_eq_ok {key text trimmed : String} (h : requiredText key text = .ok trimmed) :
    trimmed = Str.trim text := by
  unfold requiredText at h
  split at h
  · cases h
  · exact (Except.ok.inj h).symm

end Texts

/-! ## The parts of a draft -/

section Parts

variable (env : Environment) {ext : Externals} {newId : ConnectionId}

/-- The connection that is put together from what was read. -/
def assembled (newId : ConnectionId) (draft : ConnectionDraft) (teamsIdentity : Option SharePointLibraryIdentity)
    (mode : ConnectionMode) (override : Option ConnectionPreloadOverride) : Connection where
  id := draft.id.getD newId
  name := Str.trim draft.name
  provider := draft.provider
  mode := mode
  remoteReference := Str.trim draft.remoteReference
  remoteSubpath := draftSubpath draft
  localPath := expandUserPath env (Str.trim draft.localPath)
  enabled := draft.enabled
  vpnProfileId := draft.vpnProfileId
  disconnectVpnWhenUnused := draft.disconnectVpnWhenUnused
  tuningProfile := .balanced
  smbPreloadOverride := if draft.provider = .smb then override else none
  sftpPreloadOverride := if draft.provider = .sftp then override else none
  teamsIdentity := teamsIdentity
  onedriveIdentity := draft.onedriveIdentity

theorem connectionFromDraft_of_parts {draft : ConnectionDraft} {teamsIdentity : Option SharePointLibraryIdentity}
    {mode : ConnectionMode} {override : Option ConnectionPreloadOverride}
    (hname : Str.trim draft.name ≠ "") (hreference : Str.trim draft.remoteReference ≠ "")
    (hlocal : Str.trim draft.localPath ≠ "") (hteams : draftTeamsIdentity ext draft = .ok teamsIdentity)
    (hmode : draftMode env draft (expandUserPath env (Str.trim draft.localPath)) (draft.id.getD newId) =
      .ok mode)
    (hoverride : draftPreloadOverride draft = .ok override) :
    connectionFromDraft env ext newId draft = .ok (assembled env newId draft teamsIdentity mode override) := by
  simp only [connectionFromDraft, requiredText_of_ne hname, requiredText_of_ne hreference,
    requiredText_of_ne hlocal, Rust.Result.ok_bind, hteams, hmode, hoverride]
  rfl

theorem parts_of_connectionFromDraft {draft : ConnectionDraft} {connection : Connection}
    (h : connectionFromDraft env ext newId draft = .ok connection) :
    ∃ teamsIdentity mode override, draftTeamsIdentity ext draft = .ok teamsIdentity ∧
      draftMode env draft (expandUserPath env (Str.trim draft.localPath)) (draft.id.getD newId) = .ok mode ∧
      draftPreloadOverride draft = .ok override ∧
      connection = assembled env newId draft teamsIdentity mode override := by
  unfold connectionFromDraft at h
  obtain ⟨name, hname, h⟩ := Rust.Result.bind_eq_ok h
  obtain ⟨reference, hreference, h⟩ := Rust.Result.bind_eq_ok h
  obtain ⟨localText, hlocal, h⟩ := Rust.Result.bind_eq_ok h
  obtain ⟨teamsIdentity, hteams, h⟩ := Rust.Result.bind_eq_ok h
  obtain ⟨mode, hmode, h⟩ := Rust.Result.bind_eq_ok h
  obtain ⟨override, hoverride, h⟩ := Rust.Result.bind_eq_ok h
  obtain rfl := requiredText_eq_ok hname
  obtain rfl := requiredText_eq_ok hreference
  obtain rfl := requiredText_eq_ok hlocal
  exact ⟨teamsIdentity, mode, override, hteams, hmode, hoverride, (Except.ok.inj h).symm⟩

end Parts

/-! ## The draft of a stored connection -/

/-- The numbers of a connection fit their types. -/
structure HasWidths (connection : Connection) : Prop where
  cacheLimitBytes : ∀ options, connection.mode = .onlineMount options → options.cacheLimitBytes < 2 ^ 64
  syncIntervalMinutes : ∀ options, connection.mode = .offlineMirror options →
    options.syncIntervalMinutes < 2 ^ 32

def reopenedLibrary (ext : Externals) (identity : SharePointLibraryIdentity) : SharePointLibraryIdentity :=
  match ext.parseLibraryUrl identity.libraryUrl with
  | .ok parsed => { parsed with driveId := identity.driveId }
  | .error _ => identity

def reopenedMode : ConnectionMode → ConnectionMode
  | .onlineMount options =>
      .onlineMount { options with
        cacheDirectory := none
        cacheLimitBytes := options.cacheLimitBytes / gib * gib }
  | .offlineMirror options =>
      .offlineMirror { options with recoveryDirectory := Str.trim options.recoveryDirectory }

/-- What a connection is after it was opened. -/
def reopened (ext : Externals) (connection : Connection) : Connection :=
  { connection with
    name := Str.trim connection.name
    mode := reopenedMode connection.mode
    remoteReference := Str.trim connection.remoteReference
    remoteSubpath := connection.remoteSubpath.map Str.trim
    localPath := Str.trim connection.localPath
    tuningProfile := .balanced
    teamsIdentity := connection.teamsIdentity.map (reopenedLibrary ext) }

section Own

variable (env : Environment) {ext : Externals} {connection : Connection}

theorem draftSubpath_own (h : IsAccepted ext connection) :
    draftSubpath (draftFromConnection env connection) = connection.remoteSubpath.map Str.trim := by
  cases hsubpath : connection.remoteSubpath with
  | none => simp [draftSubpath, draftFromConnection, hsubpath, Str.trim, Str.trimStart, Str.trimEnd]
  | some path =>
      have hblank := h.remoteSubpath path hsubpath
      simp [draftSubpath, draftFromConnection, hsubpath, hblank]

theorem draftTeamsIdentity_own (h : IsAccepted ext connection) :
    draftTeamsIdentity ext (draftFromConnection env connection) =
      .ok (connection.teamsIdentity.map (reopenedLibrary ext)) := by
  by_cases hteams : connection.provider = .teams
  · obtain ⟨identity, parsed, hidentity, hparsed, -⟩ := h.library hteams
    simp [draftTeamsIdentity, draftFromConnection, hteams, hidentity, hparsed, reopenedLibrary, Except.map]
  · have hnone := h.noLibrary hteams
    simp [draftTeamsIdentity, draftFromConnection, hteams, hnone]

/-- A mirror of OneDrive that can run names its engine. -/
theorem draftEngine_own {options : OfflineMirrorConfig} (hmode : connection.mode = .offlineMirror options)
    (hsupported : connection.ensureSupportedEngine = .ok ()) :
    draftEngine (draftFromConnection env connection) = options.engine := by
  by_cases hprovider : connection.provider = .onedrive
  · have hengine : options.engine = some .rclone := by
      unfold Connection.ensureSupportedEngine Connection.offlineEngine at hsupported
      rw [hmode, if_pos hprovider] at hsupported
      cases hstored : options.engine with
      | none => simp [hstored] at hsupported
      | some engine =>
          cases engine with
          | rclone => rfl
          | legacyOnedrive => simp [hstored] at hsupported
    simp [draftEngine, draftFromConnection, hprovider, hmode, hengine, Connection.offlineEngine]
  · simp [draftEngine, draftFromConnection, hprovider, hmode]

theorem draftMode_own (h : IsAccepted ext connection) (hwidths : HasWidths connection)
    (hsupported : connection.ensureSupportedEngine = .ok ()) (localPath : String) (id : ConnectionId) :
    draftMode env (draftFromConnection env connection) localPath id = .ok (reopenedMode connection.mode) := by
  cases hmode : connection.mode with
  | onlineMount options =>
      have hwidth := hwidths.cacheLimitBytes options hmode
      have hquotient : options.cacheLimitBytes / gib ≤ options.cacheLimitBytes := Nat.div_le_self _ _
      have hproduct := Nat.div_mul_le_self options.cacheLimitBytes gib
      have hparsed : parseUnsigned 64 (Str.trim (toString (options.cacheLimitBytes / gib))) =
          some (options.cacheLimitBytes / gib) := parseUnsigned_trim_toString le_rfl (by omega)
      have hmin : min (options.cacheLimitBytes / gib * gib) (2 ^ 64 - 1) =
          options.cacheLimitBytes / gib * gib := by omega
      simp only [draftMode, draftFromConnection, hmode, modeDraft, hparsed, hmin]
      rfl
  | offlineMirror options =>
      have hparsed := parseUnsigned_trim_toString (by decide) (hwidths.syncIntervalMinutes options hmode)
      have habsolute := h.recoveryDirectory options hmode
      have hrecovery : draftRecoveryDirectory env (draftFromConnection env connection) localPath id =
          Str.trim options.recoveryDirectory := by
        have hfield : (draftFromConnection env connection).recoveryDirectory = options.recoveryDirectory := by
          simp [draftFromConnection, hmode, modeDraft]
        rw [draftRecoveryDirectory, hfield, if_neg (trim_ne_empty_of_isAbsolute habsolute),
          expandUserPath_trim env habsolute]
      have hengine := draftEngine_own env hmode hsupported
      have haccess : (draftFromConnection env connection).accessMode = .offlineMirror := by
        simp [draftFromConnection, hmode, modeDraft]
      have hinterval : (draftFromConnection env connection).syncIntervalMinutes =
          toString options.syncIntervalMinutes := by
        simp [draftFromConnection, hmode, modeDraft]
      have hmetered : (draftFromConnection env connection).syncOnMetered = options.syncOnMetered := by
        simp [draftFromConnection, hmode, modeDraft]
      rw [draftMode, haccess, hinterval, hrecovery, hengine, hmetered]
      simp only [hparsed]
      rfl

/-- The override that is stored for the connection is one of its provider. -/
theorem isOverrideOf_stored (h : IsAccepted ext connection) {override : ConnectionPreloadOverride}
    (hstored : storedPreloadOverride connection = some override) :
    (connection.provider = .smb ∨ connection.provider = .sftp) ∧
      IsOverrideOf connection.provider connection override := by
  unfold storedPreloadOverride at hstored
  split at hstored
  · next hsftp =>
      have hoverride := h.sftpPreloadOverride override hstored
      exact ⟨.inr hsftp, rfl, hoverride.2⟩
  · have hoverride := h.smbPreloadOverride override hstored
    exact ⟨.inl hoverride.1, rfl, hoverride.2⟩

theorem le_maxPreload {override : ConnectionPreloadOverride} {provider : Provider}
    (h : IsOverrideOf provider connection override) :
    override.maximumSeconds < 2 ^ 64 ∧ override.maximumDepth < 2 ^ 8 := by
  obtain ⟨-, -, hseconds, hdepth⟩ := h
  simp only [isWithin, Bool.and_eq_true, decide_eq_true_eq] at hseconds hdepth
  have hmostSeconds : maxPreloadSeconds = 600 := rfl
  have hmostDepth : maxPreloadDepth = 10 := rfl
  omega

theorem draftPreloadOverride_own (h : IsAccepted ext connection) :
    draftPreloadOverride (draftFromConnection env connection) = .ok (storedPreloadOverride connection) := by
  cases hstored : storedPreloadOverride connection with
  | none =>
      have hglobal : (draftFromConnection env connection).connectionPreloadUseGlobal = true := by
        simp [draftFromConnection, hstored]
      rw [draftPreloadOverride, if_neg]
      rintro ⟨-, -, huse⟩
      rw [hglobal] at huse
      cases huse
  | some override =>
      obtain ⟨hprovider, hoverride⟩ := isOverrideOf_stored h hstored
      obtain ⟨hseconds, hdepth⟩ := le_maxPreload hoverride
      obtain ⟨-, honline, hwithin, hdeep⟩ := hoverride
      have haccess : (draftFromConnection env connection).accessMode = .onlineMount := by
        unfold Config.isOnlineMount at honline
        cases hmode : connection.mode with
        | onlineMount options => simp [draftFromConnection, hmode, modeDraft]
        | offlineMirror options => simp [hmode] at honline
      have hglobal : (draftFromConnection env connection).connectionPreloadUseGlobal = false := by
        simp [draftFromConnection, hstored]
      have htime : (draftFromConnection env connection).connectionPreloadSeconds =
          toString override.maximumSeconds := by
        simp [draftFromConnection, hstored]
      have hlevels : (draftFromConnection env connection).connectionPreloadDepth =
          toString override.maximumDepth := by
        simp [draftFromConnection, hstored]
      have henabled : (draftFromConnection env connection).connectionPreloadEnabled = override.enabled := by
        simp [draftFromConnection, hstored]
      have hprovider' : (draftFromConnection env connection).provider = connection.provider := rfl
      rw [draftPreloadOverride, hprovider', haccess, hglobal, htime, hlevels, henabled,
        if_pos ⟨hprovider, rfl, rfl⟩, parseUnsigned_trim_toString le_rfl hseconds,
        parseUnsigned_trim_toString (by decide) hdepth]
      simp only [hwithin, hdeep, Bool.not_true, Bool.false_eq_true, if_false]

theorem smbPreloadOverride_own (h : IsAccepted ext connection) :
    (if connection.provider = .smb then storedPreloadOverride connection else none) =
      connection.smbPreloadOverride := by
  cases hoverride : connection.smbPreloadOverride with
  | none => split <;> simp [storedPreloadOverride, *]
  | some override =>
      have hprovider := (h.smbPreloadOverride override hoverride).1
      simp [storedPreloadOverride, hprovider, hoverride]

theorem sftpPreloadOverride_own (h : IsAccepted ext connection) :
    (if connection.provider = .sftp then storedPreloadOverride connection else none) =
      connection.sftpPreloadOverride := by
  cases hoverride : connection.sftpPreloadOverride with
  | none => split <;> simp [storedPreloadOverride, *]
  | some override =>
      have hprovider := (h.sftpPreloadOverride override hoverride).1
      simp [storedPreloadOverride, hprovider, hoverride]

theorem assembled_own (h : IsAccepted ext connection) (newId : ConnectionId) :
    assembled env newId (draftFromConnection env connection)
      (connection.teamsIdentity.map (reopenedLibrary ext)) (reopenedMode connection.mode)
      (storedPreloadOverride connection) = reopened ext connection := by
  have hlocal : expandUserPath env (Str.trim (draftFromConnection env connection).localPath) =
      Str.trim connection.localPath := expandUserPath_trim env h.localPath
  have hprovider : (draftFromConnection env connection).provider = connection.provider := rfl
  simp only [assembled, reopened, hlocal, draftSubpath_own env h, hprovider,
    smbPreloadOverride_own h, sftpPreloadOverride_own h]
  rfl

theorem connectionFromDraft_own (h : IsAccepted ext connection) (hwidths : HasWidths connection)
    (hsupported : connection.ensureSupportedEngine = .ok ()) (newId : ConnectionId) :
    connectionFromDraft env ext newId (draftFromConnection env connection) = .ok (reopened ext connection) := by
  have hname : Str.trim (draftFromConnection env connection).name ≠ "" := h.name
  have hreference : Str.trim (draftFromConnection env connection).remoteReference ≠ "" := h.remoteReference
  have hlocal : Str.trim (draftFromConnection env connection).localPath ≠ "" :=
    trim_ne_empty_of_isAbsolute h.localPath
  rw [← assembled_own env h newId]
  exact connectionFromDraft_of_parts env hname hreference hlocal (draftTeamsIdentity_own env h)
    (draftMode_own env h hwidths hsupported _ _) (draftPreloadOverride_own env h)

end Own

/-! ## Connections that survive the editor -/

/-- The address is read as itself. -/
def IsReadAsWritten (ext : Externals) (url : String) : Prop :=
  ∀ parsed, ext.parseLibraryUrl url = .ok parsed → parsed.libraryUrl = url

/-- The values of a connection for which the draft has a place. -/
structure IsEditable (ext : Externals) (connection : Connection) : Prop where
  name : Str.trim connection.name = connection.name
  remoteReference : Str.trim connection.remoteReference = connection.remoteReference
  remoteSubpath : ∀ path, connection.remoteSubpath = some path → Str.trim path = path
  localPath : Path.Same (Str.trim connection.localPath) connection.localPath
  tuningProfile : connection.tuningProfile = .balanced
  cache : ∀ options, connection.mode = .onlineMount options →
    options.cacheDirectory = none ∧ gib ∣ options.cacheLimitBytes
  recoveryDirectory : ∀ options, connection.mode = .offlineMirror options →
    Path.Same (Str.trim options.recoveryDirectory) options.recoveryDirectory
  library : ∀ identity, connection.teamsIdentity = some identity →
    IsReadAsWritten ext identity.libraryUrl

section Editable

variable {ext : Externals} {connection : Connection}

theorem reopenedLibrary_eq_iff (h : IsAccepted ext connection) {identity : SharePointLibraryIdentity}
    (hidentity : connection.teamsIdentity = some identity) :
    reopenedLibrary ext identity = identity ↔ IsReadAsWritten ext identity.libraryUrl := by
  have hteams : connection.provider = .teams := by
    by_contra hother
    rw [h.noLibrary hother] at hidentity
    cases hidentity
  obtain ⟨identity', parsed, hidentity', hparsed, hsite⟩ := h.library hteams
  obtain rfl := Option.some.inj (hidentity.symm.trans hidentity')
  obtain ⟨siteUrl, libraryUrl, driveId⟩ := identity
  constructor
  · intro hsame parsed' hparsed'
    rw [hparsed] at hparsed'
    obtain rfl := Except.ok.inj hparsed'
    simp only [reopenedLibrary, hparsed, SharePointLibraryIdentity.mk.injEq] at hsame
    exact hsame.2.1
  · intro hread
    have hlibrary := hread parsed hparsed
    simp only [reopenedLibrary, hparsed, SharePointLibraryIdentity.mk.injEq]
    exact ⟨hsite, hlibrary, trivial⟩

theorem sameMode_reopened_iff (mode : ConnectionMode) :
    SameMode mode (reopenedMode mode) ↔
      (∀ options, mode = .onlineMount options →
        options.cacheDirectory = none ∧ gib ∣ options.cacheLimitBytes) ∧
      ∀ options, mode = .offlineMirror options →
        Path.Same (Str.trim options.recoveryDirectory) options.recoveryDirectory := by
  cases mode with
  | onlineMount options =>
      have hmount : SameMode (.onlineMount options) (reopenedMode (.onlineMount options)) ↔
          gib ∣ options.cacheLimitBytes ∧ options.cacheDirectory = none := by
        rw [Nat.dvd_iff_div_mul_eq]
        obtain ⟨cacheDirectory, cacheLimitBytes, startAtLogin⟩ := options
        simp [SameMode, reopenedMode, eq_comm]
      rw [hmount]
      constructor
      · rintro ⟨hlimit, hcache⟩
        refine ⟨fun options' hoptions ↦ ?_, nofun⟩
        obtain rfl := ConnectionMode.onlineMount.inj hoptions
        exact ⟨hcache, hlimit⟩
      · rintro ⟨hcache, -⟩
        exact (hcache options rfl).symm
  | offlineMirror options =>
      have hmirror : SameMode (.offlineMirror options) (reopenedMode (.offlineMirror options)) ↔
          Path.Same options.recoveryDirectory (Str.trim options.recoveryDirectory) := by
        simp [SameMode, reopenedMode]
      rw [hmirror]
      constructor
      · intro hsame
        refine ⟨nofun, fun options' hoptions ↦ ?_⟩
        obtain rfl := ConnectionMode.offlineMirror.inj hoptions
        exact hsame.symm
      · rintro ⟨-, hrecovery⟩
        exact (hrecovery options rfl).symm

theorem map_trim_eq_iff (subpath : Option String) :
    subpath.map Str.trim = subpath ↔ ∀ path, subpath = some path → Str.trim path = path := by
  cases subpath <;> simp

theorem map_reopenedLibrary_eq_iff (h : IsAccepted ext connection) :
    connection.teamsIdentity.map (reopenedLibrary ext) = connection.teamsIdentity ↔
      ∀ identity, connection.teamsIdentity = some identity → IsReadAsWritten ext identity.libraryUrl := by
  constructor
  · intro hsame identity hidentity
    rw [hidentity, Option.map_some] at hsame
    exact (reopenedLibrary_eq_iff h hidentity).mp (Option.some.inj hsame)
  · intro hread
    cases hidentity : connection.teamsIdentity with
    | none => rfl
    | some identity =>
        exact congrArg some ((reopenedLibrary_eq_iff h hidentity).mpr (hread identity hidentity))

theorem sameConnection_reopened_iff (h : IsAccepted ext connection) :
    SameConnection connection (reopened ext connection) ↔ IsEditable ext connection := by
  have hfields : { connection with
        localPath := (reopened ext connection).localPath, mode := (reopened ext connection).mode } =
      reopened ext connection ↔
        connection.name = Str.trim connection.name ∧
        connection.remoteReference = Str.trim connection.remoteReference ∧
        connection.remoteSubpath = connection.remoteSubpath.map Str.trim ∧
        connection.tuningProfile = .balanced ∧
        connection.teamsIdentity = connection.teamsIdentity.map (reopenedLibrary ext) := by
    simp only [reopened, Connection.mk.injEq, true_and, and_true]
  have hmodes := sameMode_reopened_iff connection.mode
  rw [SameConnection, hfields]
  constructor
  · rintro ⟨⟨hname, hreference, hsubpath, htuning, hlibrary⟩, hlocal, hmode⟩
    exact {
      name := hname.symm
      remoteReference := hreference.symm
      remoteSubpath := (map_trim_eq_iff _).mp hsubpath.symm
      localPath := hlocal.symm
      tuningProfile := htuning
      cache := (hmodes.mp hmode).1
      recoveryDirectory := (hmodes.mp hmode).2
      library := (map_reopenedLibrary_eq_iff h).mp hlibrary.symm }
  · intro heditable
    refine ⟨⟨heditable.name.symm, heditable.remoteReference.symm,
      ((map_trim_eq_iff _).mpr heditable.remoteSubpath).symm, heditable.tuningProfile,
      ((map_reopenedLibrary_eq_iff h).mpr heditable.library).symm⟩, heditable.localPath.symm, ?_⟩
    exact hmodes.mpr ⟨heditable.cache, heditable.recoveryDirectory⟩

end Editable

end CosmicMounter.Editor

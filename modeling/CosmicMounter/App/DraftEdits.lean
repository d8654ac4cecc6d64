import CosmicMounter.App.DraftRoundTrip

/-!
# Saving an edited draft

Of a connection that survives being opened, a save changes only the values
that were edited.
-/

namespace CosmicMounter.Editor

open Rust Sftp Config

/-- Values whose text in the draft was left alone are as stored. -/
structure KeepsUnedited (env : Environment) (saved current : Connection) (draft : ConnectionDraft) : Prop where
  id : draft.id = some saved.id → current.id = saved.id
  name : draft.name = saved.name → current.name = saved.name
  provider : draft.provider = saved.provider → current.provider = saved.provider
  remoteReference : draft.remoteReference = saved.remoteReference →
    current.remoteReference = saved.remoteReference
  remoteSubpath : draft.remoteSubpath = (draftFromConnection env saved).remoteSubpath →
    current.remoteSubpath = saved.remoteSubpath
  localPath : draft.localPath = saved.localPath → Path.Same current.localPath saved.localPath
  enabled : draft.enabled = saved.enabled → current.enabled = saved.enabled
  vpnProfileId : draft.vpnProfileId = saved.vpnProfileId → current.vpnProfileId = saved.vpnProfileId
  disconnectVpnWhenUnused : draft.disconnectVpnWhenUnused = saved.disconnectVpnWhenUnused →
    current.disconnectVpnWhenUnused = saved.disconnectVpnWhenUnused
  tuningProfile : current.tuningProfile = saved.tuningProfile
  onedriveIdentity : draft.onedriveIdentity = saved.onedriveIdentity →
    current.onedriveIdentity = saved.onedriveIdentity
  teamsIdentity : draft.provider = saved.provider →
    draft.sharepointLibraryUrl = (draftFromConnection env saved).sharepointLibraryUrl →
    draft.teamsDriveId = (draftFromConnection env saved).teamsDriveId →
    current.teamsIdentity = saved.teamsIdentity
  preloadOverrides : draft.provider = saved.provider →
    draft.accessMode = (draftFromConnection env saved).accessMode →
    draft.connectionPreloadUseGlobal = (draftFromConnection env saved).connectionPreloadUseGlobal →
    draft.connectionPreloadEnabled = (draftFromConnection env saved).connectionPreloadEnabled →
    draft.connectionPreloadSeconds = (draftFromConnection env saved).connectionPreloadSeconds →
    draft.connectionPreloadDepth = (draftFromConnection env saved).connectionPreloadDepth →
    current.smbPreloadOverride = saved.smbPreloadOverride ∧
      current.sftpPreloadOverride = saved.sftpPreloadOverride
  accessMode : draft.accessMode = (draftFromConnection env saved).accessMode →
    Config.isOnlineMount current = Config.isOnlineMount saved
  mount : ∀ options options', saved.mode = .onlineMount options → current.mode = .onlineMount options' →
    options'.cacheDirectory = options.cacheDirectory ∧
    (draft.cacheLimitGib = (draftFromConnection env saved).cacheLimitGib →
      options'.cacheLimitBytes = options.cacheLimitBytes) ∧
    (draft.startAtLogin = options.startAtLogin → options'.startAtLogin = options.startAtLogin)
  mirror : ∀ options options', saved.mode = .offlineMirror options →
    current.mode = .offlineMirror options' →
    (draft.provider = saved.provider →
      draft.legacyOnedrive = (draftFromConnection env saved).legacyOnedrive →
      draft.offlineEngine = options.engine → options'.engine = options.engine) ∧
    (draft.recoveryDirectory = options.recoveryDirectory →
      Path.Same options'.recoveryDirectory options.recoveryDirectory) ∧
    (draft.syncIntervalMinutes = (draftFromConnection env saved).syncIntervalMinutes →
      options'.syncIntervalMinutes = options.syncIntervalMinutes) ∧
    (draft.syncOnMetered = options.syncOnMetered → options'.syncOnMetered = options.syncOnMetered)

section Edits

variable {env : Environment} {ext : Externals} {newId : ConnectionId} {saved current : Connection}
  {draft : ConnectionDraft} {localPath : String} {id : ConnectionId}

theorem draftMode_onlineMount {options : OnlineMountConfig}
    (h : draftMode env draft localPath id = .ok (.onlineMount options)) :
    draft.accessMode = .onlineMount ∧ ∃ limit, parseUnsigned 64 (Str.trim draft.cacheLimitGib) = some limit ∧
      options = ⟨none, min (limit * gib) (2 ^ 64 - 1), draft.startAtLogin⟩ := by
  unfold draftMode at h
  split at h
  · next haccess =>
      split at h
      · cases h
      · next limit hlimit =>
          exact ⟨haccess, limit, hlimit, (ConnectionMode.onlineMount.inj (Except.ok.inj h)).symm⟩
  · split at h
    · cases h
    · cases Except.ok.inj h

theorem draftMode_offlineMirror {options : OfflineMirrorConfig}
    (h : draftMode env draft localPath id = .ok (.offlineMirror options)) :
    draft.accessMode = .offlineMirror ∧ ∃ minutes,
      parseUnsigned 32 (Str.trim draft.syncIntervalMinutes) = some minutes ∧
      options = ⟨draftEngine draft, draftRecoveryDirectory env draft localPath id, minutes,
        draft.syncOnMetered⟩ := by
  unfold draftMode at h
  split at h
  · split at h
    · cases h
    · cases Except.ok.inj h
  · next haccess =>
      split at h
      · cases h
      · next minutes hminutes =>
          exact ⟨haccess, minutes, hminutes, (ConnectionMode.offlineMirror.inj (Except.ok.inj h)).symm⟩

theorem isOnlineMount_of_draftMode (hmode : draftMode env draft localPath id = .ok current.mode)
    (haccess : draft.accessMode = (draftFromConnection env saved).accessMode) :
    Config.isOnlineMount current = Config.isOnlineMount saved := by
  have hopened : (draftFromConnection env saved).accessMode = (modeDraft saved.mode).accessMode := rfl
  rw [hopened] at haccess
  unfold Config.isOnlineMount
  cases hcurrent : current.mode with
  | onlineMount options =>
      rw [hcurrent] at hmode
      rw [(draftMode_onlineMount hmode).1] at haccess
      cases hsaved : saved.mode with
      | onlineMount options' => rfl
      | offlineMirror options' => simp [hsaved, modeDraft] at haccess
  | offlineMirror options =>
      rw [hcurrent] at hmode
      rw [(draftMode_offlineMirror hmode).1] at haccess
      cases hsaved : saved.mode with
      | onlineMount options' => simp [hsaved, modeDraft] at haccess
      | offlineMirror options' => rfl

theorem mount_unedited (hwidths : HasWidths saved) (heditable : IsEditable ext saved)
    {options options' : OnlineMountConfig} (hsaved : saved.mode = .onlineMount options)
    (hmode : draftMode env draft localPath id = .ok (.onlineMount options')) :
    options'.cacheDirectory = options.cacheDirectory ∧
    (draft.cacheLimitGib = (draftFromConnection env saved).cacheLimitGib →
      options'.cacheLimitBytes = options.cacheLimitBytes) ∧
    (draft.startAtLogin = options.startAtLogin → options'.startAtLogin = options.startAtLogin) := by
  obtain ⟨-, limit, hlimit, rfl⟩ := draftMode_onlineMount hmode
  obtain ⟨hcache, hwhole⟩ := heditable.cache options hsaved
  refine ⟨hcache.symm, fun htext ↦ ?_, fun hstart ↦ hstart⟩
  have hwidth := hwidths.cacheLimitBytes options hsaved
  have hopened : (draftFromConnection env saved).cacheLimitGib =
      toString (options.cacheLimitBytes / gib) := by
    simp [draftFromConnection, hsaved, modeDraft]
  have hquotient : options.cacheLimitBytes / gib ≤ options.cacheLimitBytes := Nat.div_le_self _ _
  rw [htext, hopened, parseUnsigned_trim_toString le_rfl (by omega)] at hlimit
  obtain rfl := Option.some.inj hlimit
  have hproduct : options.cacheLimitBytes / gib * gib = options.cacheLimitBytes :=
    Nat.div_mul_cancel hwhole
  dsimp only
  omega

theorem mirror_unedited (haccepted : IsAccepted ext saved) (hwidths : HasWidths saved)
    (hsupported : saved.ensureSupportedEngine = .ok ()) (heditable : IsEditable ext saved)
    {options options' : OfflineMirrorConfig} (hsaved : saved.mode = .offlineMirror options)
    (hmode : draftMode env draft localPath id = .ok (.offlineMirror options')) :
    (draft.provider = saved.provider →
      draft.legacyOnedrive = (draftFromConnection env saved).legacyOnedrive →
      draft.offlineEngine = options.engine → options'.engine = options.engine) ∧
    (draft.recoveryDirectory = options.recoveryDirectory →
      Path.Same options'.recoveryDirectory options.recoveryDirectory) ∧
    (draft.syncIntervalMinutes = (draftFromConnection env saved).syncIntervalMinutes →
      options'.syncIntervalMinutes = options.syncIntervalMinutes) ∧
    (draft.syncOnMetered = options.syncOnMetered → options'.syncOnMetered = options.syncOnMetered) := by
  obtain ⟨-, minutes, hminutes, rfl⟩ := draftMode_offlineMirror hmode
  refine ⟨fun hprovider hlegacy hengine ↦ ?_, fun hrecovery ↦ ?_, fun htext ↦ ?_, fun hmetered ↦ hmetered⟩
  · have hopened : (draftFromConnection env saved).offlineEngine = options.engine := by
      simp [draftFromConnection, hsaved]
    have hprovider' : draft.provider = (draftFromConnection env saved).provider := hprovider
    rw [← draftEngine_own env hsaved hsupported]
    dsimp only
    rw [draftEngine, draftEngine, hprovider', hlegacy, hengine, hopened]
  · have habsolute := haccepted.recoveryDirectory options hsaved
    have hread : draftRecoveryDirectory env draft localPath id = Str.trim options.recoveryDirectory := by
      rw [draftRecoveryDirectory, hrecovery, if_neg (trim_ne_empty_of_isAbsolute habsolute),
        expandUserPath_trim env habsolute]
    dsimp only
    rw [hread]
    exact heditable.recoveryDirectory options hsaved
  · have hopened : (draftFromConnection env saved).syncIntervalMinutes =
        toString options.syncIntervalMinutes := by
      simp [draftFromConnection, hsaved, modeDraft]
    rw [htext, hopened, parseUnsigned_trim_toString (by decide)
      (hwidths.syncIntervalMinutes options hsaved)] at hminutes
    exact (Option.some.inj hminutes).symm

theorem teamsIdentity_unedited (haccepted : IsAccepted ext saved) (heditable : IsEditable ext saved)
    {identity : Option SharePointLibraryIdentity} (hidentity : draftTeamsIdentity ext draft = .ok identity)
    (hprovider : draft.provider = saved.provider)
    (hurl : draft.sharepointLibraryUrl = (draftFromConnection env saved).sharepointLibraryUrl)
    (hdrive : draft.teamsDriveId = (draftFromConnection env saved).teamsDriveId) :
    identity = saved.teamsIdentity := by
  have hprovider' : draft.provider = (draftFromConnection env saved).provider := hprovider
  have hsame : draftTeamsIdentity ext draft = draftTeamsIdentity ext (draftFromConnection env saved) := by
    rw [draftTeamsIdentity, draftTeamsIdentity, hprovider', hurl, hdrive]
  rw [hsame, draftTeamsIdentity_own env haccepted,
    (map_reopenedLibrary_eq_iff haccepted).mpr heditable.library] at hidentity
  exact (Except.ok.inj hidentity).symm

theorem preloadOverride_unedited (haccepted : IsAccepted ext saved)
    {override : Option ConnectionPreloadOverride} (hoverride : draftPreloadOverride draft = .ok override)
    (hprovider : draft.provider = saved.provider)
    (haccess : draft.accessMode = (draftFromConnection env saved).accessMode)
    (hglobal : draft.connectionPreloadUseGlobal = (draftFromConnection env saved).connectionPreloadUseGlobal)
    (henabled : draft.connectionPreloadEnabled = (draftFromConnection env saved).connectionPreloadEnabled)
    (hseconds : draft.connectionPreloadSeconds = (draftFromConnection env saved).connectionPreloadSeconds)
    (hdepth : draft.connectionPreloadDepth = (draftFromConnection env saved).connectionPreloadDepth) :
    override = storedPreloadOverride saved := by
  have hprovider' : draft.provider = (draftFromConnection env saved).provider := hprovider
  have hsame : draftPreloadOverride draft = draftPreloadOverride (draftFromConnection env saved) := by
    rw [draftPreloadOverride, draftPreloadOverride, hprovider', haccess, hglobal, henabled, hseconds, hdepth]
  rw [hsame, draftPreloadOverride_own env haccepted] at hoverride
  exact (Except.ok.inj hoverride).symm

theorem keepsUnedited (haccepted : IsAccepted ext saved) (hwidths : HasWidths saved)
    (hsupported : saved.ensureSupportedEngine = .ok ()) (heditable : IsEditable ext saved)
    (h : connectionFromDraft env ext newId draft = .ok current) : KeepsUnedited env saved current draft := by
  obtain ⟨identity, mode, override, hidentity, hmode, hoverride, rfl⟩ := parts_of_connectionFromDraft env h
  exact {
    id := by
      intro hid
      dsimp only [assembled]
      rw [hid, Option.getD_some]
    name := by
      intro hname
      dsimp only [assembled]
      rw [hname, heditable.name]
    provider := fun hprovider ↦ hprovider
    remoteReference := by
      intro hreference
      dsimp only [assembled]
      rw [hreference, heditable.remoteReference]
    remoteSubpath := by
      intro hsubpath
      have hsame : draftSubpath draft = draftSubpath (draftFromConnection env saved) := by
        rw [draftSubpath, draftSubpath, hsubpath]
      dsimp only [assembled]
      rw [hsame, draftSubpath_own env haccepted, (map_trim_eq_iff _).mpr heditable.remoteSubpath]
    localPath := by
      intro hlocal
      dsimp only [assembled]
      rw [hlocal, expandUserPath_trim env haccepted.localPath]
      exact heditable.localPath
    enabled := fun henabled ↦ henabled
    vpnProfileId := fun hvpn ↦ hvpn
    disconnectVpnWhenUnused := fun hdisconnect ↦ hdisconnect
    tuningProfile := heditable.tuningProfile.symm
    onedriveIdentity := fun hidentity' ↦ hidentity'
    teamsIdentity := teamsIdentity_unedited haccepted heditable hidentity
    preloadOverrides := by
      intro hprovider haccess hglobal henabled hseconds hdepth
      have hstored := preloadOverride_unedited haccepted hoverride hprovider haccess hglobal henabled
        hseconds hdepth
      dsimp only [assembled]
      rw [hstored, hprovider]
      exact ⟨smbPreloadOverride_own haccepted, sftpPreloadOverride_own haccepted⟩
    accessMode := fun haccess ↦ isOnlineMount_of_draftMode hmode haccess
    mount := by
      intro options options' hsaved hcurrent
      obtain rfl : mode = .onlineMount options' := hcurrent
      exact mount_unedited hwidths heditable hsaved hmode
    mirror := by
      intro options options' hsaved hcurrent
      obtain rfl : mode = .offlineMirror options' := hcurrent
      exact mirror_unedited haccepted hwidths hsupported heditable hsaved hmode }

end Edits

/-! ## Opened and nothing else -/

theorem editorSaved_own {env : Environment} {connections : List Connection} {connection : Connection}
    {validatedId : Option ConnectionId} (hnodup : (connections.map (·.id)).Nodup)
    (hmem : connection ∈ connections) :
    editorSaved ⟨connections, draftFromConnection env connection, validatedId⟩ = some connection := by
  have hfind : connections.find? (fun other ↦ decide (other.id = connection.id)) = some connection := by
    cases hfound : connections.find? (fun other ↦ decide (other.id = connection.id)) with
    | none =>
        have hnone := List.find?_eq_none.mp hfound connection hmem
        exact absurd (decide_eq_true rfl) hnone
    | some other =>
        have hid : other.id = connection.id := by
          have hmatch := List.find?_some hfound
          exact of_decide_eq_true hmatch
        have hother := List.mem_of_find?_eq_some hfound
        rw [List.inj_on_of_nodup_map hnodup hother hmem hid]
  exact hfind

/-- The editor reads the connection back, takes it for unchanged and saves of
it only what was edited, exactly when the draft has a place for its values. -/
theorem survivesEditor_iff {ext : Externals} {config : Config} {connection : Connection}
    (hvalid : validate ext config = .ok ()) (hmem : connection ∈ config.document.connections)
    (hsupported : connection.ensureSupportedEngine = .ok ()) (hwidths : HasWidths connection)
    (env : Environment) (newId : ConnectionId) (validatedId : Option ConnectionId) :
    ((∃ current, connectionFromDraft env ext newId (draftFromConnection env connection) = .ok current ∧
        SameConnection connection current) ↔ IsEditable ext connection) ∧
      (editorChanged env ext newId
          ⟨config.document.connections, draftFromConnection env connection, validatedId⟩ = false ↔
        IsEditable ext connection) ∧
      (IsEditable ext connection → ∀ draft current,
        connectionFromDraft env ext newId draft = .ok current →
          KeepsUnedited env connection current draft) := by
  have haccepted := isAccepted_of_validate hvalid hmem
  have hread := connectionFromDraft_own env haccepted hwidths hsupported newId
  have hsame := sameConnection_reopened_iff haccepted
  have hsaved : editorSaved ⟨config.document.connections, draftFromConnection env connection, validatedId⟩ =
      some connection :=
    editorSaved_own (safeDirectories_of_errors_nil (validate_eq_ok.mp hvalid)).connectionIds hmem
  refine ⟨?_, ?_, fun heditable draft current h ↦ keepsUnedited haccepted hwidths hsupported heditable h⟩
  · rw [hread, ← hsame]
    constructor
    · rintro ⟨current, hcurrent, hequal⟩
      obtain rfl := Except.ok.inj hcurrent
      exact hequal
    · exact fun hequal ↦ ⟨_, rfl, hequal⟩
  · have hconnection : editorConnection env ext newId
        ⟨config.document.connections, draftFromConnection env connection, validatedId⟩ =
        .ok (reopened ext connection) := hread
    rw [editorChanged, hsaved, hconnection, ← hsame]
    simp

/-! ## A cache limit between two gibibytes -/

def sampleEnvironment : Environment := ⟨some "u", some "/home/u"⟩

def sampleEdited (cacheLimitBytes : Nat) : Connection :=
  { sampleMirror .googleDrive none with mode := .onlineMount { cacheLimitBytes } }

theorem hasWidths_sampleEdited {cacheLimitBytes : Nat} (h : cacheLimitBytes < 2 ^ 64) :
    HasWidths (sampleEdited cacheLimitBytes) := by
  refine ⟨?_, nofun⟩
  intro options hmode
  obtain rfl := ConnectionMode.onlineMount.inj hmode
  exact h

theorem survivesEditor_iff_sample :
    editorChanged sampleEnvironment sampleExternals sampleId
        ⟨[sampleEdited (20 * gib)], draftFromConnection sampleEnvironment (sampleEdited (20 * gib)), none⟩ =
      false ↔ IsEditable sampleExternals (sampleEdited (20 * gib)) := by
  have hvalid : validate sampleExternals (sampleConfig [sampleEdited (20 * gib)]) = .ok () := by
    decide +kernel
  have hwidths := @hasWidths_sampleEdited (20 * gib) (by decide)
  exact (survivesEditor_iff hvalid List.mem_cons_self rfl hwidths sampleEnvironment sampleId none).2.1

/-- A limit that is no whole number of gibibytes is read back as a smaller one. -/
theorem cache_limit_is_cut :
    validate sampleExternals (sampleConfig [sampleEdited 1500000000]) = .ok () ∧
      ¬∃ current, connectionFromDraft sampleEnvironment sampleExternals sampleId
          (draftFromConnection sampleEnvironment (sampleEdited 1500000000)) = .ok current ∧
        SameConnection (sampleEdited 1500000000) current := by
  have hvalid : validate sampleExternals (sampleConfig [sampleEdited 1500000000]) = .ok () := by
    decide +kernel
  have haccepted := isAccepted_of_validate hvalid List.mem_cons_self
  refine ⟨hvalid, ?_⟩
  rintro ⟨current, hcurrent, hequal⟩
  rw [connectionFromDraft_own sampleEnvironment haccepted (hasWidths_sampleEdited (by decide)) rfl] at hcurrent
  obtain rfl := Except.ok.inj hcurrent
  have heditable := (sameConnection_reopened_iff haccepted).mp hequal
  have hwhole := (heditable.cache _ rfl).2
  revert hwhole
  decide

end CosmicMounter.Editor

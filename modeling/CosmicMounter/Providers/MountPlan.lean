import CosmicMounter.Rust.Result
import CosmicMounter.Sync.Binding

/-!
# The plan of an online mount

`rclone_mount_plan` of `providers.rs`: the service that keeps a remote mounted,
and the limit of its cache as rclone reads it.
-/

namespace CosmicMounter.Providers

open Rust

inductive ProviderError
  | unsupportedProvider (provider : Provider)
  | invalidMode
  | invalidRemoteReference
  | invalidRemoteSubpath
  | invalidSharePointIdentity (message : Message)
  | invalidMountpointGuard (message : Message)
  deriving DecidableEq, Repr

structure RcloneMountPlan where
  connectionId : ConnectionId
  remote : String
  mountpoint : String
  cacheDirectory : String
  rcSocket : String
  service : ServiceSpec
  deriving DecidableEq, Repr

/-! ## Guards -/

namespace SharePoint

def serviceGuardFlag : String := "--verify-teams-mount"

structure ServiceGuardBinding where
  connectionId : ConnectionId
  remoteName : String
  remoteSubpath : Option String
  mountpoint : String
  driveId : String
  libraryUrl : String
  deriving DecidableEq, Repr

def ServiceGuardBinding.fromConnection (ext : Externals) (connection : Connection) :
    Except Message ServiceGuardBinding :=
  match connection.provider, connection.mode with
  | .teams, .onlineMount _ =>
      match connection.teamsIdentity with
      | none => .error ⟨"ui-teams-the-sharepoint-connection-has-no-verified-library", []⟩
      | some identity =>
          let isVerified := match ext.parseLibraryUrl identity.libraryUrl with
            | .ok parsed => parsed.siteUrl == identity.siteUrl
            | .error _ => false
          if Str.trim identity.driveId = "" ∨ isVerified = false then
            .error ⟨"ui-teams-the-sharepoint-connection-has-an-invalid-verified", []⟩
          else .ok {
            connectionId := connection.id
            remoteName := connection.remoteReference
            remoteSubpath := connection.remoteSubpath
            mountpoint := connection.localPath
            driveId := identity.driveId
            libraryUrl := identity.libraryUrl }
  | _, _ => .error ⟨"ui-teams-the-service-guard-requires-a-sharepoint-online", []⟩

def ServiceGuardBinding.arguments (binding : ServiceGuardBinding) : List String :=
  [serviceGuardFlag, binding.connectionId.text, binding.remoteName,
    (Json.optional binding.remoteSubpath).text, binding.mountpoint, binding.driveId, binding.libraryUrl]

def serviceGuardCommand (ext : Externals) (connection : Connection) : Except Message ServiceCommand := do
  let binding ← ServiceGuardBinding.fromConnection ext connection
  guardServiceCommand ext.mode binding.arguments

end SharePoint

namespace MountGuard

def serviceGuardFlag : String := "--verify-online-mountpoint"

def serviceGuardCommand (ext : Externals) (connection : Connection) : Except Message ServiceCommand :=
  match connection.mode with
  | .onlineMount _ =>
      guardServiceCommand ext.mode [serviceGuardFlag, connection.id.text, connection.localPath]
  | .offlineMirror _ => .error ⟨"mount-guard-online-only", []⟩

end MountGuard

/-! ## The plan -/

def requireRcloneBackend (provider : Provider) : Except ProviderError Unit :=
  if provider = .onedrive then .error (.unsupportedProvider provider) else .ok ()

def onlineOptions (connection : Connection) : Except ProviderError OnlineMountConfig :=
  match connection.mode with
  | .onlineMount options => .ok options
  | .offlineMirror _ => .error .invalidMode

def rcloneRemotePath (reference : String) (subpath : Option String) (allowAbsolute : Bool) :
    Except ProviderError String :=
  if remoteNameIsValid reference = false then .error .invalidRemoteReference
  else if subpath.all (remoteSubpathIsValid allowAbsolute) = false then .error .invalidRemoteSubpath
  else .ok (remotePath reference subpath)

def gib : Nat := 1024 * 1024 * 1024

def formatCacheLimit (bytes : Nat) : String :=
  if bytes % gib = 0 then toString (bytes / gib) ++ "G" else toString bytes

def rcloneMountTimeouts : Provider → String × String
  | .smb => ("90s", "15s")
  | .googleDrive | .box | .onedrive | .teams | .sftp => ("10s", "5s")

/-- The arguments that every provider has. -/
def mountArguments (connection : Connection) (remote cacheLimit cacheDirectory rcSocket : String) : List String :=
  let (timeout, contimeout) := rcloneMountTimeouts connection.provider
  ["mount", remote, connection.localPath, "--vfs-cache-mode", "full", "--vfs-cache-max-age", "168h",
    "--vfs-cache-max-size", cacheLimit, "--vfs-cache-poll-interval", "5m", "--dir-cache-time", "5m",
    "--timeout", timeout, "--contimeout", contimeout, "--low-level-retries", "1", "--retries", "1",
    "--retries-sleep", "5s", "--umask", "002", "--log-level", "INFO", "--cache-dir", cacheDirectory,
    "--rc", "--rc-no-auth", "--rc-addr", "unix://" ++ rcSocket]

def providerArguments (provider : Provider) : List String :=
  (if provider = .googleDrive then ["--fast-list"] else []) ++ ["--no-modtime"] ++
    if provider = .teams then ["--ignore-checksum", "--ignore-size", "--transfers", "1"] else []

def preStartCondition (ext : Externals) (connection : Connection) : Except ProviderError ServiceCommand :=
  if connection.provider = .teams then
    (SharePoint.serviceGuardCommand ext connection).mapError .invalidSharePointIdentity
  else (MountGuard.serviceGuardCommand ext connection).mapError .invalidMountpointGuard

def defaultRclone : String := "/usr/bin/rclone"

def rcloneMountPlan (ext : Externals) (connection : Connection) (runtimeDirectory defaultCacheRoot : String) :
    Except ProviderError RcloneMountPlan := do
  requireRcloneBackend connection.provider
  let options ← onlineOptions connection
  let remote ← rcloneRemotePath connection.remoteReference connection.remoteSubpath
    (connection.provider == .sftp)
  let cacheDirectory := options.cacheDirectory.getD
    (Path.join (Path.join defaultCacheRoot "rclone") connection.id.text)
  let rcSocket := Path.join runtimeDirectory ("rclone-" ++ connection.id.text ++ ".sock")
  let cacheLimit := formatCacheLimit options.cacheLimitBytes
  let condition ← preStartCondition ext connection
  return {
    connectionId := connection.id
    remote
    mountpoint := connection.localPath
    cacheDirectory
    rcSocket
    service := {
      connectionId := connection.id
      description := ext.fl ⟨"ui-providers-cloud-mounter-value1", [("value1", connection.name)]⟩
      executable := defaultRclone
      arguments := mountArguments connection remote cacheLimit cacheDirectory rcSocket ++
        providerArguments connection.provider
      preStartCondition := some condition
      restartOnFailure := true
      skipOnMetered := false } }

/-! ## The limit of the cache -/

/-- What rclone takes a size to mean: a number counts KiB unless its suffix names another unit. -/
def rcloneSize (value : String) : Option Nat :=
  match Str.stripSuffix "B" value, Str.stripSuffix "G" value with
  | some number, _ => number.toNat?
  | none, some number => number.toNat?.map (· * gib)
  | none, none => value.toNat?.map (· * 1024)

/-- The value of an option that comes before any option without a value. -/
def optionValue (option : String) : List String → Option String
  | name :: value :: rest => if name = option then some value else optionValue option rest
  | _ => none

/-- The limit that rclone enforces, in bytes; the remote and the mountpoint come before the options. -/
def enforcedCacheLimit (plan : RcloneMountPlan) : Option Nat :=
  (optionValue "--vfs-cache-max-size" (plan.service.arguments.drop 3)).bind rcloneSize

theorem stripSuffix_eq_none {p s : String} {c d : Char} (hp : p.toList = [c])
    (hs : s.toList.getLast? = some d) (hne : d ≠ c) : Str.stripSuffix p s = none := by
  rw [Str.stripSuffix, Option.map_eq_none_iff, hp]
  cases hdrop : s.toList.dropSuffix? [c] with
  | none => rfl
  | some front =>
      obtain ⟨suffix, hsplit, hsuffix⟩ := List.dropSuffix?_eq_some_iff.mp hdrop
      obtain rfl : suffix = [c] := by simpa using hsuffix
      rw [hsplit, List.getLast?_concat] at hs
      exact absurd (Option.some.inj hs).symm hne

/-- A number ends in a digit. -/
theorem getLast?_toString (n : Nat) : ∃ d, (toString n).toList.getLast? = some d ∧ d.isDigit = true := by
  have hdigits : (toString n).toList = Nat.toDigits 10 n := Nat.toList_repr
  have hne : (toString n).toList ≠ [] := by
    rw [hdigits]
    exact Nat.toDigits_ne_nil
  refine ⟨_, List.getLast?_eq_some_getLast hne, ?_⟩
  have hmem : (toString n).toList.getLast hne ∈ Nat.toDigits 10 n := by
    simp only [← hdigits, List.getLast_mem]
  exact Nat.isDigit_of_mem_toDigits (by decide) (by decide) hmem

/-- A bare number counts KiB. -/
theorem rcloneSize_toString (n : Nat) : rcloneSize (toString n) = some (n * 1024) := by
  obtain ⟨d, hlast, hdigit⟩ := getLast?_toString n
  have hne : ∀ c : Char, c.isDigit = false → d ≠ c := by
    rintro c hc rfl
    rw [hc] at hdigit
    cases hdigit
  have hnumber : (toString n).toNat? = some n := Nat.toNat?_repr n
  rw [rcloneSize, stripSuffix_eq_none rfl hlast (hne 'B' (by decide)),
    stripSuffix_eq_none rfl hlast (hne 'G' (by decide)), hnumber]
  rfl

theorem rcloneSize_gib (n : Nat) : rcloneSize (toString n ++ "G") = some (n * gib) := by
  have hlast : (toString n ++ "G").toList.getLast? = some 'G' := by
    rw [String.toList_append]
    exact List.getLast?_concat
  have hnumber : (toString n).toNat? = some n := Nat.toNat?_repr n
  rw [rcloneSize, stripSuffix_eq_none rfl hlast (by decide), Str.stripSuffix_append]
  simp only [hnumber, Option.map_some]

/-- Only a whole number of GiB is written with its unit. -/
theorem rcloneSize_formatCacheLimit_iff (bytes : Nat) :
    rcloneSize (formatCacheLimit bytes) = some bytes ↔ bytes % gib = 0 := by
  rw [formatCacheLimit]
  split_ifs with hgib
  · rw [rcloneSize_gib, Nat.div_mul_cancel (Nat.dvd_of_mod_eq_zero hgib)]
    exact iff_of_true rfl hgib
  · rw [rcloneSize_toString, Option.some.injEq]
    have hpos : bytes ≠ 0 := by
      rintro rfl
      exact hgib rfl
    exact iff_of_false (by omega) hgib

section Plan

variable {ext : Externals} {connection : Connection} {runtimeDirectory defaultCacheRoot : String}
  {plan : RcloneMountPlan} {options : OnlineMountConfig}

theorem enforcedCacheLimit_eq (hmode : connection.mode = .onlineMount options)
    (h : rcloneMountPlan ext connection runtimeDirectory defaultCacheRoot = .ok plan) :
    enforcedCacheLimit plan = rcloneSize (formatCacheLimit options.cacheLimitBytes) := by
  unfold rcloneMountPlan at h
  obtain ⟨_, -, h⟩ := Rust.Result.bind_eq_ok h
  obtain ⟨options', hoptions, h⟩ := Rust.Result.bind_eq_ok h
  obtain ⟨remote, -, h⟩ := Rust.Result.bind_eq_ok h
  obtain ⟨condition, -, h⟩ := Rust.Result.bind_eq_ok h
  obtain rfl := Except.ok.inj h
  rw [onlineOptions, hmode] at hoptions
  obtain rfl := Except.ok.inj hoptions
  simp [enforcedCacheLimit, mountArguments, optionValue]

/-- The limit that a planned mount enforces is the configured one when that is
a whole number of GiB, and no other. -/
theorem enforcedCacheLimit_eq_iff (hmode : connection.mode = .onlineMount options)
    (h : rcloneMountPlan ext connection runtimeDirectory defaultCacheRoot = .ok plan) :
    enforcedCacheLimit plan = some options.cacheLimitBytes ↔ options.cacheLimitBytes % gib = 0 := by
  rw [enforcedCacheLimit_eq hmode h, rcloneSize_formatCacheLimit_iff]

end Plan

/-- A mount of Box with this limit. -/
def sampleMount (cacheLimitBytes : Nat) : Connection where
  id := sampleId
  name := "Box"
  provider := .box
  mode := .onlineMount { cacheLimitBytes }
  remoteReference := "box"
  localPath := "/home/u/Box"

def sampleMountExternals : Externals where
  fl message := message.key
  mode := .flatpakSpawnHost
  sha256Hex _ := "00"
  parseLibraryUrl _ := .error ⟨"ui-teams-enter-a-sharepoint-library-url", []⟩

def samplePlan (cacheLimitBytes : Nat) : Except ProviderError RcloneMountPlan :=
  rcloneMountPlan sampleMountExternals (sampleMount cacheLimitBytes) "/run/user/1000" "/home/u/.cache"

theorem exists_samplePlan (cacheLimitBytes : Nat) (h : (samplePlan cacheLimitBytes).isOk = true) :
    ∃ plan, samplePlan cacheLimitBytes = .ok plan := by
  cases hplan : samplePlan cacheLimitBytes with
  | error e =>
      rw [hplan] at h
      cases h
  | ok plan => exact ⟨plan, rfl⟩

/-- A limit of one GiB and one byte is enforced as more than a TiB. -/
theorem cacheLimit_counts_kib :
    ∃ plan, samplePlan 1073741825 = .ok plan ∧ enforcedCacheLimit plan ≠ some 1073741825 := by
  obtain ⟨plan, hplan⟩ := exists_samplePlan 1073741825 (by decide +kernel)
  refine ⟨plan, hplan, ?_⟩
  rw [enforcedCacheLimit_eq rfl hplan, ne_eq, rcloneSize_formatCacheLimit_iff]
  decide

theorem enforcedCacheLimit_eq_iff_sample :
    ∃ plan, samplePlan 1073741824 = .ok plan ∧ enforcedCacheLimit plan = some 1073741824 := by
  obtain ⟨plan, hplan⟩ := exists_samplePlan 1073741824 (by decide +kernel)
  exact ⟨plan, hplan, (enforcedCacheLimit_eq_iff rfl hplan).mpr (by decide)⟩

end CosmicMounter.Providers

import CosmicMounter.Import.Unit

/-!
# Preview of an import

`preview_import` of `import.rs`: the connection that a legacy unit would become,
and what stands in the way of the import.
-/

namespace CosmicMounter.Import

open Rust

inductive LegacyEngine
  | rcloneMount
  | onedriver
  deriving DecidableEq, Repr

structure ImportPreview where
  originalPath : String
  originalUnitName : String
  engine : LegacyEngine
  provider : Provider
  remoteReference : String
  remoteSubpath : Option String
  localTarget : String
  cacheDirectory : Option String
  startAtLogin : Bool
  unsupportedOptions : List String
  activeConflict : Bool
  localTargetConflict : Bool
  connection : Connection
  deriving DecidableEq, Repr

structure ParsedLegacyConnection where
  provider : Provider
  remoteReference : String
  remoteSubpath : Option String
  localTarget : String
  cacheDirectory : Option String
  unsupportedOptions : List String
  deriving DecidableEq, Repr

def expandHome (value home : String) : String :=
  if value = "%h" then home
  else match Str.stripPrefix "%h/" value with
    | some rest => Path.join home rest
    | none => value

def pathsOverlap (first second : String) : Bool :=
  decide (Path.Same first second) || Path.startsWith second first || Path.startsWith first second

def classifyUnit (unit : LegacyUnit) : Except ImportError LegacyEngine :=
  match unit.execStart with
  | [] => .error (.unsupported ⟨"ui-import-empty-execstart", []⟩)
  | executable :: arguments =>
      let binary := (Path.fileName executable).getD executable
      if binary = "rclone" ∧ arguments.head? = some "mount" then .ok .rcloneMount
      else if binary = "onedriver" then .ok .onedriver
      else .error (.unsupported ⟨"ui-import-unsupported-executable-executable", [("executable", executable)]⟩)

def parseRemote (value : String) : Except ImportError (String × Option String) :=
  match Str.splitOnce ':' value with
  | none => .error (.malformed ⟨"ui-import-rclone-remote-lacks", []⟩)
  | some (reference, subpath) =>
      if reference = "" ∨ reference.toList.any Str.isControl then
        .error (.malformed ⟨"ui-import-invalid-remote-reference", []⟩)
      else .ok (reference, if subpath = "" then none else some subpath)

/-! ## Options -/

/-- What the options seen so far have set. -/
structure ParsedOptions where
  target : Option String := none
  cacheDirectory : Option String := none
  unsupported : List String := []
  deriving DecidableEq, Repr

/-- The loop over the arguments: a step may take the argument after its own as well. -/
def readOptions (step : ParsedOptions → String → Option String → Except ImportError (ParsedOptions × Bool)) :
    ParsedOptions → List String → Except ImportError ParsedOptions
  | parsed, [] => .ok parsed
  | parsed, [option] => return (← step parsed option none).1
  | parsed, option :: next :: rest => do
      let (parsed, takesNext) ← step parsed option (some next)
      if takesNext then readOptions step parsed rest else readOptions step parsed (next :: rest)

/-- An argument that is there and is no option itself. -/
def isValue (next : Option String) : Bool := next.any fun value ↦ !Str.startsWith "--" value

def cacheDirOption (home : String) (parsed : ParsedOptions) (next : Option String) : ParsedOptions × Bool :=
  match next with
  | some value => ({ parsed with cacheDirectory := some (expandHome value home) }, true)
  | none => ({ parsed with unsupported := parsed.unsupported ++ ["--cache-dir"] }, false)

def ignoredOptions : List String :=
  ["--vfs-cache-mode", "--vfs-cache-max-age", "--vfs-cache-max-size", "--vfs-cache-poll-interval",
    "--dir-cache-time", "--timeout", "--contimeout", "--low-level-retries", "--retries",
    "--retries-sleep", "--umask", "--log-level", "--poll-interval", "--log-file"]

def rcloneOption (home : String) (parsed : ParsedOptions) (option : String) (next : Option String) :
    Except ImportError (ParsedOptions × Bool) :=
  if option = "--config" then
    match next with
    | none => .error (.malformed ⟨"rclone --config lacks a path", []⟩)
    | some value =>
        if Path.Same (expandHome value home) (Path.join home ".config/rclone/rclone.conf") then .ok (parsed, true)
        else .error (.unsupported ⟨"ui-import-legacy-service-uses-a-non-default-rclone", []⟩)
  else if option = "--cache-dir" then .ok (cacheDirOption home parsed next)
  else if option ∈ ignoredOptions then .ok (parsed, isValue next)
  else
    .ok ({ parsed with unsupported := parsed.unsupported ++ [option] },
      Str.startsWith "--" option && isValue next)

def onedriverOption (home : String) (parsed : ParsedOptions) (option : String) (next : Option String) :
    Except ImportError (ParsedOptions × Bool) :=
  if option = "--cache-dir" then .ok (cacheDirOption home parsed next)
  else if option = "--config-file" ∨ option = "--auth-only" then .ok (parsed, isValue next)
  else if Str.startsWith "--" option then
    .ok ({ parsed with unsupported := parsed.unsupported ++ [option] }, isValue next)
  else .ok ({ parsed with target := some (expandHome option home) }, false)

def parseRcloneMount (unit : LegacyUnit) (home : String) (rcloneBackends : List (String × Provider)) :
    Except ImportError ParsedLegacyConnection :=
  match unit.execStart with
  | _ :: _ :: remote :: target :: options => do
      let (remoteReference, remoteSubpath) ← parseRemote remote
      let provider ← match rcloneBackends.lookup remoteReference with
        | some provider => .ok provider
        | none => .error (.unsupported ⟨"ui-import-rclone-remote-remote-reference-has-no-configured",
            [("remote_reference", remoteReference)]⟩)
      let parsed ← readOptions (rcloneOption home) { unsupported := unit.unsupportedOptions } options
      return {
        provider
        remoteReference
        remoteSubpath
        localTarget := expandHome target home
        cacheDirectory := parsed.cacheDirectory
        unsupportedOptions := parsed.unsupported }
  | _ => .error (.malformed ⟨"ui-import-rclone-mount-requires-remote-and-target", []⟩)

def parseOnedriver (unit : LegacyUnit) (home : String) : Except ImportError ParsedLegacyConnection := do
  let parsed ← readOptions (onedriverOption home) { unsupported := unit.unsupportedOptions } unit.execStart.tail
  match parsed.target with
  | none => .error (.malformed ⟨"ui-import-onedriver-target-missing", []⟩)
  | some target =>
      return {
        provider := .onedrive
        remoteReference := "onedrive"
        remoteSubpath := none
        localTarget := target
        cacheDirectory := parsed.cacheDirectory
        unsupportedOptions := parsed.unsupported }

/-! ## The preview -/

/-- The name of a unit that has no description. -/
def defaultName (unitName : String) : String :=
  Str.replaceChar '-' " " (Str.trimEndMatchesText ".service" unitName)

/-- The connection that the parsed unit becomes, under its new identifier. -/
def legacyConnection (id : ConnectionId) (unit : LegacyUnit) (parsed : ParsedLegacyConnection) : Connection where
  id := id
  name := unit.description.getD (defaultName unit.name)
  provider := parsed.provider
  mode := .onlineMount {
    cacheDirectory := parsed.cacheDirectory
    startAtLogin := unit.installWantedBy.any (· == "default.target") }
  remoteReference := parsed.remoteReference
  remoteSubpath := parsed.remoteSubpath
  localPath := parsed.localTarget

/-- `id` is the identifier that `ConnectionId::new` draws. -/
def previewImport (id : ConnectionId) (unit : LegacyUnit) (existingConnections : List Connection)
    (activeUnits : List String) (home : String) (rcloneBackends : List (String × Provider)) :
    Except ImportError ImportPreview := do
  let engine ← classifyUnit unit
  let parsed ← match engine with
    | .rcloneMount => parseRcloneMount unit home rcloneBackends
    | .onedriver => parseOnedriver unit home
  let connection := legacyConnection id unit parsed
  return {
    originalPath := unit.path
    originalUnitName := unit.name
    engine
    provider := connection.provider
    remoteReference := connection.remoteReference
    remoteSubpath := connection.remoteSubpath
    localTarget := connection.localPath
    cacheDirectory := parsed.cacheDirectory
    startAtLogin := unit.installWantedBy.any (· == "default.target")
    unsupportedOptions := parsed.unsupportedOptions
    activeConflict := unit.name ∈ activeUnits
    localTargetConflict := existingConnections.any fun existing ↦
      pathsOverlap existing.localPath parsed.localTarget
    connection }

end CosmicMounter.Import

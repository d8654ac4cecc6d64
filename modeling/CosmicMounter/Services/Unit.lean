import CosmicMounter.Model

/-!
# Generated user units

Unit names, service and timer specifications and the documents rendered from
them (`services.rs`), with the text scan that decides who owns a unit file.
-/

namespace CosmicMounter

open Rust

/-- How host commands are run: directly, or through the Flatpak portal.  In
the native edition the applet's own executable may be undeterminable. -/
inductive CommandExecutionMode
  | native (currentExe : Option String)
  | flatpakSpawnHost
  deriving DecidableEq, Repr

def managedMarker : String := "# X-Cosmic-Mounter-Managed=true"
def uuidMarker : String := "# X-Cosmic-Mounter-Connection="
def appId : String := "io.github.uutzinger.cosmic-ext-applet-mounter"
def meteredGuardFlag : String := "--require-unmetered-network"
def offlineReadinessGuardFlag : String := "--require-offline-readiness"

inductive UnitKind
  | service
  | timer
  deriving DecidableEq, Repr

def UnitKind.extension : UnitKind → String
  | .service => "service"
  | .timer => "timer"

structure UnitName where
  connectionId : ConnectionId
  kind : UnitKind
  deriving DecidableEq, Repr

def unitPrefix : String := "cosmic-mounter-"

def UnitName.fileName (name : UnitName) : String :=
  unitPrefix ++ name.connectionId.text ++ "." ++ name.kind.extension

structure ServiceCommand where
  executable : String
  arguments : List String
  deriving DecidableEq, Repr

structure ServiceSpec where
  connectionId : ConnectionId
  description : String
  executable : String
  arguments : List String
  preStartCondition : Option ServiceCommand
  restartOnFailure : Bool
  skipOnMetered : Bool
  deriving DecidableEq, Repr

/-- The interval is a duration in nanoseconds. -/
structure TimerSpec where
  connectionId : ConnectionId
  description : String
  interval : Nat
  persistent : Bool
  deriving DecidableEq, Repr

structure UnitDocument where
  name : UnitName
  content : String
  deriving DecidableEq, Repr

inductive UnitFileState
  | missing
  | external
  | managed (owner : ConnectionId)
  deriving DecidableEq, Repr

inductive ActiveState
  | active
  | activating
  | inactive
  | failed
  | unknown
  deriving DecidableEq, Repr

structure UnitStatus where
  active : ActiveState
  enabled : Bool
  detail : String := ""
  result : String := ""
  deriving DecidableEq, Repr

inductive SystemdAction
  | daemonReload
  | validateLoaded
  | validateRetirementLoaded
  | enable
  | disable
  | start
  | stop
  | restart
  | resetFailed
  | status
  deriving DecidableEq, Repr

inductive ServiceError
  | invalidSpec (message : Message)
  | io (error : IoError)
  | ownershipMismatch (fileName : String)
  | validation (message : Message)
  | runtime (message : Message)
  deriving DecidableEq, Repr

/-- The error as shown; `fl` looks a message up in the catalogue. -/
def ServiceError.display (fl : Message → String) : ServiceError → String
  | .invalidSpec message | .validation message | .runtime message => fl message
  | .io error => error.text
  | .ownershipMismatch fileName =>
      fl ⟨"ui-services-unit-is-not-owned-by-this-applet", [("value1", fileName)]⟩

/-! ## Rendering -/

def validateText (value : String) : Except ServiceError Unit :=
  if Str.trim value = "" ∨ value.toList.any Str.isControl then
    .error (.invalidSpec ⟨"ui-services-unit-text-is-empty-or-contains-control", []⟩)
  else .ok ()

def validateAbsoluteExecutable (path : String) : Except ServiceError String :=
  if Path.isAbsolute path then .ok path
  else .error (.invalidSpec ⟨"ui-services-unit-executable-must-be-absolute", []⟩)

def escapeSystemdArgument (value : String) : Except ServiceError String :=
  if value = "" ∨ value.toList.any (fun c ↦ c == '\x00' || c == '\n') then
    .error (.invalidSpec ⟨"ui-services-unit-argument-is-empty-or-contains-unsafe", []⟩)
  else
    let escaped := Str.replaceChar '"' "\\\""
      (Str.replaceChar '\\' "\\\\" (Str.replaceChar '%' "%%" value))
    .ok ("\"" ++ escaped ++ "\"")

/-- `mount_guard::service_command`: run the applet itself with these arguments. -/
def guardServiceCommand (mode : CommandExecutionMode) (arguments : List String) :
    Except Message ServiceCommand :=
  match mode with
  | .native none => .error ⟨"mount-guard-missing-executable", []⟩
  | .native (some executable) => .ok ⟨executable, arguments⟩
  | .flatpakSpawnHost => .ok ⟨"/usr/bin/flatpak",
      ["run", "--command=cosmic-ext-applet-mounter", appId] ++ arguments⟩

/-- A condition's command line: the executable, then each argument after a space. -/
def renderCondition (command : ServiceCommand) : Except ServiceError String := do
  let executable ← validateAbsoluteExecutable command.executable
  let rendered ← escapeSystemdArgument executable
  command.arguments.foldlM
    (fun rendered argument ↦ do return rendered ++ " " ++ (← escapeSystemdArgument argument))
    rendered

/-- The command line of `ExecStart=`. -/
def renderExecStart (executable : String) (arguments : List String) :
    Except ServiceError String := do
  let executable ← validateAbsoluteExecutable executable
  let arguments ← arguments.mapM escapeSystemdArgument
  let exec ← escapeSystemdArgument executable
  return if arguments.isEmpty then exec else exec ++ " " ++ Str.join " " arguments

namespace UnitDocument

/-- The lines of a rendered service; the conditions come as rendered lines. -/
def serviceLines (spec : ServiceSpec) (metered preStart : List String) (exec : String) :
    List String :=
  [managedMarker, uuidMarker ++ spec.connectionId.text, "", "[Unit]",
    "Description=" ++ spec.description, "", "[Service]", "Type=simple",
    "RuntimeDirectory=cosmic-ext-applet-mounter", "SuccessExitStatus=130 143"] ++
  metered ++ preStart ++ ["ExecStart=" ++ exec] ++
  (if spec.restartOnFailure then ["Restart=on-failure", "RestartSec=5s"] else []) ++
  ["", "[Install]", "WantedBy=default.target"]

/-- The line of a condition, when there is one. -/
def conditionLines : Option ServiceCommand → Except ServiceError (List String)
  | none => .ok []
  | some command => do
      let rendered ← renderCondition command
      return ["ExecCondition=" ++ rendered]

def meteredCondition (mode : CommandExecutionMode) (skipOnMetered : Bool) :
    Except ServiceError (Option ServiceCommand) :=
  if skipOnMetered then
    ((guardServiceCommand mode [meteredGuardFlag]).mapError .invalidSpec).map some
  else .ok none

def service (mode : CommandExecutionMode) (spec : ServiceSpec) :
    Except ServiceError UnitDocument := do
  validateText spec.description
  let exec ← renderExecStart spec.executable spec.arguments
  let preStart ← conditionLines spec.preStartCondition
  let metered ← conditionLines (← meteredCondition mode spec.skipOnMetered)
  return ⟨⟨spec.connectionId, .service⟩,
    Str.unlines (serviceLines spec metered preStart exec)⟩

/-- Whole seconds of a duration. -/
def asSecs (interval : Nat) : Nat := interval / 1000000000

def timer (spec : TimerSpec) : Except ServiceError UnitDocument := do
  validateText spec.description
  if spec.interval = 0 then
    .error (.invalidSpec ⟨"ui-services-timer-interval-must-be-greater-than-zero", []⟩)
  else
    return ⟨⟨spec.connectionId, .timer⟩, Str.unlines
      [managedMarker, uuidMarker ++ spec.connectionId.text, "", "[Unit]",
        "Description=" ++ spec.description, "", "[Timer]",
        "OnActiveSec=" ++ toString (asSecs spec.interval) ++ "s",
        "OnUnitInactiveSec=" ++ toString (asSecs spec.interval) ++ "s",
        "Persistent=" ++ (if spec.persistent then "true" else "false"),
        "Unit=" ++ (UnitName.fileName ⟨spec.connectionId, .service⟩), "", "[Install]",
        "WantedBy=timers.target"]⟩

end UnitDocument

/-! ## Ownership -/

/-- `uuid::Uuid::parse_str`, of which the applet relies on reading back what it displays. -/
structure UuidParser where
  parse : String → Option ConnectionId
  parse_text : ∀ id : ConnectionId, parse id.text = some id

/-- The parser on displayed identifiers alone. -/
def UuidParser.displayed : UuidParser where
  parse s := if h : isCanonicalUuid s = true then some ⟨s, h⟩ else none
  parse_text id := by simp [id.isCanonical]

/-- The connection a unit file claims to belong to, found by scanning its
lines: any managed marker, and the first identifier marker. -/
def parseOwnedConnection (uuid : UuidParser) (content : String) : Option ConnectionId :=
  if (Str.lines content).any (· == managedMarker) then
    ((Str.lines content).findSome? (Str.stripPrefix uuidMarker)).bind uuid.parse
  else none

end CosmicMounter

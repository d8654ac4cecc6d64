import CosmicMounter.Process.Argument
import CosmicMounter.Process.Redaction
import CosmicMounter.Rust.Path

/-!
# The setup of SFTP remotes

The connection editor's draft of an SFTP remote, its prefill from a dump of
the rclone configuration, and the request that creates or updates the remote
(`app/sftp.rs`).  Labels stand as their catalogue keys.
-/

namespace CosmicMounter.Sftp

open Rust Serde

inductive SftpAuth
  | password
  | key
  | agent
  deriving DecidableEq, Repr

structure SftpDraft where
  host : String
  port : String
  user : String
  auth : SftpAuth
  password : String
  keyFile : String
  keyPassphrase : String
  knownHosts : String
  deriving DecidableEq, Repr

/-- The variables of the environment that the editor reads. -/
structure Environment where
  user : Option String
  home : Option String

variable (env : Environment)

def SftpDraft.default : SftpDraft where
  host := ""
  port := "22"
  user := env.user.getD ""
  auth := .password
  password := ""
  keyFile := ""
  keyPassphrase := ""
  knownHosts := "~/.ssh/known_hosts"

/-! ## Values of the editor -/

def validateSetupValue (label value : String) : Except Message Unit :=
  if isPlainArgument value then .ok ()
  else .error ⟨"validation-control-characters", [("field", label)]⟩

def optionalSetupValue (label value : String) : Except Message (Option String) := do
  let trimmed := Str.trim value
  if trimmed = "" then return none
  validateSetupValue label trimmed
  return some trimmed

def optionalSecretValue (label value : String) : Except Message (Option String) := do
  if value = "" then return none
  validateSetupValue label value
  return some value

def expandUserPath (value : String) : String :=
  if value = "~" then env.home.getD value
  else match Str.stripPrefix "~/" value with
    | some rest => (env.home.map (Path.join · rest)).getD value
    | none => value

def required (label : String) : Message := ⟨"sftp-required", [("field", label)]⟩

def filePath (label value : String) : Except Message String := do
  match ← optionalSetupValue label value with
  | none => throw (required label)
  | some value =>
      if Path.isAbsolute (expandUserPath env value) then return expandUserPath env value
      throw ⟨"sftp-path-invalid", [("field", label)]⟩

/-- `str::parse::<u16>` for a port that is not zero. -/
def parsePort (value : String) : Option Nat :=
  (Str.parseU64 value).filter fun port ↦ decide (0 < port ∧ port < 2 ^ 16)

def isRemoteCreateName (value : String) : Bool :=
  value != "" && value.toList.all fun c ↦ c.isAlphanum || decide (c ∈ ['_', '-', '.'])

def validateRcloneRemoteCreateName (value : String) : Except Message Unit :=
  if isRemoteCreateName value then .ok () else .error ⟨"validation-rclone-name", []⟩

def requireSetupValue (label value : String) : Except Message Unit := do
  match ← optionalSetupValue label value with
  | none => throw (required label)
  | some _ => return ()

def SftpDraft.validate (draft : SftpDraft) : Except Message Unit := do
  requireSetupValue "sftp-host-label" draft.host
  requireSetupValue "sftp-user-label" draft.user
  if draft.host.toList.any fun c ↦ c == '/' || Str.isWhitespace c then
    throw ⟨"sftp-host-invalid", []⟩
  if (parsePort (Str.trim draft.port)).isNone then throw ⟨"sftp-port-invalid", []⟩
  let _ ← filePath env "sftp-known-hosts-label" draft.knownHosts
  if draft.auth = .key then
    let _ ← filePath env "sftp-private-key-label" draft.keyFile
    let _ ← optionalSecretValue "ui-app-sftp-key-passphrase" draft.keyPassphrase
  if draft.auth = .password then
    let _ ← optionalSecretValue "sftp-password" draft.password

/-! ## Values of the configuration -/

def displayNumber : Number → String
  | .unsigned n => toString n
  | .negative i => toString i
  | .float text => text

def stringOption (config : Value) (key : String) : String :=
  match config.get key with
  | some (.string value) => value
  | some (.number value) => displayNumber value
  | _ => ""

/-- An obscured empty password has 22 bytes. -/
def hasPassword (config : Value) : Bool :=
  let password := stringOption config "pass"
  password != "" && password.utf8ByteSize != 22

def boolOption (config : Value) (key : String) : Bool :=
  ((config.get key).bind Value.asBool).getD (stringOption config key == "true")

def authOf (config : Value) : SftpAuth :=
  if boolOption config "key_use_agent" then .agent
  else if stringOption config "key_file" ≠ "" ∨ stringOption config "key_pem" ≠ "" then .key
  else if hasPassword config then .password
  else .agent

/-- The value, or the default of an empty one. -/
def orDefault (value fallback : String) : String := if value = "" then fallback else value

def SftpDraft.fromConfig (config : Value) : SftpDraft :=
  let initial := SftpDraft.default env
  { initial with
    host := stringOption config "host"
    user := stringOption config "user"
    port := orDefault (stringOption config "port") initial.port
    keyFile := stringOption config "key_file"
    knownHosts := orDefault (stringOption config "known_hosts_file") initial.knownHosts
    auth := authOf config }

def isSftp (section' : Value) : Bool := (section'.get "type").bind Value.asStr == some "sftp"

def sectionIn (dump : Value) (name : String) : Except Message (Option Value) :=
  match dump with
  | .object fields =>
      match fields.get name with
      | none => .ok none
      | some section' =>
          if isSftp section' then .ok (some section') else .error ⟨"sftp-wrong-provider", []⟩
  | _ => .error ⟨"sftp-config-invalid", []⟩

def configSection (json : SerdeJson) (output name : String) : Except Message (Option Value) :=
  match json.fromStr output with
  | .error _ => .error ⟨"sftp-config-parse", []⟩
  | .ok dump => sectionIn dump name

def prefillFromDump (json : SerdeJson) (output name : String) : Except Message (Option SftpDraft) := do
  let config ← configSection json output name
  return config.map (SftpDraft.fromConfig env)

/-! ## The request -/

/-- The options that depend on how the remote logs in. -/
def authPairs (draft : SftpDraft) (existing : Option Value) : Except Message (List (String × String)) := do
  let previous := existing.map (SftpDraft.fromConfig env)
  let sameAuth := previous.any fun d ↦ decide (d.auth = draft.auth)
  match draft.auth with
  | .password =>
      if draft.password = "" ∧ ¬(sameAuth ∧ existing.any hasPassword) then
        throw ⟨"sftp-password-required", []⟩
      return (if draft.password = "" then [] else [("pass", draft.password)]) ++
        [("key_file", ""), ("key_file_pass", ""), ("pubkey_file", ""), ("pubkey", "")]
  | .key =>
      let key ← filePath env "sftp-private-key-label" draft.keyFile
      let sameKey := sameAuth && previous.any fun d ↦
        decide ((filePath env "sftp-private-key-label" d.keyFile).toOption = some key)
      return [("pass", ""), ("key_file", key)] ++
        (if ¬sameKey ∨ draft.keyPassphrase ≠ "" then [("key_file_pass", draft.keyPassphrase)] else []) ++
        (if ¬sameKey then [("pubkey_file", ""), ("pubkey", "")] else [])
  | .agent =>
      return [("pass", ""), ("key_file_pass", "")] ++
        (if ¬sameAuth then [("key_file", ""), ("pubkey_file", ""), ("pubkey", "")] else [])

/-- The timeout is in nanoseconds. -/
structure SetupRequest where
  args : List CommandArg
  timeout : Nat
  deriving DecidableEq, Repr

def checkExisting (config : Value) : Except Message Unit := do
  if !isSftp config then throw ⟨"sftp-backend-mismatch", []⟩
  if stringOption config "ssh" ≠ "" ∨ stringOption config "key_pem" ≠ "" then
    throw ⟨"sftp-custom-ssh", []⟩

def setupArgs (name : String) (existing : Bool) (pairs : List (String × String)) :
    List (CommandArg × Message) :=
  let invalidName : Message := ⟨"sftp-invalid-remote-name", []⟩
  let invalidOption : Message := ⟨"sftp-invalid-option", []⟩
  let invalidRequest : Message := ⟨"sftp-invalid-request", []⟩
  [(⟨"config", false⟩, invalidName), (⟨if existing then "update" else "create", false⟩, invalidName),
    (⟨name, false⟩, invalidName)] ++
  (if existing then [] else [(⟨"sftp", false⟩, ⟨"sftp-invalid-backend", []⟩)]) ++
  pairs.flatMap (fun (key, value) ↦ [(⟨key, false⟩, invalidOption), (⟨value, true⟩, invalidOption)]) ++
  [(⟨"--obscure", false⟩, invalidRequest), (⟨"--non-interactive", false⟩, invalidRequest)]

def setupRequest (name : String) (draft : SftpDraft) (existing : Option Value) :
    Except Message SetupRequest := do
  validateRcloneRemoteCreateName name
  draft.validate env
  if let some config := existing then checkExisting config
  let knownHosts ← filePath env "sftp-known-hosts-label" draft.knownHosts
  let authentication ← authPairs env draft existing
  let pairs := [("host", Str.trim draft.host), ("port", Str.trim draft.port),
      ("user", Str.trim draft.user), ("known_hosts_file", knownHosts), ("ask_password", "false"),
      ("key_use_agent", if draft.auth = .agent then "true" else "false")] ++ authentication ++
    (if existing.isNone then [("shell_type", "none")] else [])
  let args ← pushArgs [] (setupArgs name existing.isSome pairs)
  return { args, timeout := 30 * 10 ^ 9 }

/-- What `apply_remote` asks for, from the text of a dump. -/
def setupFromDump (json : SerdeJson) (output name : String) (draft : SftpDraft) :
    Except Message SetupRequest := do
  let existing ← configSection json output name
  setupRequest env name draft existing

end CosmicMounter.Sftp

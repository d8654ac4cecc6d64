import CosmicMounter.Model
import CosmicMounter.Rust.Pattern

/-!
# Units found for import

`parse_unit` of `import.rs`: the directives of a unit file, read line by line,
and the words of its command.
-/

namespace CosmicMounter.Import

open Rust

inductive ImportError
  | malformed (message : Message)
  | unsupported (message : Message)
  deriving DecidableEq, Repr

structure LegacyUnit where
  path : String
  name : String
  description : Option String
  installWantedBy : List String
  execStart : List String
  unsupportedOptions : List String
  deriving DecidableEq, Repr

/-! ## Lines -/

/-- A physical line joined to the logical lines so far and the one that is continued. -/
def joinLine : List String × String → String → List String × String
  | (lines, current), raw =>
      let line := Str.trimEnd raw
      let part := Str.trimEnd (Str.trimEndMatches '\\' line)
      let current := (if current = "" then "" else current ++ " ") ++ part
      if Str.endsWith "\\" line then (lines, current) else (lines ++ [current], "")

def logicalLines (content : String) : List String :=
  let (lines, current) := (Str.lines content).foldl joinLine ([], "")
  if current = "" then lines else lines ++ [current]

/-! ## Words of a command -/

structure Tokenizer where
  tokens : List (List Char) := []
  current : List Char := []
  quote : Option Char := none
  escaped : Bool := false
  deriving DecidableEq, Repr

namespace Tokenizer

def push (t : Tokenizer) (c : Char) : Tokenizer := { t with current := t.current ++ [c], escaped := false }

def flush (t : Tokenizer) : Tokenizer :=
  if t.current = [] then t else { t with tokens := t.tokens ++ [t.current], current := [] }

def step (t : Tokenizer) (c : Char) : Tokenizer :=
  if t.escaped then t.push c
  else if c = '\\' then { t with escaped := true }
  else if (c = '\'' ∨ c = '"') ∧ t.quote = some c then { t with quote := none }
  else if (c = '\'' ∨ c = '"') ∧ t.quote = none then { t with quote := some c }
  else if Str.isWhitespace c = true ∧ t.quote = none then t.flush
  else t.push c

end Tokenizer

def isUnsafe (c : Char) : Bool := c == '\x00' || c == '\n' || c == '\r'

def tokenizeSystemdExec (value : String) : Except ImportError (List String) :=
  let read := value.toList.foldl Tokenizer.step {}
  if read.quote ≠ none ∨ read.escaped = true then
    .error (.malformed ⟨"ui-import-unterminated-quoting-or-escape", []⟩)
  else
    let tokens := read.flush.tokens
    if tokens.any (·.any isUnsafe) then .error (.malformed ⟨"ui-import-unsafe-control-character", []⟩)
    else .ok (tokens.map .ofList)

/-! ## Directives -/

/-- The section that is open, and the values read so far, each under its section and key. -/
structure Directives where
  inSection : String := ""
  values : List (String × String) := []
  deriving DecidableEq, Repr

namespace Directives

def get (d : Directives) (key : String) : List String := (d.values.filter (·.1 == key)).map (·.2)

def isBracket (c : Char) : Bool := c == '[' || c == ']'

def addLine (d : Directives) (logical : String) : Except ImportError Directives :=
  let line := Str.trim logical
  if line = "" ∨ Str.startsWith "#" line = true ∨ Str.startsWith ";" line = true then .ok d
  else if Str.startsWith "[" line = true ∧ Str.endsWith "]" line = true then
    .ok { d with inSection := Str.trimMatches isBracket line }
  else match Str.splitOnce '=' line with
    | none => .error (.malformed ⟨"ui-import-line-lacks-line", [("line", line)]⟩)
    | some (key, value) =>
        .ok { d with values := d.values ++ [(d.inSection ++ "." ++ key, Str.trim value)] }

end Directives

def supportedOptions : List String :=
  ["Unit.Description", "Unit.Documentation", "Unit.After", "Unit.Wants", "Service.Type",
    "Service.ExecStart", "Service.ExecStartPre", "Service.ExecStop", "Service.ExecStopPost",
    "Service.Restart", "Service.RestartSec", "Install.WantedBy"]

/-- The other keys, sorted. -/
def unsupportedServiceOptions (d : Directives) : List String :=
  ((d.values.map (·.1)).dedup.mergeSort fun key key' ↦ decide (key ≤ key')).filter (· ∉ supportedOptions)

def parseUnit (path content : String) : Except ImportError LegacyUnit := do
  let d ← (logicalLines content).foldlM Directives.addLine {}
  let execStart ← match (d.get "Service.ExecStart").head? with
    | none => .error (.unsupported ⟨"ui-import-missing-execstart", []⟩)
    | some value => tokenizeSystemdExec value
  return {
    path
    name := (Path.fileName path).getD ""
    description := (d.get "Unit.Description").head?
    installWantedBy := d.get "Install.WantedBy"
    execStart
    unsupportedOptions := unsupportedServiceOptions d }

end CosmicMounter.Import

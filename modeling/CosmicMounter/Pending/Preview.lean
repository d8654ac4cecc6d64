import CosmicMounter.Config.Paths
import CosmicMounter.Host.Request
import CosmicMounter.Process.Argument
import CosmicMounter.Process.Redaction

/-!
# The preview of a mirror

`rclone_preview_snapshot` of `pending_count.rs`: two listings are read and the
files that differ by name, size or time are counted.
-/

namespace CosmicMounter.Preview

open Rust Serde

/-- The parser of time stamps, with the nanoseconds they stand for. -/
abbrev ParseTimestamp := String → Option Int

structure Item where
  path : String
  size : Nat
  modTime : String
  isDir : Bool
  deriving DecidableEq, Repr

def itemOfParts (path size modTime isDir : Option Value) : Option Item := do
  let path ← path.bind Value.asStr
  let size ← size.bind Value.asU64
  let modTime ← modTime.bind Value.asStr
  let isDir ← isDir.bind Value.asBool
  return { path, size, modTime, isDir }

/-- The derived reader of one entry: an object, or an array of its fields. -/
def itemOf : Value → Option Item
  | .object fields =>
      itemOfParts (fields.get "Path") (fields.get "Size") (fields.get "ModTime") (fields.get "IsDir")
  | .array items =>
      match items.toList with
      | [path, size, modTime, isDir] =>
          itemOfParts (some path) (some size) (some modTime) (some isDir)
      | _ => none
  | _ => none

def itemsOf : Value → Option (List Item)
  | .array items => items.toList.mapM itemOf
  | _ => none

/-! ## Inventories -/

def responseIncomplete : Message := ⟨"pending-count-response-incomplete", []⟩

abbrev Inventory := List (String × Nat × Int)

def isRefusedPath (path : String) : Bool :=
  path == "" || Str.startsWith "/" path ||
    (Str.split '/' path).any fun part ↦ decide (part ∈ ["", ".", ".."])

def insertItem (timestamp : ParseTimestamp) (map : Inventory) (item : Item) :
    Except Message Inventory :=
  if item.isDir || isRefusedPath item.path then .error responseIncomplete
  else match timestamp item.modTime with
    | none => .error responseIncomplete
    | some time =>
        if (map.lookup item.path).isSome then .error responseIncomplete
        else .ok ((item.path, item.size, time) :: map)

def inventoryOf (timestamp : ParseTimestamp) (items : List Item) : Except Message Inventory :=
  items.foldlM (insertItem timestamp) []

def inventory (json : SerdeJson) (timestamp : ParseTimestamp) (text : String) :
    Except Message Inventory :=
  match json.fromStr text with
  | .error _ => .error responseIncomplete
  | .ok value =>
      match itemsOf value with
      | none => .error responseIncomplete
      | some items => inventoryOf timestamp items

/-- The same size, and less than a second apart. -/
def isClose (remote local' : Nat × Int) : Bool :=
  remote.1 == local'.1 && decide (|remote.2 - local'.2| < 1000000000)

def differences (remote local' : Inventory) : Nat :=
  ((remote.map Prod.fst ++ local'.map Prod.fst).dedup.filter fun name ↦
    match remote.lookup name, local'.lookup name with
    | some r, some l => !isClose r l
    | _, _ => true).length

def previewInventoryDifference (json : SerdeJson) (timestamp : ParseTimestamp)
    (remote local' : String) : Except Message Nat := do
  let remote ← inventory json timestamp remote
  let local' ← inventory json timestamp local'
  return differences remote local'

/-! ## The snapshot -/

def lsjsonRequest (target filters : String) : Option CommandRequest :=
  let args :=
    ["lsjson", target, "--recursive", "--files-only", "--no-mimetype", "--filter-from", filters]
  if args.all isPlainArgument then
    some { args, timeout := 30 * 10 ^ 9, outputLimit := 4 * 1024 * 1024 }
  else none

abbrev Runner := CommandRequest → Except CommandError CommandOutput

def listing (runner : Runner) (target filters : String) : Except Message String :=
  match lsjsonRequest target filters with
  | none => .error ⟨"pending-count-request-failed", []⟩
  | some request =>
      match runner request with
      | .error _ => .error ⟨"pending-count-rclone-mirror-unavailable", []⟩
      | .ok output =>
          if output.stdout.truncated || output.stdout.invalidUtf8 then .error responseIncomplete
          else .ok output.stdout.text

/-- The two flags say whether the operation is cancelled before and after the listings. -/
def rclonePreviewSnapshot (json : SerdeJson) (timestamp : ParseTimestamp) (runner : Runner)
    (remote local' filters : String) (before after : Bool) : Except Message Nat := do
  if before then throw ⟨"microsoft-oauth-cancelled", []⟩
  let remote ← listing runner remote filters
  let local' ← listing runner local' filters
  if after then throw ⟨"microsoft-oauth-cancelled", []⟩
  previewInventoryDifference json timestamp remote local'

/-- `read_bounded` redacts what an ordinary command prints. -/
def redactOutput (json : SerdeJson) (output : CapturedOutput) : CapturedOutput :=
  { output with text := redactText json output.text }

def redacting (json : SerdeJson) (runner : Runner) : Runner := fun request ↦
  (runner request).map fun output ↦
    { stdout := redactOutput json output.stdout, stderr := redactOutput json output.stderr }

end CosmicMounter.Preview

import CosmicMounter.Data.Serde
import CosmicMounter.Model

/-!
# Pending uploads

Two readings of the statistics of a mounted remote: `parse_vfs_stats` with the
decisions on detaching (`providers.rs`), and `uploads_idle` (`sleep.rs`).
-/

namespace CosmicMounter

open Rust Serde

/-- `serde_json::from_str`, with the displayed error. -/
abbrev FromStr := String → Except String Value

structure RcloneVfsHealth where
  queuedUploads : Nat
  activeUploads : Nat
  cacheErrors : Nat
  cacheExhausted : Bool
  deriving DecidableEq, Repr

namespace RcloneVfsHealth

def pendingOrActiveWrites (health : RcloneVfsHealth) : Bool :=
  decide (0 < health.queuedUploads) || decide (0 < health.activeUploads)

def healthyCache (health : RcloneVfsHealth) : Bool :=
  health.cacheErrors == 0 && !health.cacheExhausted

end RcloneVfsHealth

inductive DetachDecision
  | cleanUnmount
  | autoDetachSafe
  | blockedByPendingWrites
  | blockedByCacheError
  deriving DecidableEq, Repr

inductive LazyUnmountDecision
  | offerAfterConfirmation
  | blockedByPendingWrites
  | blockedByCacheError
  deriving DecidableEq, Repr

def detachDecision (health : RcloneVfsHealth) (connectivityLost : Bool) : DetachDecision :=
  if health.pendingOrActiveWrites then .blockedByPendingWrites
  else if !health.healthyCache then .blockedByCacheError
  else if connectivityLost then .autoDetachSafe
  else .cleanUnmount

def lazyUnmountDecision (health : RcloneVfsHealth) : LazyUnmountDecision :=
  if health.pendingOrActiveWrites then .blockedByPendingWrites
  else if !health.healthyCache then .blockedByCacheError
  else .offerAfterConfirmation

/-! ## Reading every path -/

/-- The path of a field, or of an element, below a path. -/
def childPath (path key : String) : String := if path = "" then key else path ++ "." ++ key

/-- The elements of an array that are not null. -/
def nonNullCount (items : Items) : Nat := (items.toList.filter fun value ↦ !value.isNull).length

mutual

def collectJsonPaths : Value → String → List (String × Value)
  | .object fields, path => collectFields fields path
  | .array items, path =>
      (path ++ ".count", .number (.unsigned (nonNullCount items))) :: collectItems items 0 path
  | .null, path => [(path, .null)]
  | .bool b, path => [(path, .bool b)]
  | .number n, path => [(path, .number n)]
  | .string s, path => [(path, .string s)]

def collectItems : Items → Nat → String → List (String × Value)
  | .nil, _, _ => []
  | .cons value rest, index, path =>
      collectJsonPaths value (path ++ "." ++ toString index) ++ collectItems rest (index + 1) path

def collectFields : Fields → String → List (String × Value)
  | .nil, _ => []
  | .cons key value rest, path =>
      collectJsonPaths value (childPath path key) ++ collectFields rest path

end

def jsonU64 : Value → Nat
  | .number n => n.asU64.getD 0
  | .array items => items.toList.length
  | _ => 0

/-- What a path is taken to report, by the words in it. -/
inductive Statistic
  | queuedUploads
  | activeUploads
  | cacheErrors
  | cacheExhausted
  deriving DecidableEq, Repr

def statistic? (path : String) : Option Statistic :=
  let key := Str.toAsciiLowercase path
  if Str.contains "queued" key && Str.contains "upload" key then some .queuedUploads
  else if (Str.contains "active" key || Str.contains "inprogress" key) &&
      (Str.contains "upload" key || Str.contains "transfer" key) then some .activeUploads
  else if Str.contains "error" key then some .cacheErrors
  else if Str.contains "outofspace" key || Str.contains "out_of_space" key ||
      Str.contains "exhaust" key then some .cacheExhausted
  else none

/-- One turn of the loop over the paths. -/
def readStatistic (health : RcloneVfsHealth) (leaf : String × Value) : RcloneVfsHealth :=
  match statistic? leaf.1 with
  | some .queuedUploads => { health with queuedUploads := max health.queuedUploads (jsonU64 leaf.2) }
  | some .activeUploads => { health with activeUploads := max health.activeUploads (jsonU64 leaf.2) }
  | some .cacheErrors => { health with cacheErrors := max health.cacheErrors (jsonU64 leaf.2) }
  | some .cacheExhausted => { health with
      cacheExhausted := health.cacheExhausted || leaf.2.asBool.getD (decide (0 < jsonU64 leaf.2)) }
  | none => health

inductive VfsError
  | invalidResponse (text : String)
  deriving DecidableEq, Repr

def healthOf (value : Value) : RcloneVfsHealth :=
  (collectJsonPaths value "").foldl readStatistic ⟨0, 0, 0, false⟩

def parseVfsStats (fromStr : FromStr) (output : String) : Except VfsError RcloneVfsHealth := do
  let value ← (fromStr output).mapError .invalidResponse
  return healthOf value

/-! ## Reading two counters -/

inductive UploadsError
  | json (text : String)
  | message (message : Message)
  deriving DecidableEq, Repr

def uploadCounter (disk : Value) (name key : String) : Except UploadsError Nat :=
  match (disk.get name).bind Value.asU64 with
  | some count => .ok count
  | none => .error (.message ⟨key, []⟩)

def idleOf (value : Value) : Except UploadsError Bool :=
  match value.get "diskCache" with
  | none => .error (.message ⟨"ui-sleep-upload-status-unavailable-mount-left-active", []⟩)
  | some disk => do
      let queued ← uploadCounter disk "uploadsQueued" "ui-sleep-upload-queue-unknown-mount-left-active"
      let active ← uploadCounter disk "uploadsInProgress"
        "ui-sleep-active-uploads-unknown-mount-left-active"
      return queued == 0 && active == 0

theorem idleOf_eq_ok {value : Value} {idle : Bool} (h : idleOf value = .ok idle) :
    ∃ disk queued active, value.get "diskCache" = some disk ∧
      (disk.get "uploadsQueued").bind Value.asU64 = some queued ∧
      (disk.get "uploadsInProgress").bind Value.asU64 = some active ∧
      idle = (queued == 0 && active == 0) := by
  unfold idleOf at h
  cases hdisk : value.get "diskCache" with
  | none => simp [hdisk] at h
  | some disk =>
      simp only [hdisk, uploadCounter] at h
      cases hqueued : (disk.get "uploadsQueued").bind Value.asU64 with
      | none => simp [hqueued, bind, Except.bind] at h
      | some queued =>
          cases hactive : (disk.get "uploadsInProgress").bind Value.asU64 with
          | none => simp [hqueued, hactive, bind, Except.bind] at h
          | some active =>
              simp only [hqueued, hactive, bind, Except.bind, pure, Except.pure] at h
              exact ⟨disk, queued, active, rfl, hqueued, hactive, (Except.ok.inj h).symm⟩

def uploadsIdle (fromStr : FromStr) (text : String) : Except UploadsError Bool := do
  let value ← (fromStr text).mapError .json
  idleOf value

end CosmicMounter

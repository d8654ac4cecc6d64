import CosmicMounter.Config.Paths
import CosmicMounter.Data.Decode
import CosmicMounter.Process.Redaction
import CosmicMounter.Text.Utf8

/-!
# The progress of a running mirror

`rclone_mirror_progress_for_invocation` of `pending_count.rs`: the structured
log of the current run is read line by line, while it may still be written.
-/

namespace CosmicMounter.Progress

open Rust Serde

def unavailable : Message := ⟨"pending-count-rclone-mirror-unavailable", []⟩

def responseIncomplete : Message := ⟨"pending-count-response-incomplete", []⟩

def unreadable : Message := ⟨"pending-count-mirror-unreadable", []⟩

/-! ## What the messages say -/

def startsRun (message : String) : Bool := Str.contains "Synching Path1" message

def saysSuccess (message : String) : Bool := Str.contains "Bisync successful" message

def saysFailure (message : String) : Bool :=
  Str.contains "Bisync critical error" message || Str.contains "Bisync aborted" message ||
    Str.contains "Bisync failed" message

/-- The changes that a message reports for a path, `none` within if they are no number. -/
def report (label message : String) : Option (Option Nat) :=
  match Str.splitOnceText label message with
  | none => none
  | some (_, rest) =>
      match Str.splitOnceText " changes:" (Str.trim rest) with
      | none => none
      | some (count, _) => some (Str.parseU64 (Str.trim count))

structure MirrorProgress where
  started : Bool := false
  succeeded : Bool := false
  failed : Bool := false
  path1 : Option Nat := none
  path2 : Option Nat := none
  completed : Nat := 0
  deriving DecidableEq, Repr

def isCompletion (message : String) (object : Option String) : Bool :=
  object.isSome && (Str.startsWith "Copied (" message || Str.startsWith "Deleted" message)

/-- What a message changes in a run that has started. -/
def MirrorProgress.note (self : MirrorProgress) (message : String) (object : Option String) :
    MirrorProgress :=
  { self with
    succeeded := self.succeeded || saysSuccess message
    failed := self.failed || saysFailure message
    path1 := (report "Path1:" message).getD self.path1
    path2 := (report "Path2:" message).getD self.path2
    completed :=
      if isCompletion message object then min (self.completed + 1) (2 ^ 64 - 1) else self.completed }

def MirrorProgress.observe (self : MirrorProgress) (message : String) (object : Option String) :
    MirrorProgress :=
  let self : MirrorProgress := if startsRun message then { started := true } else self
  if self.started then self.note message object else self

def MirrorProgress.pending (self : MirrorProgress) : Except Message Nat :=
  if self.succeeded then .ok 0
  else if self.failed then .error unavailable
  else match self.path1, self.path2 with
    | some left, some right =>
        let total := min (left + right) (2 ^ 64 - 1)
        .ok (max (total - self.completed) (if 0 < total then 1 else 0))
    | _, _ => .error unreadable

/-! ## The log -/

/-- The lines as `read_line` returns them: each but perhaps the last with its newline. -/
def readLines : List UInt8 → List (List UInt8)
  | [] => []
  | byte :: rest =>
      if byte = 10 then [byte] :: readLines rest
      else match readLines rest with
        | [] => [[byte]]
        | line :: lines => (byte :: line) :: lines

inductive LineRead
  | record (message : String) (object : Option String)
  | incomplete
  | refused (message : Message)

def readLine (json : SerdeJson) (line : List UInt8) : LineRead :=
  match Utf8.strict line with
  | none => .refused unavailable
  | some text =>
      if 1024 * 1024 < line.length then .refused responseIncomplete
      else match json.fromStr (.ofList text) with
        | .error _ => if text.getLast? = some '\n' then .refused unreadable else .incomplete
        | .ok record =>
            match (record.get "msg").bind Value.asStr with
            | none => .refused unreadable
            | some message => .record message ((record.get "object").bind Value.asStr)

def observeLines (json : SerdeJson) :
    MirrorProgress → List (List UInt8) → Except Message MirrorProgress
  | progress, [] => .ok progress
  | progress, line :: rest =>
      match readLine json line with
      | .refused message => .error message
      | .incomplete => .ok progress
      | .record message object => observeLines json (progress.observe message object) rest

/-! ## The state file -/

structure LiveProgressState where
  version : Nat
  invocationId : String
  deriving DecidableEq, Repr

def asU8 (value : Value) : Option Nat := value.asU64.filter (· < 256)

def LiveProgressState.ofValue (value : Value) : Option LiveProgressState := do
  let record ← value.record false ["version", "invocation_id"]
  let version ← required record asU8 "version"
  let invocationId ← required record Value.asStr "invocation_id"
  return { version, invocationId }

/-- `serde_json`, which also reads bytes. -/
structure ProgressJson extends SerdeJson where
  fromSlice : List UInt8 → Except String Value

/-- The two files of the applet, as far as they can be read. -/
structure ProgressFiles where
  state : Option (List UInt8)
  log : Option (List UInt8)

def checkState (json : ProgressJson) (file : Option (List UInt8)) (invocation : String) :
    Except Message Unit :=
  match file with
  | none => .error unavailable
  | some bytes =>
      if 4096 < bytes.length then .error responseIncomplete
      else match (json.fromSlice bytes).toOption.bind LiveProgressState.ofValue with
        | none => .error unreadable
        | some state =>
            if state.version ≠ 1 ∨ state.invocationId ≠ invocation then .error unavailable
            else .ok ()

def readLog (json : SerdeJson) (log : List UInt8) : Except Message Nat :=
  (observeLines json {} (readLines log)).bind MirrorProgress.pending

def rcloneMirrorProgressForInvocation (json : ProgressJson) (files : ProgressFiles)
    (invocation : String) : Except Message Nat :=
  match checkState json files.state invocation with
  | .error message => .error message
  | .ok () =>
      match files.log with
      | none => .error unavailable
      | some log => readLog json.toSerdeJson log

end CosmicMounter.Progress

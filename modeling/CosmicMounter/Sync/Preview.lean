import CosmicMounter.Rust.Pattern

/-!
# The preview of a synchronization

`parse_preview` of `sync.rs`: the summary of a dry run's log, line by line, and
the lines that a dry run prints for the actions it queues.
-/

namespace CosmicMounter

open Rust

/-! ## The summary -/

structure PreviewSummary where
  uploads : Nat := 0
  downloads : Nat := 0
  deletes : Nat := 0
  conflicts : Nat := 0
  skipped : Nat := 0
  transferBytes : Option Nat := none
  googleNativeSkips : List String := []
  destructive : Bool := false
  deriving DecidableEq, Repr

namespace PreviewSummary

variable (summary : PreviewSummary)

def addUpload : PreviewSummary := { summary with uploads := summary.uploads + 1 }

def addDownload : PreviewSummary := { summary with downloads := summary.downloads + 1 }

def addDelete : PreviewSummary := { summary with deletes := summary.deletes + 1, destructive := true }

end PreviewSummary

/-- The summary so far, and the counters of `parse_preview`. -/
structure PreviewScan where
  summary : PreviewSummary := {}
  rcloneCopyDirection : Option Bool := none
  queuedCopies : Nat := 0
  queuedDeletes : Nat := 0
  deriving DecidableEq, Repr

/-! ## Lines -/

/-- Change totals and detections repeat the queued actions; a backup move is part of an overwrite. -/
def repeatsAction (lower : String) : Bool :=
  Str.contains " changes:" lower || Str.contains "skipped move to" lower ||
    Str.contains "file was deleted" lower || Str.contains "deleted:" lower

def isGoogleNativeDocument (lower : String) : Bool :=
  [".gdoc", ".gsheet", ".gslides", ".gdraw", ".gform", ".gmap", ".gsite"].any (Str.contains · lower)

def byteMultiplier (unit : String) : Option Nat :=
  if unit ∈ ["b", "byte", "bytes"] then some 1
  else if unit ∈ ["kb", "kib"] then some 1024
  else if unit ∈ ["mb", "mib"] then some (1024 * 1024)
  else if unit ∈ ["gb", "gib"] then some (1024 * 1024 * 1024)
  else none

def parseFirstBytes (lower : String) : Option Nat :=
  let parts := Str.splitWhitespace lower
  (parts.zip parts.tail).findSome? fun (number, unit) ↦ do
    let value ← Str.parseU64 (Str.replaceChar ',' "" number)
    let multiplier ← byteMultiplier unit
    some (min (value * multiplier) (2 ^ 64 - 1))

/-- Whether the second path is named before the first, in a line that announces a copy. -/
def copyDirection (lower : String) : Option Bool :=
  if Str.contains "copying files to" lower || Str.contains "copying path" lower then
    match Str.find "path1" lower, Str.find "path2" lower with
    | some path1, some path2 => some (decide (path2 < path1))
    | _, _ => none
  else none

def wouldDelete (lower : String) : Bool :=
  Str.contains "would delete" lower || Str.contains "would remove" lower ||
    Str.contains ": deleting " lower || Str.contains ": removing " lower ||
    Str.startsWith "delete " (Str.trimStart lower) || Str.startsWith "remove " (Str.trimStart lower)

def addTransfer (summary : PreviewSummary) (lower : String) : PreviewSummary :=
  if Str.contains "path2 to path1" lower && Str.contains "copy" lower then summary.addUpload
  else if Str.contains "path1 to path2" lower && Str.contains "copy" lower then summary.addDownload
  else if Str.contains "would upload" lower || Str.contains ": uploading " lower then summary.addUpload
  else if Str.contains "would download" lower || Str.contains ": downloading " lower then
    summary.addDownload
  else summary

/-- A line that is neither of the queue nor of a native document. -/
def addPlainLine (summary : PreviewSummary) (lower : String) : PreviewSummary :=
  let summary := if Str.contains "conflict" lower then
    { summary with conflicts := summary.conflicts + 1 } else summary
  let summary := if Str.contains "skip" lower || Str.contains "excluded" lower ||
      Str.contains "filtered" lower then
    { summary with skipped := summary.skipped + 1 } else summary
  let summary := if wouldDelete lower then summary.addDelete else summary
  let summary := addTransfer summary lower
  match parseFirstBytes lower with
  | some bytes => { summary with
      transferBytes := some (min (summary.transferBytes.getD 0 + bytes) (2 ^ 64 - 1)) }
  | none => summary

/-- A confirmed copy that was not queued counts in the direction that was announced last. -/
def addConfirmedCopy (scan : PreviewScan) : PreviewScan :=
  if 0 < scan.queuedCopies then { scan with queuedCopies := scan.queuedCopies - 1 }
  else match scan.rcloneCopyDirection with
    | some true => { scan with summary := scan.summary.addUpload }
    | some false => { scan with summary := scan.summary.addDownload }
    | none => scan

def addConfirmedDelete (scan : PreviewScan) : PreviewScan :=
  if 0 < scan.queuedDeletes then { scan with queuedDeletes := scan.queuedDeletes - 1 }
  else { scan with summary := scan.summary.addDelete }

def addUnqueuedLine (scan : PreviewScan) (line : String) : PreviewScan :=
  let lower := Str.toAsciiLowercase line
  if Str.contains "skipped storing filters file hash" lower then scan
  else if isGoogleNativeDocument lower then
    { scan with summary := { scan.summary with
        skipped := scan.summary.skipped + 1
        googleNativeSkips := scan.summary.googleNativeSkips ++ [Str.trim line] } }
  else { scan with summary := addPlainLine scan.summary lower }

/-- One turn of the loop of `parse_preview`. -/
def addLine (scan : PreviewScan) (line : String) : PreviewScan :=
  let lower := Str.toAsciiLowercase line
  if repeatsAction lower then scan
  else if Str.contains "queue delete" lower then
    { scan with summary := scan.summary.addDelete, queuedDeletes := scan.queuedDeletes + 1 }
  else if Str.contains "skipped delete as --dry-run is set" lower then addConfirmedDelete scan
  else if Str.contains "queue copy to" lower && Str.contains "path1" lower then
    { scan with summary := scan.summary.addUpload, queuedCopies := scan.queuedCopies + 1 }
  else if Str.contains "queue copy to" lower && Str.contains "path2" lower then
    { scan with summary := scan.summary.addDownload, queuedCopies := scan.queuedCopies + 1 }
  else match copyDirection lower with
    | some direction => { scan with rcloneCopyDirection := some direction }
    | none =>
        if Str.contains "skipped copy as --dry-run is set" lower then addConfirmedCopy scan
        else addUnqueuedLine scan line

def parsePreview (output : String) : PreviewSummary :=
  ((Str.lines output).foldl addLine {}).summary

/-! ## The log of a dry run -/

structure FileName where
  text : String
  oneLine : '\n' ∉ text.toList

inductive LogLevel
  | bare
  | info
  | notice
  deriving DecidableEq, Repr

def LogLevel.text : LogLevel → String
  | .bare => ""
  | .info => "INFO: "
  | .notice => "NOTICE: "

inductive QueuedAction
  | copyToPath1
  | copyToPath2
  | delete
  deriving DecidableEq, Repr

/-- What is printed before the name, coloured or not. -/
def QueuedAction.text : QueuedAction → Bool → String
  | .copyToPath1, true => "\x1b[32mQueue copy to\x1b[0m Path1 - "
  | .copyToPath1, false => "Queue copy to Path1 - "
  | .copyToPath2, true => "\x1b[32mQueue copy to\x1b[0m Path2 - "
  | .copyToPath2, false => "Queue copy to Path2 - "
  | .delete, true => "\x1b[31mQueue delete\x1b[0m - "
  | .delete, false => "Queue delete - "

inductive Confirmation
  | copy
  | delete
  deriving DecidableEq, Repr

/-- What is printed after the name and a colon. -/
def Confirmation.text : Confirmation → String
  | .copy => " Skipped copy as --dry-run is set "
  | .delete => " Skipped delete as --dry-run is set "

inductive PreviewEntry
  | queued (level : LogLevel) (coloured : Bool) (action : QueuedAction) (name : FileName)
  | confirmed (level : LogLevel) (kind : Confirmation) (name : FileName) (size : Nat)

namespace PreviewEntry

def line : PreviewEntry → String
  | queued level coloured action name => level.text ++ action.text coloured ++ name.text
  | confirmed level kind name size =>
      level.text ++ name.text ++ ":" ++ kind.text ++ "(size " ++ toString size ++ ")"

def name : PreviewEntry → FileName
  | queued _ _ _ name | confirmed _ _ name _ => name

def queues (action : QueuedAction) : PreviewEntry → Bool
  | queued _ _ action' _ => action == action'
  | confirmed .. => false

def confirms (kind : Confirmation) : PreviewEntry → Bool
  | queued .. => false
  | confirmed _ kind' _ _ => kind == kind'

end PreviewEntry

def queuedOf (action : QueuedAction) (entries : List PreviewEntry) : Nat :=
  entries.countP (PreviewEntry.queues action)

def confirmedOf (kind : Confirmation) (entries : List PreviewEntry) : Nat :=
  entries.countP (PreviewEntry.confirms kind)

/-- At most the queued actions have been confirmed. -/
structure Balanced (entries : List PreviewEntry) : Prop where
  copies : confirmedOf .copy entries ≤ queuedOf .copyToPath1 entries + queuedOf .copyToPath2 entries
  deletes : confirmedOf .delete entries ≤ queuedOf .delete entries

/-- A log in which every confirmation comes after its queue line. -/
structure PreviewLog where
  entries : List PreviewEntry
  balanced : ∀ past, past <+: entries → Balanced past

def PreviewLog.text (log : PreviewLog) : String := Str.unlines (log.entries.map PreviewEntry.line)

/-- The totals are those of the queue. -/
structure PreviewLog.Counted (log : PreviewLog) : Prop where
  uploads : (parsePreview log.text).uploads = queuedOf .copyToPath1 log.entries
  downloads : (parsePreview log.text).downloads = queuedOf .copyToPath2 log.entries
  deletes : (parsePreview log.text).deletes = queuedOf .delete log.entries
  conflicts : (parsePreview log.text).conflicts = 0
  destructive : (parsePreview log.text).destructive = decide (0 < queuedOf .delete log.entries)

end CosmicMounter

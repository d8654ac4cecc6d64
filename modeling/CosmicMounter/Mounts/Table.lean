import CosmicMounter.Config.Paths
import CosmicMounter.Host.Request
import CosmicMounter.Process.Redaction

/-!
# The mount table

The reader of `/proc/self/mountinfo` (`mounts.rs`), the guard that looks for a
mount before a service starts (`mount_guard.rs`), and the table as the kernel
prints it.
-/

namespace CosmicMounter.Mounts

open Rust

structure MountEntry where
  target : String
  options : List String
  filesystem : String
  source : String
  deriving DecidableEq, Repr

def unescapeMountField (value : String) : String :=
  Str.replace "\\134" "\\" (Str.replace "\\012" "\n" (Str.replace "\\011" "\t"
    (Str.replace "\\040" " " value)))

def parseMountinfoLine (line : String) : Except Message MountEntry :=
  match Str.splitOnceText " - " line with
  | none => .error ⟨"ui-mounts-mountinfo-line-lacks-separator", []⟩
  | some (left, right) =>
      match Str.splitWhitespace left, Str.splitWhitespace right with
      | _ :: _ :: _ :: _ :: target :: options :: _, filesystem :: source :: _ =>
          .ok {
            target := unescapeMountField target
            options := Str.split ',' options
            filesystem
            source := unescapeMountField source }
      | _, _ => .error ⟨"ui-mounts-mountinfo-line-is-incomplete", []⟩

/-! ## The guard -/

inductive GuardError
  | command (key : String) (error : CommandError)
  | line (error : Message)
  | message (message : Message)
  deriving DecidableEq, Repr

/-- The already-mounted test, over the lines of the table. -/
def checkLines (mountpoint : String) : List String → Except GuardError Unit
  | [] => .ok ()
  | line :: rest =>
      match parseMountinfoLine line with
      | .error error => .error (.line error)
      | .ok entry =>
          if Path.Same entry.target mountpoint then
            .error (.message ⟨"mount-guard-already-mounted", [("path", mountpoint)]⟩)
          else checkLines mountpoint rest

def checkMountinfo (mountinfo mountpoint : String) : Except GuardError Unit :=
  checkLines mountpoint (Str.lines mountinfo)

/-- The three commands have run: the table, the directory and its first entry. -/
def checkEmptyMountpoint (mountinfo directory entries : Except CommandError CapturedOutput)
    (mountpoint : String) : Except GuardError Unit := do
  let mountinfo ← mountinfo.mapError (.command "mount-guard-inspect-mounts")
  if mountinfo.truncated || mountinfo.invalidUtf8 then
    throw (.message ⟨"mount-guard-unreadable-table", []⟩)
  checkMountinfo mountinfo.text mountpoint
  let directory ← directory.mapError (.command "mount-guard-inspect-directory")
  if directory.truncated || directory.invalidUtf8 || directory.text == "" then
    throw (.message ⟨"mount-guard-not-directory", [("path", mountpoint)]⟩)
  let entries ← entries.mapError (.command "mount-guard-inspect-contents")
  if entries.truncated || entries.invalidUtf8 || entries.text != "" then
    throw (.message ⟨"mount-guard-local-entries", [("path", mountpoint)]⟩)

/-! ## The table -/

def escapeChar (c : Char) : List Char :=
  if c = ' ' then "\\040".toList
  else if c = '\t' then "\\011".toList
  else if c = '\n' then "\\012".toList
  else if c = '\\' then "\\134".toList
  else [c]

def escapeMountField (value : String) : String := .ofList (value.toList.flatMap escapeChar)

inductive OptionalField
  | shared (group : Nat)
  | master (group : Nat)
  | propagateFrom (group : Nat)
  | unbindable
  deriving DecidableEq, Repr

def OptionalField.render : OptionalField → String
  | .shared group => "shared:" ++ toString group
  | .master group => "master:" ++ toString group
  | .propagateFrom group => "propagate_from:" ++ toString group
  | .unbindable => "unbindable"

/-- White space inside a path is what the kernel escapes. -/
def HasEscapedBlanks (path : String) : Prop :=
  ∀ c ∈ path.toList, Str.isWhitespace c = true → c ∈ [' ', '\t', '\n']

theorem hasEscapedBlanks_of_none {path : String} (h : path.toList.any Str.isWhitespace = false) :
    HasEscapedBlanks path := by
  intro c hc hblank
  exact absurd hblank (List.any_eq_false.mp h c hc)

/-- A mount as the kernel prints it.  The root is a path, or the name of a
namespace such as `net:[4026531840]`. -/
structure Mount where
  id : Nat
  parent : Nat
  major : Nat
  minor : Nat
  root : String
  target : List String
  options : String
  optional : List OptionalField
  filesystem : String
  source : String
  superOptions : String
  root_token : Str.IsToken root
  root_shape : root.toList.head? = some '/' ∨ root.toList.getLast? = some ']'
  target_names : ∀ name ∈ target, Path.IsName name
  target_blanks : HasEscapedBlanks (Config.absolute target)
  options_token : Str.IsToken options
  options_head : options.toList.head? = some 'r'
  filesystem_token : Str.IsToken filesystem
  source_token : Str.IsToken source
  superOptions_token : Str.IsToken superOptions
  superOptions_head : superOptions.toList.head? = some 'r'

namespace Mount

variable (mount : Mount)

/-- The path of the mount point. -/
def path : String := Config.absolute mount.target

def leftFields : List String :=
  [toString mount.id, toString mount.parent, toString mount.major ++ ":" ++ toString mount.minor,
    mount.root, escapeMountField mount.path, mount.options] ++ mount.optional.map OptionalField.render

def rightFields : List String := [mount.filesystem, mount.source, mount.superOptions]

def line : String := Str.join " " (mount.leftFields ++ "-" :: mount.rightFields)

end Mount

def table (mounts : List Mount) : String := Str.unlines (mounts.map Mount.line)

end CosmicMounter.Mounts

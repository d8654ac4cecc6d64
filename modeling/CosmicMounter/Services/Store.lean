import CosmicMounter.Interaction.Handler
import CosmicMounter.Services.Validator

/-!
# The unit store

`FileUnitStore` keeps the generated units as files in the user's unit
directory.  Its operations are programs over the file system calls they make;
`directoryWorld` says what those calls do to the directory, failures included.
-/

namespace CosmicMounter

open Rust Interaction

/-- A name in the unit directory.  The text of a file is `none` when it is not
UTF-8; a link is followed to a file elsewhere, or dangles. -/
inductive Entry
  | file (text : Option String)
  | link (target : Option (Option String))
  | directory
  deriving DecidableEq, Repr

abbrev Directory := String → Option Entry

inductive DirectoryRequest
  | createDirAll
  | symlinkMetadata (name : String)
  | readToString (name : String)
  | createNew (name content : String)
  | rename (source target : String)
  | removeFile (name : String)

namespace DirectoryRequest

/-- `symlink_metadata` answers whether the name is a regular file. -/
abbrev Answer : DirectoryRequest → Type
  | symlinkMetadata _ => Except IoError Bool
  | readToString _ => Except IoError String
  | _ => Except IoError Unit

end DirectoryRequest

/-! ## What the calls do -/

/-- Reading a file's text; only its kind matters in an error. -/
def Reads (text : Option String) (answer : Except IoError String) : Prop :=
  match text with
  | some content => answer = .ok content
  | none => ∃ e, answer = .error e ∧ e.kind = .invalidData

/-- Reading an entry when nothing goes wrong; links are followed. -/
def Entry.Shows : Option Entry → Except IoError String → Prop
  | none, answer | some (.link none), answer => ∃ e, answer = .error e ∧ e.kind = .notFound
  | some (.file text), answer | some (.link (some text)), answer => Reads text answer
  | some .directory, answer => ∃ e, answer = .error e ∧ e.kind = .other

def Fails {α : Type} (answer : Except IoError α) : Prop := ∃ e, answer = .error e ∧ e.kind = .other

def isRegular : Entry → Bool
  | .file _ => true
  | _ => false

/-- Any call may fail and change nothing, except that a failed write may leave
a file it has just created with any part of the text. -/
def directoryWorld : World DirectoryRequest.Answer Directory
  | d, .createDirAll, _, d' => d' = d
  | d, .symlinkMetadata name, answer, d' => d' = d ∧ (Fails answer ∨
      match d name with
      | none => ∃ e, answer = .error e ∧ e.kind = .notFound
      | some entry => answer = .ok (isRegular entry))
  | d, .readToString name, answer, d' => d' = d ∧ (Fails answer ∨ Entry.Shows (d name) answer)
  | d, .createNew name content, .ok (), d' =>
      d name = none ∧ d' = Function.update d name (some (.file (some content)))
  | d, .createNew name _, .error _, d' =>
      d' = d ∨ d name = none ∧ ∃ text, d' = Function.update d name (some (.file text))
  | d, .rename source target, .ok (), d' => ∃ entry, d source = some entry ∧
      d' = Function.update (Function.update d source none) target (some entry)
  | d, .removeFile name, .ok (), d' => d name ≠ none ∧ d' = Function.update d name none
  | d, .rename _ _, .error _, d' => d' = d
  | d, .removeFile _, .error _, d' => d' = d

/-- Reading an entry, with the system's error texts. -/
def Entry.read (text : IoErrorKind → String) : Option Entry → Except IoError String
  | none | some (.link none) => .error ⟨.notFound, text .notFound⟩
  | some (.file (some content)) | some (.link (some (some content))) => .ok content
  | some (.file none) | some (.link (some none)) => .error ⟨.invalidData, text .invalidData⟩
  | some .directory => .error ⟨.other, text .other⟩

/-- A file system on which no call fails except for what is in the directory. -/
def workingFiles (text : IoErrorKind → String) : Handler DirectoryRequest.Answer Directory
  | .createDirAll, d => (.ok (), d)
  | .symlinkMetadata name, d =>
      (match d name with
        | none => .error ⟨.notFound, text .notFound⟩
        | some entry => .ok (isRegular entry), d)
  | .readToString name, d => (Entry.read text (d name), d)
  | .createNew name content, d =>
      match d name with
      | none => (.ok (), Function.update d name (some (.file (some content))))
      | some _ => (.error ⟨.other, text .other⟩, d)
  | .rename source target, d =>
      match d source, d target with
      | some _, some .directory => (.error ⟨.other, text .other⟩, d)
      | some entry, _ =>
          (.ok (), Function.update (Function.update d source none) target (some entry))
      | none, _ => (.error ⟨.notFound, text .notFound⟩, d)
  | .removeFile name, d =>
      match d name with
      | none => (.error ⟨.notFound, text .notFound⟩, d)
      | some .directory => (.error ⟨.other, text .other⟩, d)
      | some _ => (.ok (), Function.update d name none)

theorem workingFiles_behaves (text : IoErrorKind → String) (q : DirectoryRequest) (d : Directory) :
    directoryWorld d q (workingFiles text q d).1 (workingFiles text q d).2 := by
  cases q with
  | createDirAll => rfl
  | symlinkMetadata name =>
      refine ⟨rfl, .inr ?_⟩
      cases hname : d name with
      | none => exact ⟨⟨.notFound, text .notFound⟩, by simp [workingFiles, hname], rfl⟩
      | some entry => simp [workingFiles, hname]
  | readToString name =>
      refine ⟨rfl, .inr ?_⟩
      simp only [workingFiles]
      rcases hname : d name with _ | (_ | content) | (_ | _ | content) | _ <;>
        simp [Entry.Shows, Reads, Entry.read]
  | createNew name content =>
      cases hname : d name <;> simp [workingFiles, directoryWorld, hname]
  | rename source target =>
      rcases hsource : d source with _ | entry
      · simp [workingFiles, directoryWorld, hsource]
      · rcases htarget : d target with _ | text | target | _ <;>
          simp [workingFiles, directoryWorld, hsource, htarget]
  | removeFile name =>
      rcases hname : d name with _ | text | target | _ <;>
        simp [workingFiles, directoryWorld, hname]

/-! ## The operations -/

structure FileUnitStore where
  validator : UnitDocument → Except ServiceError Unit
  uuid : UuidParser
  processId : Nat

namespace FileUnitStore

variable (store : FileUnitStore)

/-- The store of the user's own units. -/
def user (uuid : UuidParser) (processId : Nat) : FileUnitStore :=
  ⟨StructuralUnitValidator.validate, uuid, processId⟩

abbrev Call (α : Type) := ExceptT ServiceError (Program DirectoryRequest.Answer) α

def ask (q : DirectoryRequest) : Program DirectoryRequest.Answer q.Answer := Program.request q

def temporary (name : String) : String := "." ++ name ++ ".tmp-" ++ toString store.processId

/-- Write a new temporary file and move it into place. -/
def stage (name content : String) : Program DirectoryRequest.Answer (Except IoError Unit) := do
  match ← ask (.createNew (store.temporary name) content) with
  | .error e => return .error e
  | .ok () => ask (.rename (store.temporary name) name)

def writeRaw (name content : String) : Call Unit := ExceptT.mk do
  match ← ask .createDirAll with
  | .error e => return .error (.io e)
  | .ok () =>
      match ← store.stage name content with
      | .ok () => return .ok ()
      | .error e => do
          let _ ← ask (.removeFile (store.temporary name))
          return .error (.io e)

def stateOf (answer : Except IoError String) : Except ServiceError UnitFileState :=
  match answer with
  | .ok content =>
      .ok (match parseOwnedConnection store.uuid content with
        | some id => .managed id
        | none => .external)
  | .error e => if e.kind = .notFound then .ok .missing else .error (.io e)

def state (name : UnitName) : Call UnitFileState :=
  ExceptT.mk do return store.stateOf (← ask (.readToString name.fileName))

def read (name : UnitName) : Call (Option String) := ExceptT.mk do
  match ← ask (.symlinkMetadata name.fileName) with
  | .ok false => return .error (.ownershipMismatch name.fileName)
  | .error e => return if e.kind = .notFound then .ok none else .error (.io e)
  | .ok true =>
      match ← ask (.readToString name.fileName) with
      | .ok content => return .ok (some content)
      | .error e => return if e.kind = .notFound then .ok none else .error (.io e)

def write (document : UnitDocument) : Call Unit := do
  Program.check (store.validator document)
  match ← store.state document.name with
  | .external => throw (.ownershipMismatch document.name.fileName)
  | .managed id =>
      if id ≠ document.name.connectionId then
        throw (.ownershipMismatch document.name.fileName)
      else store.writeRaw document.name.fileName document.content
  | .missing => store.writeRaw document.name.fileName document.content

def remove (name : UnitName) : Call Unit := do
  match ← store.state name with
  | .missing => pure ()
  | .managed id =>
      if id = name.connectionId then
        ExceptT.mk do
          return (← ask (.removeFile name.fileName)).mapError .io
      else throw (.ownershipMismatch name.fileName)
  | .external => throw (.ownershipMismatch name.fileName)

end FileUnitStore

end CosmicMounter

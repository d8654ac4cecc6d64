import CosmicMounter.Services.Ownership

/-!
# Rolling back a unit file

What `UnitController::install` and `UnitController::remove` leave behind when
the manager cannot load the change, while the file system works.  The roll-back
writes through the validating store, so it is refused for an owned unit that
the validator would not accept today.
-/

namespace CosmicMounter

open Rust Interaction StructuralUnitValidator

namespace FileUnitStore

variable (store : FileUnitStore) (text : IoErrorKind → String)

@[simp] theorem state_eval (name : UnitName) (d : Directory) :
    (store.state name).run.eval (workingFiles text) d =
      (store.stateOf (Entry.read text (d name.fileName)), d) := rfl

theorem read_eval (name : UnitName) (d : Directory) :
    (read name).run.eval (workingFiles text) d =
      (match d name.fileName with
        | none => .ok none
        | some (.file (some content)) => .ok (some content)
        | some (.file none) => .error (.io ⟨.invalidData, text .invalidData⟩)
        | some _ => .error (.ownershipMismatch name.fileName), d) := by
  rcases hname : d name.fileName with _ | (_ | content) | target | _ <;>
    simp [read, ask, workingFiles, hname, isRegular, Entry.read]

/-- Reading a unit finds a text file or nothing, or fails on anything else. -/
theorem read_eval_cases (name : UnitName) (d : Directory) :
    (∃ previous : Option String, (read name).run.eval (workingFiles text) d = (.ok previous, d) ∧
        d name.fileName = previous.map fun content ↦ .file (some content)) ∨
      ∃ e, (read name).run.eval (workingFiles text) d = (.error e, d) ∧
        ∀ content, d name.fileName ≠ some (.file (some content)) := by
  rw [read_eval]
  rcases d name.fileName with _ | (_ | content) | target | _
  · exact .inl ⟨none, rfl, rfl⟩
  · exact .inr ⟨_, rfl, by simp⟩
  · exact .inl ⟨some content, rfl, rfl⟩
  · exact .inr ⟨_, rfl, by simp⟩
  · exact .inr ⟨_, rfl, by simp⟩

theorem writeRaw_eval {file : String} (content : String) {d : Directory}
    (htemporary : d (store.temporary file) = none) (hne : file ≠ store.temporary file)
    (hfile : d file ≠ some .directory) :
    (store.writeRaw file content).run.eval (workingFiles text) d =
      (.ok (), Function.update d file (some (.file (some content)))) := by
  have hstage : (store.stage file content).eval (workingFiles text) d =
      (.ok (), Function.update d file (some (.file (some content)))) := by
    have hback : Function.update d (store.temporary file) none = d := by
      rw [← htemporary, Function.update_eq_self]
    rcases hd : d file with _ | text | target | _
    · simp [stage, ask, workingFiles, htemporary, hne, hd, hback]
    · simp [stage, ask, workingFiles, htemporary, hne, hd, hback]
    · simp [stage, ask, workingFiles, htemporary, hne, hd, hback]
    · exact absurd hd hfile
  simp [writeRaw, ask, Program.eval_bind, workingFiles, hstage]

/-- The store reads the unit as one it may write: missing or its connection's own. -/
def Writable (name : UnitName) (state : Except ServiceError UnitFileState) : Prop :=
  state = .ok .missing ∨ state = .ok (.managed name.connectionId)

theorem write_eval_ok {document : UnitDocument} {d : Directory}
    (hvalid : store.validator document = .ok ())
    (hstate : Writable document.name
      (store.stateOf (Entry.read text (d document.name.fileName))))
    (htemporary : d (store.temporary document.name.fileName) = none)
    (hdirectory : d document.name.fileName ≠ some .directory) :
    (store.write document).run.eval (workingFiles text) d =
      (.ok (), Function.update d document.name.fileName (some (.file (some document.content)))) := by
  have hne := (store.temporary_ne_fileName document.name.fileName document.name).symm
  have hraw := store.writeRaw_eval text document.content htemporary hne hdirectory
  rcases hstate with hstate | hstate <;>
    simp [write, Program.eval_bind, hvalid, hstate, hraw]

theorem write_eval_invalid {document : UnitDocument} {d : Directory} {e : ServiceError}
    (hvalid : store.validator document = .error e) :
    (store.write document).run.eval (workingFiles text) d = (.error e, d) := by
  simp [write, hvalid]

theorem write_eval_refused (document : UnitDocument) {d : Directory}
    (hstate : ¬Writable document.name
      (store.stateOf (Entry.read text (d document.name.fileName)))) :
    ∃ e, (store.write document).run.eval (workingFiles text) d = (.error e, d) := by
  cases hvalid : store.validator document with
  | error e => exact ⟨e, store.write_eval_invalid text hvalid⟩
  | ok _ =>
      match hs : store.stateOf (Entry.read text (d document.name.fileName)) with
      | .error e => exact ⟨e, by simp [write, Program.eval_bind, hvalid, hs]⟩
      | .ok .missing => exact absurd (.inl hs) hstate
      | .ok .external => exact ⟨_, by simp [write, Program.eval_bind, hvalid, hs]; rfl⟩
      | .ok (.managed id) =>
          have hid : id ≠ document.name.connectionId := by
            rintro rfl
            exact hstate (.inr hs)
          exact ⟨_, by simp [write, Program.eval_bind, hvalid, hs, hid]; rfl⟩

theorem remove_eval_own {name : UnitName} {d : Directory} {content : String}
    (hfile : d name.fileName = some (.file (some content)))
    (hown : parseOwnedConnection store.uuid content = some name.connectionId) :
    (store.remove name).run.eval (workingFiles text) d =
      (.ok (), Function.update d name.fileName none) := by
  simp [remove, ask, Program.eval_bind, stateOf, Entry.read, hfile, hown, workingFiles,
    Except.mapError]

theorem remove_eval_missing {name : UnitName} {d : Directory} (hfile : d name.fileName = none) :
    (store.remove name).run.eval (workingFiles text) d = (.ok (), d) := by
  simp [remove, Program.eval_bind, stateOf, Entry.read, hfile]

theorem remove_eval_refused {name : UnitName} {d : Directory} {content : String}
    (hfile : d name.fileName = some (.file (some content)))
    (hown : parseOwnedConnection store.uuid content ≠ some name.connectionId) :
    ∃ e, (store.remove name).run.eval (workingFiles text) d = (.error e, d) := by
  refine ⟨.ownershipMismatch name.fileName, ?_⟩
  cases howner : parseOwnedConnection store.uuid content with
  | none => simp [remove, Program.eval_bind, stateOf, Entry.read, hfile, howner]
  | some id =>
      have hid : id ≠ name.connectionId := fun h ↦ hown (h ▸ howner)
      simp [remove, Program.eval_bind, stateOf, Entry.read, hfile, howner, hid]

end FileUnitStore

/-! ## The controller -/

/-- The results the manager will give, in the order of the actions asked for. -/
abbrev ManagerResults := Nat → Except ServiceError (Option UnitStatus)

def Failed {ε α : Type} : Except ε α → Prop
  | .error _ => True
  | .ok _ => False

@[simp] theorem failed_error {ε α : Type} (e : ε) : Failed (.error e : Except ε α) := trivial

@[simp] theorem not_failed_ok {ε α : Type} (a : α) : ¬Failed (.ok a : Except ε α) := id

instance {ε α : Type} (result : Except ε α) : Decidable (Failed result) :=
  match result with
  | .error _ => isTrue trivial
  | .ok _ => isFalse id

namespace UnitController

variable (store : FileUnitStore) (text : IoErrorKind → String)

/-- The controller over a working file system and a manager with given results. -/
def handler : Handler ControllerRequest.Answer (Directory × ManagerResults)
  | .store request, (d, results) =>
      let outcome := (store.serve request).eval (workingFiles text) d
      (outcome.1, outcome.2, results)
  | .action _ _, (d, results) => (results 0, d, fun n ↦ results (n + 1))
  | .isCancelled, s => (false, s)

theorem read_run_eval (name : UnitName) (d : Directory) (results : ManagerResults) :
    (read name).run.eval (handler store text) (d, results) =
      (((FileUnitStore.read name).run.eval (workingFiles text) d).1,
        ((FileUnitStore.read name).run.eval (workingFiles text) d).2, results) := rfl

theorem write_run_eval (document : UnitDocument) (d : Directory) (results : ManagerResults) :
    (write document).run.eval (handler store text) (d, results) =
      (((store.write document).run.eval (workingFiles text) d).1,
        ((store.write document).run.eval (workingFiles text) d).2, results) := rfl

theorem removeFile_run_eval (name : UnitName) (d : Directory) (results : ManagerResults) :
    (removeFile name).run.eval (handler store text) (d, results) =
      (((store.remove name).run.eval (workingFiles text) d).1,
        ((store.remove name).run.eval (workingFiles text) d).2, results) := rfl

/-- What restoring a file does, and the directory it leaves. -/
def restored (name : UnitName) (previous : Option String) (d : Directory) :
    Except ServiceError Unit × Directory :=
  (match previous with
    | some content => store.write ⟨name, content⟩
    | none => store.remove name).run.eval (workingFiles text) d

theorem restore_eval (name : UnitName) (previous : Option String) (d : Directory)
    (results : ManagerResults) :
    (restore name previous).run.eval (handler store text) (d, results) =
      ((restored store text name previous d).1, (restored store text name previous d).2,
        results) := by
  cases previous <;> rfl

/-- A roll-back never succeeds; it leaves what restoring the file leaves. -/
theorem rollBack_eval (fl : Message → String) (name : UnitName) (previous : Option String)
    (error : ServiceError) (d : Directory) (results : ManagerResults) :
    let outcome := (rollBack fl name previous error).run.eval (handler store text) (d, results)
    Failed outcome.1 ∧ outcome.2.1 = (restored store text name previous d).2 := by
  rw [rollBack, Program.eval_run_bind, restore_eval]
  rcases restored store text name previous d with ⟨_ | _, d'⟩
  · simp
  · cases hreload : results 0 <;> simp [action, handler, hreload]

theorem load_eval (name : UnitName) (d : Directory) (results : ManagerResults) :
    let outcome := (load name).run.eval (handler store text) (d, results)
    outcome.2.1 = d ∧ (Failed outcome.1 ↔ Failed (results 0) ∨ Failed (results 1)) := by
  cases hreload : results 0 <;> cases hloaded : results 1 <;>
    simp [load, action, handler, hreload, hloaded]

theorem loadOrRollBack_eval (fl : Message → String) (name : UnitName) (previous : Option String)
    (d : Directory) (results : ManagerResults) :
    let outcome := (loadOrRollBack fl name previous).run.eval (handler store text) (d, results)
    if Failed (results 0) ∨ Failed (results 1) then
      Failed outcome.1 ∧ outcome.2.1 = (restored store text name previous d).2
    else outcome.1 = .ok () ∧ outcome.2.1 = d := by
  obtain ⟨hd, hfailed⟩ := load_eval store text name d results
  simp only [loadOrRollBack, Program.eval_run_bind, Program.run_attempt, Program.eval_bind,
    Program.eval_done, Program.andThen_ok]
  rcases hload : (load name).run.eval (handler store text) (d, results) with
    ⟨e | _, d', results'⟩
  · rw [hload] at hd hfailed
    obtain rfl : d' = d := hd
    rw [if_pos (hfailed.mp (failed_error e))]
    exact rollBack_eval store text fl name previous e d' results'
  · rw [hload] at hd hfailed
    obtain rfl : d' = d := hd
    rw [if_neg (fun h ↦ not_failed_ok _ (hfailed.mpr h))]
    exact ⟨rfl, rfl⟩

theorem restoreRemoved_eval (name : UnitName) (previous : Option String) (error : ServiceError)
    (d : Directory) (results : ManagerResults) :
    let outcome := (restoreRemoved name previous error).run.eval (handler store text) (d, results)
    Failed outcome.1 ∧ outcome.2.1 =
      if previous.isSome then (restored store text name previous d).2 else d := by
  cases previous with
  | none => simp [restoreRemoved]
  | some content =>
      simp only [restoreRemoved, Option.isSome_some, if_true, Program.eval_run_bind, restore_eval]
      rcases restored store text name (some content) d with ⟨_ | _, d'⟩ <;> simp

theorem reloadOrRestore_eval (name : UnitName) (previous : Option String) (d : Directory)
    (results : ManagerResults) :
    let outcome := (reloadOrRestore name previous).run.eval (handler store text) (d, results)
    if Failed (results 0) then
      Failed outcome.1 ∧ outcome.2.1 =
        if previous.isSome then (restored store text name previous d).2 else d
    else outcome.1 = .ok () ∧ outcome.2.1 = d := by
  cases hreload : results 0 with
  | ok status => simp [reloadOrRestore, action, handler, hreload]
  | error e =>
      rw [if_pos (failed_error e), reloadOrRestore, Program.eval_run_bind]
      simp only [action, ExceptT.run_mk, Program.run_attempt, Program.eval_bind,
        Program.eval_request, handler, hreload, Program.eval_done, Program.andThen_ok]
      exact restoreRemoved_eval store text name previous e d _

/-! ## What is restored -/

theorem restored_missing {name : UnitName} {content : String} {d : Directory}
    (hfile : d name.fileName = none)
    (hown : parseOwnedConnection store.uuid content = some name.connectionId) :
    (restored store text name none
      (Function.update d name.fileName (some (.file (some content))))).2 = d := by
  have hremove := store.remove_eval_own text
    (d := Function.update d name.fileName (some (.file (some content))))
    (Function.update_self ..) hown
  rw [restored, hremove, Function.update_idem, ← hfile, Function.update_eq_self]

theorem restored_valid {name : UnitName} {content : String} {d : Directory}
    (hvalid : store.validator ⟨name, content⟩ = .ok ())
    (hstate : FileUnitStore.Writable name
      (store.stateOf (Entry.read text (d name.fileName))))
    (htemporary : d (store.temporary name.fileName) = none)
    (hdirectory : d name.fileName ≠ some .directory) :
    (restored store text name (some content) d).2 name.fileName =
      some (.file (some content)) := by
  rw [restored, store.write_eval_ok text hvalid hstate htemporary hdirectory]
  exact Function.update_self ..

theorem restored_invalid {name : UnitName} {content : String} (d : Directory)
    (hvalid : Failed (store.validator ⟨name, content⟩)) :
    (restored store text name (some content) d).2 = d := by
  cases h : store.validator ⟨name, content⟩ with
  | ok _ => simp [h] at hvalid
  | error e => rw [restored, store.write_eval_invalid text h]

end UnitController

/-! ## All or nothing -/

/-- A change of one unit file through the controller. -/
inductive UnitChange
  | install (document : UnitDocument)
  | remove (name : UnitName)

namespace UnitChange

def name : UnitChange → UnitName
  | install document => document.name
  | remove name => name

/-- What is to stand under the name afterwards. -/
def asked : UnitChange → Option Entry
  | install document => some (.file (some document.content))
  | remove _ => none

def program (fl : Message → String) :
    UnitChange → Program ControllerRequest.Answer (Except ServiceError Unit)
  | install document => (UnitController.install fl document).run
  | remove name => (UnitController.remove name).run

/-- The change happened, or it failed and the file is what it was. -/
def AllOrNothing (change : UnitChange) (d : Directory)
    (outcome : Except ServiceError Unit × Directory × ManagerResults) : Prop :=
  (outcome.1 = .ok () → outcome.2.1 change.name.fileName = change.asked) ∧
    (Failed outcome.1 → outcome.2.1 change.name.fileName = d change.name.fileName)

/-- An owned unit that the validator would refuse to write back. -/
def Obsolete (uuid : UuidParser) (name : UnitName) (entry : Option Entry) : Prop :=
  ∃ content, entry = some (.file (some content)) ∧
    parseOwnedConnection uuid content = some name.connectionId ∧
    Failed (StructuralUnitValidator.validate ⟨name, content⟩)

/-- The manager refuses the change once it is on disk, and what was there is obsolete. -/
def Stuck (uuid : UuidParser) (d : Directory) (results : ManagerResults) : UnitChange → Prop
  | install document => StructuralUnitValidator.validate document = .ok () ∧
      Obsolete uuid document.name (d document.name.fileName) ∧
      (Failed (results 0) ∨ Failed (results 1))
  | remove name => Obsolete uuid name (d name.fileName) ∧ Failed (results 0)

/-- A change whose file cannot be read, or whose write is refused, leaves everything as it is. -/
theorem allOrNothing_of_failed {change : UnitChange} {d : Directory}
    {outcome : Except ServiceError Unit × Directory × ManagerResults}
    (hfailed : Failed outcome.1) (hd : outcome.2.1 = d) : change.AllOrNothing d outcome :=
  ⟨fun hok ↦ absurd hfailed (by rw [hok]; exact not_failed_ok _), fun _ ↦ by rw [hd]⟩

theorem writable_iff {uuid : UuidParser} (processId : Nat) (text : IoErrorKind → String)
    {name : UnitName} (previous : Option String) :
    FileUnitStore.Writable name ((FileUnitStore.user uuid processId).stateOf
        (Entry.read text (previous.map fun content ↦ .file (some content)))) ↔
      ∀ content, previous = some content →
        parseOwnedConnection uuid content = some name.connectionId := by
  cases previous with
  | none => simp [FileUnitStore.Writable, FileUnitStore.stateOf, Entry.read]
  | some content =>
      cases howner : parseOwnedConnection uuid content <;>
        simp [FileUnitStore.Writable, FileUnitStore.stateOf, FileUnitStore.user, Entry.read, howner]

section

variable {fl : Message → String} {text : IoErrorKind → String} {uuid : UuidParser}
  {processId : Nat} {d : Directory} {results : ManagerResults} {previous : Option String}

/-- Once the new unit is written, only a failing load of it over an obsolete
unit leaves something else than asked for or found. -/
theorem loadOrRollBack_iff {document : UnitDocument}
    (hfile : d document.name.fileName = previous.map fun content ↦ .file (some content))
    (hvalid : StructuralUnitValidator.validate document = .ok ())
    (hown : ∀ content, previous = some content →
      parseOwnedConnection uuid content = some document.name.connectionId)
    (htemporary : d ((FileUnitStore.user uuid processId).temporary document.name.fileName) = none) :
    (install document).AllOrNothing d
      ((UnitController.loadOrRollBack fl document.name previous).run.eval
        (UnitController.handler (.user uuid processId) text)
        (Function.update d document.name.fileName (some (.file (some document.content))),
          results)) ↔
      ¬Stuck uuid d results (install document) := by
  have hnew := StructuralUnitValidator.owned_of_validate uuid hvalid
  have hload := UnitController.loadOrRollBack_eval (.user uuid processId) text fl document.name
    previous (Function.update d document.name.fileName (some (.file (some document.content))))
    results
  by_cases hfailed : Failed (results 0) ∨ Failed (results 1)
  · rw [if_pos hfailed] at hload
    obtain ⟨hresult, hdirectory⟩ := hload
    cases previous with
    | none =>
        rw [UnitController.restored_missing _ text hfile hnew] at hdirectory
        refine iff_of_true (allOrNothing_of_failed hresult hdirectory) ?_
        rintro ⟨-, ⟨content, hcontent, -⟩, -⟩
        simp [hfile] at hcontent
    | some content =>
        cases hold : StructuralUnitValidator.validate ⟨document.name, content⟩ with
        | ok _ =>
            have hrestored := UnitController.restored_valid (.user uuid processId) text hold
              (d := Function.update d document.name.fileName (some (.file (some document.content))))
              (by
                rw [Function.update_self]
                exact (writable_iff processId text (some document.content)).mpr
                  (by rintro _ ⟨⟩; exact hnew))
              (by rwa [Function.update_of_ne (FileUnitStore.temporary_ne_fileName _ _ document.name)])
              (by simp)
            refine iff_of_true ⟨fun hok ↦ absurd hresult (by rw [hok]; exact not_failed_ok _),
              fun _ ↦ ?_⟩ ?_
            · exact (congrFun hdirectory _).trans (hrestored.trans hfile.symm)
            · rintro ⟨-, ⟨content', hcontent, -, hobsolete⟩, -⟩
              obtain rfl : content = content' := by simpa [hfile] using hcontent
              simp [hold] at hobsolete
        | error e =>
            have hobsolete : Failed (StructuralUnitValidator.validate ⟨document.name, content⟩) := by
              simp [hold]
            rw [UnitController.restored_invalid _ text _ hobsolete] at hdirectory
            refine iff_of_false ?_ (not_not_intro
              ⟨hvalid, ⟨content, hfile, hown content rfl, hobsolete⟩, hfailed⟩)
            intro hall
            have hsame := hall.2 hresult
            rw [hdirectory, name, Function.update_self, hfile] at hsame
            obtain rfl : document.content = content := by simpa using hsame
            simp [hvalid] at hold
  · rw [if_neg hfailed] at hload
    refine iff_of_true ⟨fun _ ↦ ?_, fun h ↦ absurd h (by rw [hload.1]; exact not_failed_ok _)⟩
      fun h ↦ hfailed h.2.2
    rw [hload.2]
    exact Function.update_self ..

/-- What follows the read of the earlier file. -/
theorem writeAndLoad_iff {document : UnitDocument}
    (hfile : d document.name.fileName = previous.map fun content ↦ .file (some content))
    (htemporary : d ((FileUnitStore.user uuid processId).temporary document.name.fileName) = none) :
    (install document).AllOrNothing d ((do
        UnitController.write document
        UnitController.loadOrRollBack fl document.name previous :
          UnitController.Call Unit).run.eval
      (UnitController.handler (.user uuid processId) text) (d, results)) ↔
      ¬Stuck uuid d results (install document) := by
  rw [Program.eval_run_bind, UnitController.write_run_eval]
  cases hvalid : StructuralUnitValidator.validate document with
  | error e =>
      rw [FileUnitStore.write_eval_invalid _ text hvalid]
      refine iff_of_true (allOrNothing_of_failed (failed_error _) rfl) fun h ↦ ?_
      simp [Stuck, hvalid] at h
  | ok _ =>
      by_cases hown : ∀ content, previous = some content →
          parseOwnedConnection uuid content = some document.name.connectionId
      · have hstate := (writable_iff processId text previous).mpr hown
        rw [FileUnitStore.write_eval_ok _ text hvalid (hfile ▸ hstate) htemporary
          (by rw [hfile]; cases previous <;> simp)]
        exact loadOrRollBack_iff hfile hvalid hown htemporary
      · obtain ⟨e, hrefused⟩ := FileUnitStore.write_eval_refused (.user uuid processId) text
          document (d := d) (by rwa [hfile, writable_iff])
        rw [hrefused]
        refine iff_of_true (allOrNothing_of_failed (failed_error _) rfl) ?_
        rintro ⟨-, ⟨content, hcontent, howner, -⟩, -⟩
        refine hown fun content' hcontent' ↦ ?_
        obtain rfl : content' = content := by simpa [hfile, hcontent'] using hcontent
        exact howner

theorem install_iff {document : UnitDocument}
    (htemporary : d ((FileUnitStore.user uuid processId).temporary document.name.fileName) = none) :
    (install document).AllOrNothing d (((install document).program fl).eval
      (UnitController.handler (.user uuid processId) text) (d, results)) ↔
      ¬Stuck uuid d results (install document) := by
  rw [program, UnitController.install, Program.eval_run_bind, UnitController.read_run_eval]
  rcases FileUnitStore.read_eval_cases text document.name d with
    ⟨previous, hread, hfile⟩ | ⟨e, hread, hfile⟩
  · rw [hread]
    exact writeAndLoad_iff hfile htemporary
  · rw [hread]
    refine iff_of_true (allOrNothing_of_failed (failed_error _) rfl) ?_
    rintro ⟨-, ⟨content, hcontent, -⟩, -⟩
    exact hfile content hcontent

/-- Once the unit is removed, only a failing reload over an obsolete unit
leaves something else than asked for or found. -/
theorem reloadOrRestore_iff {name : UnitName} {content : String}
    (hfile : d name.fileName = some (.file (some content)))
    (hown : parseOwnedConnection uuid content = some name.connectionId)
    (htemporary : d ((FileUnitStore.user uuid processId).temporary name.fileName) = none) :
    (remove name).AllOrNothing d ((UnitController.reloadOrRestore name (some content)).run.eval
      (UnitController.handler (.user uuid processId) text)
      (Function.update d name.fileName none, results)) ↔ ¬Stuck uuid d results (remove name) := by
  have hreload := UnitController.reloadOrRestore_eval (.user uuid processId) text name
    (some content) (Function.update d name.fileName none) results
  by_cases hfailed : Failed (results 0)
  · rw [if_pos hfailed] at hreload
    obtain ⟨hresult, hdirectory⟩ := hreload
    rw [if_pos Option.isSome_some] at hdirectory
    cases hold : StructuralUnitValidator.validate ⟨name, content⟩ with
    | ok _ =>
        have hrestored := UnitController.restored_valid (.user uuid processId) text hold (d := Function.update d name.fileName none)
          (by
            rw [Function.update_self]
            exact (writable_iff processId text none).mpr (by rintro _ ⟨⟩))
          (by rwa [Function.update_of_ne (FileUnitStore.temporary_ne_fileName _ _ name)])
          (by simp)
        refine iff_of_true ⟨fun hok ↦ absurd hresult (by rw [hok]; exact not_failed_ok _),
          fun _ ↦ (congrFun hdirectory _).trans (hrestored.trans hfile.symm)⟩ ?_
        rintro ⟨⟨content', hcontent, -, hobsolete⟩, -⟩
        obtain rfl : content = content' := by simpa [hfile] using hcontent
        simp [hold] at hobsolete
    | error e =>
        have hobsolete : Failed (StructuralUnitValidator.validate ⟨name, content⟩) := by
          simp [hold]
        rw [UnitController.restored_invalid _ text _ hobsolete] at hdirectory
        refine iff_of_false ?_ (not_not_intro ⟨⟨content, hfile, hown, hobsolete⟩, hfailed⟩)
        intro hall
        have hsame := hall.2 hresult
        rw [hdirectory, UnitChange.name, Function.update_self, hfile] at hsame
        cases hsame
  · rw [if_neg hfailed] at hreload
    refine iff_of_true ⟨fun _ ↦ ?_, fun h ↦ absurd h (by rw [hreload.1]; exact not_failed_ok _)⟩
      fun h ↦ hfailed h.2
    rw [hreload.2]
    exact Function.update_self ..

theorem remove_iff {name : UnitName}
    (htemporary : d ((FileUnitStore.user uuid processId).temporary name.fileName) = none) :
    (remove name).AllOrNothing d (((remove name).program fl).eval
      (UnitController.handler (.user uuid processId) text) (d, results)) ↔
      ¬Stuck uuid d results (remove name) := by
  rw [program, UnitController.remove, Program.eval_run_bind, UnitController.read_run_eval]
  rcases FileUnitStore.read_eval_cases text name d with
    ⟨previous, hread, hfile⟩ | ⟨e, hread, hfile⟩
  · rw [hread, Program.andThen_ok, Program.eval_run_bind, UnitController.removeFile_run_eval]
    cases previous with
    | none =>
        rw [FileUnitStore.remove_eval_missing _ text hfile, Program.andThen_ok]
        have hreload := UnitController.reloadOrRestore_eval (.user uuid processId) text name none d
          results
        refine iff_of_true ?_ ?_
        · by_cases hfailed : Failed (results 0)
          · rw [if_pos hfailed] at hreload
            exact allOrNothing_of_failed hreload.1 hreload.2
          · rw [if_neg hfailed] at hreload
            refine ⟨fun _ ↦ ?_, fun _ ↦ congrFun hreload.2 _⟩
            exact (congrFun hreload.2 _).trans hfile
        · rintro ⟨⟨content, hcontent, -⟩, -⟩
          simp [hfile] at hcontent
    | some content =>
        by_cases hown : parseOwnedConnection uuid content = some name.connectionId
        · rw [FileUnitStore.remove_eval_own (.user uuid processId) text hfile hown]
          exact reloadOrRestore_iff hfile hown htemporary
        · obtain ⟨e, hrefused⟩ :=
            FileUnitStore.remove_eval_refused (.user uuid processId) text hfile hown
          rw [hrefused]
          refine iff_of_true (allOrNothing_of_failed (failed_error _) rfl) ?_
          rintro ⟨⟨content', hcontent, howner, -⟩, -⟩
          obtain rfl : content = content' := by simpa [hfile] using hcontent
          exact hown howner
  · rw [hread]
    refine iff_of_true (allOrNothing_of_failed (failed_error _) rfl) ?_
    rintro ⟨⟨content, hcontent, -⟩, -⟩
    exact hfile content hcontent

end

/-- An older unit of the same connection, with nothing but its markers. -/
def sampleOldTimer : String := Str.unlines [managedMarker, uuidMarker ++ sampleId.text]

def sampleDirectory : Directory := fun file ↦
  if file = sampleTimer.name.fileName then some (.file (some sampleOldTimer)) else none

/-- The reload is refused, and the new unit stays where the old one was. -/
theorem install_over_obsolete_unit :
    ¬(install sampleTimer).AllOrNothing sampleDirectory
      (((install sampleTimer).program Message.key).eval
        (UnitController.handler (.user .displayed 1) fun _ ↦ "")
        (sampleDirectory, fun _ ↦ .error (.runtime ⟨"refused", []⟩))) := by
  have hsame : sampleDirectory sampleTimer.name.fileName = some (.file (some sampleOldTimer)) :=
    if_pos rfl
  rw [install_iff (if_neg (FileUnitStore.temporary_ne_fileName _ _ _)), not_not]
  exact ⟨StructuralUnitValidator.validate_sampleTimer,
    ⟨sampleOldTimer, hsame, by decide +kernel, by decide +kernel⟩, .inl (failed_error _)⟩

/-- A change of a unit file is all or nothing exactly when the manager does
not refuse it over an owned unit that the validator no longer accepts. -/
theorem allOrNothing_iff (fl : Message → String) (text : IoErrorKind → String)
    (uuid : UuidParser) (processId : Nat) (change : UnitChange) (d : Directory)
    (results : ManagerResults)
    (htemporary : d ((FileUnitStore.user uuid processId).temporary change.name.fileName) = none) :
    change.AllOrNothing d ((change.program fl).eval
      (UnitController.handler (.user uuid processId) text) (d, results)) ↔
      ¬Stuck uuid d results change := by
  cases change with
  | install document => exact install_iff htemporary
  | remove name => exact remove_iff htemporary

theorem allOrNothing_iff_sample :
    (install sampleTimer).AllOrNothing (fun _ ↦ none)
      (((install sampleTimer).program Message.key).eval
        (UnitController.handler (.user .displayed 1) fun _ ↦ "")
        (fun _ ↦ none, fun _ ↦ .error (.runtime ⟨"refused", []⟩))) :=
  (allOrNothing_iff Message.key (fun _ ↦ "") .displayed 1 (install sampleTimer) (fun _ ↦ none)
    (fun _ ↦ .error (.runtime ⟨"refused", []⟩)) rfl).mpr fun h ↦ by
      obtain ⟨-, ⟨_, hcontent, -⟩, -⟩ := h
      cases hcontent

end UnitChange

end CosmicMounter

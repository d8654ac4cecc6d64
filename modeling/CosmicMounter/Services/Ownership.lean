import CosmicMounter.Interaction.Threads
import CosmicMounter.Services.Controller

/-!
# Foreign unit files

A unit file is foreign to a unit when its text does not claim the unit's own
connection.  No operation of the store changes a foreign file, so no run of
the controller's operations does, however they are interleaved.
-/

namespace CosmicMounter

open Rust Interaction

/-- There is something under the name of the unit that its connection does not own. -/
def Foreign (uuid : UuidParser) (name : UnitName) : Option Entry → Prop
  | none | some (.link none) => False
  | some (.file text) | some (.link (some text)) =>
      ∀ content, text = some content →
        parseOwnedConnection uuid content ≠ some name.connectionId
  | some .directory => True

/-! ## Names -/

theorem UnitName.fileName_toList (name : UnitName) : name.fileName.toList =
    unitPrefix.toList ++ (name.connectionId.text.toList ++
      ("." ++ name.kind.extension).toList) := by
  simp only [UnitName.fileName, String.toList_append, List.append_assoc]

theorem UnitName.fileName_injective {name name' : UnitName}
    (h : name.fileName = name'.fileName) : name = name' := by
  rw [← String.toList_inj, fileName_toList, fileName_toList] at h
  obtain ⟨hid, hkind⟩ := List.append_inj (List.append_cancel_left h)
    (by rw [Uuid.length_text, Uuid.length_text])
  obtain ⟨id, kind⟩ := name
  obtain ⟨id', kind'⟩ := name'
  obtain rfl : id = id' := Uuid.ext (String.toList_inj.mp hid)
  have hext : ∀ kind kind' : UnitKind,
      ("." ++ kind.extension).toList = ("." ++ kind'.extension).toList → kind = kind' := by
    intro kind kind' h
    cases kind <;> cases kind' <;> first | rfl | exact absurd h (by decide)
  rw [hext kind kind' hkind]

/-- Temporary names are hidden, so none is the name of a unit. -/
theorem FileUnitStore.temporary_ne_fileName (store : FileUnitStore) (file : String)
    (name : UnitName) : store.temporary file ≠ name.fileName := by
  intro h
  have hlists := congrArg String.toList h
  rw [UnitName.fileName_toList, FileUnitStore.temporary, String.toList_append,
    String.toList_append, String.toList_append] at hlists
  have hheads : '.' = 'c' := (List.cons.inj hlists).1
  exact absurd hheads (by decide)

namespace FileUnitStore

variable (store : FileUnitStore)

/-- The directory under failing file system calls, with every call allowed. -/
def directory : Contract DirectoryRequest.Answer Directory := ⟨directoryWorld, fun _ _ ↦ True⟩

/-- What is under the unit's name after an operation that leaves foreign files alone. -/
def KeepsForeign (name : UnitName) (d d' : Directory) : Prop :=
  (∀ other : UnitName, other ≠ name → d' other.fileName = d other.fileName) ∧
    (Foreign store.uuid name (d name.fileName) → d' name.fileName = d name.fileName)

theorem KeepsForeign.refl (name : UnitName) (d : Directory) : store.KeepsForeign name d d :=
  ⟨fun _ _ ↦ rfl, fun _ ↦ rfl⟩

theorem KeepsForeign.unchanged {name other : UnitName} {d d' : Directory}
    (h : store.KeepsForeign name d d') (hforeign : Foreign store.uuid other (d other.fileName)) :
    d' other.fileName = d other.fileName := by
  by_cases hother : other = name
  · subst hother
    exact h.2 hforeign
  · exact h.1 other hother

/-! ## The operations of the store -/

theorem stateOf_foreign {name : UnitName} {entry : Option Entry} {answer : Except IoError String}
    (hforeign : Foreign store.uuid name entry)
    (hanswer : Fails answer ∨ Entry.Shows entry answer) :
    store.stateOf answer ≠ .ok .missing ∧
      store.stateOf answer ≠ .ok (.managed name.connectionId) := by
  rcases hanswer with ⟨e, rfl, he⟩ | hshows
  · simp [stateOf, he]
  · have hfile : ∀ text : Option String,
        (∀ content, text = some content →
          parseOwnedConnection store.uuid content ≠ some name.connectionId) →
        Reads text answer → store.stateOf answer ≠ .ok .missing ∧
          store.stateOf answer ≠ .ok (.managed name.connectionId) := by
      intro text hcontent hreads
      cases text with
      | none =>
          obtain ⟨e, rfl, he⟩ := hreads
          simp [stateOf, he]
      | some content =>
          obtain rfl := hreads
          have := hcontent content rfl
          cases howner : parseOwnedConnection store.uuid content <;>
            simp_all [stateOf]
    match entry with
    | none => exact hforeign.elim
    | some (.link none) => exact hforeign.elim
    | some (.file text) => exact hfile text hforeign hshows
    | some (.link (some text)) => exact hfile text hforeign hshows
    | some .directory =>
        obtain ⟨e, rfl, he⟩ := hshows
        simp [stateOf, he]

theorem state_spec (name : UnitName) (d : Directory) :
    (store.state name).run.wp directory (fun r d' ↦ d' = d ∧
      (Foreign store.uuid name (d name.fileName) →
        r ≠ .ok .missing ∧ r ≠ .ok (.managed name.connectionId))) d := by
  refine ⟨trivial, ?_⟩
  rintro answer d' ⟨rfl, hanswer⟩
  exact ⟨rfl, fun hforeign ↦ store.stateOf_foreign hforeign hanswer⟩

theorem read_spec (name : UnitName) (d : Directory) :
    (read name).run.wp directory (fun _ d' ↦ d' = d) d := by
  refine ⟨trivial, ?_⟩
  rintro answer d' ⟨rfl, -⟩
  match answer with
  | .ok false => rfl
  | .error e => rfl
  | .ok true =>
      refine ⟨trivial, ?_⟩
      rintro answer' d'' ⟨rfl, -⟩
      cases answer' <;> rfl

/-- Staging changes the target and the temporary name only, and the target only
by putting the new text there. -/
theorem stage_spec (file content : String) (d : Directory) :
    (store.stage file content).wp directory (fun r d' ↦
      (∀ other, other ≠ file → other ≠ store.temporary file → d' other = d other) ∧
        (r = .ok () → d' file = some (.file (some content)))) d := by
  refine ⟨trivial, ?_⟩
  intro created d₁ hcreated
  cases created with
  | error e =>
      refine ⟨?_, nofun⟩
      intro other _ htemporary
      rcases hcreated with rfl | ⟨-, text, rfl⟩
      · rfl
      · exact Function.update_of_ne htemporary _ _
  | ok _ =>
      obtain ⟨-, rfl⟩ := hcreated
      refine ⟨trivial, ?_⟩
      intro moved d₂ hmoved
      cases moved with
      | error e =>
          obtain rfl := hmoved
          exact ⟨fun other _ htemporary ↦ Function.update_of_ne htemporary _ _, nofun⟩
      | ok _ =>
          obtain ⟨entry, hentry, rfl⟩ := hmoved
          obtain rfl : .file (some content) = entry := by simpa using hentry
          refine ⟨?_, fun _ ↦ Function.update_self _ _ _⟩
          intro other hfile htemporary
          simp [Function.update_of_ne hfile, Function.update_of_ne htemporary]

theorem writeRaw_spec (file content : String) (d : Directory) :
    (store.writeRaw file content).run.wp directory (fun r d' ↦
      (∀ other, other ≠ file → other ≠ store.temporary file → d' other = d other) ∧
        (r = .ok () → d' file = some (.file (some content)))) d := by
  refine ⟨trivial, ?_⟩
  rintro answer d₀ rfl
  cases answer with
  | error e => exact ⟨fun _ _ _ ↦ rfl, nofun⟩
  | ok _ =>
      change (store.stage file content >>= _).wp directory _ d₀
      rw [Program.wp_bind]
      refine Program.wp_mono ?_ (store.stage_spec file content d₀)
      rintro result d₁ ⟨hothers, htarget⟩
      cases result with
      | ok _ => exact ⟨hothers, fun _ ↦ htarget rfl⟩
      | error e =>
          refine ⟨trivial, ?_⟩
          intro removed d₂ hremoved
          refine ⟨?_, nofun⟩
          intro other hother htemporary
          rw [← hothers other hother htemporary]
          cases removed with
          | ok _ => exact hremoved.2 ▸ Function.update_of_ne htemporary _ _
          | error _ => exact congrFun hremoved other

theorem keepsForeign_of_raw {name : UnitName} {d d' : Directory}
    (hstate : ¬Foreign store.uuid name (d name.fileName))
    (hothers : ∀ other, other ≠ name.fileName → other ≠ store.temporary name.fileName →
      d' other = d other) : store.KeepsForeign name d d' := by
  refine ⟨?_, fun hforeign ↦ absurd hforeign hstate⟩
  intro other hother
  exact hothers _ (fun h ↦ hother (UnitName.fileName_injective h))
    (store.temporary_ne_fileName _ other).symm

theorem write_spec (document : UnitDocument) (d : Directory) :
    (store.write document).run.wp directory (fun r d' ↦
      store.KeepsForeign document.name d d' ∧
        (r = .ok () → store.validator document = .ok () ∧
          d' document.name.fileName = some (.file (some document.content)))) d := by
  rw [write, Program.wp_run_bind]
  cases hvalid : store.validator document with
  | error e => exact ⟨.refl store _ _, nofun⟩
  | ok _ =>
      change ((store.state document.name >>= _).run).wp directory _ d
      rw [Program.wp_run_bind]
      refine Program.wp_mono ?_ (store.state_spec document.name d)
      rintro state d' ⟨rfl, hforeign⟩
      have hraw (hstate : ¬Foreign store.uuid document.name (d' document.name.fileName)) :
          (store.writeRaw document.name.fileName document.content).run.wp directory (fun r d'' ↦
            store.KeepsForeign document.name d' d'' ∧
              (r = .ok () → Except.ok (ε := ServiceError) () = .ok () ∧
                d'' document.name.fileName = some (.file (some document.content)))) d' := by
        refine Program.wp_mono ?_ (store.writeRaw_spec _ document.content d')
        rintro r d'' ⟨hothers, htarget⟩
        exact ⟨store.keepsForeign_of_raw hstate hothers, fun hr ↦ ⟨rfl, htarget hr⟩⟩
      match state with
      | .error e => exact ⟨.refl store _ _, nofun⟩
      | .ok .external => exact ⟨.refl store _ _, nofun⟩
      | .ok .missing => exact hraw fun h ↦ (hforeign h).1 rfl
      | .ok (.managed id) =>
          by_cases hid : id = document.name.connectionId
          · subst hid
            simpa using hraw fun h ↦ (hforeign h).2 rfl
          · simpa [hid] using KeepsForeign.refl store document.name d'

theorem remove_spec (name : UnitName) (d : Directory) :
    (store.remove name).run.wp directory (fun _ d' ↦ store.KeepsForeign name d d') d := by
  rw [remove, Program.wp_run_bind]
  refine Program.wp_mono ?_ (store.state_spec name d)
  rintro state d' ⟨rfl, hforeign⟩
  match state with
  | .error e => exact .refl store _ _
  | .ok .external => exact .refl store _ _
  | .ok .missing => exact .refl store _ _
  | .ok (.managed id) =>
      by_cases hid : id = name.connectionId
      · subst hid
        have hown := fun h ↦ (hforeign h).2 rfl
        simp only [Program.andThen_ok, if_true]
        refine ⟨trivial, ?_⟩
        intro removed d'' hremoved
        refine store.keepsForeign_of_raw hown fun other hother _ ↦ ?_
        cases removed with
        | ok _ => exact hremoved.2 ▸ Function.update_of_ne hother _ _
        | error _ => exact congrFun hremoved other
      · simpa [hid] using KeepsForeign.refl store name d'

/-! ## The operations of the controller -/

/-- The store's operation behind each request of the controller. -/
def serve : (request : UnitRequest) → Program DirectoryRequest.Answer request.Answer
  | .state name => (store.state name).run
  | .read name => (read name).run
  | .write document => (store.write document).run
  | .remove name => (store.remove name).run

/-- A store request is served as a whole, within a world of file system calls. -/
def served (files : World DirectoryRequest.Answer Directory) :
    World UnitRequest.Answer Directory :=
  fun d request answer d' ↦ ∃ tr, Exec files (store.serve request) d tr (.done answer) d'

/-- The world of the controller: the store on the directory, and a systemd
manager and a cancellation token that may answer anything. -/
def controllerWorld : World ControllerRequest.Answer Directory
  | d, .store request, answer, d' => store.served directoryWorld d request answer d'
  | d, .action _ _, _, d' => d' = d
  | d, .isCancelled, _, d' => d' = d

theorem controllerWorld_keeps {d d' : Directory} {request : ControllerRequest}
    {answer : request.Answer} (h : store.controllerWorld d request answer d') {name : UnitName}
    (hforeign : Foreign store.uuid name (d name.fileName)) : d' name.fileName = d name.fileName := by
  match request with
  | .action _ _ => exact congrFun h _
  | .isCancelled => exact congrFun h _
  | .store request =>
      obtain ⟨tr, hexec⟩ := h
      match request with
      | .state other =>
          exact congrFun (Program.wp_exec (store.state_spec other d) hexec).1.1 _
      | .read other => exact congrFun (Program.wp_exec (read_spec other d) hexec).1 _
      | .write document =>
          exact (Program.wp_exec (store.write_spec document d) hexec).1.1.unchanged store hforeign
      | .remove other =>
          exact (Program.wp_exec (store.remove_spec other d) hexec).1.unchanged store hforeign

end FileUnitStore

/-- A call on the store or on the controller. -/
inductive UnitCall
  | write (document : UnitDocument)
  | removeFile (name : UnitName)
  | install (document : UnitDocument)
  | remove (name : UnitName)
  | retireLegacyMirror (id : ConnectionId)

def UnitCall.program (fl : Message → String) :
    UnitCall → Program ControllerRequest.Answer (Except ServiceError Unit)
  | write document => (UnitController.write document).run
  | removeFile name => (UnitController.removeFile name).run
  | install document => (UnitController.install fl document).run
  | remove name => (UnitController.remove name).run
  | retireLegacyMirror id => (UnitController.retireLegacyMirror id).run

/-- Any number of calls, each started at any time and interleaved at their
awaits; a call may also be dropped at any await. -/
def unitCalls (fl : Message → String) (store : FileUnitStore) :
    Threads Nat ControllerRequest.Answer Directory (Except ServiceError Unit) where
  starts _ d p d' := d' = d ∧ ∃ call : UnitCall, p = call.program fl
  world _ := store.controllerWorld
  leaves _ _ d d' := d' = d

theorem foreign_units_are_kept (fl : Message → String) (uuid : UuidParser) (processId : Nat)
    {d₀ d : Directory} {pool : Pool Nat ControllerRequest.Answer (Except ServiceError Unit)}
    {tr : List (Event Nat ControllerRequest.Answer Directory)}
    (hrun : (unitCalls fl (.user uuid processId)).Run d₀ d pool tr) :
    (∀ name, Foreign uuid name (d₀ name.fileName) → d name.fileName = d₀ name.fileName) ∧
      ∀ thread before document after,
        ⟨thread, before, .store (.write document), .ok (), after⟩ ∈ tr →
          StructuralUnitValidator.validate document = .ok () ∧
          after document.name.fileName = some (.file (some document.content)) ∧
          parseOwnedConnection uuid document.content = some document.name.connectionId := by
  constructor
  · intro name hforeign
    refine hrun.related (fun d₀ d ↦ Foreign uuid name (d₀ name.fileName) →
      d name.fileName = d₀ name.fileName) (fun _ ↦ rfl) ?_ ?_ ?_ hforeign
    · rintro _ s _ _ hs ⟨rfl, -⟩
      exact hs
    · intro _ s _ _ s' hs hworld hforeign
      rw [← hs hforeign]
      exact FileUnitStore.controllerWorld_keeps _ hworld (by rwa [hs hforeign])
    · rintro _ _ s _ hs rfl
      exact hs
  · intro thread before document after hevent
    obtain ⟨_, hexec⟩ := hrun.event_world hevent
    obtain ⟨-, hok⟩ := (Program.wp_exec
      (FileUnitStore.write_spec (.user uuid processId) document before) hexec).1
    obtain ⟨hvalid, hfile⟩ := hok rfl
    exact ⟨hvalid, hfile, StructuralUnitValidator.owned_of_validate uuid hvalid⟩

/-- A service of someone else under the name of the sample connection's service. -/
def sampleForeign : Directory := fun file ↦
  if file = UnitName.fileName ⟨sampleId, .service⟩ then some (.file (some "[Service]\n")) else none

theorem foreign_units_are_kept_sample :
    (((FileUnitStore.user .displayed 1).write StructuralUnitValidator.sampleTimer).run.eval
        (workingFiles fun _ ↦ "") sampleForeign).2 (UnitName.fileName ⟨sampleId, .service⟩) =
      sampleForeign (UnitName.fileName ⟨sampleId, .service⟩) := by
  have hwrite := Program.exec_eval (workingFiles fun _ ↦ "") (workingFiles_behaves fun _ ↦ "")
    ((FileUnitStore.user .displayed 1).write StructuralUnitValidator.sampleTimer).run sampleForeign
  refine (foreign_units_are_kept Message.key .displayed 1
    (.ask (t := 0) (.start .init rfl ⟨rfl, .write StructuralUnitValidator.sampleTimer, rfl⟩)
      (Function.update_self ..) hwrite)).1 _ ?_
  rw [sampleForeign, if_pos rfl]
  rintro content ⟨⟩
  decide +kernel

end CosmicMounter

import CosmicMounter.Interaction.Handler
import CosmicMounter.Interaction.History
import CosmicMounter.Services.Lifecycle
import CosmicMounter.Services.Retirement

/-!
# What the lifecycle of a mirror's units promises

Installing and pausing start nothing, and resuming starts the timer or leaves it
stopped.  The two unit files change together unless an owned file has to be put
back that the validator would not accept today.
-/

namespace CosmicMounter.Lifecycle

open Rust Interaction StructuralUnitValidator UnitController

/-! ## Units -/

structure Observed where
  active : ActiveState
  enabled : Bool
  deriving DecidableEq, Repr

abbrev Files := UnitName → Option String

/-- The unit files, and what the manager knows of the units. -/
structure Units where
  files : Files
  observed : UnitName → Observed

/-- There is no such unit, or the connection owns it. -/
def IsOwn (uuid : UuidParser) (name : UnitName) (content : Option String) : Prop :=
  ∀ text, content = some text → parseOwnedConnection uuid text = some name.connectionId

/-- An owned unit that the validator would refuse to write back. -/
def IsObsolete (uuid : UuidParser) (name : UnitName) (content : Option String) : Prop :=
  ∃ text, content = some text ∧ parseOwnedConnection uuid text = some name.connectionId ∧
    validate ⟨name, text⟩ ≠ .ok ()

theorem IsObsolete.isOwn {uuid : UuidParser} {name : UnitName} {content : Option String}
    (h : IsObsolete uuid name content) : IsOwn uuid name content := by
  obtain ⟨text, rfl, howner, -⟩ := h
  intro other hother
  rwa [← Option.some.inj hother]

section Store

variable (uuid : UuidParser)

/-- The store, on a file system that does what it is asked. -/
def storeStep (files : Files) : (request : UnitRequest) → request.Answer × Files
  | .state name => (.ok (fileState uuid (files name)), files)
  | .read name => (.ok (files name), files)
  | .write document =>
      match validate document with
      | .error e => (.error e, files)
      | .ok () =>
          if fileState uuid (files document.name) = .missing ∨
              fileState uuid (files document.name) = .managed document.name.connectionId then
            (.ok (), Function.update files document.name (some document.content))
          else (.error (.ownershipMismatch document.name.fileName), files)
  | .remove name =>
      if fileState uuid (files name) = .missing then (.ok (), files)
      else if fileState uuid (files name) = .managed name.connectionId then
        (.ok (), Function.update files name none)
      else (.error (.ownershipMismatch name.fileName), files)

theorem isOwn_iff (name : UnitName) (content : Option String) :
    IsOwn uuid name content ↔
      fileState uuid content = .missing ∨ fileState uuid content = .managed name.connectionId := by
  cases content with
  | none => simp [IsOwn, fileState]
  | some text =>
      cases howner : parseOwnedConnection uuid text <;> simp [IsOwn, fileState, howner]

end Store

/-! ## The manager -/

/-- What an action does to the unit it names. -/
def Changes : SystemdAction → Observed → Observed → Prop
  | .enable, before, after => after = { before with enabled := true }
  | .disable, before, after => after = { before with enabled := false }
  | .start, before, after | .restart, before, after => after.enabled = before.enabled
  | .stop, before, after => after.enabled = before.enabled ∧ (after.active = .inactive ∨ after.active = .failed)
  | .resetFailed, before, after =>
      after = { before with active := if before.active = .failed then .inactive else before.active }
  | .daemonReload, before, after | .validateLoaded, before, after | .validateRetirementLoaded, before, after
  | .status, before, after => after = before

def TakesEffect (action : SystemdAction) (unit : Option UnitName) (before after : UnitName → Observed) : Prop :=
  ∀ name, if unit = some name then Changes action (before name) (after name) else after name = before name

/-- An action may fail before or after taking effect, and a status is true. -/
structure ManagerStep (action : SystemdAction) (unit : Option UnitName)
    (r : Except ServiceError (Option UnitStatus)) (s s' : Units) : Prop where
  files : s'.files = s.files
  observed : TakesEffect action unit s.observed s'.observed ∨ (∃ e, r = .error e) ∧ s'.observed = s.observed
  truthful : action = .status → ∀ name status, unit = some name → r = .ok (some status) →
    status.active = (s.observed name).active ∧ status.enabled = (s.observed name).enabled

/-- Nobody else changes the units. -/
def lifecycleWorld (uuid : UuidParser) : World ControllerRequest.Answer Units
  | s, .store request, r, s' =>
      r = (storeStep uuid s.files request).1 ∧ s' = { s with files := (storeStep uuid s.files request).2 }
  | s, .action action unit, r, s' => ManagerStep action unit r s s'
  | s, .isCancelled, _, s' => s' = s

/-- The request may start a unit, now or at the next login. -/
def Starts (q : ControllerRequest) : Prop :=
  ∃ action ∈ [SystemdAction.enable, .start, .restart], ∃ unit, q = .action action unit

def quietly (uuid : UuidParser) : Contract ControllerRequest.Answer Units :=
  ⟨lifecycleWorld uuid, fun _ q ↦ ¬Starts q⟩

variable {uuid : UuidParser} {fl : Message → String} {s : Units} {name : UnitName} {document : UnitDocument}

theorem not_starts_store (request : UnitRequest) : ¬Starts (.store request) := by
  rintro ⟨action, -, unit, h⟩
  cases h

theorem not_starts_action {action : SystemdAction} (unit : Option UnitName)
    (h : action ∉ [SystemdAction.enable, .start, .restart]) : ¬Starts (.action action unit) := by
  rintro ⟨other, hother, unit', heq⟩
  cases heq
  exact h hother

/-! ## Single steps -/

theorem wp_store {request : UnitRequest} {post : request.Answer → Units → Prop} :
    (Program.request (R := ControllerRequest.Answer) (.store request)).wp (quietly uuid) post s ↔
      post (storeStep uuid s.files request).1 { s with files := (storeStep uuid s.files request).2 } := by
  constructor
  · intro h
    exact h.2 _ _ ⟨rfl, rfl⟩
  · intro h
    refine ⟨not_starts_store request, ?_⟩
    rintro r s' ⟨rfl, rfl⟩
    exact h

theorem wp_action {action : SystemdAction} {unit : Option UnitName}
    {post : Except ServiceError (Option UnitStatus) → Units → Prop}
    (haction : action ∉ [SystemdAction.enable, .start, .restart])
    (h : ∀ r s', ManagerStep action unit r s s' → post r s') :
    (UnitController.action action unit).run.wp (quietly uuid) post s :=
  ⟨not_starts_action unit haction, h⟩

/-- An action that only tells the manager about files leaves the units as they are. -/
theorem ManagerStep.same {action : SystemdAction} {unit : Option UnitName} {s' : Units}
    {r : Except ServiceError (Option UnitStatus)} (h : ManagerStep action unit r s s')
    (haction : action = .daemonReload ∨ action = .validateLoaded ∨ action = .status) : s' = s := by
  have hobserved : s'.observed = s.observed := by
    rcases h.observed with heffect | ⟨-, hsame⟩
    · funext other
      have hother := heffect other
      split_ifs at hother
      · rcases haction with rfl | rfl | rfl <;> exact hother
      · exact hother
    · exact hsame
  cases s'
  cases s
  cases h.files
  cases hobserved
  rfl

/-- The other units are left alone. -/
theorem ManagerStep.frame {action : SystemdAction} {s' : Units} {r : Except ServiceError (Option UnitStatus)}
    (h : ManagerStep action (some name) r s s') {other : UnitName} (hother : other ≠ name) :
    s'.observed other = s.observed other := by
  rcases h.observed with heffect | ⟨-, hsame⟩
  · have hframe := heffect other
    rwa [if_neg fun heq ↦ hother (Option.some.inj heq).symm] at hframe
  · rw [hsame]

theorem ManagerStep.changes {action : SystemdAction} {s' : Units} {status : Option UnitStatus}
    (h : ManagerStep action (some name) (.ok status) s s') :
    Changes action (s.observed name) (s'.observed name) := by
  rcases h.observed with heffect | ⟨⟨e, he⟩, -⟩
  · have hchanges := heffect name
    rwa [if_pos rfl] at hchanges
  · cases he

theorem wp_unitStep {S α : Type} {C : Contract ControllerRequest.Answer S} {step : UnitController.Call α}
    {post : Except Failure α → S → Prop} {s : S} :
    (unitStep step).run.wp C post s ↔ step.run.wp C (fun r ↦ post (r.mapError .service)) s := by
  rw [unitStep, Program.run_reporting, Program.wp_bind]
  rfl

/-- A step whose failure is handled. -/
theorem wp_attempt {S α β : Type} {C : Contract ControllerRequest.Answer S} {step : UnitController.Call α}
    {f : Except Failure α → Call β} {post : Except Failure β → S → Prop} {s : S} :
    (Program.attempt (unitStep step) >>= f).run.wp C post s ↔
      step.run.wp C (fun r ↦ (f (r.mapError .service)).run.wp C post) s := by
  rw [Program.wp_run_bind, Program.run_attempt, Program.wp_bind, wp_unitStep]
  rfl

theorem wp_offlineRepairAction {action : SystemdAction} {stage : Message}
    {post : Except Failure (Option UnitStatus) → Units → Prop}
    (haction : action ∉ [SystemdAction.enable, .start, .restart])
    (h : ∀ r s', ManagerStep action (some name) r s s' → post (r.mapError (.staged stage)) s') :
    (offlineRepairAction action name stage).run.wp (quietly uuid) post s := by
  rw [offlineRepairAction, Program.run_reporting, Program.wp_bind]
  exact wp_action haction h

theorem wp_offlineRepairStatus {stage : Message} :
    (offlineRepairStatus fl name stage).run.wp (quietly uuid) (fun r s' ↦ s' = s ∧
      ∀ status, r = .ok status →
        status.active = (s.observed name).active ∧ status.enabled = (s.observed name).enabled) s := by
  rw [offlineRepairStatus, Program.wp_run_bind]
  refine wp_offlineRepairAction (by decide) fun r s' hstep ↦ ?_
  have hsame := hstep.same (.inr (.inr rfl))
  match r with
  | .error e => exact ⟨hsame, nofun⟩
  | .ok none => exact ⟨hsame, nofun⟩
  | .ok (some status) =>
      refine ⟨hsame, fun status' hstatus ↦ ?_⟩
      obtain rfl := Except.ok.inj hstatus
      exact hstep.truthful rfl name _ rfl rfl

theorem requireRepairedUnit_eq_ok {status : UnitStatus} {role : String}
    (h : requireRepairedUnit status role true = .ok ()) : status.active = .inactive ∧ status.enabled = false := by
  unfold requireRepairedUnit at h
  split_ifs at h with hactive henabled
  exact ⟨not_not.mp hactive, by simpa using henabled⟩

/-! ## The trigger -/

/-- What is known after actions on this unit alone. -/
structure OnlyUnit (name : UnitName) (s s' : Units) : Prop where
  files : s'.files = s.files
  others : ∀ other, other ≠ name → s'.observed other = s.observed other

theorem OnlyUnit.trans {s' s'' : Units} (h : OnlyUnit name s s') (h' : OnlyUnit name s' s'') : OnlyUnit name s s'' :=
  ⟨h'.files.trans h.files, fun other hother ↦ (h'.others other hother).trans (h.others other hother)⟩

theorem ManagerStep.onlyUnit {action : SystemdAction} {s' : Units} {r : Except ServiceError (Option UnitStatus)}
    (h : ManagerStep action (some name) r s s') : OnlyUnit name s s' := ⟨h.files, fun _ ↦ h.frame⟩

theorem wp_pauseTimer : (pauseTimer fl name).run.wp (quietly uuid)
    (fun r s' ↦ OnlyUnit name s s' ∧ (r = .ok () → s'.observed name = ⟨.inactive, false⟩)) s := by
  rw [pauseTimer, Program.wp_run_bind]
  refine wp_offlineRepairAction (by decide) fun r s₁ hstop ↦ ?_
  have h₁ := hstop.onlyUnit
  cases r with
  | error e => exact ⟨h₁, nofun⟩
  | ok stopped =>
      rw [Except.mapError, Program.andThen_ok, Program.wp_run_bind]
      refine wp_offlineRepairAction (by decide) fun r s₂ hdisable ↦ ?_
      have h₂ := h₁.trans hdisable.onlyUnit
      cases r with
      | error e => exact ⟨h₂, nofun⟩
      | ok disabled =>
          rw [Except.mapError, Program.andThen_ok, Program.wp_run_bind]
          refine Program.wp_mono ?_ wp_offlineRepairStatus
          rintro r s₃ ⟨rfl, hstatus⟩
          cases r with
          | error e => exact ⟨h₂, nofun⟩
          | ok status =>
              obtain ⟨hactive, henabled⟩ := hstatus status rfl
              refine ⟨h₂, fun hok ↦ ?_⟩
              obtain ⟨hinactive, hoff⟩ := requireRepairedUnit_eq_ok hok
              rw [← hactive.symm.trans hinactive, ← henabled.symm.trans hoff]

theorem wp_pauseTrigger {service : UnitName} :
    (pauseOfflineRepairTrigger fl ⟨service, some name⟩).run.wp (quietly uuid)
      (fun r s' ↦ OnlyUnit name s s' ∧ (r = .ok () → s'.observed name = ⟨.inactive, false⟩)) s := wp_pauseTimer

/-! ## The controller -/

theorem wp_load : (UnitController.load name).run.wp (quietly uuid) (fun _ s' ↦ s' = s) s := by
  rw [UnitController.load, Program.wp_run_bind]
  refine wp_action (by decide) fun r s₁ hreload ↦ ?_
  obtain rfl := hreload.same (.inl rfl)
  cases r with
  | error e => rfl
  | ok status =>
      rw [Program.andThen_ok, Program.wp_run_bind]
      refine wp_action (by decide) fun r s₂ hload ↦ ?_
      obtain rfl := hload.same (.inr (.inl rfl))
      cases r <;> rfl

/-- What putting a file back makes of the files. -/
def restored (uuid : UuidParser) (name : UnitName) (previous : Option String) (files : Files) : Files :=
  match previous with
  | some content => (storeStep uuid files (.write ⟨name, content⟩)).2
  | none => (storeStep uuid files (.remove name)).2

theorem wp_restore {previous : Option String} : (restore name previous).run.wp (quietly uuid)
    (fun _ s' ↦ s' = { s with files := restored uuid name previous s.files }) s := by
  cases previous with
  | none => exact wp_store.mpr rfl
  | some content => exact wp_store.mpr rfl

theorem wp_rollBack {previous : Option String} {error : ServiceError} :
    (rollBack fl name previous error).run.wp (quietly uuid)
      (fun r s' ↦ (∃ e, r = .error e) ∧ s' = { s with files := restored uuid name previous s.files }) s := by
  rw [rollBack, Program.wp_run_bind]
  refine Program.wp_mono ?_ wp_restore
  rintro r s₁ rfl
  cases r with
  | error e => exact ⟨⟨e, rfl⟩, rfl⟩
  | ok done =>
      rw [Program.andThen_ok, Program.wp_run_bind, Program.run_attempt, Program.wp_bind]
      refine wp_action (by decide) fun r s₂ hreload ↦ ?_
      obtain rfl := hreload.same (.inl rfl)
      cases r with
      | error e => exact ⟨⟨_, rfl⟩, rfl⟩
      | ok status => exact ⟨⟨error, rfl⟩, rfl⟩

/-- An installation happened, or the files are as they were, or an obsolete unit was not put back. -/
inductive Installs (uuid : UuidParser) (document : UnitDocument) (files : Files) : Except ServiceError Unit → Files → Prop
  | installed (hvalid : validate document = .ok ()) (hown : IsOwn uuid document.name (files document.name)) :
      Installs uuid document files (.ok ()) (Function.update files document.name (some document.content))
  | unchanged (e : ServiceError) : Installs uuid document files (.error e) files
  | stuck (e : ServiceError) (hvalid : validate document = .ok ())
      (hobsolete : IsObsolete uuid document.name (files document.name)) :
      Installs uuid document files (.error e) (Function.update files document.name (some document.content))

/-- A file that the validator accepts is put back over the new one. -/
theorem restored_eq {files : Files} (hvalid : validate document = .ok ())
    (hkept : ∀ content, files document.name = some content → validate ⟨document.name, content⟩ = .ok ()) :
    restored uuid document.name (files document.name)
      (Function.update files document.name (some document.content)) = files := by
  have hnew : fileState uuid (Function.update files document.name (some document.content) document.name) =
      .managed document.name.connectionId := by
    rw [Function.update_self, fileState, owned_of_validate uuid hvalid]
  cases hfile : files document.name with
  | none =>
      rw [restored, storeStep, hnew, if_neg nofun, if_pos rfl]
      simp [← hfile]
  | some content =>
      rw [restored, storeStep]
      dsimp only
      rw [hkept content hfile]
      dsimp only
      rw [hnew, if_pos (.inr rfl)]
      simp [← hfile]

theorem wp_loadOrRollBack {files : Files} (hvalid : validate document = .ok ())
    (hown : IsOwn uuid document.name (files document.name))
    (hs : s.files = Function.update files document.name (some document.content)) :
    (loadOrRollBack fl document.name (files document.name)).run.wp (quietly uuid)
      (fun r s' ↦ s'.observed = s.observed ∧ Installs uuid document files r s'.files) s := by
  rw [loadOrRollBack, Program.wp_run_bind, Program.run_attempt, Program.wp_bind]
  refine Program.wp_mono ?_ wp_load
  rintro r s₁ rfl
  cases r with
  | ok done => exact ⟨rfl, hs ▸ .installed hvalid hown⟩
  | error error =>
      change (rollBack fl document.name (files document.name) error).run.wp (quietly uuid) _ s₁
      refine Program.wp_mono ?_ wp_rollBack
      rintro r s₂ ⟨⟨e, rfl⟩, rfl⟩
      refine ⟨rfl, ?_⟩
      dsimp only
      rw [hs]
      by_cases hkept : ∀ content, files document.name = some content → validate ⟨document.name, content⟩ = .ok ()
      · rw [restored_eq hvalid hkept]
        exact .unchanged e
      · push Not at hkept
        obtain ⟨content, hfile, hrefused⟩ := hkept
        have hrestored : restored uuid document.name (files document.name)
            (Function.update files document.name (some document.content)) =
              Function.update files document.name (some document.content) := by
          rw [hfile, restored, storeStep]
          cases hcontent : validate ⟨document.name, content⟩ with
          | ok done => exact absurd hcontent hrefused
          | error e => rfl
        rw [hrestored]
        exact .stuck e hvalid ⟨content, hfile, hown content hfile, hrefused⟩

theorem wp_install : (install fl document).run.wp (quietly uuid)
    (fun r s' ↦ s'.observed = s.observed ∧ Installs uuid document s.files r s'.files) s := by
  rw [install, Program.wp_run_bind]
  refine wp_store.mpr ?_
  change (write document >>= _ : UnitController.Call Unit).run.wp _ _ s
  rw [Program.wp_run_bind]
  refine wp_store.mpr ?_
  rw [storeStep]
  cases hvalid : validate document with
  | error e => exact ⟨rfl, .unchanged e⟩
  | ok done =>
      dsimp only
      by_cases hown : IsOwn uuid document.name (s.files document.name)
      · rw [if_pos ((isOwn_iff uuid _ _).mp hown)]
        exact wp_loadOrRollBack hvalid hown rfl
      · rw [if_neg (mt (isOwn_iff uuid _ _).mpr hown)]
        exact ⟨rfl, .unchanged _⟩

/-- A file that was just installed is removed again, or is still there. -/
theorem wp_remove {content : String} (hvalid : validate ⟨name, content⟩ = .ok ())
    (hfile : s.files name = some content) :
    (UnitController.remove name).run.wp (quietly uuid) (fun r s' ↦ s'.observed = s.observed ∧
      (r = .ok () → s'.files = Function.update s.files name none)) s := by
  rw [UnitController.remove, Program.wp_run_bind]
  refine wp_store.mpr ?_
  change (removeFile name >>= _ : UnitController.Call Unit).run.wp _ _ s
  rw [Program.wp_run_bind]
  refine wp_store.mpr ?_
  have howned : fileState uuid (s.files name) = .managed name.connectionId := by
    rw [hfile, fileState, owned_of_validate uuid hvalid]
  rw [storeStep, howned, if_neg nofun, if_pos rfl]
  dsimp only
  rw [Program.andThen_ok, reloadOrRestore, Program.wp_run_bind, Program.run_attempt, Program.wp_bind]
  refine wp_action (by decide) fun r s₁ hreload ↦ ?_
  obtain rfl := hreload.same (.inl rfl)
  cases r with
  | ok status => exact ⟨rfl, fun _ ↦ rfl⟩
  | error error =>
      change (restoreRemoved name (s.files name) error).run.wp (quietly uuid) _ _
      rw [restoreRemoved, hfile, if_pos Option.isSome_some, Program.wp_run_bind]
      refine Program.wp_mono ?_ wp_restore
      rintro r s₂ rfl
      cases r with
      | error e => exact ⟨rfl, nofun⟩
      | ok done => exact ⟨rfl, nofun⟩

/-! ## Both units -/

/-- The files are as they were, or both new documents are there. -/
def Paired (service timer : UnitDocument) (files files' : Files) : Prop :=
  files' = files ∨ files' = Function.update (Function.update files service.name (some service.content))
    timer.name (some timer.content)

/-- An obsolete service cannot be put back while the timer is another one. -/
def StuckService (uuid : UuidParser) (service timer : UnitDocument) (files : Files) : Prop :=
  validate service = .ok () ∧ IsObsolete uuid service.name (files service.name) ∧
    IsOwn uuid timer.name (files timer.name) ∧ files timer.name ≠ some timer.content

/-- An obsolete timer cannot be put back while the service, which can, was another one. -/
def StuckTimer (uuid : UuidParser) (service timer : UnitDocument) (files : Files) : Prop :=
  validate service = .ok () ∧ validate timer = .ok () ∧ IsObsolete uuid timer.name (files timer.name) ∧
    IsOwn uuid service.name (files service.name) ∧
    (∀ content, files service.name = some content → validate ⟨service.name, content⟩ = .ok ()) ∧
    files service.name ≠ some service.content

section Install

variable {service timer : UnitDocument}

/-- What is left of a service that was installed when the timer could not be. -/
theorem wp_restoreService {files : Files} (hvalid : validate service = .ok ())
    (hs : s.files = Function.update files service.name (some service.content)) :
    (restoreService fl service.name (files service.name)).run.wp (quietly uuid)
      (fun r s' ↦ s'.observed = s.observed ∧ (r = .ok () → s'.files = files ∧
        ∀ content, files service.name = some content → validate ⟨service.name, content⟩ = .ok ())) s := by
  unfold restoreService
  cases hprevious : files service.name with
  | none =>
      have hfile : s.files service.name = some service.content := by rw [hs, Function.update_self]
      refine Program.wp_mono ?_ (wp_remove hvalid hfile)
      rintro r s' ⟨hobserved, hfiles⟩
      refine ⟨hobserved, fun hok ↦ ⟨?_, nofun⟩⟩
      rw [hfiles hok, hs, Function.update_idem, ← hprevious, Function.update_eq_self]
  | some content =>
      refine Program.wp_mono ?_ wp_install
      rintro r s' ⟨hobserved, hinstalls⟩
      refine ⟨hobserved, fun hok ↦ ?_⟩
      subst hok
      generalize hfiles : s'.files = files' at hinstalls
      cases hinstalls with
      | installed hcontent =>
          refine ⟨?_, fun other hother ↦ Option.some.inj hother ▸ hcontent⟩
          rw [hs, Function.update_idem, ← hprevious, Function.update_eq_self]

/-- What is left when the timer was installed over the service, or was not. -/
theorem wp_installTimer {files : Files} (hne : service.name ≠ timer.name) (hvalid : validate service = .ok ())
    (hown : IsOwn uuid service.name (files service.name))
    (hs : s.files = Function.update files service.name (some service.content)) :
    (installTimer fl service timer (files service.name)).run.wp (quietly uuid)
      (fun r s' ↦ s'.observed = s.observed ∧
        (r = .ok () → Paired service timer files s'.files) ∧
        ∀ e, r = .error e → e ≠ rollbackFailed → Paired service timer files s'.files ∨ StuckTimer uuid service timer files) s := by
  have htimer : s.files timer.name = files timer.name := by rw [hs, Function.update_of_ne hne.symm]
  rw [installTimer, wp_attempt]
  refine Program.wp_mono ?_ wp_install
  rintro r s₁ ⟨hobserved, hinstalls⟩
  generalize hfiles : s₁.files = files₁ at hinstalls
  cases hinstalls with
  | installed htimerValid htimerOwn =>
      refine ⟨hobserved, fun _ ↦ .inr ?_, nofun⟩
      rw [hfiles, hs]
  | unchanged e =>
      change (Program.attempt (unitStep _) >>= _ : Call Unit).run.wp _ _ s₁
      rw [wp_attempt]
      refine Program.wp_mono ?_ (wp_restoreService hvalid (hfiles.trans hs))
      rintro r s₂ ⟨hobserved', hrestored⟩
      have hsame := hobserved'.trans hobserved
      cases r with
      | error e' => exact ⟨hsame, nofun, fun e'' he hne' ↦ absurd (Except.error.inj he).symm hne'⟩
      | ok done => exact ⟨hsame, nofun, fun _ _ _ ↦ .inl (.inl (hrestored rfl).1)⟩
  | stuck e htimerValid hobsolete =>
      have hfiles' : s₁.files = Function.update (Function.update files timer.name (some timer.content))
          service.name (some service.content) := by rw [hfiles, hs, Function.update_comm hne]
      have hsame : Function.update files timer.name (some timer.content) service.name = files service.name :=
        Function.update_of_ne hne _ _
      change (Program.attempt (unitStep _) >>= _ : Call Unit).run.wp _ _ s₁
      rw [wp_attempt]
      have hrestore := @wp_restoreService uuid fl s₁ service _ hvalid hfiles'
      rw [hsame] at hrestore
      refine Program.wp_mono ?_ hrestore
      rintro r s₂ ⟨hobserved', hrestored⟩
      have hkeeps := hobserved'.trans hobserved
      cases r with
      | error e' => exact ⟨hkeeps, nofun, fun e'' he hne' ↦ absurd (Except.error.inj he).symm hne'⟩
      | ok done =>
          refine ⟨hkeeps, nofun, fun _ _ _ ↦ ?_⟩
          obtain ⟨hrest, hkept⟩ := hrestored rfl
          rw [htimer] at hobsolete
          by_cases hnew : files service.name = some service.content
          · refine .inl (.inr ?_)
            rw [hrest, ← hnew, Function.update_eq_self]
          · exact .inr ⟨hvalid, htimerValid, hobsolete, hown, hkept, hnew⟩

theorem wp_ensureOwned : (ensureOwned name).run.wp (quietly uuid)
    (fun r s' ↦ s' = s ∧ (r = .ok () → IsOwn uuid name (s.files name))) s := by
  rw [ensureOwned, Program.wp_run_bind, wp_unitStep]
  refine wp_store.mpr ?_
  rw [isOwn_iff, storeStep]
  cases hstate : fileState uuid (s.files name) with
  | missing => exact ⟨rfl, fun _ ↦ .inl rfl⟩
  | external => exact ⟨rfl, nofun⟩
  | managed owner =>
      rw [Except.mapError, Program.andThen_ok]
      dsimp only
      split_ifs with howner
      · exact ⟨rfl, nofun⟩
      · obtain rfl := not_not.mp howner
        exact ⟨rfl, fun _ ↦ .inr rfl⟩

/-- How an installation ends. -/
structure InstallEnds (uuid : UuidParser) (service timer : UnitDocument) (s : Units) (r : Except Failure Unit)
    (s' : Units) : Prop where
  paused : r = .ok () → s'.observed timer.name = ⟨.inactive, false⟩ ∧ (s'.observed service.name).enabled = false
  paired : ∀ e, r = .error e → e ≠ rollbackFailed →
    Paired service timer s.files s'.files ∨ StuckService uuid service timer s.files ∨ StuckTimer uuid service timer s.files
  foreign : ¬IsOwn uuid service.name (s.files service.name) ∨ ¬IsOwn uuid timer.name (s.files timer.name) →
    s'.files = s.files

theorem InstallEnds.early {e : Failure} : InstallEnds uuid service timer s (.error e) s :=
  ⟨nofun, fun _ _ _ ↦ .inl (.inl rfl), fun _ ↦ rfl⟩

/-- Both units are in place, and only the manager is asked. -/
theorem wp_finish {s₀ : Units} (hne : service.name ≠ timer.name)
    (hservice : IsOwn uuid service.name (s₀.files service.name)) (htimer : IsOwn uuid timer.name (s₀.files timer.name))
    (hpaired : Paired service timer s₀.files s.files) :
    (do
      let _ ← unitStep (UnitController.action .disable (some service.name))
      pauseOfflineRepairTrigger fl ⟨service.name, some timer.name⟩ : Call Unit).run.wp (quietly uuid)
      (InstallEnds uuid service timer s₀) s := by
  have hforeign : ∀ files : Files, ¬IsOwn uuid service.name (s₀.files service.name) ∨
      ¬IsOwn uuid timer.name (s₀.files timer.name) → files = s₀.files := by
    rintro files (hnot | hnot)
    · exact absurd hservice hnot
    · exact absurd htimer hnot
  rw [Program.wp_run_bind, wp_unitStep]
  refine wp_action (by decide) fun r s₁ hdisable ↦ ?_
  have hpaired₁ : Paired service timer s₀.files s₁.files := by rwa [hdisable.files]
  cases r with
  | error e => exact ⟨nofun, fun _ _ _ ↦ .inl hpaired₁, hforeign _⟩
  | ok status =>
      rw [Except.mapError, Program.andThen_ok]
      refine Program.wp_mono ?_ wp_pauseTrigger
      rintro r s₂ ⟨honly, hpaused⟩
      refine ⟨fun hok ↦ ⟨hpaused hok, ?_⟩, fun _ _ _ ↦ .inl (by rwa [honly.files]), hforeign _⟩
      rw [honly.others service.name hne, hdisable.changes]

/-- The files have been checked, and the trigger does not fire any more. -/
theorem wp_replace {s₀ : Units} (hne : service.name ≠ timer.name)
    (hservice : IsOwn uuid service.name (s₀.files service.name)) (htimer : IsOwn uuid timer.name (s₀.files timer.name))
    (hs : s.files = s₀.files) :
    (do
      unitStep (UnitController.install fl service)
      installTimer fl service timer (s₀.files service.name)
      let _ ← unitStep (UnitController.action .disable (some service.name))
      pauseOfflineRepairTrigger fl ⟨service.name, some timer.name⟩ : Call Unit).run.wp (quietly uuid)
      (InstallEnds uuid service timer s₀) s := by
  have hforeign : ∀ files : Files, ¬IsOwn uuid service.name (s₀.files service.name) ∨
      ¬IsOwn uuid timer.name (s₀.files timer.name) → files = s₀.files := by
    rintro files (hnot | hnot)
    · exact absurd hservice hnot
    · exact absurd htimer hnot
  rw [Program.wp_run_bind, wp_unitStep]
  refine Program.wp_mono ?_ wp_install
  rintro r s₁ ⟨-, hinstalls⟩
  rw [hs] at hinstalls
  generalize hfiles : s₁.files = files₁ at hinstalls
  cases hinstalls with
  | unchanged e => exact ⟨nofun, fun _ _ _ ↦ .inl (.inl hfiles), hforeign _⟩
  | stuck e hvalid hobsolete =>
      refine ⟨nofun, fun _ _ _ ↦ ?_, hforeign _⟩
      by_cases hnew : s₀.files timer.name = some timer.content
      · refine .inl (.inr ?_)
        rw [hfiles, ← hnew, ← Function.update_of_ne hne.symm (some service.content) s₀.files, Function.update_eq_self]
      · exact .inr (.inl ⟨hvalid, hobsolete, htimer, hnew⟩)
  | installed hvalid hown =>
      rw [Except.mapError, Program.andThen_ok, Program.wp_run_bind]
      refine Program.wp_mono ?_ (wp_installTimer hne hvalid hown hfiles)
      rintro r s₂ ⟨-, hok, herror⟩
      cases r with
      | error e =>
          refine ⟨nofun, fun e' he hne' ↦ ?_, hforeign _⟩
          obtain rfl := Except.error.inj he
          exact (herror e rfl hne').imp_right .inr
      | ok done => exact wp_finish hne hservice htimer (hok rfl)

theorem wp_installPaused (hne : service.name ≠ timer.name) :
    (installPausedRcloneUnits fl service timer).run.wp (quietly uuid) (InstallEnds uuid service timer s) s := by
  rw [installPausedRcloneUnits, Program.wp_run_bind]
  refine Program.wp_mono ?_ wp_ensureOwned
  rintro r s₁ ⟨rfl, hservice⟩
  cases r with
  | error e => exact .early
  | ok done =>
      rw [Program.andThen_ok, Program.wp_run_bind]
      refine Program.wp_mono ?_ wp_ensureOwned
      rintro r s₂ ⟨rfl, htimer⟩
      cases r with
      | error e => exact .early
      | ok done =>
          rw [Program.andThen_ok, Program.wp_run_bind, wp_unitStep]
          refine wp_store.mpr ?_
          rw [storeStep, Except.mapError, Program.andThen_ok, Program.wp_run_bind, wp_unitStep]
          refine wp_store.mpr ?_
          rw [storeStep, Except.mapError, Program.andThen_ok]
          dsimp only
          split_ifs
          · rw [Program.wp_run_bind]
            refine Program.wp_mono ?_ wp_pauseTrigger
            rintro r s₃ ⟨honly, -⟩
            cases r with
            | error e => exact ⟨nofun, fun _ _ _ ↦ .inl (.inl honly.files), fun _ ↦ honly.files⟩
            | ok paused => exact wp_replace hne (hservice rfl) (htimer rfl) honly.files
          · exact wp_replace hne (hservice rfl) (htimer rfl) rfl

end Install

/-! ## Pausing -/

section Pause

variable {id : ConnectionId}

theorem wp_pauseRcloneBackground : (pauseRcloneBackgroundWith fl id).run.wp (quietly uuid)
    (fun r s' ↦ ∀ text, r = .ok text → s'.observed ⟨id, .timer⟩ = ⟨.inactive, false⟩ ∧
      s'.observed ⟨id, .service⟩ = ⟨.inactive, false⟩) s := by
  have hne : (⟨id, .timer⟩ : UnitName) ≠ ⟨id, .service⟩ := fun h ↦ by cases h
  rw [pauseRcloneBackgroundWith, Program.wp_run_bind]
  refine Program.wp_mono ?_ wp_pauseTrigger
  rintro r s₁ ⟨-, htimer⟩
  cases r with
  | error e => exact nofun
  | ok done =>
      have h₁ := htimer rfl
      rw [Program.andThen_ok, Program.wp_run_bind]
      refine wp_offlineRepairAction (by decide) fun r s₂ hstop ↦ ?_
      cases r with
      | error e => exact nofun
      | ok stopped =>
          rw [Except.mapError, Program.andThen_ok, Program.wp_run_bind]
          refine wp_offlineRepairAction (by decide) fun r s₃ hdisable ↦ ?_
          have h₃ : s₃.observed ⟨id, .timer⟩ = ⟨.inactive, false⟩ := by rw [hdisable.frame hne, hstop.frame hne, h₁]
          cases r with
          | error e => exact nofun
          | ok disabled =>
              rw [Except.mapError, Program.andThen_ok, Program.wp_run_bind]
              refine Program.wp_mono ?_ wp_offlineRepairStatus
              rintro r s₄ ⟨rfl, hstatus⟩
              cases r with
              | error e => exact nofun
              | ok status =>
                  obtain ⟨hactive, henabled⟩ := hstatus status rfl
                  rw [Program.andThen_ok, Program.wp_run_bind, Program.run_check, Program.wp_done]
                  cases hrequired : requireRepairedUnit status (fl ⟨"offline-service-role", []⟩) true with
                  | error e => exact nofun
                  | ok required =>
                      obtain ⟨hinactive, hoff⟩ := requireRepairedUnit_eq_ok hrequired
                      refine fun _ _ ↦ ⟨h₃, ?_⟩
                      rw [← hactive.symm.trans hinactive, ← henabled.symm.trans hoff]

end Pause

/-! ## Resuming -/

/-- Every request is permitted, and the answers are kept. -/
def freely (uuid : UuidParser) : Contract ControllerRequest.Answer (Units × History ControllerRequest.Answer) :=
  .recorded (lifecycleWorld uuid) fun _ _ ↦ True

/-- The last answer was that the timer is enabled and active. -/
def SeenActive (timer : UnitName) (history : History ControllerRequest.Answer) : Prop :=
  ∃ earlier status, history = earlier ++ [⟨.action .status (some timer), .ok (some status)⟩] ∧
    status.enabled = true ∧ status.active = .active

def IsStopped (unit : Observed) : Prop := unit.enabled = false ∧ (unit.active = .inactive ∨ unit.active = .failed)

section Resume

variable {timer : UnitName} {t : Units × History ControllerRequest.Answer}

theorem wp_freely {action : SystemdAction} {unit : Option UnitName}
    {post : Except ServiceError (Option UnitStatus) → Units × History ControllerRequest.Answer → Prop}
    (h : ∀ r s', ManagerStep action unit r t.1 s' → post r (s', t.2 ++ [⟨.action action unit, r⟩])) :
    (UnitController.action action unit).run.wp (freely uuid) post t :=
  Program.wp_ask_recorded.mpr ⟨trivial, h⟩

theorem wp_startAction {action : SystemdAction}
    {post : Except Failure (Option UnitStatus) → Units × History ControllerRequest.Answer → Prop}
    (h : ∀ r s', ManagerStep action (some timer) r t.1 s' →
      post (r.mapError fun _ ↦ startIncomplete) (s', t.2 ++ [⟨.action action (some timer), r⟩])) :
    (startAction action timer).run.wp (freely uuid) post t := by
  rw [startAction, Program.run_reporting, Program.wp_bind]
  exact wp_freely h

theorem wp_startTimer : (startTimer timer).run.wp (freely uuid)
    (fun r t' ↦ r = .ok () → t'.1.observed timer = ⟨.active, true⟩ ∧ SeenActive timer t'.2) t := by
  rw [startTimer, Program.wp_run_bind]
  refine wp_startAction fun r s₁ henable ↦ ?_
  cases r with
  | error e => exact nofun
  | ok enabled =>
      rw [Except.mapError, Program.andThen_ok, Program.wp_run_bind]
      refine wp_startAction fun r s₂ hstart ↦ ?_
      cases r with
      | error e => exact nofun
      | ok started =>
          rw [Except.mapError, Program.andThen_ok, Program.wp_run_bind]
          refine wp_startAction fun r s₃ hstatus ↦ ?_
          obtain rfl := hstatus.same (.inr (.inr rfl))
          match r with
          | .error e => exact nofun
          | .ok none => exact nofun
          | .ok (some status) =>
              rw [Except.mapError, Program.andThen_ok, Program.run_ensure, Program.wp_done]
              intro hok
              split_ifs at hok with hseen
              simp only [Option.any_some, Bool.and_eq_true, beq_iff_eq] at hseen
              obtain ⟨henabled, hactive⟩ := hseen
              obtain ⟨htrueActive, htrueEnabled⟩ := hstatus.truthful rfl timer status rfl rfl
              refine ⟨?_, _, status, rfl, henabled, hactive⟩
              rw [← htrueActive.symm.trans hactive, ← htrueEnabled.symm.trans henabled]

/-- Unless one of the two actions failed, the timer is stopped. -/
theorem wp_stopAgain {error : Failure} : (stopAgain timer error).run.wp (freely uuid)
    (fun r t' ↦ r ≠ .ok () ∧ ∀ e, r = .error e → e ≠ startRollbackFailed → IsStopped (t'.1.observed timer)) t := by
  rw [stopAgain, wp_attempt]
  refine wp_freely fun stop s₁ hstop ↦ ?_
  rw [wp_attempt]
  refine wp_freely fun disable s₂ hdisable ↦ ?_
  refine ⟨nofun, fun e he hne ↦ ?_⟩
  obtain rfl := Except.error.inj he
  match stop, disable with
  | .error e, _ => exact absurd rfl hne
  | .ok _, .error e => exact absurd rfl hne
  | .ok _, .ok _ =>
      obtain ⟨henabled, hactive⟩ := hstop.changes
      rw [IsStopped, hdisable.changes]
      exact ⟨rfl, hactive⟩

theorem wp_resumeRcloneTimer (hpaused : t.1.observed timer = ⟨.inactive, false⟩) :
    (resumeRcloneTimerWith timer).run.wp (freely uuid) (fun r t' ↦
      (r = .ok () → t'.1.observed timer = ⟨.active, true⟩ ∧ SeenActive timer t'.2) ∧
      ∀ e, r = .error e → e ≠ startRollbackFailed → IsStopped (t'.1.observed timer)) t := by
  change (Program.ask ControllerRequest.isCancelled _).wp _ _ _
  refine Program.wp_ask_recorded.mpr ⟨trivial, fun cancelled s₁ hsame ↦ ?_⟩
  obtain rfl : s₁ = t.1 := hsame
  change (Program.ensure _ _ >>= _ : Call Unit).run.wp _ _ _
  rw [Program.wp_run_bind, Program.run_ensure, Program.wp_done]
  cases cancelled with
  | true =>
      refine ⟨nofun, fun e _ _ ↦ ?_⟩
      rw [hpaused]
      exact ⟨rfl, .inl rfl⟩
  | false =>
      change (Program.attempt (startTimer timer) >>= _ : Call Unit).run.wp _ _ _
      rw [Program.wp_run_bind, Program.run_attempt, Program.wp_bind]
      refine Program.wp_mono ?_ wp_startTimer
      intro r t' hstarted
      cases r with
      | ok done => exact ⟨fun _ ↦ hstarted rfl, nofun⟩
      | error error =>
          change (stopAgain timer error).run.wp (freely uuid) _ t'
          refine Program.wp_mono ?_ wp_stopAgain
          rintro r t'' ⟨hne, hstopped⟩
          exact ⟨fun hok ↦ absurd hok hne, hstopped⟩

end Resume

end CosmicMounter.Lifecycle

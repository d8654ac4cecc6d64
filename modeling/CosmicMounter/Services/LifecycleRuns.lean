import CosmicMounter.Services.LifecycleContract

/-!
# Which installations leave one new unit behind

A manager that refuses to load one of the two units, and does everything else,
leaves that unit in place exactly when the earlier file is obsolete.
-/

namespace CosmicMounter.Lifecycle

open Rust Interaction StructuralUnitValidator UnitController

/-! ## A manager that refuses one unit -/

/-- What the manager makes of the unit it is asked about. -/
def after : SystemdAction → Observed → Observed
  | .enable, unit => { unit with enabled := true }
  | .disable, unit => { unit with enabled := false }
  | .stop, unit => { unit with active := .inactive }
  | .resetFailed, unit => { unit with active := if unit.active = .failed then .inactive else unit.active }
  | _, unit => unit

theorem changes_after (action : SystemdAction) (unit : Observed) : Changes action unit (after action unit) := by
  cases action <;> simp [Changes, after]

def settle (action : SystemdAction) (unit : Option UnitName) (observed : UnitName → Observed) :
    UnitName → Observed :=
  fun name ↦ if unit = some name then after action (observed name) else observed name

def refusal : ServiceError := .runtime ⟨"unit-not-loaded", []⟩

def managerAnswer (refused : UnitName) (s : Units) :
    SystemdAction → Option UnitName → Except ServiceError (Option UnitStatus)
  | .validateLoaded, some name => if name = refused then .error refusal else .ok none
  | .status, some name => .ok (some ⟨(s.observed name).active, (s.observed name).enabled, "", ""⟩)
  | _, _ => .ok none

variable (uuid : UuidParser) (refused : UnitName)

def refusing : Handler ControllerRequest.Answer Units
  | .store request, s => ((storeStep uuid s.files request).1, { s with files := (storeStep uuid s.files request).2 })
  | .action action unit, s => (managerAnswer refused s action unit, { s with observed := settle action unit s.observed })
  | .isCancelled, s => (false, s)

theorem refusing_world (q : ControllerRequest) (s : Units) :
    lifecycleWorld uuid s q (refusing uuid refused q s).1 (refusing uuid refused q s).2 := by
  match q with
  | .store request => exact ⟨rfl, rfl⟩
  | .isCancelled => rfl
  | .action action unit =>
      refine ⟨rfl, .inl fun name ↦ ?_, ?_⟩
      · dsimp only [refusing, settle]
        split_ifs
        · exact changes_after action _
        · rfl
      · rintro rfl name status rfl hanswer
        cases hanswer
        exact ⟨rfl, rfl⟩

variable {uuid refused} {fl : Message → String} {s : Units} {name : UnitName} {document : UnitDocument}

theorem settle_daemonReload (observed : UnitName → Observed) : settle .daemonReload none observed = observed := rfl

theorem settle_same {action : SystemdAction} (observed : UnitName → Observed)
    (haction : action = .validateLoaded ∨ action = .status) (unit : Option UnitName) :
    settle action unit observed = observed := by
  funext other
  rw [settle]
  split_ifs
  · rcases haction with rfl | rfl <;> rfl
  · rfl

theorem unitStep_eval {α : Type} (step : UnitController.Call α) :
    (unitStep step).run.eval (refusing uuid refused) s =
      ((step.run.eval (refusing uuid refused) s).1.mapError .service, (step.run.eval (refusing uuid refused) s).2) := by
  rw [unitStep, Program.run_reporting, Program.eval_bind]
  rfl

theorem attempt_eval {ε α β : Type} (step : ExceptT ε (Program ControllerRequest.Answer) α)
    (f : Except ε α → ExceptT ε (Program ControllerRequest.Answer) β) :
    (Program.attempt step >>= f).run.eval (refusing uuid refused) s =
      (f (step.run.eval (refusing uuid refused) s).1).run.eval (refusing uuid refused)
        (step.run.eval (refusing uuid refused) s).2 := by
  rw [Program.eval_run_bind, Program.run_attempt, Program.eval_bind]
  rfl

/-! ## One unit -/

theorem load_eval : (load name).run.eval (refusing uuid refused) s =
    (if name = refused then .error refusal else .ok (), s) := by
  have hsame : ({ s with observed := settle .validateLoaded (some name) s.observed } : Units) = s := by
    rw [settle_same s.observed (.inl rfl)]
  change (load name).run.eval (refusing uuid refused) s = _
  rw [load, Program.eval_run_bind]
  change (Program.andThen _ (Except.ok none)).eval (refusing uuid refused) s = _
  rw [Program.andThen_ok, Program.eval_run_bind]
  change (Program.andThen _ (if name = refused then .error refusal else .ok none)).eval (refusing uuid refused)
    { s with observed := settle .validateLoaded (some name) s.observed } = _
  rw [hsame]
  split_ifs <;> rfl

theorem write_eval (hvalid : validate document = .ok ()) (hown : IsOwn uuid document.name (s.files document.name)) :
    (write document).run.eval (refusing uuid refused) s =
      (.ok (), { s with files := Function.update s.files document.name (some document.content) }) := by
  change ((storeStep uuid s.files (.write document)).1, ({ s with files := (storeStep uuid s.files (.write document)).2 } : Units)) = _
  rw [storeStep, hvalid]
  dsimp only
  rw [if_pos ((isOwn_iff uuid _ _).mp hown)]

/-- A unit that may be written, up to the point where the manager loads it. -/
theorem install_eval (hvalid : validate document = .ok ()) (hown : IsOwn uuid document.name (s.files document.name)) :
    (install fl document).run.eval (refusing uuid refused) s =
      (loadOrRollBack fl document.name (s.files document.name)).run.eval (refusing uuid refused)
        { s with files := Function.update s.files document.name (some document.content) } := by
  rw [install, Program.eval_run_bind]
  change (write document >>= fun _ ↦ loadOrRollBack fl document.name (s.files document.name)).run.eval _ s = _
  rw [Program.eval_run_bind, write_eval hvalid hown]
  rfl

theorem install_loaded (hvalid : validate document = .ok ()) (hown : IsOwn uuid document.name (s.files document.name))
    (hname : document.name ≠ refused) : (install fl document).run.eval (refusing uuid refused) s =
      (.ok (), { s with files := Function.update s.files document.name (some document.content) }) := by
  rw [install_eval hvalid hown, loadOrRollBack, attempt_eval, load_eval, if_neg hname]
  rfl

/-- The earlier file is not accepted any more, and the new one stays. -/
theorem install_stuck (hvalid : validate document = .ok ())
    (hobsolete : IsObsolete uuid document.name (s.files document.name)) (hname : document.name = refused) :
    ∃ e, (install fl document).run.eval (refusing uuid refused) s =
      (.error e, { s with files := Function.update s.files document.name (some document.content) }) := by
  have hown := hobsolete.isOwn
  obtain ⟨content, hfile, howner, hrefused⟩ := hobsolete
  rw [install_eval hvalid hown, loadOrRollBack, attempt_eval, load_eval, if_pos hname]
  cases hcontent : validate ⟨document.name, content⟩ with
  | ok done => exact absurd hcontent hrefused
  | error e =>
      refine ⟨e, ?_⟩
      change (rollBack fl document.name (s.files document.name) refusal).run.eval _ _ = _
      rw [rollBack, Program.eval_run_bind, hfile]
      generalize Function.update s.files document.name (some document.content) = files
      have hrestore : (restore document.name (some content)).run.eval (refusing uuid refused) ⟨files, s.observed⟩ =
          (.error e, ⟨files, s.observed⟩) := by
        change ((storeStep uuid files (.write ⟨document.name, content⟩)).1,
          (⟨(storeStep uuid files (.write ⟨document.name, content⟩)).2, s.observed⟩ : Units)) = _
        rw [storeStep]
        dsimp only
        rw [hcontent]
      rw [hrestore]
      rfl

theorem remove_eval (hfile : fileState uuid (s.files name) = .managed name.connectionId) :
    (remove name).run.eval (refusing uuid refused) s = (.ok (), { s with files := Function.update s.files name none }) := by
  rw [remove, Program.eval_run_bind]
  change (removeFile name >>= fun _ ↦ reloadOrRestore name (s.files name)).run.eval _ s = _
  rw [Program.eval_run_bind]
  have hremoved : (removeFile name).run.eval (refusing uuid refused) s =
      (.ok (), { s with files := Function.update s.files name none }) := by
    change ((storeStep uuid s.files (.remove name)).1, ({ s with files := (storeStep uuid s.files (.remove name)).2 } : Units)) = _
    rw [storeStep, hfile, if_neg (fun h ↦ by cases h), if_pos rfl]
  rw [hremoved]
  rfl

/-! ## The trigger -/

theorem pauseTimer_eval : ∃ observed, (pauseTimer fl name).run.eval (refusing uuid refused) s =
    (.ok (), { s with observed := observed }) := by
  refine ⟨settle .status (some name) (settle .disable (some name) (settle .stop (some name) s.observed)), ?_⟩
  have hactive : settle .disable (some name) (settle .stop (some name) s.observed) name = ⟨.inactive, false⟩ := by
    simp [settle, after]
  change ((requireRepairedUnit ⟨(settle .disable (some name) (settle .stop (some name) s.observed) name).active,
    (settle .disable (some name) (settle .stop (some name) s.observed) name).enabled, "", ""⟩ _ true), _) = _
  rw [hactive]
  rfl

/-! ## Both units -/

section Install

variable {service timer : UnitDocument}

theorem ensureOwned_eval (hown : IsOwn uuid name (s.files name)) :
    (ensureOwned name).run.eval (refusing uuid refused) s = (.ok (), s) := by
  rw [ensureOwned, Program.eval_run_bind, unitStep_eval]
  change (Program.andThen _ (Except.ok (fileState uuid (s.files name)))).eval (refusing uuid refused) s = _
  rcases (isOwn_iff uuid _ _).mp hown with hstate | hstate
  · rw [hstate]
    rfl
  · rw [hstate, Program.andThen_ok]
    dsimp only
    rw [if_neg (not_not.mpr rfl)]
    rfl

/-- Both units may be written, and the trigger has been stopped. -/
theorem installPaused_eval (hservice : IsOwn uuid service.name (s.files service.name))
    (htimer : IsOwn uuid timer.name (s.files timer.name)) :
    ∃ observed, (installPausedRcloneUnits fl service timer).run.eval (refusing uuid refused) s =
      (do
        unitStep (UnitController.install fl service)
        installTimer fl service timer (s.files service.name)
        let _ ← unitStep (UnitController.action .disable (some service.name))
        pauseOfflineRepairTrigger fl ⟨service.name, some timer.name⟩ : Call Unit).run.eval (refusing uuid refused)
        { s with observed := observed } := by
  rw [installPausedRcloneUnits, Program.eval_run_bind, ensureOwned_eval hservice, Program.andThen_ok,
    Program.eval_run_bind, ensureOwned_eval htimer, Program.andThen_ok, Program.eval_run_bind, unitStep_eval]
  change ∃ observed, (unitStep (UnitController.state timer.name) >>= _ : Call Unit).run.eval _ s = _
  rw [Program.eval_run_bind, unitStep_eval]
  change ∃ observed, (if fileState uuid (s.files timer.name) ≠ .missing then
    pauseOfflineRepairTrigger fl ⟨service.name, some timer.name⟩ >>= _ else _ : Call Unit).run.eval _ s = _
  split_ifs
  · obtain ⟨observed, hpaused⟩ := @pauseTimer_eval uuid refused fl s timer.name
    refine ⟨observed, ?_⟩
    rw [Program.eval_run_bind]
    change (Program.andThen _ ((pauseTimer fl timer.name).run.eval _ s).1).eval _ _ = _
    rw [show (pauseOfflineRepairTrigger fl ⟨service.name, some timer.name⟩).run.eval (refusing uuid refused) s = _
      from hpaused, hpaused]
    rfl
  · exact ⟨s.observed, rfl⟩

theorem stuckService_eval (h : StuckService uuid service timer s.files) :
    ∃ e observed, (installPausedRcloneUnits fl service timer).run.eval (refusing uuid service.name) s =
      (.error (.service e), ⟨Function.update s.files service.name (some service.content), observed⟩) := by
  obtain ⟨hvalid, hobsolete, htimer, -⟩ := h
  obtain ⟨observed, hrest⟩ := @installPaused_eval uuid service.name fl s service timer hobsolete.isOwn htimer
  obtain ⟨e, hstuck⟩ := @install_stuck uuid service.name fl { s with observed := observed } service hvalid hobsolete rfl
  refine ⟨e, observed, ?_⟩
  rw [hrest, Program.eval_run_bind, unitStep_eval, hstuck]
  rfl

theorem restoreService_eval {files : Files} (hname : service.name ≠ refused) (hvalid : validate service = .ok ())
    (hkept : ∀ content, files service.name = some content → validate ⟨service.name, content⟩ = .ok ())
    (hs : s.files service.name = some service.content) :
    (restoreService fl service.name (files service.name)).run.eval (refusing uuid refused) s =
      (.ok (), { s with files := Function.update s.files service.name (files service.name) }) := by
  have howner := owned_of_validate uuid hvalid
  cases hfile : files service.name with
  | none =>
      refine remove_eval ?_
      rw [hs, fileState, howner]
  | some content =>
      have hcontent := hkept content hfile
      refine @install_loaded uuid refused fl s ⟨service.name, content⟩ hcontent ?_ hname
      intro text htext
      rwa [← Option.some.inj (hs.symm.trans htext)]

/-- The service is put back, and the new timer is not. -/
theorem installTimer_stuck {files : Files} (hne : service.name ≠ timer.name) (h : StuckTimer uuid service timer files)
    (hs : s.files = Function.update files service.name (some service.content)) :
    ∃ e, (installTimer fl service timer (files service.name)).run.eval (refusing uuid timer.name) s =
      (.error (.service e), { s with files := Function.update files timer.name (some timer.content) }) := by
  obtain ⟨hvalid, htimerValid, hobsolete, -, hkept, -⟩ := h
  have htimer : s.files timer.name = files timer.name := by rw [hs, Function.update_of_ne hne.symm]
  rw [← htimer] at hobsolete
  obtain ⟨e, hstuck⟩ := @install_stuck uuid timer.name fl s timer htimerValid hobsolete rfl
  refine ⟨e, ?_⟩
  have hfiles : Function.update s.files timer.name (some timer.content) =
      Function.update (Function.update files timer.name (some timer.content)) service.name (some service.content) := by
    rw [hs, Function.update_comm hne]
  have hprevious : Function.update files timer.name (some timer.content) service.name = files service.name :=
    Function.update_of_ne hne _ _
  rw [installTimer, attempt_eval, unitStep_eval, hstuck, hfiles]
  change (Program.attempt (unitStep (restoreService fl service.name (files service.name))) >>= _ : Call Unit).run.eval _
    (Units.mk _ s.observed) = _
  rw [attempt_eval, unitStep_eval, restoreService_eval hne hvalid hkept (Function.update_self ..)]
  dsimp only
  rw [Function.update_idem, ← hprevious, Function.update_eq_self]
  rfl

theorem stuckTimer_eval (hne : service.name ≠ timer.name) (h : StuckTimer uuid service timer s.files) :
    ∃ e observed, (installPausedRcloneUnits fl service timer).run.eval (refusing uuid timer.name) s =
      (.error (.service e), ⟨Function.update s.files timer.name (some timer.content), observed⟩) := by
  have hstuck := h
  obtain ⟨hvalid, -, hobsolete, hservice, -, -⟩ := h
  obtain ⟨observed, hrest⟩ := @installPaused_eval uuid timer.name fl s service timer hservice hobsolete.isOwn
  have hinstalled := @install_loaded uuid timer.name fl { s with observed := observed } service hvalid hservice hne
  obtain ⟨e, htimer⟩ := @installTimer_stuck uuid fl
    ⟨Function.update s.files service.name (some service.content), observed⟩ service timer s.files hne hstuck rfl
  refine ⟨e, observed, ?_⟩
  rw [hrest, Program.eval_run_bind, unitStep_eval, hinstalled]
  change (installTimer fl service timer (s.files service.name) >>= _ : Call Unit).run.eval _ _ = _
  rw [Program.eval_run_bind, htimer]
  rfl

/-- One new unit beside an earlier one is neither pair. -/
theorem StuckService.not_paired (hne : service.name ≠ timer.name) {files : Files} (h : StuckService uuid service timer files) :
    ¬Paired service timer files (Function.update files service.name (some service.content)) := by
  obtain ⟨hvalid, ⟨content, hfile, -, hrefused⟩, -, hother⟩ := h
  rintro (hsame | hboth)
  · have hcontent := congrFun hsame service.name
    rw [Function.update_self, hfile] at hcontent
    exact hrefused (Option.some.inj hcontent ▸ hvalid)
  · have htimer := congrFun hboth timer.name
    rw [Function.update_of_ne hne.symm, Function.update_self] at htimer
    exact hother htimer

theorem StuckTimer.not_paired (hne : service.name ≠ timer.name) {files : Files} (h : StuckTimer uuid service timer files) :
    ¬Paired service timer files (Function.update files timer.name (some timer.content)) := by
  obtain ⟨-, htimerValid, ⟨content, hfile, -, hrefused⟩, -, -, hother⟩ := h
  rintro (hsame | hboth)
  · have hcontent := congrFun hsame timer.name
    rw [Function.update_self, hfile] at hcontent
    exact hrefused (Option.some.inj hcontent ▸ htimerValid)
  · have hservice := congrFun hboth service.name
    rw [Function.update_of_ne hne, Function.update_of_ne hne, Function.update_self] at hservice
    exact hother hservice

end Install

/-! ## The lifecycle -/

variable (uuid fl)

/-- Every way this can go, stopped anywhere. -/
def Runs {α : Type} (call : Call α) (s : Units) (tr : List (Moment ControllerRequest.Answer Units))
    (rest : Program ControllerRequest.Answer (Except Failure α)) (s' : Units) : Prop :=
  Exec (lifecycleWorld uuid) call.run s tr rest s'

/-- No step of the lifecycle leaves a schedule on by accident, and the two units stay together. -/
structure NoAccident (id : ConnectionId) (service timer : String) (files : Files) : Prop where
  install_quiet : ∀ observed tr rest s', Runs uuid (installPausedRcloneUnits fl ⟨⟨id, .service⟩, service⟩ ⟨⟨id, .timer⟩, timer⟩)
    ⟨files, observed⟩ tr rest s' → ∀ m ∈ tr, ¬Starts m.request
  install_ok : ∀ observed tr s', Runs uuid (installPausedRcloneUnits fl ⟨⟨id, .service⟩, service⟩ ⟨⟨id, .timer⟩, timer⟩)
    ⟨files, observed⟩ tr (.done (.ok ())) s' →
      s'.observed ⟨id, .timer⟩ = ⟨.inactive, false⟩ ∧ (s'.observed ⟨id, .service⟩).enabled = false
  install_error : ∀ observed tr e s', Runs uuid (installPausedRcloneUnits fl ⟨⟨id, .service⟩, service⟩ ⟨⟨id, .timer⟩, timer⟩)
    ⟨files, observed⟩ tr (.done (.error e)) s' → e ≠ rollbackFailed →
      Paired ⟨⟨id, .service⟩, service⟩ ⟨⟨id, .timer⟩, timer⟩ files s'.files
  foreign : ∀ observed tr r s', Runs uuid (installPausedRcloneUnits fl ⟨⟨id, .service⟩, service⟩ ⟨⟨id, .timer⟩, timer⟩)
    ⟨files, observed⟩ tr (.done r) s' → ∀ kind, ¬IsOwn uuid ⟨id, kind⟩ (files ⟨id, kind⟩) →
      s'.files ⟨id, kind⟩ = files ⟨id, kind⟩
  pause_quiet : ∀ observed tr rest s', Runs uuid (pauseRcloneBackgroundWith fl id) ⟨files, observed⟩ tr rest s' →
    ∀ m ∈ tr, ¬Starts m.request
  pause_ok : ∀ observed tr text s', Runs uuid (pauseRcloneBackgroundWith fl id) ⟨files, observed⟩ tr (.done (.ok text)) s' →
    s'.observed ⟨id, .timer⟩ = ⟨.inactive, false⟩ ∧ s'.observed ⟨id, .service⟩ = ⟨.inactive, false⟩
  resume_ok : ∀ observed tr s', observed ⟨id, .timer⟩ = ⟨.inactive, false⟩ →
    Runs uuid (resumeRcloneTimerWith ⟨id, .timer⟩) ⟨files, observed⟩ tr (.done (.ok ())) s' →
      s'.observed ⟨id, .timer⟩ = ⟨.active, true⟩ ∧ SeenActive ⟨id, .timer⟩ (replies tr)
  resume_error : ∀ observed tr e s', observed ⟨id, .timer⟩ = ⟨.inactive, false⟩ →
    Runs uuid (resumeRcloneTimerWith ⟨id, .timer⟩) ⟨files, observed⟩ tr (.done (.error e)) s' →
      e ≠ startRollbackFailed → IsStopped (s'.observed ⟨id, .timer⟩)

section Lifecycle

variable {uuid fl} {id : ConnectionId} {newService newTimer : String} {files : Files}

theorem service_ne_timer : (⟨id, .service⟩ : UnitName) ≠ ⟨id, .timer⟩ := by
  intro h
  cases h

theorem not_stuckService_of_noAccident (h : NoAccident uuid fl id newService newTimer files) :
    ¬StuckService uuid ⟨⟨id, .service⟩, newService⟩ ⟨⟨id, .timer⟩, newTimer⟩ files := by
  intro hstuck
  let s : Units := ⟨files, fun _ ↦ ⟨.inactive, false⟩⟩
  obtain ⟨e, observed, hrun⟩ := @stuckService_eval uuid fl s _ _ hstuck
  obtain ⟨tr, hexec⟩ := Program.exec_eval (refusing uuid ⟨id, .service⟩) (fun q s ↦ refusing_world uuid _ q s)
    (installPausedRcloneUnits fl ⟨⟨id, .service⟩, newService⟩ ⟨⟨id, .timer⟩, newTimer⟩).run s
  rw [hrun] at hexec
  exact hstuck.not_paired service_ne_timer (h.install_error _ tr _ _ hexec nofun)

theorem not_stuckTimer_of_noAccident (h : NoAccident uuid fl id newService newTimer files) :
    ¬StuckTimer uuid ⟨⟨id, .service⟩, newService⟩ ⟨⟨id, .timer⟩, newTimer⟩ files := by
  intro hstuck
  let s : Units := ⟨files, fun _ ↦ ⟨.inactive, false⟩⟩
  obtain ⟨e, observed, hrun⟩ := @stuckTimer_eval uuid fl s _ _ service_ne_timer hstuck
  obtain ⟨tr, hexec⟩ := Program.exec_eval (refusing uuid ⟨id, .timer⟩) (fun q s ↦ refusing_world uuid _ q s)
    (installPausedRcloneUnits fl ⟨⟨id, .service⟩, newService⟩ ⟨⟨id, .timer⟩, newTimer⟩).run s
  rw [hrun] at hexec
  exact hstuck.not_paired service_ne_timer (h.install_error _ tr _ _ hexec nofun)

theorem noAccident_of_not_stuck
    (hservice : ¬StuckService uuid ⟨⟨id, .service⟩, newService⟩ ⟨⟨id, .timer⟩, newTimer⟩ files)
    (htimer : ¬StuckTimer uuid ⟨⟨id, .service⟩, newService⟩ ⟨⟨id, .timer⟩, newTimer⟩ files) :
    NoAccident uuid fl id newService newTimer files where
  install_quiet observed tr rest s' hexec := (Program.wp_exec (wp_installPaused service_ne_timer) hexec).2
  install_ok observed tr s' hexec := (Program.wp_exec (wp_installPaused service_ne_timer) hexec).1.paused rfl
  install_error observed tr e s' hexec he := by
    rcases (Program.wp_exec (wp_installPaused service_ne_timer) hexec).1.paired e rfl he with hpaired | hstuck | hstuck
    · exact hpaired
    · exact absurd hstuck hservice
    · exact absurd hstuck htimer
  foreign observed tr r s' hexec kind hnot := by
    have hends := (Program.wp_exec (wp_installPaused service_ne_timer) hexec).1
    cases kind with
    | service => rw [hends.foreign (.inl hnot)]
    | timer => rw [hends.foreign (.inr hnot)]
  pause_quiet observed tr rest s' hexec := (Program.wp_exec wp_pauseRcloneBackground hexec).2
  pause_ok observed tr text s' hexec := (Program.wp_exec wp_pauseRcloneBackground hexec).1 text rfl
  resume_ok observed tr s' hpaused hexec :=
    (Program.wp_recorded (@wp_resumeRcloneTimer uuid ⟨id, .timer⟩ (⟨files, observed⟩, []) hpaused) hexec).1.1 rfl
  resume_error observed tr e s' hpaused hexec :=
    (Program.wp_recorded (@wp_resumeRcloneTimer uuid ⟨id, .timer⟩ (⟨files, observed⟩, []) hpaused) hexec).1.2 e rfl

/-- The lifecycle is without accident exactly when no owned unit that the validator
would refuse today is to be replaced by another one. -/
theorem noAccident_iff (uuid : UuidParser) (fl : Message → String) (id : ConnectionId) (newService newTimer : String)
    (files : Files) : NoAccident uuid fl id newService newTimer files ↔
      ¬StuckService uuid ⟨⟨id, .service⟩, newService⟩ ⟨⟨id, .timer⟩, newTimer⟩ files ∧
        ¬StuckTimer uuid ⟨⟨id, .service⟩, newService⟩ ⟨⟨id, .timer⟩, newTimer⟩ files :=
  ⟨fun h ↦ ⟨not_stuckService_of_noAccident h, not_stuckTimer_of_noAccident h⟩, fun h ↦ noAccident_of_not_stuck h.1 h.2⟩

end Lifecycle

/-! ## An earlier timer with nothing but its markers -/

def sampleServiceLines : List String :=
  ["", "[Unit]", "Description=Mirror", "", "[Service]", "Type=simple", "RuntimeDirectory=cosmic-ext-applet-mounter",
    "SuccessExitStatus=130 143", "ExecStart=\"/usr/bin/mirror\"", "", "[Install]", "WantedBy=default.target"]

def sampleService : UnitDocument where
  name := ⟨sampleId, .service⟩
  content := Str.unlines (managedMarker :: (uuidMarker ++ sampleId.text) :: sampleServiceLines)

theorem validate_sampleService : validate sampleService = .ok () := by
  refine validate_eq_ok (Str.lines_unlines (by decide +kernel)) ?_ ?_
  · rw [sampleService, Str.toList_unlines]
    decide +kernel
  · decide +kernel

def sampleOld : String := Str.unlines [managedMarker, uuidMarker ++ sampleId.text]

def sampleFiles : Files := fun name ↦ if name = sampleTimer.name then some sampleOld else none

/-- The manager refuses the new timer, and only the service is put back. -/
theorem new_timer_without_service :
    ¬NoAccident .displayed Message.key sampleId sampleService.content sampleTimer.content sampleFiles := by
  intro h
  refine not_stuckTimer_of_noAccident h ⟨validate_sampleService, validate_sampleTimer, ?_, ?_, ?_, ?_⟩
  · exact ⟨sampleOld, rfl, by decide +kernel⟩
  · exact nofun
  · exact nofun
  · exact nofun

end CosmicMounter.Lifecycle

import CosmicMounter.Interaction.Handler
import CosmicMounter.Services.Retirement

/-!
# Retirement when nobody interferes at the end

Step by step, the call reads and asks what its plan says, and what it removes it
has just found unchanged.  Other programs may edit the file until then.
-/

namespace CosmicMounter.UnitController

open Rust Interaction StructuralUnitValidator

/-! ## Stages -/

/-- After the first actions of the plan, with nothing removed or written. -/
structure Stage (id : ConnectionId) (content : String) (phase : Phase) (k : Nat) (d : Disk)
    (past : ControllerPast) : Prop where
  first : FirstRead id past content
  valid : validate ⟨mirrorUnit id, content⟩ = .ok ()
  managed : ⟨.store (.state (mirrorUnit id)), .ok (.managed id)⟩ ∈ past
  runs : RunsOnedrive content
  issued : issued past = (retirementActions id).take k
  untouched : d.removed = []
  unwritten : ∀ reply ∈ past, ∀ document, reply.1 ≠ .store (.write document)
  phase : d.phase = phase

/-- What holds when the call ends. -/
def Ends (id : ConnectionId) (result : Except ServiceError Unit) (s : Disk × ControllerPast) : Prop :=
  Retires id s.1 s.2 ∧
    ∀ e, result = .error e → ∀ removed ∈ s.1.removed, s.1.files removed.1 = some removed.2

def retirementContract (uuid : UuidParser) (id : ConnectionId) :
    Contract ControllerRequest.Answer (Disk × ControllerPast) :=
  .recorded (steadyWorld uuid) fun s _ ↦ Retires id s.1 s.2

variable {uuid : UuidParser} {id : ConnectionId} {content : String} {phase : Phase} {k : Nat}
  {d d' : Disk} {past : ControllerPast}

/-- The calls that change nothing. -/
def IsQuery : ControllerRequest → Prop
  | .store (.read _) | .store (.state _) | .isCancelled => True
  | _ => False

theorem FirstRead.append (h : FirstRead id past content) (replies : ControllerPast) :
    FirstRead id (past ++ replies) content := by
  obtain ⟨rest, rfl⟩ := h
  exact ⟨rest ++ replies, rfl⟩

theorem issued_append (past : ControllerPast) (reply : (q : ControllerRequest) × q.Answer) :
    issued (past ++ [reply]) = issued past ++ (issuedAction reply).toList := by
  rw [issued, List.filterMap_append, issued]
  cases h : issuedAction reply <;> simp [h]

theorem issuedAction_of_query {q : ControllerRequest} (h : IsQuery q) (r : q.Answer) :
    issuedAction ⟨q, r⟩ = none := by
  match q, h with
  | .store (.read _), _ | .store (.state _), _ | .isCancelled, _ => rfl

theorem removed_of_query {q : ControllerRequest} {r : q.Answer} (h : IsQuery q)
    (hw : steadyWorld uuid d q r d') : d'.removed = d.removed ∧ d'.phase = d.phase.next q ∧
      (d.phase = .rechecked → d'.files = d.files) := by
  obtain ⟨files, after, hfiles, -, hserves, rfl⟩ := hw
  have hafter : after = { d with files } := by
    match q, h with
    | .store (.read _), _ | .store (.state _), _ => exact hserves.1
    | .isCancelled, _ => exact hserves
  subst hafter
  exact ⟨rfl, rfl, hfiles⟩

theorem removed_of_action {action : SystemdAction} {unit : Option UnitName}
    {r : Except ServiceError (Option UnitStatus)} (hw : steadyWorld uuid d (.action action unit) r d') :
    d'.removed = d.removed ∧ d'.phase = d.phase.next (.action action unit) ∧
      (d.phase = .rechecked → d'.files = d.files) := by
  obtain ⟨files, after, hfiles, -, hserves, rfl⟩ := hw
  have hafter : after = { d with files } := hserves
  subst hafter
  exact ⟨rfl, rfl, hfiles⟩

namespace Stage

theorem retires (h : Stage id content phase k d past) : Retires id d past where
  actions := h.issued ▸ List.take_prefix k _
  guarded _ := ⟨content, h.first, h.valid, h.managed, h.runs⟩
  removals removed hremoved := by
    rw [h.untouched] at hremoved
    cases hremoved
  writes reply hreply document hwrite := absurd hwrite (h.unwritten reply hreply document)

theorem ends (h : Stage id content phase k d past) (result : Except ServiceError Unit) :
    Ends id result (d, past) := by
  refine ⟨h.retires, fun e _ removed hremoved ↦ ?_⟩
  rw [h.untouched] at hremoved
  cases hremoved

theorem append {q : ControllerRequest} {r : q.Answer} (h : Stage id content phase k d past)
    (haction : issuedAction ⟨q, r⟩ = none) (hwrite : ∀ document, q ≠ .store (.write document))
    (hremoved : d'.removed = d.removed) : Stage id content d'.phase k d' (past ++ [⟨q, r⟩]) := by
  refine ⟨h.first.append _, h.valid, List.mem_append_left _ h.managed, h.runs, ?_,
    hremoved.trans h.untouched, ?_, rfl⟩
  · rw [issued_append, haction, h.issued, Option.toList_none, List.append_nil]
  · intro reply hreply document
    rcases List.mem_append.mp hreply with hreply | hreply
    · exact h.unwritten reply hreply document
    · rw [List.mem_singleton.mp hreply]
      exact hwrite document

theorem query {q : ControllerRequest} {r : q.Answer} (h : Stage id content phase k d past)
    (hq : IsQuery q) (hw : steadyWorld uuid d q r d') :
    Stage id content (phase.next q) k d' (past ++ [⟨q, r⟩]) := by
  obtain ⟨hremoved, hphase, -⟩ := removed_of_query hq hw
  have happend := h.append (issuedAction_of_query hq r) (by rintro document rfl; exact hq) hremoved
  rwa [hphase, h.phase] at happend

theorem action {action : SystemdAction} {unit : Option UnitName}
    {r : Except ServiceError (Option UnitStatus)} (h : Stage id content phase k d past)
    (haction : (retirementActions id)[k]? = some (action, unit))
    (hw : steadyWorld uuid d (.action action unit) r d') :
    Stage id content (phase.next (.action action unit)) (k + 1) d' (past ++ [⟨.action action unit, r⟩]) := by
  obtain ⟨hremoved, hphase, -⟩ := removed_of_action hw
  refine ⟨h.first.append _, h.valid, List.mem_append_left _ h.managed, h.runs, ?_,
    hremoved.trans h.untouched, ?_, by rw [hphase, h.phase]⟩
  · rw [issued_append, h.issued, List.take_add_one, haction]
    rfl
  · intro reply hreply document
    rcases List.mem_append.mp hreply with hreply | hreply
    · exact h.unwritten reply hreply document
    · rw [List.mem_singleton.mp hreply]
      nofun

end Stage

/-! ## The steps -/

theorem wp_ensure_bind {α : Type} {C : Contract ControllerRequest.Answer (Disk × ControllerPast)}
    {b : Bool} {e : ServiceError} {f : Unit → Call α} {post : Except ServiceError α → Disk × ControllerPast → Prop}
    {s : Disk × ControllerPast} (herror : post (.error e) s)
    (hnext : b = true → (f ()).run.wp C post s) : (Program.ensure b e >>= f).run.wp C post s := by
  cases b with
  | true => exact hnext rfl
  | false => exact herror

/-- The file is read, and holds the content unless the call stops. -/
theorem wp_stillHolds {f : Unit → Call Unit} (h : Stage id content phase k d past)
    (hnext : ∀ d' reply, Stage id content (phase.next (.store (.read (mirrorUnit id)))) k d' (past ++ [reply]) →
      d'.files (mirrorUnit id) = some content →
      (f ()).run.wp (retirementContract uuid id) (Ends id) (d', past ++ [reply])) :
    (stillHolds (mirrorUnit id) content >>= f).run.wp (retirementContract uuid id) (Ends id) (d, past) := by
  rw [stillHolds, bind_assoc]
  refine (Program.wp_run_bind _ _ _ _).mpr (Program.wp_ask_recorded.mpr
    ⟨h.retires, fun r d' hw ↦ (Program.wp_done _ _ _).mpr ?_⟩)
  have hstage := h.query (q := .store (.read (mirrorUnit id))) trivial hw
  cases r with
  | error e => exact hstage.ends _
  | ok found =>
      refine wp_ensure_bind (hstage.ends _) fun hfound ↦ hnext _ _ hstage ?_
      obtain ⟨files, after, -, -, hserves, rfl⟩ := hw
      obtain ⟨hafter, hanswer⟩ := hserves
      rcases hanswer with hanswer | ⟨e, hanswer⟩
      · rw [hafter]
        exact (Except.ok.inj hanswer).symm.trans (eq_of_beq hfound)
      · cases hanswer

theorem wp_retirementAction {step : SystemdAction} {f : Unit → Call Unit}
    (h : Stage id content .acting k d past) (hstatus : step ≠ .status)
    (haction : (retirementActions id)[k]? = some (step, some (mirrorUnit id)))
    (hnext : ∀ d' past', Stage id content .acting (k + 1) d' past' →
      (f ()).run.wp (retirementContract uuid id) (Ends id) (d', past')) :
    (retirementAction (mirrorUnit id) content step >>= f).run.wp (retirementContract uuid id) (Ends id)
      (d, past) := by
  rw [retirementAction, bind_assoc]
  refine (Program.wp_liftM_bind _ _ _ _).mpr
    (Program.wp_ask_recorded.mpr ⟨h.retires, fun cancelled d₁ hw₁ ↦ (Program.wp_done _ _ _).mpr ?_⟩)
  have h₁ := h.query (q := .isCancelled) trivial hw₁
  rw [bind_assoc]
  refine wp_ensure_bind (h₁.ends _) fun _ ↦ ?_
  rw [bind_assoc]
  refine wp_stillHolds h₁ fun d₂ _ h₂ _ ↦ ?_
  rw [bind_assoc]
  refine (Program.wp_run_bind _ _ _ _).mpr (Program.wp_ask_recorded.mpr
    ⟨h₂.retires, fun r d₃ hw₃ ↦ (Program.wp_done _ _ _).mpr ?_⟩)
  have h₃ := h₂.action haction hw₃
  have hphase : Phase.next .acting (.action step (some (mirrorUnit id))) = .acting := by
    cases step <;> first | rfl | exact absurd rfl hstatus
  cases r with
  | error e => exact h₃.ends _
  | ok status => exact hnext _ _ (hphase ▸ h₃)

/-! ## The removal -/

/-- A status at rest has been seen. -/
def SeenAtRest (id : ConnectionId) (past : ControllerPast) : Prop :=
  ∃ status, ⟨.action .status (some (mirrorUnit id)), .ok (some status)⟩ ∈ past ∧ isRetired status = true

theorem SeenAtRest.append (h : SeenAtRest id past) (replies : ControllerPast) :
    SeenAtRest id (past ++ replies) := by
  obtain ⟨status, hmem, hretired⟩ := h
  exact ⟨status, List.mem_append_left _ hmem, hretired⟩

/-- After the removal, the file was what was read first. -/
structure Gone (id : ConnectionId) (content : String) (k : Nat) (d : Disk) (past : ControllerPast) : Prop where
  first : FirstRead id past content
  valid : validate ⟨mirrorUnit id, content⟩ = .ok ()
  managed : ⟨.store (.state (mirrorUnit id)), .ok (.managed id)⟩ ∈ past
  runs : RunsOnedrive content
  issued : issued past = (retirementActions id).take k
  removed : d.removed = [(mirrorUnit id, content)]
  absent : d.files (mirrorUnit id) = none
  atRest : SeenAtRest id past
  unwritten : ∀ reply ∈ past, ∀ document, reply.1 ≠ .store (.write document)
  phase : d.phase = .rechecked

theorem Gone.retires (h : Gone id content k d past) : Retires id d past where
  actions := h.issued ▸ List.take_prefix k _
  guarded _ := ⟨content, h.first, h.valid, h.managed, h.runs⟩
  removals removed hremoved := by
    rw [h.removed, List.mem_singleton] at hremoved
    subst hremoved
    exact ⟨rfl, h.first, h.atRest⟩
  writes reply hreply document hwrite := absurd hwrite (h.unwritten reply hreply document)

theorem Gone.reload {r : Except ServiceError (Option UnitStatus)} (h : Gone id content 4 d past)
    (hw : steadyWorld uuid d (.action .daemonReload none) r d') :
    Gone id content 5 d' (past ++ [⟨.action .daemonReload none, r⟩]) := by
  obtain ⟨hremoved, hphase, hfiles⟩ := removed_of_action hw
  refine ⟨h.first.append _, h.valid, List.mem_append_left _ h.managed, h.runs, ?_,
    hremoved.trans h.removed, by rw [hfiles h.phase, h.absent], h.atRest.append _, ?_,
    by rw [hphase, h.phase]; rfl⟩
  · rw [issued_append, h.issued]
    rfl
  · intro reply hreply document
    rcases List.mem_append.mp hreply with hreply | hreply
    · exact h.unwritten reply hreply document
    · rw [List.mem_singleton.mp hreply]
      nofun

/-- The removed file is written back. -/
theorem wp_restoreRemoved {error : ServiceError} (h : Gone id content 5 d past) :
    (restoreRemoved (mirrorUnit id) (some content) error).run.wp (retirementContract uuid id) (Ends id)
      (d, past) := by
  have hrestore : restoreRemoved (mirrorUnit id) (some content) error =
      (write ⟨mirrorUnit id, content⟩ >>= fun _ ↦ throw error) := rfl
  rw [hrestore]
  refine (Program.wp_run_bind _ _ _ _).mpr (Program.wp_ask_recorded.mpr
    ⟨h.retires, fun r d' hw ↦ (Program.wp_done _ _ _).mpr ?_⟩)
  obtain ⟨files, after, hfiles, haccepted, hserves, rfl⟩ := hw
  have hfiles := hfiles h.phase
  have haccepts : Accepts uuid { d with files } ⟨mirrorUnit id, content⟩ := by
    refine ⟨h.valid, Or.inl ?_⟩
    change files (mirrorUnit id) = none
    rw [hfiles, h.absent]
  cases r with
  | error e => exact absurd haccepts haccepted
  | ok u =>
      obtain ⟨-, rfl⟩ := hserves
      have hwritten : WritesBack { d with files } (past ++ [⟨.store (.write ⟨mirrorUnit id, content⟩), .ok u⟩]) := by
        intro reply hreply document hwrite
        rcases List.mem_append.mp hreply with hreply | hreply
        · exact absurd hwrite (h.unwritten reply hreply document)
        · rw [List.mem_singleton.mp hreply] at hwrite
          cases hwrite
          rw [h.removed]
          exact List.mem_singleton.mpr rfl
      refine ⟨⟨?_, fun _ ↦ ⟨content, h.first.append _, h.valid, List.mem_append_left _ h.managed, h.runs⟩,
        ?_, hwritten⟩, fun e _ removed hremoved ↦ ?_⟩
      · rw [issued_append, h.issued]
        exact List.prefix_refl _
      · intro removed hremoved
        rw [h.removed, List.mem_singleton] at hremoved
        subst hremoved
        exact ⟨rfl, h.first.append _, h.atRest.append _⟩
      · rw [h.removed, List.mem_singleton] at hremoved
        subst hremoved
        exact Function.update_self ..

theorem wp_reloadOrRestore (h : Gone id content 4 d past) :
    (reloadOrRestore (mirrorUnit id) (some content)).run.wp (retirementContract uuid id) (Ends id)
      (d, past) := by
  unfold reloadOrRestore
  refine (Program.wp_run_bind _ _ _ _).mpr ?_
  rw [Program.run_attempt]
  refine (Program.wp_bind _ _ _ _).mpr (Program.wp_ask_recorded.mpr
    ⟨h.retires, fun r d' hw ↦ (Program.wp_done _ _ _).mpr ?_⟩)
  have hgone := h.reload hw
  cases r with
  | ok status => exact ⟨hgone.retires, nofun⟩
  | error error => exact wp_restoreRemoved hgone

theorem wp_removeFile (h : Stage id content .rechecked 4 d past)
    (hfile : d.files (mirrorUnit id) = some content) (hrest : SeenAtRest id past) :
    (removeFile (mirrorUnit id) >>= fun _ ↦ reloadOrRestore (mirrorUnit id) (some content)).run.wp
      (retirementContract uuid id) (Ends id) (d, past) := by
  refine (Program.wp_run_bind _ _ _ _).mpr (Program.wp_ask_recorded.mpr
    ⟨h.retires, fun r d' hw ↦ (Program.wp_done _ _ _).mpr ?_⟩)
  obtain ⟨files, after, hfiles, -, hserves, rfl⟩ := hw
  obtain rfl := hfiles h.phase
  cases r with
  | error e =>
      have hafter : after = d := hserves
      subst hafter
      change Ends id (.error e) (_, _)
      exact Stage.ends (h.append (q := .store (.remove (mirrorUnit id))) rfl nofun rfl) _
  | ok u =>
      rcases hserves with ⟨hnone, -⟩ | ⟨found, hfound, -, rfl⟩
      · exact absurd (hfile.symm.trans hnone) nofun
      · obtain rfl := Option.some.inj (hfile.symm.trans hfound)
        have hgone : Gone id content 4 { d with
            files := Function.update d.files (mirrorUnit id) none
            removed := d.removed ++ [(mirrorUnit id, content)]
            phase := d.phase.next (.store (.remove (mirrorUnit id))) }
            (past ++ [⟨.store (.remove (mirrorUnit id)), .ok u⟩]) :=
          { first := h.first.append _
            valid := h.valid
            managed := List.mem_append_left _ h.managed
            runs := h.runs
            issued := by
              rw [issued_append, h.issued]
              rfl
            removed := congrArg (· ++ [(mirrorUnit id, content)]) h.untouched
            absent := Function.update_self ..
            atRest := hrest.append _
            unwritten := by
              intro reply hreply document
              rcases List.mem_append.mp hreply with hreply | hreply
              · exact h.unwritten reply hreply document
              · rw [List.mem_singleton.mp hreply]
                nofun
            phase := congrArg (Phase.next · (.store (.remove (mirrorUnit id)))) h.phase }
        exact wp_reloadOrRestore hgone

/-- What is removed was found unchanged just before. -/
theorem wp_remove (h : Stage id content .rechecked 4 d past) (hfile : d.files (mirrorUnit id) = some content)
    (hrest : SeenAtRest id past) :
    (remove (mirrorUnit id)).run.wp (retirementContract uuid id) (Ends id) (d, past) := by
  unfold remove
  refine (Program.wp_run_bind _ _ _ _).mpr (Program.wp_ask_recorded.mpr
    ⟨h.retires, fun r d' hw ↦ (Program.wp_done _ _ _).mpr ?_⟩)
  have hstage := h.query (q := .store (.read (mirrorUnit id))) trivial hw
  have hfile' : d'.files (mirrorUnit id) = some content := by
    rw [(removed_of_query (q := .store (.read (mirrorUnit id))) trivial hw).2.2 h.phase, hfile]
  obtain ⟨files, after, hfiles, -, ⟨-, hanswer⟩, -⟩ := hw
  cases r with
  | error e => exact hstage.ends _
  | ok previous =>
      have hprevious : previous = some content := by
        rcases hanswer with hanswer | ⟨e, hanswer⟩
        · rw [Except.ok.inj hanswer, hfiles h.phase, hfile]
        · cases hanswer
      subst hprevious
      exact wp_removeFile hstage hfile' (hrest.append _)

/-! ## The whole call -/

/-- Before any action, nothing can have gone wrong. -/
theorem ends_of_quiet {result : Except ServiceError Unit} (hissued : issued past = [])
    (hremoved : d.removed = []) (hunwritten : ∀ reply ∈ past, ∀ document, reply.1 ≠ .store (.write document)) :
    Ends id result (d, past) := by
  refine ⟨⟨?_, fun h ↦ absurd hissued h, fun removed hmem ↦ ?_, fun reply hreply document hwrite ↦ ?_⟩,
    fun e _ removed hmem ↦ ?_⟩
  · rw [hissued]
    exact List.nil_prefix
  · rw [hremoved] at hmem
    cases hmem
  · exact absurd hwrite (hunwritten reply hreply document)
  · rw [hremoved] at hmem
    cases hmem

/-- The actions, after the checks of the file that was read first. -/
def retirementPlan (id : ConnectionId) (content : String) : Call Unit := do
  retirementAction (mirrorUnit id) content .validateRetirementLoaded
  retirementAction (mirrorUnit id) content .disable
  retirementAction (mirrorUnit id) content .stop
  let status ← action .status (some (mirrorUnit id))
  let cancelled ← isCancelled
  Program.ensure (status.any isRetired && !cancelled) (.runtime ⟨"legacy-retirement-incomplete", []⟩)
  stillHolds (mirrorUnit id) content
  remove (mirrorUnit id)

/-- The checks of the file that was read. -/
def retireFound (id : ConnectionId) (content : String) : Call Unit := do
  Program.check (validate ⟨mirrorUnit id, content⟩)
  Program.ensure ((← state (mirrorUnit id)) == .managed id &&
      (Str.lines content).any (Str.startsWith "ExecStart=\"/usr/bin/onedrive\" "))
    (.validation ⟨"legacy-retirement-ownership", []⟩)
  retirementPlan id content

theorem retireLegacyMirror_eq (id : ConnectionId) :
    retireLegacyMirror id = read (mirrorUnit id) >>= fun
      | none => pure ()
      | some content => retireFound id content := rfl

theorem wp_retirementPlan (h : Stage id content .acting 0 d past) :
    (retirementPlan id content).run.wp (retirementContract uuid id) (Ends id) (d, past) := by
  unfold retirementPlan
  refine wp_retirementAction h (by decide) rfl fun d₁ past₁ h₁ ↦ ?_
  refine wp_retirementAction h₁ (by decide) rfl fun d₂ past₂ h₂ ↦ ?_
  refine wp_retirementAction h₂ (by decide) rfl fun d₃ past₃ h₃ ↦ ?_
  refine (Program.wp_run_bind _ _ _ _).mpr (Program.wp_ask_recorded.mpr
    ⟨h₃.retires, fun answer d₄ hw₄ ↦ (Program.wp_done _ _ _).mpr ?_⟩)
  have h₄ := h₃.action rfl hw₄
  cases answer with
  | error e => exact h₄.ends _
  | ok status =>
      refine (Program.wp_liftM_bind _ _ _ _).mpr (Program.wp_ask_recorded.mpr
        ⟨h₄.retires, fun cancelled d₅ hw₅ ↦ (Program.wp_done _ _ _).mpr ?_⟩)
      have h₅ := h₄.query (q := .isCancelled) trivial hw₅
      refine wp_ensure_bind (h₅.ends _) fun hretired ↦ ?_
      obtain ⟨found, rfl, hrest⟩ : ∃ found, status = some found ∧ isRetired found = true := by
        have hany := (Bool.and_eq_true_iff.mp hretired).1
        cases status with
        | none => cases hany
        | some found => exact ⟨found, rfl, hany⟩
      have hseen : SeenAtRest id
          (past₃ ++ [⟨.action .status (some (mirrorUnit id)), .ok (some found)⟩]) :=
        ⟨found, List.mem_append_right _ List.mem_cons_self, hrest⟩
      refine wp_stillHolds h₅ fun d₆ reply h₆ hfile ↦ ?_
      exact wp_remove h₆ hfile ((hseen.append _).append _)

theorem wp_retireLegacyMirror (files : UnitName → Option String) :
    (retireLegacyMirror id).run.wp (retirementContract uuid id) (Ends id) ({ files }, []) := by
  rw [retireLegacyMirror_eq]
  have hstart : Retires id { files } [] :=
    (ends_of_quiet rfl rfl nofun : Ends id (.ok ()) ({ files }, [])).1
  rw [Program.wp_run_bind]
  refine Program.wp_ask_recorded.mpr ⟨hstart, fun answer d₁ hw₁ ↦ (Program.wp_done _ _ _).mpr ?_⟩
  obtain ⟨hremoved₁, hphase₁, -⟩ := removed_of_query (q := .store (.read (mirrorUnit id))) trivial hw₁
  have hquiet₁ (result : Except ServiceError Unit) :
      Ends id result (d₁, [⟨.store (.read (mirrorUnit id)), answer⟩]) :=
    ends_of_quiet rfl hremoved₁ (by simp)
  match answer with
  | .error e => exact hquiet₁ _
  | .ok none => exact hquiet₁ _
  | .ok (some content) =>
      rw [Program.andThen_ok]
      dsimp only
      unfold retireFound
      refine (Program.wp_run_bind _ _ _ _).mpr ?_
      rw [Program.run_check]
      refine (Program.wp_done _ _ _).mpr ?_
      cases hvalid : validate ⟨mirrorUnit id, content⟩ with
      | error e => exact hquiet₁ _
      | ok u =>
          refine (Program.wp_run_bind _ _ _ _).mpr (Program.wp_ask_recorded.mpr
            ⟨(hquiet₁ (.ok ())).1, fun answer d₂ hw₂ ↦ (Program.wp_done _ _ _).mpr ?_⟩)
          obtain ⟨hremoved₂, hphase₂, -⟩ := removed_of_query (q := .store (.state (mirrorUnit id))) trivial hw₂
          have hquiet₂ (result : Except ServiceError Unit) : Ends id result (d₂,
              [⟨.store (.read (mirrorUnit id)), .ok (some content)⟩, ⟨.store (.state (mirrorUnit id)), answer⟩]) :=
            ends_of_quiet rfl (hremoved₂.trans hremoved₁) (by simp)
          match answer with
          | .error e => exact hquiet₂ _
          | .ok found =>
              refine wp_ensure_bind (hquiet₂ _) fun howned ↦ ?_
              obtain ⟨hmanaged, hline⟩ := Bool.and_eq_true_iff.mp howned
              refine wp_retirementPlan ⟨⟨_, rfl⟩, hvalid, ?_, runsOnedrive_of_validate hvalid hline, rfl,
                hremoved₂.trans hremoved₁, by simp, ?_⟩
              · rw [eq_of_beq hmanaged]
                exact List.mem_append_right _ List.mem_cons_self
              · rw [hphase₂, hphase₁]
                rfl

/-- The unit is kept when nobody else writes unit files after the content was last checked. -/
theorem keepsUnit_steady (uuid : UuidParser) (id : ConnectionId) : KeepsUnit (steadyWorld uuid) id := by
  intro files tr rest d hexec
  obtain ⟨hend, -⟩ := Program.wp_recorded (wp_retireLegacyMirror files) hexec
  cases rest with
  | done result =>
      refine ⟨hend.1, fun e he ↦ ?_⟩
      cases he
      exact hend.2 e rfl
  | ask q next => exact ⟨(Program.wp_ask_recorded.mp hend).1, nofun⟩

/-! ## An edit before the removal -/

/-- A store and a manager that obey. -/
def obey (uuid : UuidParser) (d : Disk) : (q : ControllerRequest) → q.Answer × Disk
  | .store (.read name) => (.ok (d.files name), d)
  | .store (.state name) => (.ok (fileState uuid (d.files name)), d)
  | .store (.write _) => (.error (.io ⟨.other, ""⟩), d)
  | .store (.remove name) =>
      match d.files name with
      | none => (.ok (), d)
      | some content =>
          if fileState uuid (some content) = .managed name.connectionId then
            (.ok (), { d with
              files := Function.update d.files name none
              removed := d.removed ++ [(name, content)] })
          else (.error (.ownershipMismatch name.fileName), d)
  | .action .status _ => (.ok (some ⟨.inactive, false, "", ""⟩), d)
  | .action _ _ => (.ok none, d)
  | .isCancelled => (false, d)

theorem obey_serves (d : Disk) (q : ControllerRequest) : serves uuid d q (obey uuid d q).1 (obey uuid d q).2 := by
  match q with
  | .store (.read name) => exact ⟨rfl, Or.inl rfl⟩
  | .store (.state name) => exact ⟨rfl, Or.inl rfl⟩
  | .store (.write document) => rfl
  | .store (.remove name) =>
      cases hfile : d.files name with
      | none =>
          simp only [obey, hfile]
          exact Or.inl ⟨hfile, rfl⟩
      | some content =>
          simp only [obey, hfile]
          split_ifs with howner
          · exact Or.inr ⟨content, hfile, howner, rfl⟩
          · rfl
  | .action action unit => cases action <;> rfl
  | .isCancelled => rfl

/-- The unit is edited once its content has been checked for the last time. -/
def editedFiles (edited : String) (d : Disk) : UnitName → Option String :=
  if d.phase = .rechecked then fun _ ↦ some edited else d.files

def editingHost (uuid : UuidParser) (edited : String) : Handler ControllerRequest.Answer Disk := fun q d ↦
  ((obey uuid { d with files := editedFiles edited d } q).1,
    { (obey uuid { d with files := editedFiles edited d } q).2 with phase := d.phase.next q })

theorem editingHost_behaves (edited : String) (q : ControllerRequest) (d : Disk) :
    editingWorld uuid d q (editingHost uuid edited q d).1 (editingHost uuid edited q d).2 :=
  ⟨editedFiles edited d, _, obey_serves _ q, rfl⟩

/-- A valid unit is edited into another one of its connection, which is removed. -/
theorem eval_removed {edited : String} (hvalid : validate ⟨mirrorUnit id, content⟩ = .ok ())
    (hline : (Str.lines content).any (Str.startsWith "ExecStart=\"/usr/bin/onedrive\" ") = true)
    (howned : fileState uuid (some content) = .managed id)
    (hedited : fileState uuid (some edited) = .managed id) :
    ((retireLegacyMirror id).run.eval (editingHost uuid edited) { files := fun _ ↦ some content }).2.removed =
      [(mirrorUnit id, edited)] := by
  have hrest : isRetired ⟨.inactive, false, "", ""⟩ = true := rfl
  simp [retireLegacyMirror, retirementAction, stillHolds, read, action, isCancelled, state, remove, removeFile,
    reloadOrRestore, editingHost, obey, editedFiles, Phase.next, hvalid, hline, howned, hedited, hrest]

def sampleLegacyLines (description : String) : List String :=
  ["", "[Unit]", "Description=" ++ description, "", "[Service]", "Type=simple",
    "RuntimeDirectory=cosmic-ext-applet-mounter", "SuccessExitStatus=130 143",
    "ExecStart=\"/usr/bin/onedrive\" \"--monitor\"", "", "[Install]", "WantedBy=default.target"]

@[irreducible] def sampleLegacy (description : String) : String :=
  Str.unlines (managedMarker :: (uuidMarker ++ sampleId.text) :: sampleLegacyLines description)

theorem lines_sampleLegacy (description : String)
    (h : ∀ line ∈ managedMarker :: (uuidMarker ++ sampleId.text) :: sampleLegacyLines description, Str.IsLine line) :
    Str.lines (sampleLegacy description) =
      managedMarker :: (uuidMarker ++ sampleId.text) :: sampleLegacyLines description := by
  unfold sampleLegacy
  exact Str.lines_unlines h

theorem validate_sampleLegacy : validate ⟨mirrorUnit sampleId, sampleLegacy "Mirror"⟩ = .ok () := by
  refine validate_eq_ok (lines_sampleLegacy "Mirror" (by decide +kernel)) ?_ ?_
  · unfold sampleLegacy
    rw [Str.toList_unlines]
    decide +kernel
  · decide +kernel

theorem fileState_sampleLegacy {description : String}
    (h : ∀ line ∈ managedMarker :: (uuidMarker ++ sampleId.text) :: sampleLegacyLines description, Str.IsLine line) :
    fileState .displayed (some (sampleLegacy description)) = .managed sampleId := by
  rw [fileState, parseOwnedConnection_of_lines .displayed (lines_sampleLegacy description h)]

theorem replies_trace (h : Handler ControllerRequest.Answer Disk) (d : Disk) :
    ∃ rest, replies ((retireLegacyMirror id).run.trace h d) =
      ⟨.store (.read (mirrorUnit id)), (h (.store (.read (mirrorUnit id))) d).1⟩ :: rest := ⟨_, rfl⟩

/-- The edited file is removed, though it is not the file that was read and checked. -/
theorem edited_unit_is_removed : ¬ KeepsUnit (editingWorld .displayed) sampleId := by
  intro h
  have hexec := Program.exec_trace (editingHost .displayed (sampleLegacy "Edited")) (editingHost_behaves _)
    (retireLegacyMirror sampleId).run { files := fun _ ↦ some (sampleLegacy "Mirror") }
  have hretires := (h _ _ _ _ hexec).1
  have hlines := lines_sampleLegacy "Mirror" (by decide +kernel)
  have hremoved := @eval_removed .displayed _ _ _ validate_sampleLegacy (by rw [hlines]; decide +kernel)
    (fileState_sampleLegacy (by decide +kernel)) (@fileState_sampleLegacy "Edited" (by decide +kernel))
  obtain ⟨-, ⟨rest, hfirst⟩, -⟩ := hretires.removals (mirrorUnit sampleId, sampleLegacy "Edited")
    (hremoved ▸ List.mem_singleton.mpr rfl)
  obtain ⟨rest', hread⟩ := @replies_trace sampleId (editingHost .displayed (sampleLegacy "Edited"))
    { files := fun _ ↦ some (sampleLegacy "Mirror") }
  have hsame := (List.cons.inj (hread.symm.trans hfirst)).1
  have hcontent : sampleLegacy "Mirror" = sampleLegacy "Edited" := by
    injection hsame with _ hanswer
    exact Option.some.inj (Except.ok.inj hanswer)
  have hlines' := congrArg Str.lines hcontent
  rw [hlines, lines_sampleLegacy "Edited" (by decide +kernel)] at hlines'
  exact absurd hlines' (by decide +kernel)

end CosmicMounter.UnitController

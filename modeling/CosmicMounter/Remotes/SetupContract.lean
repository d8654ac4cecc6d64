import CosmicMounter.Interaction.Asks
import CosmicMounter.Interaction.Replay
import CosmicMounter.Remotes.Setup
import CosmicMounter.Rust.Result

/-!
# What a setup leaves behind

A setup works on the configuration of rclone, in which a command may take
effect although it reports a failure.  Google Drive and Box roll a new remote
back or say that they could not; SMB does so only after some failures.
-/

namespace CosmicMounter.Remotes

open Rust Serde Interaction

abbrev RcloneConfig := String → Option Value

abbrev SetupState := RcloneConfig × History SetupRequest.Answer

/-! ## The world of rclone -/

/-- The remote that an action on the configuration names. -/
def configured (actions : List String) : SetupRequest → Option String
  | .resolve => none
  | .run request =>
      if request.args.head? = some "config" ∧ request.args[1]?.any (· ∈ actions) then request.args[2]? else none

/-- The remote whose configuration the request may change. -/
def written (q : SetupRequest) : Option String := configured ["create", "update", "password", "delete"] q

def issues (action : String) (q : SetupRequest) : Bool := (configured [action] q).isSome

/-- The remote that a command names, also as the root of a listing. -/
def named : SetupRequest → Option String
  | .resolve => none
  | .run request =>
      if request.args.head? = some "lsf" then request.args[1]?.bind (Str.stripSuffix ":")
      else if request.args.head? = some "config" then request.args[2]?
      else none

def effective : (q : SetupRequest) → q.Answer → Bool
  | .run _, r => r.effective
  | .resolve, _ => false

def succeeded : (q : SetupRequest) → q.Answer → Bool
  | .run _, r => r.report.toOption.isSome
  | .resolve, _ => false

/-- The sections that a dump shows. -/
def shownSections (json : SerdeJson) : (q : SetupRequest) → q.Answer → Option Fields
  | .run request, r =>
      if request.args = dumpArgs then
        r.report.toOption.bind fun output ↦ (configSections json output.stdout.text).toOption
      else none
  | .resolve, _ => none

/-- Nobody else writes; a command may take effect and report a failure, but not the other way round. -/
structure RcloneWorld (json : SerdeJson) (s : RcloneConfig) (q : SetupRequest) (r : q.Answer)
    (s' : RcloneConfig) : Prop where
  frame : ∀ other, ¬(written q = some other ∧ effective q r = true) → s' other = s other
  made : ∀ remote, configured ["create", "update", "password"] q = some remote → effective q r = true →
    (s' remote).isSome
  removed : ∀ remote, configured ["delete"] q = some remote → effective q r = true → s' remote = none
  reported : (written q).isSome → succeeded q r = true → effective q r = true
  honest : ∀ sections, shownSections json q r = some sections →
    ∀ remote, (sections.get remote).isSome = (s remote).isSome

variable {json : SerdeJson} {fl : Message → String} {name : String} {s₀ : RcloneConfig} {t : SetupState}

/-- Only this remote is named, and it is deleted only if it was absent. -/
def Permitted (name : String) (s₀ : RcloneConfig) (_ : SetupState) (q : SetupRequest) : Prop :=
  (∀ remote, named q = some remote → remote = name) ∧ (issues "delete" q = true → s₀ name = none)

abbrev settingUp (json : SerdeJson) (name : String) (s₀ : RcloneConfig) : Contract SetupRequest.Answer SetupState :=
  .recorded (RcloneWorld json) (Permitted name s₀)

/-- The other remotes are as they were. -/
def Others (name : String) (s₀ s : RcloneConfig) : Prop := ∀ other, other ≠ name → s other = s₀ other

theorem Others.eq_iff {s : RcloneConfig} (h : Others name s₀ s) (habsent : s₀ name = none) :
    s = s₀ ↔ s name = none := by
  constructor
  · rintro rfl
    exact habsent
  · intro hnone
    funext other
    by_cases hother : other = name
    · rw [hother, hnone, habsent]
    · exact h other hother

/-! ## Requests about one remote -/

/-- A request about this remote that does not delete it. -/
def Ours (name : String) (q : SetupRequest) : Prop :=
  (∀ remote, named q = some remote → remote = name) ∧ issues "delete" q = false

theorem named_of_written {q : SetupRequest} {remote : String} (h : written q = some remote) :
    named q = some remote := by
  cases q with
  | resolve => cases h
  | run request =>
      rw [written, configured] at h
      split_ifs at h with hconfig
      have hlsf : request.args.head? ≠ some "lsf" := by
        rw [hconfig.1]
        decide
      rw [named, if_neg hlsf, if_pos hconfig.1, h]

theorem Others.step {s s' : RcloneConfig} {q : SetupRequest} {r : q.Answer}
    (h : Others name s₀ s) (hnamed : ∀ remote, named q = some remote → remote = name)
    (hw : RcloneWorld json s q r s') : Others name s₀ s' := by
  intro other hother
  rw [hw.frame other ?_, h other hother]
  rintro ⟨hwritten, -⟩
  exact hother (hnamed other (named_of_written hwritten))

theorem permitted_of_ours {q : SetupRequest} (h : Ours name q) (t : SetupState) : Permitted name s₀ t q := by
  refine ⟨h.1, fun hdelete ↦ ?_⟩
  rw [h.2] at hdelete
  cases hdelete

theorem wp_ours {α : Type} {p : Ask α} (hp : p.Only (Ours name)) (h : Others name s₀ t.1) :
    p.wp (settingUp json name s₀) (fun _ t' ↦ Others name s₀ t'.1) t := by
  refine Program.wp_of_only (I := fun t : SetupState ↦ Others name s₀ t.1) ?_ ?_ hp h
  · intro t q _ hq
    exact permitted_of_ours hq t
  · intro t q r t' ht hq hw
    exact Others.step ht hq.1 hw.1

theorem asks_execute {P : SetupRequest → Prop} {request : Except Message CommandRequest}
    {f : CommandError → Message} (h : ∀ command, request = .ok command → P (.run command)) :
    Asks P (execute request f) := by
  unfold execute
  cases request with
  | error e => exact asks_iff.mpr trivial
  | ok command =>
      have hrun : (run command).Only P := ⟨h command rfl, fun _ ↦ trivial⟩
      have hreport : Asks P (Program.reporting f (ExceptT.mk (run command))) := asks_reporting (asks_mk hrun)
      rw [asks_iff, Program.run_bind]
      exact hreport.only

theorem rclone_eq_ok {args : List String} {timeoutSeconds outputLimit : Nat} {command : CommandRequest}
    (h : rclone args timeoutSeconds outputLimit = .ok command) :
    command = ⟨args, timeoutSeconds * 10 ^ 9, outputLimit⟩ ∧ args.all isPlainArgument = true := by
  unfold rclone at h
  split_ifs at h with hplain
  exact ⟨(Except.ok.inj h).symm, hplain⟩

/-- The second word of a command on the configuration, and the remote after it. -/
theorem ours_config {action : String} {rest : List String} {timeout outputLimit : Nat}
    (haction : action ≠ "delete") : Ours name (.run ⟨"config" :: action :: name :: rest, timeout, outputLimit⟩) := by
  refine ⟨fun remote hremote ↦ ?_, ?_⟩
  · exact (Option.some.inj hremote).symm
  · rw [issues, configured, if_neg]
    · rfl
    · rintro ⟨-, hdelete⟩
      exact haction (by simpa using hdelete)

theorem ours_lsf {rest : List String} {timeout outputLimit : Nat} :
    Ours name (.run ⟨"lsf" :: (name ++ ":") :: rest, timeout, outputLimit⟩) := by
  refine ⟨fun remote hremote ↦ ?_, rfl⟩
  have hstrip : Str.stripSuffix ":" (name ++ ":") = some name := Str.stripSuffix_append _ _
  have hsome : Str.stripSuffix ":" (name ++ ":") = some remote := hremote
  rw [hstrip] at hsome
  exact (Option.some.inj hsome).symm

/-! ## Reading the configuration -/

def IsReading (q : SetupRequest) : Prop := q = .resolve ∨ ∃ timeout outputLimit, q = .run ⟨dumpArgs, timeout, outputLimit⟩

theorem IsReading.written {q : SetupRequest} (h : IsReading q) : written q = none := by
  rcases h with rfl | ⟨timeout, outputLimit, rfl⟩ <;> rfl

theorem IsReading.issues {q : SetupRequest} (h : IsReading q) {action : String} (haction : action ≠ "dump") :
    issues action q = false := by
  rcases h with rfl | ⟨timeout, outputLimit, rfl⟩
  · rfl
  · rw [Remotes.issues, configured, if_neg]
    · rfl
    · rintro ⟨-, hdump⟩
      exact haction (by simpa [dumpArgs, eq_comm] using hdump)

theorem IsReading.ours {q : SetupRequest} (h : IsReading q) : Ours name q := by
  refine ⟨?_, h.issues (by decide)⟩
  rcases h with rfl | ⟨timeout, outputLimit, rfl⟩
  · intro remote hremote
    cases hremote
  · intro remote hremote
    cases hremote

theorem IsReading.same {q : SetupRequest} (h : IsReading q) {s s' : RcloneConfig} {r : q.Answer}
    (hw : RcloneWorld json s q r s') : s' = s := by
  funext other
  refine hw.frame other ?_
  rw [h.written]
  rintro ⟨hnone, -⟩
  cases hnone

/-- What is known after a step that only reads. -/
structure AfterReading (t t' : SetupState) : Prop where
  same : t'.1 = t.1
  reading : ∃ segment, t'.2 = t.2 ++ segment ∧ ∀ reply ∈ segment, IsReading reply.1

theorem wp_run {request : CommandRequest} {post : Except CommandError CommandOutput → SetupState → Prop} :
    (run request).wp (settingUp json name s₀) post t ↔ Permitted name s₀ t (.run request) ∧
      ∀ (r : Outcome) s', RcloneWorld json t.1 (.run request) r s' →
        post r.report (s', t.2 ++ [⟨.run request, r⟩]) := by
  rw [run, ask, Program.request_bind, Program.wp_ask_recorded]
  rfl

theorem wp_execute {request : Except Message CommandRequest} {f : CommandError → Message}
    {post : Except Message CommandOutput → SetupState → Prop}
    (hrefused : ∀ e, request = .error e → post (.error e) t)
    (hrun : ∀ command, request = .ok command → Permitted name s₀ t (.run command) ∧
      ∀ (r : Outcome) s', RcloneWorld json t.1 (.run command) r s' →
        post (r.report.mapError f) (s', t.2 ++ [⟨.run command, r⟩])) :
    (execute request f).run.wp (settingUp json name s₀) post t := by
  cases request with
  | error e => exact hrefused e rfl
  | ok command =>
      obtain ⟨hpermitted, hnext⟩ := hrun command rfl
      exact Program.wp_ask_recorded.mpr ⟨hpermitted, fun r s' hw ↦ hnext r s' hw⟩

theorem wp_configDump (t : SetupState) :
    configDump.run.wp (settingUp json name s₀) (fun r t' ↦ AfterReading t t' ∧
      ∀ dump sections, r = .ok dump → configSections json dump = .ok sections →
        ∀ remote, (sections.get remote).isSome = (t.1 remote).isSome) t := by
  have hresolve : IsReading .resolve := .inl rfl
  rw [configDump, Program.wp_liftM_bind]
  refine Program.wp_ask_recorded.mpr ⟨permitted_of_ours hresolve.ours t, fun found s₁ hw₁ ↦ ?_⟩
  obtain rfl := hresolve.same hw₁
  have hfound : AfterReading t (t.1, t.2 ++ [⟨.resolve, found⟩]) := by
    refine ⟨rfl, _, rfl, fun reply hreply ↦ ?_⟩
    obtain rfl := List.mem_singleton.mp hreply
    exact hresolve
  cases found with
  | false => exact ⟨hfound, nofun⟩
  | true =>
      change (execute _ _ >>= _).run.wp _ _ _
      rw [Program.wp_run_bind]
      apply wp_execute
      · rintro e -
        exact ⟨hfound, nofun⟩
      · intro command hcommand
        obtain ⟨rfl, -⟩ := rclone_eq_ok hcommand
        have hdump : IsReading (.run ⟨dumpArgs, 5 * 10 ^ 9, ordinaryLimit⟩) := .inr ⟨_, _, rfl⟩
        refine ⟨permitted_of_ours hdump.ours _, fun r s₂ hw₂ ↦ ?_⟩
        obtain rfl := hdump.same hw₂
        have hafter : AfterReading t (t.1, t.2 ++ [⟨.resolve, true⟩] ++ [⟨.run ⟨dumpArgs, 5 * 10 ^ 9, ordinaryLimit⟩, r⟩]) := by
          refine ⟨rfl, [⟨.resolve, true⟩, ⟨.run ⟨dumpArgs, 5 * 10 ^ 9, ordinaryLimit⟩, r⟩], by simp, ?_⟩
          intro reply hreply
          rcases List.mem_cons.mp hreply with rfl | hreply
          · exact hresolve
          · obtain rfl := List.mem_singleton.mp hreply
            exact hdump
        cases hreport : r.report with
        | error e => exact ⟨hafter, nofun⟩
        | ok output =>
            refine ⟨hafter, fun dump sections hdump' hsections ↦ ?_⟩
            obtain rfl := Except.ok.inj hdump'
            apply hw₂.honest
            rw [shownSections, if_pos rfl, hreport, Except.toOption, Option.bind_some, hsections]
            rfl

/-- A remote has a backend exactly if it is there. -/
theorem wp_rcloneRemoteBackend (t : SetupState) :
    (rcloneRemoteBackend json name).run.wp (settingUp json name s₀) (fun r t' ↦ AfterReading t t' ∧
      ∀ backend, r = .ok backend → backend.isSome = (t.1 name).isSome) t := by
  rw [rcloneRemoteBackend, Program.wp_run_bind]
  refine Program.wp_mono ?_ (wp_configDump t)
  rintro r t' ⟨hafter, hshown⟩
  cases r with
  | error e => exact ⟨hafter, nofun⟩
  | ok dump =>
      refine ⟨hafter, fun backend hbackend ↦ ?_⟩
      unfold rcloneConfigSectionBackend at hbackend
      obtain ⟨sections, hsections, hget⟩ := Result.bind_eq_ok hbackend
      obtain rfl := Except.ok.inj hget
      rw [Option.isSome_map]
      exact hshown dump sections rfl hsections name

theorem wp_ensureRcloneRemoteNameAvailable (t : SetupState) :
    (ensureRcloneRemoteNameAvailable json name).run.wp (settingUp json name s₀) (fun r t' ↦ AfterReading t t' ∧
      (r = .ok () → t.1 name = none)) t := by
  rw [ensureRcloneRemoteNameAvailable, Program.wp_run_bind]
  refine Program.wp_mono ?_ (wp_configDump t)
  rintro r t' ⟨hafter, hshown⟩
  cases r with
  | error e => exact ⟨hafter, nofun⟩
  | ok dump =>
      rw [Program.andThen_ok, Program.wp_run_bind, Program.run_check, Program.wp_done]
      cases htaken : rcloneConfigHasSection json dump name with
      | error e => exact ⟨hafter, nofun⟩
      | ok taken =>
          rw [Program.andThen_ok, require, Program.run_ensure, Program.wp_done]
          refine ⟨hafter, fun hok ↦ ?_⟩
          unfold rcloneConfigHasSection at htaken
          obtain ⟨sections, hsections, hget⟩ := Result.bind_eq_ok htaken
          obtain rfl := Except.ok.inj hget
          have hsame := hshown dump sections rfl hsections name
          cases hsome : (sections.get name).isSome with
          | true =>
              rw [hsome] at hok
              cases hok
          | false =>
              rw [hsome] at hsame
              exact Option.isNone_iff_eq_none.mp (by simpa using hsame.symm)

/-! ## Cleaning up -/

/-- After a cleanup: nothing was run, or a deletion that did or did not take effect. -/
inductive CleanedUp (name : String) (t : SetupState) : SetupState → Prop
  | refused : CleanedUp name t t
  | deleted (timeout outputLimit : Nat) (r : Outcome) (s' : RcloneConfig)
      (hs' : s' name = if r.effective then none else t.1 name) :
      CleanedUp name t (s', t.2 ++ [⟨.run ⟨deleteArgs name, timeout, outputLimit⟩, r⟩])

theorem wp_cleanup (habsent : s₀ name = none) (h : Others name s₀ t.1) :
    (cleanupFailedRcloneRemoteCreate name).wp (settingUp json name s₀) (fun cleaned t' ↦
      Others name s₀ t'.1 ∧ CleanedUp name t t' ∧ (cleaned = true → t'.1 = s₀)) t := by
  unfold cleanupFailedRcloneRemoteCreate
  split
  · rename_i request _ hrequest
    obtain ⟨rfl, -⟩ := rclone_eq_ok hrequest
    have hnamed : ∀ remote, named (.run ⟨deleteArgs name, 10 * 10 ^ 9, ordinaryLimit⟩) = some remote → remote = name :=
      fun _ hremote ↦ (Option.some.inj hremote).symm
    refine Program.wp_ask_recorded.mpr ⟨⟨hnamed, fun _ ↦ habsent⟩, fun r s' hw ↦ ?_⟩
    have hs' : s' name = if r.effective then none else t.1 name := by
      split_ifs with heffective
      · exact hw.removed name rfl heffective
      · exact hw.frame name fun hboth ↦ heffective hboth.2
    have hothers := h.step hnamed hw
    refine ⟨hothers, .deleted _ _ r s' hs', fun hcleaned ↦ ?_⟩
    have heffective : r.effective = true := hw.reported rfl hcleaned
    rw [if_pos heffective] at hs'
    exact (hothers.eq_iff habsent).mpr hs'
  · exact ⟨h, .refused, nofun⟩

/-- The messages that leave the rest to the user. -/
def rollbackFailedKeys : List String := ["google-drive-rollback-failed", "box-rollback-failed"]

def IsRollbackFailed (e : Message) : Prop := e.key ∈ rollbackFailedKeys

instance (e : Message) : Decidable (IsRollbackFailed e) := inferInstanceAs (Decidable (e.key ∈ rollbackFailedKeys))

/-- Every other failure leaves the configuration as it was. -/
def Restored {α : Type} (s₀ : RcloneConfig) (r : Except Message α) (s' : RcloneConfig) : Prop :=
  ∀ e, r = .error e → ¬IsRollbackFailed e → s' = s₀

theorem Restored.of_error {α β : Type} {e : Message} {s' : RcloneConfig}
    (h : Restored s₀ (.error e : Except Message α) s') : Restored s₀ (.error e : Except Message β) s' :=
  fun e' he hnot ↦ h e' (congrArg Except.error (Except.error.inj he)) hnot

theorem restored_error_congr {α β : Type} {e : Message} {s' : RcloneConfig} :
    Restored s₀ (.error e : Except Message α) s' ↔ Restored s₀ (.error e : Except Message β) s' :=
  ⟨Restored.of_error, Restored.of_error⟩

theorem wp_orCleanUp {body : Call Unit} {rollbackFailed : Message → Message} (habsent : s₀ name = none)
    (h : Others name s₀ t.1) (hbody : Asks (Ours name) body) (hfailed : ∀ e, IsRollbackFailed (rollbackFailed e)) :
    (orCleanUp body name rollbackFailed).run.wp (settingUp json name s₀) (fun r t' ↦ Restored s₀ r t'.1) t := by
  rw [orCleanUp, Program.wp_run_bind, Program.run_attempt, Program.wp_bind]
  refine Program.wp_mono ?_ (wp_ours hbody.only h)
  intro r t₁ h₁
  cases r with
  | ok done => exact nofun
  | error error =>
      change (liftM (cleanupFailedRcloneRemoteCreate name) >>= _ : Call Unit).run.wp _ _ _
      rw [Program.wp_liftM_bind]
      refine Program.wp_mono ?_ (wp_cleanup habsent h₁)
      rintro cleaned t₂ ⟨-, -, hcleaned⟩ e he hnot
      cases cleaned with
      | true => exact hcleaned rfl
      | false =>
          obtain rfl := Except.error.inj he
          exact absurd (hfailed error) hnot

theorem wp_returning {α : Type} {a : α} {r : Except Message Unit} (h : Restored s₀ r t.1) :
    (Program.andThen (fun _ ↦ (pure a : Call α)) r).wp (settingUp json name s₀)
      (fun r t' ↦ s₀ name = none → Restored s₀ r t'.1) t := by
  cases r with
  | ok done => exact fun _ ↦ nofun
  | error e => exact fun _ ↦ h.of_error

theorem ours_rclone {args : List String} {timeoutSeconds outputLimit : Nat} {command : CommandRequest}
    (hargs : ∀ timeout, Ours name (.run ⟨args, timeout, outputLimit⟩))
    (h : rclone args timeoutSeconds outputLimit = .ok command) : Ours name (.run command) := by
  obtain ⟨rfl, -⟩ := rclone_eq_ok h
  exact hargs _

theorem asks_verifyAccess {provider : BrowserOAuthProvider} :
    Asks (Ours name) (verifyBrowserOauthSetupAccess provider name) :=
  (asks_check _).bind fun _ ↦ (asks_execute fun _ hcommand ↦ ours_rclone (fun _ ↦ ours_lsf) hcommand).bind
    fun _ ↦ asks_pure _

theorem asks_createInBrowser {provider : BrowserOAuthProvider} {request : Except Message CommandRequest}
    (h : ∀ command, request = .ok command → Ours name (.run command)) :
    Asks (Ours name) (createInBrowser json provider request name) :=
  (asks_execute h).bind fun _ ↦ (asks_check _).bind fun _ ↦ asks_verifyAccess

theorem asks_updateInBrowser {setup : GoogleDriveRemoteSetup} {command : CommandRequest}
    (h : googleDriveRcloneConfigUpdateRequest setup = .ok command) : Ours setup.name (.run command) := by
  unfold googleDriveRcloneConfigUpdateRequest at h
  cases hid : setup.clientId with
  | none =>
      rw [hid] at h
      cases h
  | some clientId =>
      cases hsecret : setup.clientSecret with
      | none =>
          rw [hid, hsecret] at h
          cases h
      | some clientSecret =>
          rw [hid, hsecret] at h
          exact ours_rclone (fun _ ↦ ours_config (by decide)) h

/-! ## Google Drive and Box -/

theorem wp_googleDrive (setup : GoogleDriveRemoteSetup) (action : GoogleDriveRemoteAction) :
    (applyGoogleDriveRcloneRemoteWith json fl setup action).run.wp (settingUp json setup.name s₀)
      (fun r t' ↦ s₀ setup.name = none → Restored s₀ r t'.1) (s₀, []) := by
  rw [applyGoogleDriveRcloneRemoteWith, Program.wp_run_bind]
  refine Program.wp_mono ?_ (wp_rcloneRemoteBackend (s₀, []))
  rintro r ⟨s₁, history⟩ ⟨hafter, hbackend⟩
  obtain rfl : s₁ = s₀ := hafter.same
  cases r with
  | error e => exact fun _ _ _ _ ↦ rfl
  | ok backend =>
      have hpresent := hbackend backend rfl
      rw [Program.andThen_ok]
      match action, backend with
      | .create, none =>
          have habsent : s₁ setup.name = none := Option.isNone_iff_eq_none.mp (by simpa using hpresent.symm)
          dsimp only
          rw [Program.wp_run_bind]
          refine Program.wp_mono ?_ (wp_orCleanUp habsent (fun _ _ ↦ rfl) (asks_createInBrowser ?_) ?_)
          · exact fun _ _ hr ↦ wp_returning hr
          · intro command hcommand
            exact ours_rclone (fun _ ↦ ours_config (by decide)) hcommand
          · intro e
            exact List.mem_cons_self
      | .create, some backend => exact fun _ _ _ _ ↦ rfl
      | .update, none => exact fun _ _ _ _ ↦ rfl
      | .update, some backend =>
          have hask : Asks (Ours setup.name) (do
              let output ← execute (googleDriveRcloneConfigUpdateRequest setup)
                (browserOauthSetupCommandError .googleDrive "ui-app-google-drive-oauth-update")
              Program.check (ensureBrowserOauthCompleted json .googleDrive output)
              verifyBrowserOauthSetupAccess .googleDrive setup.name
              return ({ remoteName := setup.name, updated := true } : GoogleDriveRemoteApplyResult)) :=
            (asks_execute fun _ hcommand ↦ asks_updateInBrowser hcommand).bind fun _ ↦
              (asks_check _).bind fun _ ↦ asks_verifyAccess.bind fun _ ↦ asks_pure _
          dsimp only
          refine Program.wp_mono ?_ (wp_ours (t := (s₁, history))
            ((asks_ensure _ _).bind fun _ ↦ (asks_ensure _ _).bind fun _ ↦ hask).only (fun _ _ ↦ rfl))
          intro r t' _ habsent
          rw [show ((s₁, []) : SetupState).1 setup.name = none from habsent] at hpresent
          cases hpresent

theorem wp_box (setup : BoxRemoteSetup) :
    (createBoxRcloneRemoteWith json fl setup).run.wp (settingUp json setup.name s₀)
      (fun r t' ↦ s₀ setup.name = none → Restored s₀ r t'.1) (s₀, []) := by
  rw [createBoxRcloneRemoteWith, Program.wp_run_bind]
  refine Program.wp_mono ?_ (wp_ensureRcloneRemoteNameAvailable (s₀, []))
  rintro r ⟨s₁, history⟩ ⟨hafter, havailable⟩
  obtain rfl : s₁ = s₀ := hafter.same
  cases r with
  | error e => exact fun _ _ _ _ ↦ rfl
  | ok done =>
      rw [Program.andThen_ok, Program.wp_run_bind]
      refine Program.wp_mono ?_ (wp_orCleanUp (havailable rfl) (fun _ _ ↦ rfl) (asks_createInBrowser ?_) ?_)
      · exact fun _ _ hr ↦ wp_returning hr
      · intro command hcommand
        exact ours_rclone (fun _ ↦ ours_config (by decide)) hcommand
      · intro e
        exact List.mem_cons_of_mem _ List.mem_cons_self

/-! ## SMB -/

/-- Nothing goes wrong after the remote was created, and a creation that took
effect although it failed is taken back. -/
@[mk_iff] structure RollsBack (setup : SmbRemoteSetup) (history : History SetupRequest.Answer) : Prop where
  plain : ∀ reply ∈ history, issues "create" reply.1 = true → succeeded reply.1 reply.2 = true →
    ∀ password, setup.password = some password → isPlainArgument password = true
  password : ∀ reply ∈ history, issues "password" reply.1 = true → succeeded reply.1 reply.2 = true
  removed : ∀ reply ∈ history, issues "create" reply.1 = true → succeeded reply.1 reply.2 = false →
    effective reply.1 reply.2 = true →
      ∃ reply' ∈ history, issues "delete" reply'.1 = true ∧ effective reply'.1 reply'.2 = true

section Smb

variable {setup : SmbRemoteSetup} {history segment : History SetupRequest.Answer}

theorem rollsBack_append (hreading : ∀ reply ∈ segment, IsReading reply.1) :
    RollsBack setup (segment ++ history) ↔ RollsBack setup history := by
  have hsegment : ∀ reply ∈ segment, ∀ action, action ≠ "dump" → issues action reply.1 = false :=
    fun reply hreply action haction ↦ (hreading reply hreply).issues haction
  constructor
  · intro h
    refine ⟨fun reply hreply ↦ h.plain reply (List.mem_append_right _ hreply),
      fun reply hreply ↦ h.password reply (List.mem_append_right _ hreply), fun reply hreply hcreate hfailed heffective ↦ ?_⟩
    obtain ⟨reply', hreply', hdelete, heffective'⟩ :=
      h.removed reply (List.mem_append_right _ hreply) hcreate hfailed heffective
    rcases List.mem_append.mp hreply' with hread | hlater
    · rw [hsegment reply' hread "delete" (by decide)] at hdelete
      cases hdelete
    · exact ⟨reply', hlater, hdelete, heffective'⟩
  · intro h
    refine ⟨fun reply hreply hcreate ↦ ?_, fun reply hreply hpassword ↦ ?_, fun reply hreply hcreate hfailed heffective ↦ ?_⟩
    · rcases List.mem_append.mp hreply with hread | hlater
      · rw [hsegment reply hread "create" (by decide)] at hcreate
        cases hcreate
      · exact h.plain reply hlater hcreate
    · rcases List.mem_append.mp hreply with hread | hlater
      · rw [hsegment reply hread "password" (by decide)] at hpassword
        cases hpassword
      · exact h.password reply hlater hpassword
    · rcases List.mem_append.mp hreply with hread | hlater
      · rw [hsegment reply hread "create" (by decide)] at hcreate
        cases hcreate
      · obtain ⟨reply', hreply', hdelete⟩ := h.removed reply hlater hcreate hfailed heffective
        exact ⟨reply', List.mem_append_right _ hreply', hdelete⟩

theorem rollsBack_reading (hreading : ∀ reply ∈ segment, IsReading reply.1) : RollsBack setup segment := by
  have hnil : RollsBack setup [] := ⟨nofun, nofun, nofun⟩
  rw [← List.append_nil segment, rollsBack_append hreading]
  exact hnil

/-- A request that creates a remote. -/
structure Creates (name : String) (q : SetupRequest) : Prop where
  plain : isPlainArgument name = true
  ours : Ours name q
  create : configured ["create", "update", "password"] q = some name
  written : (written q).isSome
  issues : issues "create" q = true
  noPassword : Remotes.issues "password" q = false

theorem creates_of_request {command : CommandRequest} (h : smbRcloneConfigCreateRequest setup = .ok command) :
    Creates setup.name (.run command) := by
  unfold smbRcloneConfigCreateRequest at h
  cases hhost : setup.host with
  | none =>
      rw [hhost] at h
      cases h
  | some host =>
      rw [hhost] at h
      obtain ⟨rfl, hall⟩ := rclone_eq_ok h
      exact ⟨List.all_eq_true.mp hall _ (by simp), ours_config (by decide), rfl, rfl, rfl, rfl⟩

variable {q q' : SetupRequest} {r : q.Answer} {r' : q'.Answer}

theorem rollsBack_created (hq : Creates name q) (hok : succeeded q r = true) :
    RollsBack setup [⟨q, r⟩] ↔ ∀ password, setup.password = some password → isPlainArgument password = true := by
  simp [rollsBack_iff, hq.issues, hq.noPassword, hok]

theorem rollsBack_password (hq : Creates name q) (hok : succeeded q r = true)
    (hplain : ∀ password, setup.password = some password → isPlainArgument password = true)
    (hpassword : issues "password" q' = true) (hcreate : issues "create" q' = false) :
    RollsBack setup [⟨q, r⟩, ⟨q', r'⟩] ↔ succeeded q' r' = true := by
  simp [rollsBack_iff, hq.issues, hq.noPassword, hok, hpassword, hcreate]
  exact fun _ ↦ hplain

theorem rollsBack_failed (hq : Creates name q) (hfailed : succeeded q r = false) :
    RollsBack setup [⟨q, r⟩] ↔ effective q r = false := by
  have hdelete := hq.ours.2
  simp [rollsBack_iff, hq.issues, hq.noPassword, hfailed, hdelete]

theorem rollsBack_deleted (hq : Creates name q) (hfailed : succeeded q r = false) (hdelete : issues "delete" q' = true)
    (hcreate : issues "create" q' = false) (hpassword : issues "password" q' = false) :
    RollsBack setup [⟨q, r⟩, ⟨q', r'⟩] ↔ (effective q r = true → effective q' r' = true) := by
  have hkept := hq.ours.2
  simp [rollsBack_iff, hq.issues, hq.noPassword, hfailed, hdelete, hcreate, hpassword, hkept]

theorem isRollbackFailed_command (stage : String) (e : CommandError) :
    ¬IsRollbackFailed (rcloneSetupCommandError stage e) := by
  unfold IsRollbackFailed
  cases e with
  | nonZero command code stdout stderr =>
      unfold rcloneSetupCommandError
      dsimp only
      split_ifs <;> simp [rollbackFailedKeys]
  | _ => simp [rcloneSetupCommandError, rollbackFailedKeys]

theorem isRollbackFailed_rclone {args : List String} {timeoutSeconds outputLimit : Nat} {e : Message}
    (h : rclone args timeoutSeconds outputLimit = .error e) : ¬IsRollbackFailed e := by
  unfold rclone at h
  split_ifs at h
  obtain rfl := Except.error.inj h
  decide

theorem isRollbackFailed_create {e : Message} (h : smbRcloneConfigCreateRequest setup = .error e) :
    ¬IsRollbackFailed e := by
  unfold smbRcloneConfigCreateRequest at h
  cases hhost : setup.host with
  | none =>
      rw [hhost] at h
      obtain rfl := Except.error.inj h
      decide
  | some host =>
      rw [hhost] at h
      exact isRollbackFailed_rclone h

theorem restored_error_iff {α : Type} {e : Message} {s' : RcloneConfig} (h : ¬IsRollbackFailed e) :
    Restored s₀ (.error e : Except Message α) s' ↔ s' = s₀ := by
  constructor
  · exact fun hrestored ↦ hrestored e rfl h
  · rintro hsame e' - -
    exact hsame

/-- The creation is done, or its failure has been answered. -/
theorem wp_createSmbRemote (habsent : s₀ setup.name = none) (hreading : ∀ reply ∈ segment, IsReading reply.1) :
    (createSmbRemote setup).run.wp (settingUp json setup.name s₀) (fun r t' ↦ match r with
      | .error e => Restored s₀ (.error e : Except Message Unit) t'.1 ↔ RollsBack setup t'.2
      | .ok () => (t'.1 setup.name).isSome ∧ ∃ q r, Creates setup.name q ∧
          succeeded q r = true ∧ t'.2 = segment ++ [⟨q, r⟩]) (s₀, segment) := by
  rw [createSmbRemote, Program.wp_run_bind, Program.run_check, Program.wp_done]
  cases hrequest : smbRcloneConfigCreateRequest setup with
  | error e => exact iff_of_true (fun _ _ _ ↦ rfl) (rollsBack_reading hreading)
  | ok command =>
      have hq := creates_of_request hrequest
      rw [Program.andThen_ok, Program.wp_liftM_bind, wp_run]
      refine ⟨permitted_of_ours hq.ours _, fun r s₁ hw ↦ ?_⟩
      have hothers : Others setup.name s₀ s₁ := Others.step (fun _ _ ↦ rfl) hq.ours.1 hw
      have hs₁ : s₁ setup.name = none ↔ r.effective = false := by
        cases heffective : r.effective with
        | true =>
            have hmade := hw.made setup.name hq.create heffective
            simp [Option.isSome_iff_ne_none.mp hmade]
        | false =>
            have hsame := hw.frame setup.name fun hboth ↦ by
              rw [effective, heffective] at hboth
              cases hboth.2
            simp [hsame, habsent]
      cases hreport : r.report with
      | ok output =>
          have hok : succeeded (.run command) r = true := by
            rw [succeeded, hreport]
            rfl
          have heffective : r.effective = true := hw.reported hq.written hok
          exact ⟨hw.made setup.name hq.create heffective, .run command, r, hq, hok, rfl⟩
      | error error =>
          have hfailed : succeeded (.run command) r = false := by
            rw [succeeded, hreport]
            rfl
          dsimp only
          rw [Program.wp_liftM_bind]
          refine Program.wp_mono ?_ (wp_cleanup habsent hothers)
          rintro cleaned t₂ ⟨hothers', hcleaned, -⟩
          change Restored s₀ _ t₂.1 ↔ RollsBack setup t₂.2
          rw [restored_error_iff (isRollbackFailed_command _ _), hothers'.eq_iff habsent]
          cases hcleaned with
          | refused =>
              rw [rollsBack_append hreading, rollsBack_failed hq hfailed]
              exact hs₁
          | deleted timeout outputLimit r' s' hs' =>
              rw [List.append_assoc, rollsBack_append hreading]
              refine Iff.trans ?_ (rollsBack_deleted hq hfailed rfl rfl rfl).symm
              change s' setup.name = none ↔ (r.effective = true → r'.effective = true)
              rw [hs']
              cases hdeleted : r'.effective with
              | true => simp
              | false => simpa using hs₁

theorem restored_ok {α : Type} {a : α} {s' : RcloneConfig} : Restored s₀ (.ok a : Except Message α) s' := nofun

theorem passwordRequest_eq {password : String} (h : setup.password = some password) :
    smbRcloneConfigPasswordRequest setup =
      rclone ["config", "password", setup.name, "pass", password] 30 ordinaryLimit := by
  unfold smbRcloneConfigPasswordRequest
  rw [h]

theorem wp_setSmbPassword (habsent : s₀ setup.name = none) (hreading : ∀ reply ∈ segment, IsReading reply.1)
    (hsome : (t.1 setup.name).isSome) (hq : Creates setup.name q) (hok : succeeded q r = true)
    (ht : t.2 = segment ++ [⟨q, r⟩]) :
    (setSmbPassword setup).run.wp (settingUp json setup.name s₀)
      (fun result t' ↦ Restored s₀ result t'.1 ↔ RollsBack setup t'.2) t := by
  have hchanged : ∀ s' : RcloneConfig, (s' setup.name).isSome → s' ≠ s₀ := by
    rintro s' hs' rfl
    rw [habsent] at hs'
    cases hs'
  unfold setSmbPassword
  cases hpassword : setup.password with
  | none =>
      refine iff_of_true restored_ok ?_
      rw [ht, rollsBack_append hreading, rollsBack_created hq hok, hpassword]
      exact nofun
  | some password =>
      let command : CommandRequest :=
        ⟨["config", "password", setup.name, "pass", password], 30 * 10 ^ 9, ordinaryLimit⟩
      rw [if_pos Option.isSome_some, Program.wp_run_bind]
      apply wp_execute
      · intro e he
        rw [passwordRequest_eq hpassword] at he
        change Restored s₀ _ t.1 ↔ _
        rw [restored_error_iff (isRollbackFailed_rclone he), ht, rollsBack_append hreading,
          rollsBack_created hq hok]
        refine iff_of_false (hchanged t.1 hsome) fun hplain ↦ ?_
        have hall : ["config", "password", setup.name, "pass", password].all isPlainArgument = true := by
          have hwords : ["config", "password", "pass"].all isPlainArgument = true := by decide
          simp only [List.all_cons, List.all_nil, Bool.and_true, Bool.and_eq_true] at hwords ⊢
          exact ⟨hwords.1, hwords.2.1, hq.plain, hwords.2.2, hplain password hpassword⟩
        rw [rclone, if_pos hall] at he
        cases he
      · intro command' hcommand
        rw [passwordRequest_eq hpassword] at hcommand
        obtain ⟨rfl, hall⟩ := rclone_eq_ok hcommand
        have hplain : ∀ word, setup.password = some word → isPlainArgument word = true := by
          intro word hword
          obtain rfl := Option.some.inj (hpassword.symm.trans hword)
          exact List.all_eq_true.mp hall _ (by simp)
        have hours : Ours setup.name (.run command) := ours_config (by decide)
        refine ⟨permitted_of_ours hours t, fun r' s' hw ↦ ?_⟩
        have hs' : (s' setup.name).isSome := by
          cases heffective : r'.effective with
          | true => exact hw.made setup.name rfl heffective
          | false =>
              rw [hw.frame setup.name fun hboth ↦ by
                rw [effective, heffective] at hboth
                cases hboth.2]
              exact hsome
        have hroll : RollsBack setup (t.2 ++ [⟨.run command, r'⟩]) ↔ r'.report.toOption.isSome = true := by
          rw [ht, List.append_assoc, rollsBack_append hreading]
          exact rollsBack_password hq hok hplain rfl rfl
        cases hreport : r'.report with
        | ok output =>
            refine iff_of_true restored_ok (hroll.mpr ?_)
            rw [hreport]
            rfl
        | error e =>
            rw [hreport] at hroll
            change Restored s₀ _ s' ↔ _
            rw [hroll, restored_error_iff (isRollbackFailed_command _ _)]
            exact iff_of_false (hchanged s' hs') nofun

theorem asks_setSmbPassword : Asks (Ours setup.name) (setSmbPassword setup) := by
  unfold setSmbPassword
  cases hpassword : setup.password with
  | none => exact asks_pure _
  | some password =>
      refine (asks_execute fun command hcommand ↦ ?_).bind fun _ ↦ asks_pure _
      rw [passwordRequest_eq hpassword] at hcommand
      exact ours_rclone (fun _ ↦ ours_config (by decide)) hcommand

theorem asks_updateSmbRemote : Asks (Ours setup.name) (updateSmbRemote setup) := by
  unfold updateSmbRemote
  refine (asks_ensure _ _).bind fun _ ↦ ?_
  split_ifs
  · exact (asks_execute fun command hcommand ↦
      ours_rclone (fun _ ↦ ours_config (by decide)) hcommand).bind fun _ ↦ asks_pure _
  · exact asks_pure _

theorem wp_smb (setup : SmbRemoteSetup) :
    (createSmbRcloneRemoteWith json setup).run.wp (settingUp json setup.name s₀)
      (fun result t' ↦ s₀ setup.name = none → (Restored s₀ result t'.1 ↔ RollsBack setup t'.2)) (s₀, []) := by
  rw [createSmbRcloneRemoteWith, Program.wp_run_bind]
  refine Program.wp_mono ?_ (wp_rcloneRemoteBackend (s₀, []))
  rintro r ⟨s₁, history⟩ ⟨hafter, hbackend⟩
  obtain rfl : s₁ = s₀ := hafter.same
  obtain ⟨segment, rfl, hreading⟩ : ∃ segment, history = segment ∧ ∀ reply ∈ segment, IsReading reply.1 := by
    obtain ⟨segment, hsegment, hreading⟩ := hafter.reading
    exact ⟨segment, hsegment, hreading⟩
  cases r with
  | error e => exact fun _ ↦ iff_of_true (fun _ _ _ ↦ rfl) (rollsBack_reading hreading)
  | ok backend =>
      have hpresent := hbackend backend rfl
      rw [Program.andThen_ok]
      cases backend with
      | none =>
          have habsent : s₁ setup.name = none := Option.isNone_iff_eq_none.mp (by simpa using hpresent.symm)
          dsimp only
          rw [Program.wp_run_bind]
          refine Program.wp_mono ?_ (wp_createSmbRemote habsent hreading)
          rintro r t₁ hcreated
          cases r with
          | error e =>
              exact fun _ ↦ restored_error_congr.trans hcreated
          | ok done =>
              obtain ⟨hsome, q, r, hq, hok, ht⟩ := hcreated
              rw [Program.andThen_ok, Program.wp_run_bind]
              refine Program.wp_mono ?_ (wp_setSmbPassword habsent hreading hsome hq hok ht)
              intro result t₂ hroll
              cases result with
              | error e => exact fun _ ↦ restored_error_congr.trans hroll
              | ok set => exact fun _ ↦ iff_of_true restored_ok (hroll.mp restored_ok)
      | some backend =>
          dsimp only
          refine Program.wp_mono ?_ (wp_ours (t := (s₁, history)) ((asks_ensure _ _).bind fun _ ↦
            asks_updateSmbRemote.bind fun _ ↦ asks_setSmbPassword.bind fun _ ↦ asks_pure _).only (fun _ _ ↦ rfl))
          intro r t' _ habsent
          rw [show ((s₁, []) : SetupState).1 setup.name = none from habsent] at hpresent
          cases hpresent

end Smb

/-! ## Whole runs -/

/-- A run names only the new remote and deletes none that was there; of those that
find it absent, exactly these failures leave the configuration as it was. -/
structure RestoresWhen {α : Type} (json : SerdeJson) (name : String) (program : Call α)
    (condition : History SetupRequest.Answer → Prop) : Prop where
  named : ∀ s₀ trace rest s', Exec (RcloneWorld json) program.run s₀ trace rest s' →
    ∀ moment ∈ trace, ∀ remote, named moment.request = some remote → remote = name
  deletes : ∀ s₀ trace rest s', Exec (RcloneWorld json) program.run s₀ trace rest s' → (s₀ name).isSome →
    ∀ moment ∈ trace, issues "delete" moment.request = false
  restores : ∀ s₀ trace result s', Exec (RcloneWorld json) program.run s₀ trace (.done result) s' →
    s₀ name = none → (Restored s₀ result s' ↔ condition (replies trace))

theorem restoresWhen_of_wp {α : Type} {program : Call α} {condition : History SetupRequest.Answer → Prop}
    (h : ∀ s₀, program.run.wp (settingUp json name s₀)
      (fun result t' ↦ s₀ name = none → (Restored s₀ result t'.1 ↔ condition t'.2)) (s₀, [])) :
    RestoresWhen json name program condition := by
  have hpermitted : ∀ s₀ trace rest s', Exec (RcloneWorld json) program.run s₀ trace rest s' →
      ∀ moment ∈ trace, ∃ t, Permitted name s₀ t moment.request := by
    intro s₀ trace rest s' hexec moment hmoment
    obtain ⟨before, after, rfl⟩ := List.append_of_mem hmoment
    exact ⟨_, (Program.wp_recorded (h s₀) hexec).2 before moment after rfl⟩
  refine ⟨?_, ?_, ?_⟩
  · intro s₀ trace rest s' hexec moment hmoment
    obtain ⟨t, ht⟩ := hpermitted s₀ trace rest s' hexec moment hmoment
    exact ht.1
  · intro s₀ trace rest s' hexec hpresent moment hmoment
    obtain ⟨t, ht⟩ := hpermitted s₀ trace rest s' hexec moment hmoment
    refine Bool.eq_false_iff.mpr fun hdelete ↦ ?_
    rw [ht.2 hdelete] at hpresent
    cases hpresent
  · intro s₀ trace result s' hexec
    exact (Program.wp_recorded (h s₀) hexec).1

theorem setups_restore_iff (json : SerdeJson) (fl : Message → String) :
    (∀ setup action, RestoresWhen json setup.name (applyGoogleDriveRcloneRemoteWith json fl setup action) fun _ ↦ True) ∧
    (∀ setup, RestoresWhen json setup.name (createBoxRcloneRemoteWith json fl setup) fun _ ↦ True) ∧
    ∀ setup, RestoresWhen json setup.name (createSmbRcloneRemoteWith json setup) (RollsBack setup) := by
  refine ⟨fun setup action ↦ ?_, fun setup ↦ ?_, fun setup ↦ ?_⟩
  · refine restoresWhen_of_wp fun s₀ ↦ Program.wp_mono ?_ (wp_googleDrive setup action)
    exact fun _ _ h habsent ↦ iff_of_true (h habsent) trivial
  · refine restoresWhen_of_wp fun s₀ ↦ Program.wp_mono ?_ (wp_box setup)
    exact fun _ _ h habsent ↦ iff_of_true (h habsent) trivial
  · exact restoresWhen_of_wp fun s₀ ↦ wp_smb setup

/-! ## A refused password -/

def sampleSmb : SmbRemoteSetup := ⟨"nas", some "nas.local", none, none, some "secret"⟩

/-- A parser that knows the dump of an empty configuration. -/
def emptyJson : SerdeJson where
  fromStr text := if text = "\x7b\x7d" then .ok (.object .nil) else .error "expected value at line 1 column 1"
  toString _ := "null"

def printed (text : String) : CommandOutput := ⟨⟨text, false, false⟩, ⟨"", false, false⟩⟩

def refused : CommandError := .nonZero "rclone" (some 1) ⟨"", false, false⟩ ⟨"", false, false⟩

def sampleHistory : History SetupRequest.Answer :=
  [⟨.resolve, true⟩, ⟨.run ⟨dumpArgs, 5 * 10 ^ 9, ordinaryLimit⟩, ⟨.ok (printed "\x7b\x7d"), true⟩⟩,
    ⟨.run ⟨["config", "create", "nas", "smb", "host", "nas.local", "--non-interactive"], 30 * 10 ^ 9, ordinaryLimit⟩,
      ⟨.ok (printed ""), true⟩⟩,
    ⟨.run ⟨["config", "password", "nas", "pass", "secret"], 30 * 10 ^ 9, ordinaryLimit⟩, ⟨.error refused, false⟩⟩]

theorem replay_sampleSmb : (createSmbRcloneRemoteWith emptyJson sampleSmb).run.replay sampleHistory =
    some (.error (rcloneSetupCommandError "ui-app-config-password" refused)) := by
  rfl

def onlyNas : RcloneConfig := fun other ↦ if other = "nas" then some .null else none

/-- The creation takes effect, the password does not. -/
theorem answers_sampleHistory : World.Answers (RcloneWorld emptyJson) (fun _ ↦ none) sampleHistory onlyNas := by
  have hpassword : World.Answers (RcloneWorld emptyJson) onlyNas (sampleHistory.drop 3) onlyNas :=
    .cons ⟨fun _ _ ↦ rfl, nofun, nofun, nofun, nofun⟩ (.nil _)
  have hcreate : World.Answers (RcloneWorld emptyJson) (fun _ ↦ none) (sampleHistory.drop 2) onlyNas := by
    refine .cons ⟨?_, ?_, nofun, fun _ _ ↦ rfl, nofun⟩ hpassword
    · intro other hother
      exact if_neg fun hnas ↦ hother ⟨congrArg some hnas.symm, rfl⟩
    · intro remote hremote _
      obtain rfl : "nas" = remote := Option.some.inj hremote
      rfl
  have hdump : World.Answers (RcloneWorld emptyJson) (fun _ ↦ none) (sampleHistory.drop 1) onlyNas := by
    refine .cons ⟨fun _ _ ↦ rfl, nofun, nofun, nofun, ?_⟩ hcreate
    intro sections hsections remote
    obtain rfl : Fields.nil = sections := Option.some.inj hsections
    rfl
  exact .cons ⟨fun _ _ ↦ rfl, nofun, nofun, nofun, nofun⟩ hdump

/-- A password that rclone refuses leaves the new remote behind, and nothing says so. -/
theorem failed_password_leaves_remote :
    ¬RestoresWhen emptyJson sampleSmb.name (createSmbRcloneRemoteWith emptyJson sampleSmb) fun _ ↦ True := by
  intro h
  obtain ⟨trace, hexec, -⟩ := Program.exec_of_replay replay_sampleSmb answers_sampleHistory
  have hrestored := (h.restores _ trace _ _ hexec rfl).mpr trivial
  have hsame := hrestored _ rfl (isRollbackFailed_command _ _)
  cases congrFun hsame "nas"

end CosmicMounter.Remotes

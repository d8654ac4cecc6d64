import CosmicMounter.Microsoft.Creation

/-!
# All or nothing

Both guided setups end with a verified remote or with the configuration that
they began with, unless they ask the user to clean up.
-/

namespace CosmicMounter.Microsoft

open Rust Serde Interaction

variable {json : ConfigJson} {name : String} {s₀ : Configuration} {remote : NewRemote} {t : ConfigState}

/-- What holds after the questions, before a failure is rolled back. -/
def Configured {ε α : Type} (json : ConfigJson) (name : String) (s₀ : Configuration)
    (verified : α → History MicrosoftRequest.Answer → Prop) (r : Except ε α × NewRemote)
    (t : ConfigState) : Prop :=
  Owned json name s₀ r.2 t ∧ ∀ a, r.1 = .ok a → verified a t.2

/-- A failure that does not ask for cleaning up has changed nothing. -/
def AllOrNothing {ε α : Type} (s₀ : Configuration) (needsCleanup : ε → Prop)
    (verified : α → History MicrosoftRequest.Answer → Prop) : Except ε α → ConfigState → Prop
  | .ok a, t => verified a t.2
  | .error e, t => needsCleanup e ∨ t.1 = s₀

/-! ## OneDrive -/

section OneDrive

variable {sha256Hex : String → String} {setup : RemoteSetup} {cancel : Token}

theorem verified_of_finished {response : Value} {selected : Bool} {verified : VerifiedRemote}
    {segment : History MicrosoftRequest.Answer}
    (h : (examineSetup json sha256Hex setup cancel response selected).run.replay segment =
      some (.ok (.finished verified))) :
    ∃ first second, segment = first ++ second ∧
      (verifySetup json sha256Hex setup cancel).run.replay first = some (.ok verified) := by
  unfold examineSetup at h
  obtain ⟨first, second, ⟨⟩, rfl, hfirst, h₁⟩ := Program.replay_run_bind h
  obtain ⟨rfl, -⟩ := Program.replay_ensure hfirst
  obtain ⟨third, fourth, state, rfl, hthird, h₂⟩ := Program.replay_run_bind h₁
  obtain ⟨rfl, -⟩ := Program.replay_check hthird
  split_ifs at h₂
  · obtain ⟨finished, fifth, found, rfl, hfinished, h₃⟩ := Program.replay_run_bind h₂
    obtain ⟨rfl, hstep⟩ := Program.replay_done h₃
    obtain rfl := SetupStep.finished.inj (Except.ok.inj hstep)
    unfold finishSetup at hfinished
    obtain ⟨verification, sixth, found', rfl, hverified, h₄⟩ := Program.replay_run_bind hfinished
    obtain ⟨seventh, eighth, ⟨⟩, rfl, -, h₅⟩ := Program.replay_run_bind h₄
    obtain ⟨ninth, tenth, ⟨⟩, rfl, -, h₆⟩ := Program.replay_run_bind h₅
    obtain ⟨rfl, hfound⟩ := Program.replay_done h₆
    obtain rfl := Except.ok.inj hfound
    exact ⟨verification, seventh ++ ninth, by simp, hverified⟩
  · obtain ⟨answered, fifth, found, rfl, -, h₃⟩ := Program.replay_run_bind h₂
    cases Except.ok.inj (Program.replay_done h₃).2

abbrev SetupConfigured (json : ConfigJson) (sha256Hex : String → String) (setup : RemoteSetup)
    (cancel : Token) (s₀ : Configuration) :
    Except OneDriveError VerifiedRemote × NewRemote → ConfigState → Prop :=
  Configured json setup.remoteName s₀ (VerifiedLast (verifySetup json sha256Hex setup cancel))

/-- The loop over the questions, by induction on the questions that are left. -/
theorem wp_configure (n : Nat) (response : Value) (selected : Bool)
    (h : Owned json setup.remoteName s₀ remote t) :
    (configure json sha256Hex setup cancel n response selected remote).wp
      (creation json setup.remoteName s₀) (SetupConfigured json sha256Hex setup cancel s₀) t := by
  induction n generalizing response selected remote t with
  | zero => exact ⟨h, nofun⟩
  | succ n ih =>
      rw [configure, Program.wp_bind]
      refine Program.wp_mono ?_ (wp_reading (asks_examineSetup response selected).only t)
      intro step t₁ hread
      have h₁ := h.reading hread
      match step with
      | .error e => exact ⟨h₁, nofun⟩
      | .ok (.finished verified) =>
          refine ⟨h₁, fun a ha ↦ ?_⟩
          obtain rfl := Except.ok.inj ha
          exact hread.verifiedLast fun segment ↦ verified_of_finished
      | .ok (.answer state answer selected') =>
          rw [Program.wp_bind]
          refine Program.wp_mono ?_ (wp_continueWith h₁)
          rintro ⟨next, remote'⟩ t₂ h₂
          cases next with
          | error e => exact ⟨h₂, nofun⟩
          | ok response' => exact ih response' selected' h₂

theorem wp_createRemote (h : Owned json setup.remoteName s₀ remote t) :
    (createRemote json sha256Hex setup cancel remote).wp (creation json setup.remoteName s₀)
      (SetupConfigured json sha256Hex setup cancel s₀) t := by
  rw [createRemote, Program.wp_bind]
  refine Program.wp_mono ?_ (wp_create h)
  rintro ⟨response, remote'⟩ t₁ h₁
  cases response with
  | error e => exact ⟨h₁, nofun⟩
  | ok response => exact wp_configure 12 response false h₁

theorem wp_settle {result : Except OneDriveError VerifiedRemote × NewRemote}
    (h : SetupConfigured json sha256Hex setup cancel s₀ result t)
    (hname : validateRemoteName setup.remoteName = .ok ()) :
    (settle json result.2 result.1).run.wp (creation json setup.remoteName s₀)
      (AllOrNothing s₀ (· = .cleanupRequired) (VerifiedLast (verifySetup json sha256Hex setup cancel))) t := by
  obtain ⟨result, remote⟩ := result
  cases result with
  | ok verified => exact h.2 verified rfl
  | error e =>
      rw [settle, Program.wp_run_bind, Program.run_reporting, Program.wp_bind]
      refine Program.wp_mono ?_ (wp_rollback h.1 (plain_deleteArgs (by rw [h.1.name_eq]; exact hname)))
      rintro r t₁ ⟨hcleanup, hdone⟩
      cases r with
      | error e' =>
          obtain rfl := hcleanup e' rfl
          exact .inl rfl
      | ok done => exact .inr (hdone rfl)

theorem wp_authenticate : (authenticate json sha256Hex setup cancel).run.wp
    (creation json setup.remoteName s₀)
    (AllOrNothing s₀ (· = .cleanupRequired) (VerifiedLast (verifySetup json sha256Hex setup cancel)))
    (s₀, []) := by
  rw [authenticate, Program.wp_run_bind]
  cases setup.validate with
  | error e => exact .inr rfl
  | ok valid =>
      rw [Program.run_check, Program.wp_done, Program.andThen_ok, Program.wp_run_bind,
        Program.run_reporting, Program.wp_bind]
      refine Program.wp_mono ?_ (wp_reading asks_prepare.only (s₀, []))
      intro r t₁ hread
      cases r with
      | error e => exact .inr hread.same
      | ok remote =>
          obtain ⟨howned, hname⟩ := owned_of_prepare hread
          rw [Except.mapError, Program.wp_done, Program.andThen_ok, Program.wp_liftM_bind]
          refine Program.wp_mono ?_ (wp_createRemote howned)
          intro result t₂ hresult
          exact wp_settle hresult hname

end OneDrive

/-! ## SharePoint -/

section SharePoint

variable {ext : Externals} {setup : SharePointSetup}

/-- The outcome reports a verification that came after the last command. -/
def OutcomeVerified (json : ConfigJson) (ext : Externals) (setup : SharePointSetup)
    (outcome : SharePointSetupOutcome) (history : History MicrosoftRequest.Answer) : Prop :=
  outcome = setup.outcome outcome.verified ∧
    VerifiedLast (verifyLibrary json ext setup) outcome.verified history

theorem verified_of_examined {response : Value} {selected : Bool} {outcome : SharePointSetupOutcome}
    {segment : History MicrosoftRequest.Answer}
    (h : (examineLibrary json ext setup response selected).run.replay segment =
      some (.ok (.finished outcome))) :
    outcome = setup.outcome outcome.verified ∧
      (verifyLibrary json ext setup).run.replay segment = some (.ok outcome.verified) := by
  unfold examineLibrary at h
  obtain ⟨first, second, state, rfl, hfirst, h₁⟩ := Program.replay_run_bind h
  obtain ⟨rfl, -⟩ := Program.replay_check hfirst
  split_ifs at h₁
  · obtain ⟨verification, rest, verified, rfl, hverified, h₂⟩ := Program.replay_run_bind h₁
    obtain ⟨rfl, houtcome⟩ := Program.replay_done h₂
    obtain rfl := SetupStep.finished.inj (Except.ok.inj houtcome)
    refine ⟨rfl, ?_⟩
    rwa [List.nil_append, List.append_nil]
  · obtain ⟨third, fourth, option, rfl, -, h₂⟩ := Program.replay_run_bind h₁
    obtain ⟨fifth, sixth, question, rfl, -, h₃⟩ := Program.replay_run_bind h₂
    obtain ⟨seventh, eighth, answer, rfl, -, h₄⟩ := Program.replay_run_bind h₃
    cases Except.ok.inj (Program.replay_done h₄).2

theorem verified_of_next {next : Except OAuthError Value} {selected : Bool} {outcome : SharePointSetupOutcome}
    {segment : History MicrosoftRequest.Answer}
    (h : (examineNext json ext setup next selected).run.replay segment = some (.ok (.finished outcome))) :
    outcome = setup.outcome outcome.verified ∧
      (verifyLibrary json ext setup).run.replay segment = some (.ok outcome.verified) := by
  unfold examineNext at h
  split at h
  · exact verified_of_examined h
  · obtain ⟨verification, rest, verified, rfl, hverified, h₁⟩ := Program.replay_run_bind h
    obtain ⟨rfl, houtcome⟩ := Program.replay_done h₁
    obtain rfl := SetupStep.finished.inj (Except.ok.inj houtcome)
    rw [List.append_nil]
    exact ⟨rfl, Program.replay_reporting hverified⟩
  · cases (Program.replay_done h).2

theorem AfterReading.outcomeVerified {next : Except OAuthError Value} {selected : Bool}
    {outcome : SharePointSetupOutcome} {t' : ConfigState}
    (h : AfterReading json (examineNext json ext setup next selected).run (.ok (.finished outcome)) t t') :
    OutcomeVerified json ext setup outcome t'.2 := by
  obtain ⟨segment, -, -, hreplay⟩ := h.replayed
  refine ⟨(verified_of_next hreplay).1, h.verifiedLast fun segment hsegment ↦ ?_⟩
  exact ⟨segment, [], (List.append_nil segment).symm, (verified_of_next hsegment).2⟩

/-- The loop over the questions, by induction on the questions that are left. -/
theorem wp_configureLibrary (n : Nat) (next : Except OAuthError Value) (selected : Bool)
    (h : Owned json setup.remoteName s₀ remote t) :
    (configureLibrary json ext setup n next selected remote).wp (creation json setup.remoteName s₀)
      (Configured json setup.remoteName s₀ (OutcomeVerified json ext setup)) t := by
  induction n generalizing next selected remote t with
  | zero => exact ⟨h, nofun⟩
  | succ n ih =>
      rw [configureLibrary, Program.wp_bind]
      refine Program.wp_mono ?_ (wp_reading (asks_examineNext next selected).only t)
      intro step t₁ hread
      have h₁ := h.reading hread
      match step with
      | .error e => exact ⟨h₁, nofun⟩
      | .ok (.finished outcome) =>
          refine ⟨h₁, fun a ha ↦ ?_⟩
          obtain rfl := Except.ok.inj ha
          exact hread.outcomeVerified
      | .ok (.answer state answer selected') =>
          rw [Program.wp_bind]
          refine Program.wp_mono ?_ (wp_continueWith h₁)
          rintro ⟨next', remote'⟩ t₂ h₂
          exact ih next' selected' h₂

theorem wp_createNewRemote (h : Owned json setup.remoteName s₀ remote t) :
    (createNewRemote json ext setup remote).wp (creation json setup.remoteName s₀)
      (Configured json setup.remoteName s₀ (OutcomeVerified json ext setup)) t := by
  rw [createNewRemote, Program.wp_bind]
  refine Program.wp_mono ?_ (wp_create h)
  rintro ⟨next, remote'⟩ t₁ h₁
  exact wp_configureLibrary 8 next false h₁

/-- The message that asks the user to remove what is left. -/
def NeedsRemoval (e : Message) : Prop := e.key = "teams-oauth-remove-partial"

theorem wp_settleLibrary {result : Except Message SharePointSetupOutcome × NewRemote}
    (h : Configured json setup.remoteName s₀ (OutcomeVerified json ext setup) result t)
    (hname : validateRemoteName setup.remoteName = .ok ()) :
    (settleLibrary json ext setup result.2 result.1).run.wp (creation json setup.remoteName s₀)
      (AllOrNothing s₀ NeedsRemoval (OutcomeVerified json ext setup)) t := by
  obtain ⟨result, remote⟩ := result
  cases result with
  | ok outcome => exact h.2 outcome rfl
  | error e =>
      rw [settleLibrary, Program.wp_run_bind, Program.run_reporting, Program.wp_bind]
      refine Program.wp_mono ?_ (wp_rollback h.1 (plain_deleteArgs (by rw [h.1.name_eq]; exact hname)))
      rintro r t₁ ⟨-, hdone⟩
      cases r with
      | error e' => exact .inl rfl
      | ok done => exact .inr (hdone rfl)

theorem wp_createSharePointRemote : (createSharePointRemote json ext setup).run.wp
    (creation json setup.remoteName s₀)
    (AllOrNothing s₀ NeedsRemoval (OutcomeVerified json ext setup)) (s₀, []) := by
  rw [createSharePointRemote, Program.wp_run_bind, Program.run_reporting, Program.wp_bind]
  refine Program.wp_mono ?_ (wp_reading asks_prepare.only (s₀, []))
  intro r t₁ hread
  cases r with
  | error e => exact .inr hread.same
  | ok remote =>
      obtain ⟨howned, hname⟩ := owned_of_prepare hread
      rw [Except.mapError, Program.wp_done, Program.andThen_ok, Program.wp_liftM_bind]
      refine Program.wp_mono ?_ (wp_createNewRemote howned)
      intro result t₂ hresult
      exact wp_settleLibrary hresult hname

end SharePoint

/-! ## Whole runs -/

/-- A run from a configuration: what it may write, and what it leaves behind when it returns. -/
structure RunsAllOrNothing {ε α : Type} (json : ConfigJson) (name : String) (program : Call ε α)
    (needsCleanup : ε → Prop) (verified : α → History MicrosoftRequest.Answer → Prop) : Prop where
  permitted : ∀ s₀ trace rest s', Exec (ConfigWorld json) program.run s₀ trace rest s' →
    ∀ before moment after, trace = before ++ moment :: after →
      Permitted json name s₀ (moment.before, replies before) moment.request
  restored : ∀ s₀ trace e s', Exec (ConfigWorld json) program.run s₀ trace (.done (.error e)) s' →
    ¬needsCleanup e → s' = s₀
  verified : ∀ s₀ trace a s', Exec (ConfigWorld json) program.run s₀ trace (.done (.ok a)) s' →
    verified a (replies trace)

theorem runsAllOrNothing_of_wp {ε α : Type} {program : Call ε α} {needsCleanup : ε → Prop}
    {verified : α → History MicrosoftRequest.Answer → Prop}
    (h : ∀ s₀, program.run.wp (creation json name s₀) (AllOrNothing s₀ needsCleanup verified) (s₀, [])) :
    RunsAllOrNothing json name program needsCleanup verified := by
  refine ⟨?_, ?_, ?_⟩
  · intro s₀ trace rest s' hexec before moment after htrace
    simpa using (Program.wp_recorded (h s₀) hexec).2 before moment after htrace
  · intro s₀ trace e s' hexec hcleanup
    rcases (Program.wp_recorded (h s₀) hexec).1 with hneeds | hsame
    · exact absurd hneeds hcleanup
    · exact hsame
  · intro s₀ trace a s' hexec
    exact (Program.wp_recorded (h s₀) hexec).1

theorem guided_creation_is_all_or_nothing (json : ConfigJson) (sha256Hex : String → String)
    (ext : Externals) :
    (∀ (setup : RemoteSetup) (cancel : Token),
      RunsAllOrNothing json setup.remoteName (authenticate json sha256Hex setup cancel)
        (· = .cleanupRequired) (VerifiedLast (verifySetup json sha256Hex setup cancel))) ∧
    ∀ setup : SharePointSetup,
      RunsAllOrNothing json setup.remoteName (createSharePointRemote json ext setup)
        NeedsRemoval (OutcomeVerified json ext setup) :=
  ⟨fun _ _ ↦ runsAllOrNothing_of_wp fun _ ↦ wp_authenticate,
    fun _ ↦ runsAllOrNothing_of_wp fun _ ↦ wp_createSharePointRemote⟩

end CosmicMounter.Microsoft

import CosmicMounter.Interaction.Asks
import CosmicMounter.Interaction.Replay
import CosmicMounter.Microsoft.Setup

/-!
# What the steps ask

The requests of the shared steps: which of them only look aside from the
configuration, and which of the others leave it alone.
-/

namespace CosmicMounter.Microsoft

open Rust Serde Interaction

variable {json : ConfigJson} {ext : Externals} {cancel : Token} {P : MicrosoftRequest → Prop}

/-! ## Rules for single steps -/

section Rules

variable {ε ε' α : Type}

theorem asks_require (b : Bool) (e : ε) : Asks P (require b e : Call ε Unit) := asks_ensure b e

theorem asks_orElse (a : Option α) (e : ε) : Asks P (orElse a e : Call ε α) := asks_check _

theorem only_ask {q : MicrosoftRequest} (h : P q) : (ask q).Only P := ⟨h, fun _ ↦ trivial⟩

theorem asks_ask {q : MicrosoftRequest} (h : P q) : Asks P (liftM (ask q) : Call ε q.Answer) :=
  asks_lift ⟨h, fun _ ↦ trivial⟩

theorem asks_orFail {f : ε → ε'} {p : Ask (Except ε α)} (h : p.Only P) :
    Asks P (orFail f p : Call ε' α) := asks_reporting (asks_mk h)

/-- A command line is either refused or run as it is. -/
theorem asks_rclone {f : CommandError → ε} {args : List String} {timeoutSeconds outputLimit : Nat}
    {next : CommandRequest → Call ε α}
    (h : Asks P (next ⟨args, timeoutSeconds * 1000000000, outputLimit⟩)) :
    Asks P (orFail f (pure (rclone args timeoutSeconds outputLimit)) >>= next) := by
  rw [asks_iff, Program.run_bind]
  unfold rclone
  split_ifs
  · exact h.only
  · trivial

end Rules

/-! ## Requests -/

/-- A request that neither reads the configuration or a drive, nor changes anything. -/
def Aside : MicrosoftRequest → Prop
  | .isCancelled | .libraryClient | .libraryGraph .profile _ | .graph (.folder ..) _ => True
  | .run request => request.args.head? ≠ some "config"
  | _ => False

/-- The remote that an action on the configuration names. -/
def configured (actions : List String) (request : CommandRequest) : Option String :=
  if request.args.head? = some "config" ∧ request.args[1]?.any (· ∈ actions) then request.args[2]? else none

/-- The remote whose configuration the request may change. -/
def written : MicrosoftRequest → Option String
  | .privateConfig request => configured ["create", "update"] request
  | .run request => configured ["delete"] request
  | _ => none

def Quiet (q : MicrosoftRequest) : Prop := written q = none

theorem quiet_of_aside {q : MicrosoftRequest} (h : Aside q) : Quiet q := by
  cases q with
  | run request => exact if_neg fun hconfig ↦ h hconfig.1
  | privateConfig request => exact h.elim
  | _ => rfl

theorem quiet_dump (timeout outputLimit : Nat) : Quiet (.privateConfig ⟨dumpArgs, timeout, outputLimit⟩) := by
  rw [Quiet, written, configured]
  exact if_neg (by decide : ¬(dumpArgs.head? = some "config" ∧ dumpArgs[1]?.any (· ∈ ["create", "update"])))

theorem ne_config {word : String} (h : word ≠ "config") (rest : List String) :
    (word :: rest).head? ≠ some "config" := fun heq ↦ h (Option.some.inj heq)

/-! ## Steps that look aside -/

theorem only_isCancelled : (isCancelled cancel).Only Aside := by
  cases cancel
  · exact ⟨trivial, fun _ ↦ trivial⟩
  · trivial

theorem asks_isCancelled {ε : Type} : Asks Aside (liftM (isCancelled cancel) : Call ε Bool) :=
  asks_lift only_isCancelled

theorem asks_failedCommand (args : List String) (error : CommandError) :
    Asks Aside (failedCommand cancel args error) := by
  unfold failedCommand
  exact asks_isCancelled.bind fun cancelled ↦ asks_throw _

theorem asks_command {args : List String} (hargs : args.head? ≠ some "config") (timeoutSeconds : Nat) :
    Asks Aside (command args timeoutSeconds cancel) := by
  unfold command
  refine asks_isCancelled.bind fun cancelled ↦ (asks_require _ _).bind fun _ ↦ asks_rclone ?_
  refine (asks_ask hargs).bind fun result ↦ ?_
  have htail (output : CommandOutput) :
      Asks Aside (do
        let cancelled ← isCancelled cancel
        require (!cancelled) OneDriveError.cancelled
        Program.check (complete output) : Call OneDriveError String) :=
    asks_isCancelled.bind fun cancelled ↦ (asks_require _ _).bind fun _ ↦ asks_check _
  cases result with
  | ok output => exact htail output
  | error error => exact (asks_failedCommand args error).bind htail

theorem asks_listRoot (target : String) (timeoutSeconds : Nat) (folderSelected : Bool) :
    Asks Aside (listRoot target timeoutSeconds folderSelected) := by
  unfold listRoot
  refine asks_rclone ((asks_orFail (only_ask (q := .run _) ?_)).bind fun _ ↦ asks_pure _)
  exact ne_config (by decide) _

theorem asks_verifySubtree (remote subpath : String) (identity : OneDriveIdentity) (token : String) :
    Asks Aside (verifySubtree json remote subpath identity token cancel) := by
  unfold verifySubtree
  refine (asks_check _).bind fun _ ↦ (asks_check _).bind fun _ ↦ Asks.bind ?_ fun folder ↦ ?_
  · exact asks_mk ⟨trivial, fun _ ↦ trivial⟩
  · refine (asks_require _ _).bind fun _ ↦ (asks_require _ _).bind fun _ ↦ ?_
    exact (asks_command (ne_config (by decide) _) _).bind fun _ ↦ asks_require _ _

theorem asks_lookUpAccount (profile : ProfileLookup) (token : String) :
    Asks Aside (lookUpAccount profile token) := by
  cases profile with
  | skip => exact asks_pure _
  | optional =>
      refine (asks_attempt (asks_mk ?_)).bind fun result ↦ asks_pure _
      exact ⟨trivial, fun _ ↦ trivial⟩

/-! ## Steps that leave the configuration alone -/

theorem asks_configDump : Asks Quiet (configDump json cancel) := by
  unfold configDump
  refine (asks_isCancelled.mono fun _ ↦ quiet_of_aside).bind fun cancelled ↦ ?_
  refine (asks_require _ _).bind fun _ ↦ asks_rclone ?_
  exact (asks_orFail (only_ask (quiet_dump _ _))).bind fun _ ↦ asks_check _

/-- A successful dump ends with the answer that it is read from. -/
theorem replay_configDump {history : History MicrosoftRequest.Answer} {value : Value}
    (h : (configDump json cancel).run.replay history = some (.ok value)) :
    ∃ before request output, history = before ++ [⟨.privateConfig request, .ok output⟩] ∧
      (∀ reply ∈ before, Aside reply.1) ∧ request.args = dumpArgs ∧ dumpOf json output = .ok value := by
  unfold configDump at h
  obtain ⟨first, second, cancelled, rfl, hfirst, h₁⟩ := Program.replay_run_bind h
  obtain ⟨third, fourth, ⟨⟩, rfl, hthird, h₂⟩ := Program.replay_run_bind h₁
  obtain ⟨rfl, -⟩ := Program.replay_ensure hthird
  obtain ⟨fifth, sixth, request, rfl, hfifth, h₃⟩ := Program.replay_run_bind h₂
  obtain ⟨rfl, hrequest⟩ := Program.replay_done (Program.replay_reporting hfifth)
  obtain ⟨asked, rest, output, rfl, hasked, h₄⟩ := Program.replay_run_bind h₃
  obtain rfl := Program.replay_request (Program.replay_reporting hasked)
  obtain ⟨rfl, hvalue⟩ := Program.replay_check h₄
  have haside := Program.replay_only only_isCancelled (Program.replay_lift hfirst)
  have hargs : request.args = dumpArgs := by
    obtain rfl := Except.ok.inj hrequest
    rfl
  exact ⟨first, request, output, rfl, haside, hargs, hvalue⟩

theorem asks_dump : Asks Quiet (dump json cancel) := asks_reporting asks_configDump

theorem asks_graph (target : GraphTarget) (token : String) : Asks Quiet (graph target token) :=
  asks_mk ⟨rfl, fun _ ↦ trivial⟩

section OneDrive

variable {sha256Hex : String → String} {setup : RemoteSetup}

theorem asks_primaryBusiness (token account : String) :
    Asks Quiet (primaryBusiness sha256Hex token account) := by
  unfold primaryBusiness
  refine (asks_check _).bind fun account ↦ (asks_graph _ _).bind fun signedIn ↦ ?_
  refine (asks_check _).bind fun drive ↦ (asks_graph _ _).bind fun expected ↦ ?_
  exact (asks_check _).bind fun expectedDrive ↦ (asks_require _ _).bind fun _ ↦ asks_pure _

theorem asks_primaryPersonal (token account : String) :
    Asks Quiet (primaryPersonal sha256Hex token account) := by
  unfold primaryPersonal
  refine (asks_reporting (asks_graph _ _)).bind fun me ↦ (asks_check _).bind fun id ↦ ?_
  refine (asks_require _ _).bind fun _ ↦ (asks_graph _ _).bind fun drive ↦ ?_
  exact (asks_check _).bind fun driveId ↦ (asks_require _ _).bind fun _ ↦ asks_pure _

theorem asks_primary (token : String) (driveType : OneDriveDriveType) (account : String) :
    Asks Quiet (primary sha256Hex token driveType account) := by
  unfold primary
  refine (asks_require _ _).bind fun _ ↦ ?_
  cases driveType with
  | personal => exact asks_primaryPersonal _ _
  | business => exact asks_primaryBusiness _ _

theorem asks_credentials (remote : String) (driveType : OneDriveDriveType) :
    Asks Quiet (credentials json remote driveType cancel) := by
  unfold credentials
  refine (asks_check _).bind fun _ ↦ Asks.bind ?_ fun _ ↦ asks_dump.bind fun _ ↦ asks_check _
  exact (asks_command (ne_config (by decide) _) _).mono fun _ ↦ quiet_of_aside

theorem asks_verify (remote : String) (driveType : OneDriveDriveType) (account : String) :
    Asks Quiet (verify sha256Hex json remote driveType account cancel) := by
  unfold verify
  refine (asks_check _).bind fun _ ↦ (asks_credentials _ _).bind fun configured ↦ ?_
  refine (asks_primary _ _ _).bind fun found ↦ ?_
  exact (asks_require _ _).bind fun _ ↦ (asks_require _ _).bind fun _ ↦ asks_pure _

theorem asks_verifySetupSubtree (identity : OneDriveIdentity) :
    Asks Quiet (verifySetupSubtree json setup cancel identity) := by
  unfold verifySetupSubtree
  cases setup.remoteSubpath with
  | none => exact asks_pure _
  | some path =>
      refine asks_dump.bind fun dump ↦ (asks_check _).bind fun token ↦ ?_
      exact (asks_verifySubtree _ _ _ _).mono fun _ ↦ quiet_of_aside

theorem asks_finishSetup : Asks Quiet (finishSetup json sha256Hex setup cancel) := by
  unfold finishSetup
  refine (asks_verify _ _ _).bind fun verified ↦ (asks_check _).bind fun _ ↦ ?_
  exact (asks_verifySetupSubtree _).bind fun _ ↦ asks_pure _

theorem asks_selectDrive (response : Value) :
    Asks Quiet (selectDrive json sha256Hex setup cancel response) := by
  unfold selectDrive
  refine asks_dump.bind fun dump ↦ (asks_check _).bind fun token ↦ ?_
  exact (asks_primary _ _ _).bind fun found ↦ (asks_check _).bind fun _ ↦ asks_pure _

theorem asks_answerSetup (response : Value) (selected : Bool) :
    Asks Quiet (answerSetup json sha256Hex setup cancel response selected) := by
  unfold answerSetup
  split_ifs
  · exact asks_pure _
  · exact asks_pure _
  · exact (asks_selectDrive _).bind fun _ ↦ asks_pure _
  · exact asks_pure _
  · exact asks_throw _

theorem asks_examineSetup (response : Value) (selected : Bool) :
    Asks Quiet (examineSetup json sha256Hex setup cancel response selected) := by
  unfold examineSetup
  refine (asks_require _ _).bind fun _ ↦ (asks_orElse _ _).bind fun state ↦ ?_
  split_ifs
  · exact asks_finishSetup.bind fun _ ↦ asks_pure _
  · exact (asks_answerSetup _ _).bind fun _ ↦ asks_pure _

end OneDrive

section SharePoint

variable {setup : SharePointSetup}

theorem asks_verifyRemote (remote : String) (expected : SharePointLibraryIdentity) (profile : ProfileLookup) :
    Asks Quiet (verifyRemote json ext remote expected profile) := by
  unfold verifyRemote
  refine (asks_ask (q := .libraryClient) (P := Quiet) rfl).bind fun client ↦ ?_
  refine (asks_require _ _).bind fun _ ↦ ?_
  refine Asks.bind ((asks_listRoot _ _ _).mono fun _ ↦ quiet_of_aside) fun _ ↦ ?_
  refine (asks_reporting asks_configDump).bind fun dump ↦ (asks_check _).bind fun credentials ↦ ?_
  refine Asks.bind (asks_mk ⟨rfl, fun _ ↦ trivial⟩) fun response ↦ (asks_check _).bind fun identity ↦ ?_
  exact Asks.bind ((asks_lookUpAccount _ _).mono fun _ ↦ quiet_of_aside) fun _ ↦ asks_pure _

theorem asks_matchingDrives (token : String) (candidates : List Value) :
    Asks Quiet (matchingDrives ext setup token candidates) := by
  induction candidates with
  | nil => exact asks_pure _
  | cons candidate rest ih =>
      rw [matchingDrives]
      split
      · exact ih
      · refine (asks_ask (q := .candidateDrive _ _) (P := Quiet) rfl).bind fun response ↦ ?_
        exact (asks_check _).bind fun found ↦ ih.bind fun _ ↦ asks_pure _

theorem asks_selectLibraryDrive (option : Value) :
    Asks Quiet (selectLibraryDrive json ext setup option) := by
  unfold selectLibraryDrive
  refine (asks_check _).bind fun examples ↦ (asks_reporting asks_configDump).bind fun dump ↦ ?_
  refine (asks_check _).bind fun token ↦ ?_
  refine (asks_ask (q := .discoveryClient) (P := Quiet) rfl).bind fun client ↦ ?_
  refine (asks_require _ _).bind fun _ ↦ ?_
  exact (asks_matchingDrives _ _).bind fun _ ↦ asks_check _

theorem asks_answerLibrary (option : Value) (name : String) (selected : Bool) :
    Asks Quiet (answerLibrary json ext setup option name selected) := by
  unfold answerLibrary
  split_ifs
  · exact asks_pure _
  · exact asks_pure _
  · exact asks_pure _
  · exact (asks_selectLibraryDrive _).bind fun _ ↦ asks_pure _
  · exact asks_pure _
  · exact asks_throw _

theorem asks_examineLibrary (response : Value) (selected : Bool) :
    Asks Quiet (examineLibrary json ext setup response selected) := by
  unfold examineLibrary
  refine (asks_orElse _ _).bind fun state ↦ ?_
  split_ifs
  · exact (asks_verifyRemote _ _ _).bind fun _ ↦ asks_pure _
  · refine (asks_orElse _ _).bind fun option ↦ (asks_orElse _ _).bind fun name ↦ ?_
    exact (asks_answerLibrary _ _ _).bind fun _ ↦ asks_pure _

theorem asks_examineNext (next : Except OAuthError Value) (selected : Bool) :
    Asks Quiet (examineNext json ext setup next selected) := by
  unfold examineNext
  split
  · exact asks_examineLibrary _ _
  · exact (asks_reporting (asks_verifyRemote _ _ _)).bind fun _ ↦ asks_pure _
  · exact asks_throw _

end SharePoint

end CosmicMounter.Microsoft

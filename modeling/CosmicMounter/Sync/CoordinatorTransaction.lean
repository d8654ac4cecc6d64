import CosmicMounter.Sync.CoordinatorContract

/-!
# What the transaction of a run asks

From the claim of the record to the record of the result: each command is sent
only after what it rests on has been seen, and the markers are published only
after all that they stand for.
-/

namespace CosmicMounter.Coordinator

open Rust Interaction Host Retention Retargeting

/-! ## Facts about the past stay facts -/

section Mono

variable {past past' : Past} {plan : RcloneBisyncPlan} {op : Operation} {id : ConnectionId}

theorem Succeeded.mono {arguments : List String} (h : Succeeded past arguments) (hpast : past ⊆ past') :
    Succeeded past' arguments := by
  obtain ⟨request, output, hargs, hmem⟩ := h
  exact ⟨request, output, hargs, hpast hmem⟩

theorem Showed.mono {arguments : List String} {P : String → Prop} (h : Showed past arguments P)
    (hpast : past ⊆ past') : Showed past' arguments P := by
  obtain ⟨request, output, text, hargs, hmem, htext⟩ := h
  exact ⟨request, output, text, hargs, hpast hmem, htext⟩

theorem Published.mono {path : String} (h : Published past path) (hpast : past ⊆ past') :
    Published past' path := h.imp fun _ hmem ↦ hpast hmem

theorem LocallyVerified.mono {directory : String} (h : LocallyVerified id past directory)
    (hpast : past ⊆ past') : LocallyVerified id past' directory :=
  h.imp (fun ⟨owner, hmem, howner⟩ ↦ ⟨owner, hpast hmem, howner⟩) fun hmem ↦ hpast hmem

theorem RemotelyVerified.mono {remote : String} (h : RemotelyVerified id past remote)
    (hpast : past ⊆ past') : RemotelyVerified id past' remote :=
  h.imp (fun hcat ↦ hcat.mono hpast) fun hlsf ↦ hlsf.mono hpast

theorem RecoveryClaimed.mono {day : String} (h : RecoveryClaimed id plan past day) (hpast : past ⊆ past') :
    RecoveryClaimed id plan past' day where
  locally := h.locally.imp fun _ hlocal ↦ ⟨hlocal.1.mono hpast, hlocal.2.mono hpast⟩
  remotely := h.remotely.mono hpast
  published := h.published.imp fun _ hcopied ↦ hcopied.mono hpast

theorem AnchorsVerified.mono (h : AnchorsVerified plan op past) (hpast : past ⊆ past') :
    AnchorsVerified plan op past' where
  locally name hname := (h.locally name hname).imp fun _ hmem ↦ hpast hmem
  remotely name hname := (h.remotely name hname).mono hpast
  checked := h.checked.mono hpast

theorem HasSynchronized.mono (h : HasSynchronized plan op past) (hpast : past ⊆ past') :
    HasSynchronized plan op past' := by
  obtain ⟨day, stamp, hdone⟩ := h
  exact ⟨day, stamp, hdone.mono hpast⟩

theorem Established.mono (h : Established plan op past) (hpast : past ⊆ past') :
    Established plan op past' where
  confirmed := hpast h.confirmed
  synchronized := by
    obtain ⟨day, stamp, hrecovery, hdone, hverified⟩ := h.synchronized
    exact ⟨day, stamp, hrecovery.mono hpast, hdone.mono hpast, fun hverify ↦
      ⟨(hverified hverify).1.mono hpast, (hverified hverify).2.mono hpast⟩⟩
  anchors honedrive := (h.anchors honedrive).mono hpast

theorem Completed.mono (h : Completed plan op past) (hpast : past ⊆ past') : Completed plan op past' where
  synchronized := h.synchronized.mono hpast
  confirmed hmode := (h.confirmed hmode).mono hpast
  initialized hmode := (h.initialized hmode).mono hpast

theorem Sends.mono {arguments : List String} (h : Sends plan op past arguments) (hpast : past ⊆ past') :
    Sends plan op past' arguments := by
  cases h with
  | bisync hrecovery => exact .bisync fun hmode ↦ (hrecovery hmode).mono hpast
  | convergence hverified hinitial hdone hrecovery =>
      exact .convergence hverified hinitial (hdone.mono hpast) (hrecovery.mono hpast)
  | check hdone => exact .check (hdone.mono hpast)
  | anchor hname => exact .anchor hname
  | listing hdone hpreview => exact .listing (hdone.mono hpast) hpreview
  | mkdir hpreview => exact .mkdir hpreview
  | owner hpreview => exact .owner hpreview
  | contents hpreview => exact .contents hpreview
  | publish hpreview hverified => exact .publish hpreview (hverified.mono hpast)
  | days hpreview hdone => exact .days hpreview (hdone.mono hpast)
  | purge hpreview hdone hday => exact .purge hpreview (hdone.mono hpast) hday

theorem IsRunning.mono {workRoot : String} {record : Option OfflineCoordinatorState}
    (h : IsRunning plan op workRoot past record) (hpast : past ⊆ past') : IsRunning plan op workRoot past' record where
  claimed := h.claimed.imp fun _ hclaimed ↦ ⟨hclaimed.1, hclaimed.2.1, hclaimed.2.2.1, hclaimed.2.2.2.1,
    hpast hclaimed.2.2.2.2⟩
  confirmed hmode := hpast (h.confirmed hmode)

theorem Publishes.mono {workRoot target : String} (h : Publishes plan op workRoot past target)
    (hpast : past ⊆ past') : Publishes plan op workRoot past' target where
  complete hmarker := by
    obtain ⟨htarget, hmode, hestablished⟩ := h.complete hmarker
    exact ⟨htarget, hmode, hestablished.mono hpast⟩
  confirmable hmarker := by
    obtain ⟨htarget, hmode, hdone⟩ := h.confirmable hmarker
    exact ⟨htarget, hmode, hdone.mono hpast⟩
  owner hname := (h.owner hname).imp fun _ hdirectory ↦ ⟨hdirectory.1, hdirectory.2.mono hpast⟩

end Mono

section Transaction

variable {T : Type} {workRoot : String} {t : T} {plan : RcloneBisyncPlan} {op : Operation}
  {base known : Past} {s : Shared T × Past}

/-- The run holds the lock, and the record says that it is running. -/
abbrev Running (workRoot : String) (t : T) (plan : RcloneBisyncPlan) (op : Operation) (base known : Past)
    (s : Shared T × Past) : Prop :=
  Going t plan (IsRunning plan op workRoot base) (!op.mode.isInitial) base known s

/-- The run has learned `F` besides what it knew. -/
def Learned (workRoot : String) (t : T) (plan : RcloneBisyncPlan) (op : Operation) (base known : Past)
    (F : Past → Prop) (s : Shared T × Past) : Prop :=
  ∃ known', known ⊆ known' ∧ F known' ∧ Running workRoot t plan op base known' s

/-- After a file was published, a mirror may be initialized that was not. -/
def Renamed (workRoot : String) (t : T) (plan : RcloneBisyncPlan) (op : Operation) (base known : Past)
    (path : String) (s : Shared T × Past) : Prop :=
  ∃ known' initialized, known ⊆ known' ∧ Published known' path ∧
    (path ≠ initialSyncMarker plan → initialized = !op.mode.isInitial) ∧
    Going t plan (IsRunning plan op workRoot base) initialized base known' s

/-- A published file that is not the marker of the first synchronization leaves the run as it was. -/
theorem Renamed.learned {path : String} (h : Renamed workRoot t plan op base known path s)
    (hpath : path ≠ initialSyncMarker plan) : Learned workRoot t plan op base known (Published · path) s := by
  obtain ⟨known', initialized, hknown, hpublished, hkept, hgoing⟩ := h
  obtain rfl := hkept hpath
  exact ⟨known', hknown, hpublished, hgoing⟩

theorem Learned.mono {known' : Past} {F G : Past → Prop} (h : Learned workRoot t plan op base known' F s)
    (hknown : known ⊆ known') (hF : ∀ past, known' ⊆ past → F past → G past) :
    Learned workRoot t plan op base known G s := by
  obtain ⟨past, hpast, hfact, hgoing⟩ := h
  exact ⟨past, List.Subset.trans hknown hpast, hF past hpast hfact, hgoing⟩

theorem isName_ownerMarker : Path.IsName ownerMarker := by decide

variable [DecidableEq T] (ext : Externals) (json : SerdeJson) (hsuits : Suits workRoot plan op)

include hsuits

/-! ## Commands -/

theorem wp_run {request : CommandRequest} {post : Except CommandError CommandOutput → Shared T × Past → Prop}
    (hsends : Sends plan op known request.args) (h : Running workRoot t plan op base known s)
    (hpost : ∀ r s', Running workRoot t plan op base (⟨.run request, r⟩ :: known) s' → post r s') :
    (ask (.run request)).wp (guarded workRoot plan op t) post s :=
  wp_plain hsuits.complete rfl (fun _ htouches ↦ htouches)
    ⟨fun _ ↦ h.holder, h.record.mono h.held.based, h.marker, hsends.mono h.known⟩ h fun r s' _ hs' ↦ hpost r s' hs'

omit hsuits in
theorem wp_request {arguments : List String} {timeout : Nat} (h : Running workRoot t plan op base known s) :
    (request ext.fl arguments timeout).run.wp (guarded workRoot plan op t)
      (Program.onExit (Held t base) fun request s' ↦ request.args = globalFlags ++ arguments ∧
        Running workRoot t plan op base known s') s := by
  refine Program.wp_check_onExit ?_ h.held
  intro request hrequest
  unfold rcloneRequest at hrequest
  split_ifs at hrequest
  · obtain rfl := Except.ok.inj hrequest
    exact ⟨rfl, h⟩
  · cases hrequest

theorem wp_runCommand {stage : String} {request : CommandRequest} (hsends : Sends plan op known request.args)
    (h : Running workRoot t plan op base known s) :
    (runCommand ext json stage request).run.wp (guarded workRoot plan op t)
      (Program.onExit (Held t base) fun output ↦
        Running workRoot t plan op base (⟨.run request, .ok output⟩ :: known)) s := by
  refine Program.wp_reporting_onExit (wp_run hsuits hsends h fun r s' hs' ↦ ?_)
  cases r with
  | ok output => exact hs'
  | error e => exact hs'.held

omit hsuits in
theorem wp_complete {output : CommandOutput} {stage : String} (h : Running workRoot t plan op base known s) :
    (complete ext.fl output stage).run.wp (guarded workRoot plan op t)
      (Program.onExit (Held t base) fun text s' ↦ completeText output = some text ∧
        Running workRoot t plan op base known s') s := by
  refine Program.wp_check_onExit ?_ h.held
  intro text htext
  cases hcomplete : completeStdout output (ext.fl ⟨stage, []⟩) with
  | error e =>
      rw [hcomplete] at htext
      cases htext
  | ok text' =>
      rw [hcomplete] at htext
      obtain rfl := Except.ok.inj htext
      exact ⟨completeStdout_eq_ok hcomplete, h⟩

/-! ## Published files -/

/-- The rename of a staged file, when the run may publish it. -/
theorem wp_rename {staging path key : String} (hstaging : ¬IsSomeMarker workRoot staging)
    (hpublish : Publishes plan op workRoot known path) (h : Running workRoot t plan op base known s) :
    (fileStep ext.fl key (ask (.rename staging path))).run.wp (guarded workRoot plan op t)
      (Program.onExit (Running workRoot t plan op base known) fun _ ↦ Renamed workRoot t plan op base known path) s := by
  refine Program.wp_reporting_onExit (Program.wp_ask_recorded.mpr ⟨?_, ?_⟩)
  · exact ⟨fun _ ↦ h.holder, hstaging, hpublish.mono h.known⟩
  · intro r s' hworld
    obtain ⟨hafter, hkept⟩ := h.after hsuits.complete rfl hworld
    cases r with
    | error e =>
        rw [hkept fun htouches ↦ htouches] at hafter
        exact hafter.forget h.based (List.subset_cons_self _ _)
    | ok =>
        refine ⟨_, _, List.subset_cons_self _ _, ⟨staging, List.mem_cons_self⟩, fun hpath ↦ ?_, hafter⟩
        refine hkept fun htouches ↦ ?_
        rcases htouches with hsource | htarget
        · exact hstaging (hsource ▸ .inl hsuits.complete)
        · exact hpath htarget.symm

theorem wp_writeAtomic {path contents : String} (hpublish : Publishes plan op workRoot known path)
    (h : Running workRoot t plan op base known s) :
    (writeAtomic ext.fl path contents).run.wp (guarded workRoot plan op t)
      (Program.onExit (Held t base) fun _ ↦ Renamed workRoot t plan op base known path) s := by
  rw [writeAtomic]
  cases Path.parent path with
  | none => exact h.held
  | some parent =>
      refine Program.wp_seq_onExit (wp_quiet_steps hsuits.complete (asks_createDirAll _ _ _) h) fun _ s h ↦ ?_
      rw [Program.wp_liftM_bind]
      refine wp_quiet hsuits.complete trivial h fun uuid s' _ hs' ↦ ?_
      have h := hs'.forget h.based (List.subset_cons_self _ _)
      have hstaging : ¬IsSomeMarker workRoot (Path.join parent (".managed-" ++ uuid.text ++ ".tmp")) :=
        not_isSomeMarker_staging parent uuid
      refine Program.wp_seq_onExit (Program.wp_attempt_onExit (F := Running workRoot t plan op base known)
        (Program.wp_seq_onExit (J := fun _ ↦ Running workRoot t plan op base known) ?_ fun _ s hs ↦
          wp_rename ext hsuits hstaging hpublish hs)) ?_
      · refine wp_quiet hsuits.complete hstaging h fun r s'' _ hs'' ↦ ?_
        have hkept := hs''.forget h.based (List.subset_cons_self _ _)
        cases r with
        | ok => exact hkept
        | error e => exact hkept
      · intro result s hresult
        cases result with
        | ok => exact hresult
        | error e =>
            have hremove : Asks (IsQuiet workRoot) (liftM (ask (.removeFile
                (Path.join parent (".managed-" ++ uuid.text ++ ".tmp")))) : Host.Call _) :=
              asks_lift ⟨hstaging, fun _ ↦ trivial⟩
            exact Program.wp_seq_onExit (wp_quiet_steps hsuits.complete hremove hresult) fun _ s hs ↦ hs.held

/-! ## Recovery -/

theorem wp_validateLocalOwner (directory : String) (h : Running workRoot t plan op base known s) :
    (validateLocalOwner ext directory op.connection.id).run.wp (guarded workRoot plan op t)
      (Program.onExit (Held t base) fun _ ↦ Learned workRoot t plan op base known
        (LocallyVerified op.connection.id · directory)) s := by
  rw [validateLocalOwner, Program.wp_liftM_bind]
  refine wp_quiet hsuits.complete trivial h fun type s' _ hs' ↦ ?_
  have h := hs'.forget h.based (List.subset_cons_self _ _)
  cases type with
  | ok type =>
      refine Program.wp_seq_onExit (wp_quiet_steps hsuits.complete (asks_lift (only_isSymlink _)) h) ?_
      intro symlink s h
      refine Program.wp_seq_onExit (J := fun _ ↦ Running workRoot t plan op base known)
        (Program.wp_ensure_onExit (fun _ ↦ h) h.held) fun _ s h ↦ ?_
      refine Program.wp_seq_onExit (J := fun owner ↦ Running workRoot t plan op base
        (⟨.readToString (Path.join directory ownerMarker), .ok owner⟩ :: known)) ?_ fun owner s hs ↦ ?_
      · refine Program.wp_reporting_onExit (wp_quiet hsuits.complete trivial h fun owner s' _ hs' ↦ ?_)
        cases owner with
        | ok owner => exact hs'
        | error e => exact hs'.held
      · refine Program.wp_ensure_onExit (fun howner ↦ ?_) hs.held
        refine ⟨_, List.subset_cons_self _ _, .inl ⟨owner, List.mem_cons_self, ?_⟩, hs⟩
        simpa using howner
  | error e =>
      refine Program.wp_seq_onExit (J := fun entries ↦ Running workRoot t plan op base
        (⟨.readDir directory, .ok entries⟩ :: known)) ?_ fun entries s hs ↦ ?_
      · refine Program.wp_reporting_onExit (wp_quiet hsuits.complete trivial h fun entries s' _ hs' ↦ ?_)
        cases entries with
        | ok entries => exact hs'
        | error e => exact hs'.held
      · refine Program.wp_ensure_onExit (fun hempty ↦ ?_) hs.held
        obtain rfl := List.isEmpty_iff.mp hempty
        exact ⟨_, List.subset_cons_self _ _, .inr List.mem_cons_self, hs⟩

/-- The directory of the day is verified, and marked as the connection's. -/
theorem wp_prepareLocalRecovery {recovery : String} (day : String) (h : Running workRoot t plan op base known s) :
    (prepareLocalRecovery ext op.connection { plan with recoveryDirectory := recovery } day).run.wp
      (guarded workRoot plan op t)
      (Program.onExit (Held t base) fun _ ↦ Learned workRoot t plan op base known fun past ↦
        LocallyVerified op.connection.id past (Path.join recovery day) ∧
          Published past (Path.join (Path.join recovery day) ownerMarker)) s := by
  rw [prepareLocalRecovery]
  refine Program.wp_seq_onExit (wp_quiet_steps hsuits.complete (asks_lift (only_isSymlink _)) h) ?_
  intro symlink s h
  refine Program.wp_seq_onExit (J := fun _ ↦ Running workRoot t plan op base known)
    (Program.wp_ensure_onExit (fun _ ↦ h) h.held) fun _ s h ↦ ?_
  refine Program.wp_seq_onExit (wp_quiet_steps hsuits.complete (asks_createDirAll _ _ _) h) fun _ s h ↦ ?_
  refine Program.wp_seq_onExit (wp_validateLocalOwner ext hsuits _ h) ?_
  rintro - s ⟨known', hknown, hverified, h⟩
  have hmarker : ∀ name, ownerMarker ≠ name →
      ¬IsMarker workRoot name (Path.join (Path.join recovery day) ownerMarker) := by
    intro name hname hmarker
    rw [IsMarker.named hmarker |>.symm.trans (fileName_join isName_ownerMarker _) |> Option.some.inj] at hname
    exact hname rfl
  have hpublish : Publishes plan op workRoot known' (Path.join (Path.join recovery day) ownerMarker) :=
    ⟨fun hsync ↦ absurd hsync (hmarker _ (by decide)), fun hpreview ↦ absurd hpreview (hmarker _ (by decide)),
      fun _ ↦ ⟨_, rfl, hverified⟩⟩
  refine Program.wp_mono_onExit (wp_writeAtomic ext hsuits hpublish h) fun _ s hs ↦ ?_
  refine (hs.learned fun heq ↦ ?_).mono hknown fun past hpast hpublished ↦ ⟨hverified.mono hpast, hpublished⟩
  exact hmarker _ (by decide) (heq ▸ hsuits.complete)

theorem wp_remoteOwner (day : String) (hpreview : op.mode.isPreview = false)
    (h : Running workRoot t plan op base known s) :
    (remoteOwner ext json (remoteDay plan day)).run.wp (guarded workRoot plan op t)
      (Program.onExit (Held t base) fun owner ↦ Learned workRoot t plan op base known fun past ↦
        owner = op.connection.id.text → RemotelyVerified op.connection.id past (remoteDay plan day)) s := by
  rw [remoteOwner]
  refine Program.wp_seq_onExit (wp_request ext h) ?_
  rintro request s ⟨hargs, h⟩
  rw [Program.wp_liftM_bind]
  have hsends : Sends plan op known request.args := by
    rw [hargs]
    exact .owner hpreview
  refine wp_run hsuits hsends h fun r s' hs' ↦ ?_
  cases r with
  | ok output =>
      refine Program.wp_seq_onExit (wp_complete ext hs') ?_
      rintro text s ⟨htext, hs⟩
      refine ⟨_, List.subset_cons_self _ _, fun howner ↦ .inl ?_, hs⟩
      exact ⟨request, output, text, hargs, List.mem_cons_self, htext, howner⟩
  | error e =>
      cases e with
      | nonZero command code stdout stderr =>
          refine ⟨known, List.Subset.refl _, fun howner ↦ ?_, hs'.forget h.based (List.subset_cons_self _ _)⟩
          exact absurd howner.symm (Uuid.text_ne_of_length (by decide))
      | _ => exact hs'.held

theorem wp_checkRemoteOwner {owner : String} (day : String) (hpreview : op.mode.isPreview = false)
    (howner : owner = op.connection.id.text → RemotelyVerified op.connection.id known (remoteDay plan day))
    (h : Running workRoot t plan op base known s) :
    (checkRemoteOwner ext json op.connection.id (remoteDay plan day) owner).run.wp (guarded workRoot plan op t)
      (Program.onExit (Held t base) fun _ ↦ Learned workRoot t plan op base known
        (RemotelyVerified op.connection.id · (remoteDay plan day))) s := by
  rw [checkRemoteOwner]
  refine Program.wp_seq_onExit (J := fun _ s ↦ (owner = "" ∨ owner = op.connection.id.text) ∧
    Running workRoot t plan op base known s) (Program.wp_ensure_onExit (fun hor ↦ ⟨by simpa using hor, h⟩) h.held) ?_
  rintro - s ⟨hor, h⟩
  split_ifs with hempty
  · refine Program.wp_seq_onExit (wp_request ext h) ?_
    rintro request s ⟨hargs, h⟩
    have hsends : Sends plan op known request.args := by
      rw [hargs]
      exact .contents hpreview
    refine Program.wp_seq_onExit (wp_runCommand ext json hsuits hsends h) fun listing s hs ↦ ?_
    refine Program.wp_seq_onExit (wp_complete ext hs) fun text s htext ↦ ?_
    generalize htrim : (Str.trim text == "") = blank
    refine Program.wp_ensure_onExit (fun hblank ↦ ?_) htext.2.held
    have hblank : Str.trim text = "" := beq_iff_eq.mp (htrim.trans hblank)
    exact ⟨_, List.subset_cons_self _ _,
      .inr ⟨request, listing, text, hargs, List.mem_cons_self, htext.1, hblank⟩, htext.2⟩
  · exact ⟨known, List.Subset.refl _, howner (hor.resolve_left hempty), h⟩

theorem wp_publishRemoteOwner {recovery : String} (day : String) (hpreview : op.mode.isPreview = false)
    (hverified : RemotelyVerified op.connection.id known (remoteDay plan day))
    (h : Running workRoot t plan op base known s) :
    (publishRemoteOwner ext json op.connection.id { plan with recoveryDirectory := recovery }
      (remoteDay plan day)).run.wp (guarded workRoot plan op t)
      (Program.onExit (Held t base) fun _ ↦ Learned workRoot t plan op base known fun past ↦
        ∃ staged, Succeeded past ["copyto", staged, remoteMarker (remoteDay plan day)]) s := by
  rw [publishRemoteOwner, Program.wp_liftM_bind]
  refine wp_quiet hsuits.complete trivial h fun uuid s' _ hs' ↦ ?_
  have h := hs'.forget h.based (List.subset_cons_self _ _)
  have hstaged : ¬IsSomeMarker workRoot (Path.join plan.workDirectory (".remote-owner-" ++ uuid.text ++ ".tmp")) :=
    not_isSomeMarker_around uuid (by decide) (by decide) (by decide) _
  refine Program.wp_seq_onExit (J := fun _ ↦ Running workRoot t plan op base known) ?_ fun _ s h ↦ ?_
  · refine wp_quiet hsuits.complete hstaged h fun r s' _ hs' ↦ ?_
    have hkept := hs'.forget h.based (List.subset_cons_self _ _)
    cases r with
    | ok => exact hkept
    | error e => exact hkept.held
  refine Program.wp_seq_onExit (wp_request ext h) ?_
  rintro request s ⟨hargs, h⟩
  have hsends : Sends plan op known request.args := by
    rw [hargs]
    exact .publish hpreview hverified
  refine Program.wp_seq_onExit (J := fun r ↦ Program.onExit (Running workRoot t plan op base known)
    (fun output ↦ Running workRoot t plan op base (⟨.run request, .ok output⟩ :: known)) r) ?_ fun result s hresult ↦ ?_
  · refine Program.wp_attempt_onExit (Program.wp_reporting_onExit (wp_run hsuits hsends h fun r s' hs' ↦ ?_))
    cases r with
    | ok output => exact hs'
    | error e => exact hs'.forget h.based (List.subset_cons_self _ _)
  have hremove : Asks (IsQuiet workRoot) (liftM (ask (.removeFile
      (Path.join plan.workDirectory (".remote-owner-" ++ uuid.text ++ ".tmp")))) : Host.Call _) :=
    asks_lift ⟨hstaged, fun _ ↦ trivial⟩
  cases result with
  | ok output =>
      refine Program.wp_seq_onExit (wp_quiet_steps hsuits.complete hremove hresult) fun _ s hs ↦ ?_
      refine Program.wp_seq_onExit (Program.wp_check_onExit (fun _ _ ↦ hs) hs.held) fun _ s hs ↦ ?_
      exact ⟨_, List.subset_cons_self _ _, ⟨_, request, output, hargs, List.mem_cons_self⟩, hs⟩
  | error e => exact Program.wp_seq_onExit (wp_quiet_steps hsuits.complete hremove hresult) fun _ s hs ↦ hs.held

theorem wp_prepareRecovery {recovery : String} (day : String) (hpreview : op.mode.isPreview = false)
    (h : Running workRoot t plan op base known s) :
    (prepareRecovery ext json op.connection { plan with recoveryDirectory := recovery } day).run.wp
      (guarded workRoot plan op t)
      (Program.onExit (Held t base) fun _ ↦ Learned workRoot t plan op base known
        (RecoveryClaimed op.connection.id plan · day)) s := by
  refine Program.wp_seq_onExit (wp_prepareLocalRecovery ext hsuits day h) ?_
  rintro - s ⟨known₁, hknown₁, hlocal, h⟩
  refine Program.wp_seq_onExit (wp_request ext h) ?_
  rintro request s ⟨hargs, h⟩
  have hsends : Sends plan op known₁ request.args := by
    rw [hargs]
    exact .mkdir hpreview
  refine Program.wp_seq_onExit (wp_runCommand ext json hsuits hsends h) fun _ s hs ↦ ?_
  refine Program.wp_seq_onExit (wp_remoteOwner ext json hsuits day hpreview
    (hs.forget h.based (List.subset_cons_self _ _))) ?_
  rintro owner s ⟨known₂, hknown₂, howner, h⟩
  refine Program.wp_seq_onExit (wp_checkRemoteOwner ext json hsuits day hpreview howner h) ?_
  rintro - s ⟨known₃, hknown₃, hverified, h⟩
  refine Program.wp_mono_onExit (wp_publishRemoteOwner ext json hsuits day hpreview hverified h) fun _ s hs ↦ ?_
  have hlocal₃ := List.Subset.trans hknown₂ hknown₃
  refine hs.mono (List.Subset.trans hknown₁ hlocal₃) fun past hpast hpublished ↦ ?_
  exact ⟨⟨recovery, hlocal.1.mono (List.Subset.trans hlocal₃ hpast),
    hlocal.2.mono (List.Subset.trans hlocal₃ hpast)⟩, hverified.mono hpast, hpublished⟩

/-! ## Verification -/

omit hsuits in
theorem wp_bisyncRequest (mode : BisyncMode) (day stamp : String) (h : Running workRoot t plan op base known s) :
    (bisyncRequest ext.fl plan mode day stamp).run.wp (guarded workRoot plan op t)
      (Program.onExit (Held t base) fun request s' ↦
        request.args = globalFlags ++ requestArguments plan mode day stamp ∧
          Running workRoot t plan op base known s') s := wp_request ext h

/-- The second synchronization, and the comparison of the two sides. -/
theorem wp_verifyConvergence {day stamp : String} (hrecovery : RecoveryClaimed op.connection.id plan known day)
    (hdone : Succeeded known (requestArguments plan op.mode day stamp)) (h : Running workRoot t plan op base known s) :
    (verifyConvergence ext json plan op.mode day stamp).run.wp (guarded workRoot plan op t)
      (Program.onExit (Held t base) fun _ ↦ Learned workRoot t plan op base known fun past ↦
        plan.verifyAfterSync = true → op.mode = .initialSync →
          Succeeded past (requestArguments plan .sync day stamp) ∧ Succeeded past (checkArguments plan)) s := by
  rw [verifyConvergence]
  by_cases hverify : plan.verifyAfterSync = true
  · rw [if_pos hverify]
    refine Program.wp_seq_onExit (wp_bisyncRequest ext _ day stamp h) ?_
    rintro again s ⟨hargs, h⟩
    have hsends : Sends plan op known again.args := by
      rw [hargs]
      split_ifs with hmode
      · exact .convergence hverify hmode hdone hrecovery
      · exact .bisync fun _ ↦ hrecovery
    refine Program.wp_seq_onExit (wp_runCommand ext json hsuits hsends h) fun output s h ↦ ?_
    refine Program.wp_seq_onExit (wp_request ext h) ?_
    rintro check s ⟨hcheck, h⟩
    have hsends : Sends plan op (⟨.run again, .ok output⟩ :: known) check.args := by
      rw [hcheck]
      exact .check ⟨day, stamp, hdone.mono (List.subset_cons_self _ _)⟩
    refine Program.wp_seq_onExit (wp_runCommand ext json hsuits hsends h) fun result s h ↦ ?_
    refine ⟨_, List.Subset.trans (List.subset_cons_self _ _) (List.subset_cons_self _ _), fun _ hmode ↦ ⟨?_, ?_⟩, h⟩
    · rw [if_pos hmode] at hargs
      exact ⟨again, output, hargs, List.mem_cons_of_mem _ List.mem_cons_self⟩
    · exact ⟨check, result, hcheck, List.mem_cons_self⟩
  · rw [if_neg hverify]
    exact ⟨known, List.Subset.refl _, fun hverified ↦ absurd hverified hverify, h⟩

theorem wp_validateLocalAccessMarker {mirror recovery : String} (h : Running workRoot t plan op base known s) :
    (validateLocalAccessMarker ext.fl { op.connection with localPath := mirror }
      { plan with recoveryDirectory := recovery }).run.wp (guarded workRoot plan op t)
      (Program.onExit (Held t base) fun _ ↦ Learned workRoot t plan op base known fun past ↦
        ∀ name, plan.accessMarkerName = some name →
          ⟨.readToString (Path.join mirror name), .ok (accessMarkerText op.connection)⟩ ∈ past) s := by
  rw [validateLocalAccessMarker]
  dsimp only
  cases plan.accessMarkerName with
  | none => exact ⟨known, List.Subset.refl _, fun name hname ↦ absurd hname (Option.some_ne_none name).symm, h⟩
  | some name =>
      dsimp only
      rw [Program.wp_liftM_bind]
      refine wp_quiet hsuits.complete trivial h fun type s' _ hs' ↦ ?_
      have h := hs'.forget h.based (List.subset_cons_self _ _)
      cases type with
      | error e => exact h.held
      | ok type =>
          refine Program.wp_seq_onExit (J := fun _ ↦ Running workRoot t plan op base known)
            (Program.wp_ensure_onExit (fun _ ↦ h) h.held) fun _ s h ↦ ?_
          refine Program.wp_seq_onExit (J := fun content ↦ Running workRoot t plan op base
            (⟨.readToString (Path.join mirror name), .ok content⟩ :: known)) ?_ fun content s hs ↦ ?_
          · refine Program.wp_reporting_onExit (wp_quiet hsuits.complete trivial h fun content s' _ hs' ↦ ?_)
            cases content with
            | ok content => exact hs'
            | error e => exact hs'.held
          · refine Program.wp_ensure_onExit (fun hcontent ↦ ?_) hs.held
            obtain rfl := beq_iff_eq.mp hcontent
            refine ⟨_, List.subset_cons_self _ _, fun other hother ↦ ?_, hs⟩
            obtain rfl := Option.some.inj hother
            exact List.mem_cons_self

theorem wp_validateRemoteAccessMarker (mode : BisyncMode) (h : Running workRoot t plan op base known s) :
    (validateRemoteAccessMarker ext op.connection plan mode).run.wp (guarded workRoot plan op t)
      (Program.onExit (Held t base) fun _ ↦ Learned workRoot t plan op base known fun past ↦
        mode.isInitial = false → ∀ name, plan.accessMarkerName = some name →
          Showed past ["cat", Str.trimEndMatches '/' plan.path1Remote ++ "/" ++ name]
            (Str.trimEnd · = op.connection.id.text)) s := by
  rw [validateRemoteAccessMarker]
  cases hname : plan.accessMarkerName with
  | none => exact ⟨known, List.Subset.refl _, fun _ ↦ nofun, h⟩
  | some name =>
      dsimp only
      split_ifs with hmode
      · exact ⟨known, List.Subset.refl _, fun hnot ↦ absurd (hnot.symm.trans hmode) nofun, h⟩
      · refine Program.wp_seq_onExit (wp_request ext h) ?_
        rintro request s ⟨hargs, h⟩
        have hsends : Sends plan op known request.args := by
          rw [hargs]
          exact .anchor hname
        refine Program.wp_seq_onExit (J := fun output ↦
          Running workRoot t plan op base (⟨.run request, .ok output⟩ :: known)) ?_ fun output s hs ↦ ?_
        · refine Program.wp_reporting_onExit (wp_run hsuits hsends h fun r s' hs' ↦ ?_)
          cases r with
          | ok output => exact hs'
          | error e => exact hs'.held
        · refine Program.wp_seq_onExit (wp_complete ext hs) fun text s htext ↦ ?_
          generalize htrim : (Str.trimEnd text == op.connection.id.text) = named
          refine Program.wp_ensure_onExit (fun hnamed ↦ ?_) htext.2.held
          have howner := beq_iff_eq.mp (htrim.trans hnamed)
          refine ⟨_, List.subset_cons_self _ _, fun _ other hother ↦ ?_, htext.2⟩
          obtain rfl := Option.some.inj hother
          exact ⟨request, output, text, hargs, List.mem_cons_self, htext.1, howner⟩

theorem wp_verifyAnchors {paths : LocalMirrorPaths} (hdone : HasSynchronized plan op known)
    (h : Running workRoot t plan op base known s) :
    (verifyAnchors ext op.connection paths plan op.mode).run.wp (guarded workRoot plan op t)
      (Program.onExit (Held t base) fun _ ↦ Learned workRoot t plan op base known fun past ↦
        checksAnchors op.connection op.mode = true → AnchorsVerified plan op past) s := by
  rw [verifyAnchors]
  split_ifs with hchecks
  · refine Program.wp_seq_onExit (Program.wp_reporting_onExit (wp_validateLocalAccessMarker ext hsuits h)) ?_
    rintro - s ⟨known₁, hknown₁, hlocal, h⟩
    refine Program.wp_seq_onExit (Program.wp_reporting_onExit (wp_validateRemoteAccessMarker ext hsuits .sync h)) ?_
    rintro - s ⟨known₂, hknown₂, hremote, h⟩
    have hgrown := List.Subset.trans hknown₁ hknown₂
    refine Program.wp_seq_onExit (wp_request ext h) ?_
    rintro check s ⟨hargs, h⟩
    have hsends : Sends plan op known₂ check.args := by
      rw [hargs]
      exact .check (hdone.mono hgrown)
    refine Program.wp_seq_onExit (J := fun output ↦
      Running workRoot t plan op base (⟨.run check, .ok output⟩ :: known₂)) ?_ fun output s hs ↦ ?_
    · refine Program.wp_reporting_onExit (wp_run hsuits hsends h fun r s' hs' ↦ ?_)
      cases r with
      | ok output => exact hs'
      | error e => exact hs'.held
    · have hlast : known₂ ⊆ ⟨.run check, .ok output⟩ :: known₂ := List.subset_cons_self _ _
      refine ⟨_, List.Subset.trans hgrown hlast, fun _ ↦ ⟨?_, ?_, check, output, hargs, List.mem_cons_self⟩, hs⟩
      · exact fun name hname ↦ ⟨paths.mirror, hlast (hknown₂ (hlocal name hname))⟩
      · exact fun name hname ↦ (hremote rfl name hname).mono hlast
  · exact ⟨known, List.Subset.refl _, fun hchecked ↦ absurd hchecked hchecks, h⟩

end Transaction

end CosmicMounter.Coordinator

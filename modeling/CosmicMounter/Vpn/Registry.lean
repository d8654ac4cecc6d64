import CosmicMounter.Interaction.Obligations
import CosmicMounter.Vpn.Looking

/-!
# Users that are registered

A finite operation is registered as a user of its VPN while it lasts.  Nothing
else registers anybody, so that no operation that has returned leaves a user
behind.
-/

namespace CosmicMounter.Vpn

open Rust Interaction

/-! ## Requests that register nobody -/

def AddsNoUser : VpnRequest → Prop
  | .registerUser _ _ => False
  | _ => True

theorem addsNoUser_of_isStill (q : VpnRequest) (h : IsStill q) : AddsNoUser q := by
  cases q with
  | registerUser id connection => exact h
  | _ => trivial

theorem addsNoUser_of_isQuiet (q : VpnRequest) (h : IsQuiet q) : AddsNoUser q := by
  rcases h with h | ⟨path, rfl⟩
  · exact addsNoUser_of_isStill q h
  · trivial

section Asks

variable {fl : Message → String} {vpn : VpnProfile} {connection : Connection}

theorem asks_work (step : Work) : Asks AddsNoUser (work step) := asks_mk (only_ask trivial)

theorem asks_unmark (id : VpnProfileId) : Asks AddsNoUser (unmarkVpnAppletActivated id) :=
  Asks.bind (asks_ask trivial) fun _ ↦ asks_ask trivial

theorem asks_mark (id : VpnProfileId) : Asks AddsNoUser (markVpnAppletActivated id) :=
  Asks.bind (asks_ask trivial) fun _ ↦ asks_ask trivial

theorem asks_activate : Asks AddsNoUser (activate fl vpn) := by
  refine Asks.bind (asks_check _) fun _ ↦ Asks.bind (asks_check _) fun uuid ↦
    Asks.bind (asks_profile addsNoUser_of_isStill uuid) fun saved ↦ ?_
  have hactivated : Asks AddsNoUser (ExceptT.mk (ask (.activateConnection saved.2)) : Dbus Unit) :=
    asks_mk (only_ask trivial)
  cases saved.1.isOpenconnect with
  | false => exact hactivated
  | true => exact Asks.bind (asks_mk (only_ask trivial)) fun _ ↦ hactivated

theorem asks_deactivate : Asks AddsNoUser (deactivate vpn) := by
  refine Asks.bind (asks_check _) fun _ ↦ Asks.bind (asks_check _) fun uuid ↦
    Asks.bind (asks_activePath addsNoUser_of_isStill uuid) fun path ↦ ?_
  cases path with
  | none => exact asks_pure _
  | some path => exact asks_mk (only_ask trivial)

theorem asks_startActivation : Asks AddsNoUser (startActivation fl vpn) := by
  rw [startActivation]
  cases vpn.kind with
  | networkManager => exact asks_reporting asks_activate
  | legacyCisco => exact asks_throw _

theorem asks_cleanupTimedOutVpnActivation (isOpenconnect : Bool) :
    Asks AddsNoUser (cleanupTimedOutVpnActivation fl vpn isOpenconnect) := by
  refine Asks.bind (asks_reporting asks_deactivate) fun _ ↦ ?_
  cases isOpenconnect with
  | false => exact asks_pure _
  | true => exact asks_reporting (asks_mk (only_ask trivial))

theorem asks_settleActivation (isOpenconnect alreadyConnected ready : Bool) :
    Asks AddsNoUser (settleActivation fl vpn isOpenconnect alreadyConnected ready) := by
  cases ready with
  | true =>
      cases alreadyConnected with
      | true => exact asks_pure _
      | false => exact asks_mark _
  | false =>
      cases alreadyConnected with
      | true => exact asks_throw _
      | false =>
          exact Asks.bind (asks_attempt (asks_cleanupTimedOutVpnActivation isOpenconnect)) fun _ ↦ asks_throw _

theorem asks_ensureLocked (rounds : Nat) (isOpenconnect : Bool) :
    Asks AddsNoUser (ensureLocked fl rounds vpn isOpenconnect) := by
  refine Asks.bind (asks_lift (asks_vpnTunnelReady.mono addsNoUser_of_isQuiet).only) fun tunnel ↦ ?_
  have hwaited (alreadyConnected : Bool) : Asks AddsNoUser (do
      let ready ← waitForVpnReady fl vpn (!alreadyConnected) rounds
      settleActivation fl vpn isOpenconnect alreadyConnected ready) :=
    Asks.bind ((asks_waitForVpnReady _ rounds).mono addsNoUser_of_isQuiet) fun _ ↦ asks_settleActivation _ _ _
  cases tunnel.toOption.getD false with
  | true => exact hwaited true
  | false => exact Asks.bind asks_startActivation fun _ ↦ hwaited false

theorem asks_ensureVpnReadyForConnection (rounds : Nat) :
    Asks AddsNoUser (ensureVpnReadyForConnection fl rounds connection) := by
  rw [ensureVpnReadyForConnection]
  cases connection.vpnProfileId with
  | none => exact asks_pure _
  | some id =>
      refine Asks.bind (asks_ask trivial) fun document ↦ ?_
      cases document.vpnProfiles.find? fun vpn ↦ decide (vpn.id = id) with
      | none => exact asks_throw _
      | some saved =>
          refine Asks.bind (asks_isOpenconnectProfile addsNoUser_of_isStill) fun isOpenconnect ↦ ?_
          exact Asks.bind (asks_ask trivial) fun _ ↦ Asks.bind (asks_attempt (asks_ensureLocked rounds isOpenconnect))
            fun _ ↦ Asks.bind (asks_ask trivial) fun _ ↦ asks_check _

theorem asks_disconnectVpnProfile (id : VpnProfileId) : Asks AddsNoUser (disconnectVpnProfile fl id) := by
  refine Asks.bind (asks_ask trivial) fun document ↦ ?_
  cases document.vpnProfiles.find? fun vpn ↦ decide (vpn.id = id) with
  | none => exact asks_pure _
  | some vpn =>
      dsimp only
      cases vpn.kind with
      | networkManager => exact asks_reporting asks_deactivate
      | legacyCisco => exact asks_throw _

theorem asks_maybeShutdownVpnAfterUnmount : Asks AddsNoUser (maybeShutdownVpnAfterUnmount fl connection) := by
  rw [maybeShutdownVpnAfterUnmount]
  cases connection.vpnProfileId with
  | none => exact asks_pure _
  | some id =>
      cases connection.disconnectVpnWhenUnused with
      | false => exact asks_pure _
      | true =>
          refine Asks.bind (asks_ask trivial) fun activated ↦
            Asks.bind (asks_activeConnectionsUsingVpn addsNoUser_of_isStill id _) fun active ↦ ?_
          cases shutdownDecision ⟨id, decide (id ∈ activated), active⟩ with
          | disconnect => exact Asks.bind (asks_disconnectVpnProfile id) fun _ ↦ asks_unmark id
          | noAction | keepAliveShared | keepAlivePreExisting => exact asks_pure _

theorem asks_finishOfflineVpnUse : Asks AddsNoUser (finishOfflineVpnUse fl connection) := by
  rw [finishOfflineVpnUse]
  cases connection.vpnProfileId with
  | none => exact asks_maybeShutdownVpnAfterUnmount
  | some id => exact Asks.bind (asks_ask trivial) fun _ ↦ asks_maybeShutdownVpnAfterUnmount

/-! ## Operations -/

theorem asks_runManagedOnlineMountOperationResult (rounds : Nat) (operation : Operation) :
    Asks AddsNoUser (runManagedOnlineMountOperationResult fl rounds connection operation) := by
  rw [runManagedOnlineMountOperationResult]
  cases Detach.onlineMountEngine connection with
  | none => exact asks_throw _
  | some engine =>
      refine Asks.bind (asks_work _) fun _ ↦ ?_
      cases operation with
      | mount =>
          exact Asks.bind (asks_work _) fun _ ↦ Asks.bind (asks_ensureVpnReadyForConnection rounds) fun _ ↦ asks_work _
      | unmount =>
          exact Asks.bind (asks_work _) fun _ ↦ Asks.bind asks_maybeShutdownVpnAfterUnmount fun _ ↦ asks_pure _
      | _ => exact asks_throw _

theorem asks_runTrackedOfflineOperation {step : Call String} (hstep : Asks AddsNoUser step) :
    Asks AddsNoUser (runTrackedOfflineOperation step) :=
  Asks.bind (asks_attempt (Asks.bind (asks_work _) fun _ ↦ hstep)) fun _ ↦
    Asks.bind (asks_attempt (asks_work _)) fun _ ↦ Asks.bind (asks_check _) fun _ ↦
      Asks.bind (asks_check _) fun _ ↦ asks_pure _

theorem asks_ensureBackgroundSyncMayStart (rounds : Nat) :
    Asks AddsNoUser (ensureBackgroundSyncMayStart fl rounds connection) := by
  rw [ensureBackgroundSyncMayStart]
  cases connection.mode with
  | onlineMount options => exact asks_throw _
  | offlineMirror options =>
      refine Asks.bind (asks_strictNetworkReady addsNoUser_of_isStill) fun networkReady ↦
        Asks.bind (asks_currentMeteredNetwork addsNoUser_of_isStill) fun meteredNetwork ↦ ?_
      cases syncNowRequest ⟨.scheduled, true, true, meteredNetwork, false, ⟨networkReady, true⟩⟩ options with
      | run => exact asks_ensureVpnReadyForConnection rounds
      | waitForNetwork | waitForVpn | pauseMetered | reject rejection => exact asks_throw _

theorem asks_startRcloneOfflineMirrorBackground (rounds : Nat) :
    Asks AddsNoUser (startRcloneOfflineMirrorBackground fl rounds connection) := by
  refine Asks.bind (asks_ask trivial) fun initialized ↦ ?_
  cases initialized with
  | false => exact asks_throw _
  | true =>
      refine Asks.bind (asks_ensureBackgroundSyncMayStart rounds) fun _ ↦
        Asks.bind (asks_attempt (asks_work _)) fun result ↦ ?_
      cases result with
      | ok summary => exact asks_pure _
      | error error => exact Asks.bind (asks_attempt asks_finishOfflineVpnUse) fun _ ↦ asks_check _

theorem asks_mirrorStep (rounds : Nat) (operation : Operation) :
    Asks AddsNoUser (mirrorStep fl rounds connection operation) := by
  cases operation with
  | previewInitialSync | syncNow => exact asks_work _
  | pauseSync => exact asks_runTrackedOfflineOperation (Asks.bind (asks_work _) fun _ ↦ asks_work _)
  | resumeSync =>
      exact asks_runTrackedOfflineOperation (Asks.bind (asks_work _) fun _ ↦
        asks_startRcloneOfflineMirrorBackground rounds)
  | mount | unmount | repair => exact Asks.bind (asks_work _) fun _ ↦ asks_throw _

theorem asks_legacyStep (operation : Operation) : Asks AddsNoUser (legacyStep fl connection operation) := by
  refine asks_runTrackedOfflineOperation ?_
  split_ifs
  · exact asks_work _
  · exact Asks.bind (asks_check _) fun _ ↦ asks_throw _

theorem asks_runOfflineMirrorRepairOperation : Asks AddsNoUser (runOfflineMirrorRepairOperation fl connection) :=
  Asks.bind (asks_attempt (asks_work _)) fun _ ↦ Asks.bind (asks_attempt (asks_work _)) fun _ ↦
    Asks.bind (asks_check _) fun _ ↦ Asks.bind (asks_check _) fun _ ↦
      Asks.bind (asks_attempt asks_finishOfflineVpnUse) fun _ ↦ asks_pure _

theorem asks_testConnectionPlanAndAccess (rounds : Nat) :
    Asks AddsNoUser (testConnectionPlanAndAccess fl rounds connection) :=
  Asks.bind (asks_check _) fun _ ↦ Asks.bind (asks_work _) fun _ ↦
    Asks.bind (asks_ensureVpnReadyForConnection rounds) fun _ ↦ Asks.bind (asks_work _) fun _ ↦ asks_pure _

theorem asks_readyStates (profiles : List VpnProfile) : Asks AddsNoUser (readyStates profiles) := by
  induction profiles with
  | nil => exact asks_pure _
  | cons vpn rest ih =>
      have hseen (ready : Bool) : Asks AddsNoUser (do
          if !ready then
            unmarkVpnAppletActivated vpn.id
          let others ← readyStates rest
          return (vpn.id, ready) :: others) := by
        cases ready with
        | true => exact Asks.bind ih fun _ ↦ asks_pure _
        | false => exact Asks.bind (asks_unmark vpn.id) fun _ ↦ Asks.bind ih fun _ ↦ asks_pure _
      rw [readyStates]
      cases vpn.kind with
      | legacyCisco => exact hseen false
      | networkManager =>
          exact Asks.bind (asks_orElse (asks_state.mono addsNoUser_of_isQuiet)) fun state ↦ hseen state.ready

theorem asks_currentVpnReadyStates (config : ConfigDocument) : Asks AddsNoUser (currentVpnReadyStates fl config) :=
  Asks.bind (asks_attempt (asks_hostMountEntries addsNoUser_of_isStill)) fun _ ↦
    Asks.bind (asks_activeAmong addsNoUser_of_isStill _ _) fun _ ↦ asks_readyStates _

end Asks

/-! ## While a finite operation lasts -/

section Registered

variable {S : Type} {W : World VpnRequest.Answer S} {fl : Message → String} {connection : Connection}
  {id : VpnProfileId} {user : ConnectionId} {s : S × Past}

/-- Somebody is registered. -/
abbrev Open (id : VpnProfileId) (user : ConnectionId) (s : S × Past) : Prop :=
  Pending (Registers id user) (Unregisters id user) s.2

theorem not_registers {q : VpnRequest} (h : AddsNoUser q) (r : q.Answer) : ¬Registers id user ⟨q, r⟩ := by
  rintro rfl
  exact h

theorem wp_others {α : Type} {x : Call α} (hx : Asks AddsNoUser x) (hs : ¬Open id user s) :
    x.run.wp (Program.free W) (Program.onExit (fun s ↦ ¬Open id user s) fun _ s ↦ ¬Open id user s) s :=
  Program.wp_not_pending_onExit (hx.mono fun _ hq ↦ not_registers hq).only hs

/-- Only the operation itself is registered when it begins. -/
theorem wp_beginFiniteOfflineVpnUse (rounds : Nat) (hs : ¬Open id user s) :
    (beginFiniteOfflineVpnUse fl rounds connection).run.wp (Program.free W) (Program.onExit (fun s ↦ ¬Open id user s)
      fun _ s ↦ Open id user s → connection.vpnProfileId = some id ∧ connection.id = user) s := by
  refine Program.wp_seq_onExit (wp_others (asks_strictNetworkReady addsNoUser_of_isStill) hs) fun ready s hs ↦ ?_
  cases ready with
  | false => exact hs
  | true =>
      refine Program.wp_seq_onExit (wp_others (asks_ensureVpnReadyForConnection rounds) hs) fun _ s hs ↦ ?_
      cases connection.vpnProfileId with
      | none => exact fun hopen ↦ absurd hopen hs
      | some id' =>
          refine ⟨trivial, ?_⟩
          rintro r ⟨s', past⟩ ⟨-, rfl⟩ hopen
          rcases pending_append.mp hopen with ⟨hopen, -⟩ | hopens
          · exact absurd hopen hs
          · obtain ⟨rfl, rfl⟩ := VpnRequest.registerUser.inj hopens
            exact ⟨rfl, rfl⟩

/-- Nobody is registered any more when it is over. -/
theorem wp_finishOfflineVpnUse (hs : Open id user s → connection.vpnProfileId = some id ∧ connection.id = user) :
    (finishOfflineVpnUse fl connection).run.wp (Program.free W)
      (Program.onExit (fun s ↦ ¬Open id user s) fun _ s ↦ ¬Open id user s) s := by
  rw [finishOfflineVpnUse]
  cases hid : connection.vpnProfileId with
  | none =>
      refine wp_others asks_maybeShutdownVpnAfterUnmount fun hopen ↦ ?_
      rw [hid] at hs
      cases (hs hopen).1
  | some id' =>
      refine (Program.wp_liftM_bind _ _ _ _).mpr ⟨trivial, ?_⟩
      rintro r ⟨s', past⟩ ⟨-, rfl⟩
      refine wp_others asks_maybeShutdownVpnAfterUnmount fun hopen ↦ ?_
      have hadds : ¬Registers id user ⟨.unregisterUser id' connection.id, r⟩ :=
        not_registers (q := .unregisterUser id' connection.id) trivial r
      obtain ⟨hsame, huser⟩ := hs (pending_of_append hopen hadds)
      obtain rfl := Option.some.inj (hid.symm.trans hsame)
      subst huser
      have hcloses : Unregisters id' connection.id ⟨.unregisterUser id' connection.id, r⟩ := rfl
      exact not_pending_append hcloses hadds hopen

theorem wp_usingVpn (rounds : Nat) {operation : Operation} {step : Call String} (hstep : Asks AddsNoUser step)
    (hs : ¬Open id user s) :
    (usingVpn fl rounds connection operation step).run.wp (Program.free W)
      (Program.onExit (fun s ↦ ¬Open id user s) fun _ s ↦ ¬Open id user s) s := by
  rw [usingVpn]
  cases isFinite operation with
  | false =>
      refine wp_others (Asks.bind (asks_attempt hstep) fun result ↦ ?_) hs
      split_ifs
      · exact Asks.bind (asks_attempt asks_finishOfflineVpnUse) fun _ ↦ asks_check _
      · exact asks_check _
  | true =>
      refine Program.wp_seq_onExit (wp_beginFiniteOfflineVpnUse rounds hs) fun _ s hs ↦ ?_
      have hkept : step.run.wp (Program.free W) (Program.onExit
          (fun s ↦ Open id user s → connection.vpnProfileId = some id ∧ connection.id = user)
          fun _ s ↦ Open id user s → connection.vpnProfileId = some id ∧ connection.id = user) s := by
        have hbefore : step.run.wp (Program.free W) (fun _ s' ↦ Open id user s' → Open id user s) s :=
          Program.wp_pending (hstep.mono fun _ hq ↦ not_registers hq).only
        refine Program.wp_mono ?_ hbefore
        intro result s' hopen
        cases result with
        | ok summary => exact fun h ↦ hs (hopen h)
        | error e => exact fun h ↦ hs (hopen h)
      refine Program.wp_seq_onExit (Program.wp_attempt_onExit hkept) fun result s hresult ↦ ?_
      have hs : Open id user s → connection.vpnProfileId = some id ∧ connection.id = user := by
        cases result with
        | ok summary => exact hresult
        | error e => exact hresult
      refine Program.wp_seq_onExit (Program.wp_attempt_onExit (wp_finishOfflineVpnUse hs)) fun release s hrelease ↦ ?_
      have hs : ¬Open id user s := by
        cases release with
        | ok => exact hrelease
        | error e => exact hrelease
      exact Program.wp_check_onExit (fun _ _ ↦ hs) hs

/-- No operation leaves a user behind, however it ends. -/
theorem wp_unregistered (use : Use) (rounds : Nat) (shared : S) :
    (use.program fl rounds).run.wp (Program.free W) (fun _ s ↦ ¬Open id user s) (shared, []) := by
  have hs : ¬Open id user (shared, ([] : Past)) := not_pending_nil
  have hdone {α : Type} {x : Call α} (hx : x.run.wp (Program.free W)
      (Program.onExit (fun s ↦ ¬Open id user s) fun _ s ↦ ¬Open id user s) (shared, ([] : Past))) :
      (do let _ ← x : Call Unit).run.wp (Program.free W) (fun _ s ↦ ¬Open id user s) (shared, ([] : Past)) := by
    have hended : (do let _ ← x : Call Unit).run.wp (Program.free W)
        (Program.onExit (fun s ↦ ¬Open id user s) fun _ s ↦ ¬Open id user s) (shared, ([] : Past)) :=
      Program.wp_seq_onExit hx fun _ _ hs ↦ hs
    refine Program.wp_mono ?_ hended
    intro result s hresult
    cases result with
    | ok => exact hresult
    | error e => exact hresult
  cases use with
  | online connection operation => exact hdone (wp_others (asks_runManagedOnlineMountOperationResult rounds operation) hs)
  | mirror connection operation => exact hdone (wp_usingVpn rounds (asks_mirrorStep rounds operation) hs)
  | legacyMirror connection operation =>
      refine hdone ?_
      rw [runManagedOnedriveOfflineMirrorOperation]
      split_ifs
      · exact Program.wp_seq_onExit (wp_others (asks_check _) hs) fun _ s hs ↦
          wp_usingVpn rounds (asks_legacyStep operation) hs
      · exact wp_usingVpn rounds (asks_legacyStep operation) hs
  | repair connection => exact hdone (wp_others asks_runOfflineMirrorRepairOperation hs)
  | test connection => exact hdone (wp_others (asks_testConnectionPlanAndAccess rounds) hs)
  | observe config => exact hdone (wp_others (asks_currentVpnReadyStates config) hs)

end Registered

end CosmicMounter.Vpn

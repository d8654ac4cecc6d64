import CosmicMounter.Vpn.Evidence

/-!
# Requests that only look

Most of what is asked about a VPN changes nothing.  Only the state of a tunnel
can show that it is up, and where it does, that is what the look results in.
-/

namespace CosmicMounter.Vpn

open Rust Interaction

/-- A request that changes nothing and does not ask for the state of a tunnel. -/
def IsStill : VpnRequest → Prop
  | .activateConnection _ | .deactivateConnection _ | .writeActivated _ | .lockActivation _ | .unlockActivation _
  | .registerUser _ _ | .unregisterUser _ _ | .activeState _ => False
  | .work step => ¬step.NeedsVpn
  | _ => True

/-- A request that changes nothing. -/
def IsQuiet (q : VpnRequest) : Prop := IsStill q ∨ ∃ path, q = .activeState path

section Asks

variable {K : VpnRequest → Prop} {fl : Message → String} {vpn : VpnProfile}

theorem asks_ask {ε : Type} {q : VpnRequest} (h : K q) :
    Asks K (liftM (ask q) : ExceptT ε (Program VpnRequest.Answer) q.Answer) := asks_lift ⟨h, fun _ ↦ trivial⟩

theorem only_ask {q : VpnRequest} (h : K q) : (ask q).Only K := ⟨h, fun _ ↦ trivial⟩

theorem asks_orElse {α : Type} {default : α} {step : Dbus α} (h : Asks K step) : Asks K (orElse default step) := by
  refine Asks.bind (asks_lift h.only) fun result ↦ ?_
  cases result with
  | ok value => exact asks_pure _
  | error e => exact asks_pure _

variable (hK : ∀ q, IsStill q → K q)

include hK

theorem asks_profilesAt (paths : List ObjectPath) : Asks K (profilesAt paths) := by
  induction paths with
  | nil => exact asks_pure _
  | cons path rest ih =>
      refine Asks.bind (asks_mk (only_ask (hK _ trivial))) fun values ↦ Asks.bind ih fun profiles ↦ ?_
      cases profileFromSettings values with
      | none => exact asks_pure _
      | some profile => exact asks_pure _

theorem asks_profile (uuid : String) : Asks K (profile fl uuid) :=
  Asks.bind (Asks.bind (asks_mk (only_ask (hK _ trivial))) fun paths ↦ asks_profilesAt hK paths) fun _ ↦ asks_check _

theorem asks_activePath (uuid : String) : Asks K (activePath uuid) := by
  refine Asks.bind (asks_mk (only_ask (hK _ trivial))) fun paths ↦ ?_
  induction paths with
  | nil => exact asks_pure _
  | cons path rest ih =>
      refine Asks.bind (asks_mk (only_ask (hK _ trivial))) fun activeUuid ↦ ?_
      by_cases huuid : activeUuid = uuid
      · rw [if_pos huuid]
        exact asks_pure _
      · rw [if_neg huuid]
        exact ih

theorem asks_connected : Asks K connected :=
  Asks.bind (asks_mk (only_ask (hK _ trivial))) fun _ ↦ asks_pure _

theorem asks_interfaceReady (name : String) : Asks K (interfaceReady name) := by
  refine Asks.bind (asks_mk (only_ask (hK _ trivial))) fun paths ↦ ?_
  induction paths with
  | nil => exact asks_pure _
  | cons path rest ih =>
      refine Asks.bind (asks_mk (only_ask (hK _ trivial))) fun interface ↦ ?_
      by_cases hname : interface = name
      · rw [if_pos hname]
        exact Asks.bind (asks_mk (only_ask (hK _ trivial))) fun _ ↦ asks_pure _
      · rw [if_neg hname]
        exact ih

theorem asks_probe (check : ReadinessCheck) : Asks K (probe check) := by
  cases check with
  | networkManagerState => exact asks_connected hK
  | interface name => exact asks_interfaceReady hK name
  | route target => exact asks_ask (hK _ trivial)
  | dnsName name => exact asks_ask (hK _ trivial)
  | endpoint endpoint => exact Asks.bind (asks_check _) fun target ↦ asks_ask (hK _ trivial)

theorem asks_readinessReport (checks : List ReadinessCheck) : Asks K (readinessReport checks) := by
  induction checks with
  | nil => exact asks_pure _
  | cons check rest ih =>
      exact Asks.bind (asks_probe hK check) fun _ ↦ Asks.bind ih fun _ ↦ asks_pure _

theorem asks_isOpenconnectProfile : Asks K (isOpenconnectProfile fl vpn) := by
  rw [isOpenconnectProfile]
  split
  · exact asks_orElse (Asks.bind (asks_profile hK _) fun _ ↦ asks_pure _)
  · exact asks_pure _

theorem asks_hostMountEntries : Asks K (hostMountEntries fl) :=
  Asks.bind (asks_mk (only_ask (hK _ trivial))) fun _ ↦ asks_check _

theorem asks_unitIsUp (connection : ConnectionId) (kind : UnitKind) : Asks K (unitIsUp connection kind) :=
  Asks.bind (asks_ask (hK _ trivial)) fun _ ↦ asks_pure _

theorem asks_connectionAppearsActive (connection : Connection) (mounts : List Mounts.MountEntry) :
    Asks K (connectionAppearsActive connection mounts) := by
  rw [connectionAppearsActive]
  cases connection.mode with
  | onlineMount options =>
      cases Detach.isMountedAt connection mounts with
      | true => exact asks_pure _
      | false => exact asks_unitIsUp hK _ _
  | offlineMirror options =>
      refine Asks.bind (asks_unitIsUp hK _ _) fun service ↦ ?_
      cases service with
      | true => exact asks_pure _
      | false => exact asks_unitIsUp hK _ _

theorem asks_activeAmong (mounts : List Mounts.MountEntry) (connections : List Connection) :
    Asks K (activeAmong mounts connections) := by
  induction connections with
  | nil => exact asks_pure _
  | cons connection rest ih =>
      exact Asks.bind (asks_connectionAppearsActive hK connection mounts) fun _ ↦ Asks.bind ih fun _ ↦ asks_pure _

theorem asks_activeConnectionsUsingVpn (id : VpnProfileId) (connection : ConnectionId) :
    Asks K (activeConnectionsUsingVpn fl id connection) :=
  Asks.bind (asks_ask (hK _ trivial)) fun _ ↦ Asks.bind (asks_hostMountEntries hK) fun _ ↦
    Asks.bind (asks_activeAmong hK _ _) fun _ ↦ Asks.bind (asks_ask (hK _ trivial)) fun _ ↦ asks_pure _

theorem asks_strictNetworkReady : Asks K (strictNetworkReady fl) := asks_reporting (asks_connected hK)

theorem asks_currentMeteredNetwork : Asks K currentMeteredNetwork :=
  asks_orElse (Asks.bind (asks_mk (only_ask (hK _ trivial))) fun _ ↦ asks_pure _)

end Asks

section AsksState

variable {fl : Message → String} {vpn : VpnProfile}

theorem isQuiet_of_isStill (q : VpnRequest) (h : IsStill q) : IsQuiet q := .inl h

theorem asks_state : Asks IsQuiet (state vpn) := by
  refine Asks.bind (asks_check _) fun _ ↦ Asks.bind (asks_check _) fun uuid ↦
    Asks.bind (asks_activePath isQuiet_of_isStill uuid) fun path ↦ ?_
  cases path with
  | none => exact asks_pure _
  | some path => exact Asks.bind (asks_mk (only_ask (.inr ⟨path, rfl⟩))) fun _ ↦ asks_pure _

theorem asks_vpnTunnelReady : Asks IsQuiet (vpnTunnelReady fl vpn) := by
  rw [vpnTunnelReady]
  cases vpn.kind with
  | networkManager => exact Asks.bind (asks_reporting asks_state) fun _ ↦ asks_pure _
  | legacyCisco => exact asks_throw _

theorem asks_vpnProfileReady : Asks IsQuiet (vpnProfileReady fl vpn) := by
  refine Asks.bind asks_vpnTunnelReady fun connected ↦ ?_
  cases connected with
  | true => exact asks_reporting (asks_readinessReport isQuiet_of_isStill _)
  | false => exact asks_pure _

theorem asks_lookAtVpn (requested : Bool) : Asks IsQuiet (lookAtVpn fl vpn requested) := by
  refine Asks.bind (asks_lift asks_state.only) fun result ↦ ?_
  cases result with
  | error e => exact asks_pure _
  | ok st =>
      dsimp only
      cases vpnActivationTerminalError fl st requested with
      | some error => exact asks_throw _
      | none =>
          dsimp only
          cases st.ready with
          | false => exact asks_pure _
          | true =>
              refine Asks.bind (asks_lift asks_vpnProfileReady.only) fun ready ↦ ?_
              cases ready with
              | ok ready => exact asks_pure _
              | error e => exact asks_pure _

theorem asks_waitForVpnReady (requested : Bool) (rounds : Nat) :
    Asks IsQuiet (waitForVpnReady fl vpn requested rounds) := by
  induction rounds with
  | zero => exact asks_pure _
  | succ rounds ih =>
      rw [waitForVpnReady]
      cases vpn.kind with
      | legacyCisco => exact asks_vpnProfileReady
      | networkManager =>
          refine Asks.bind (asks_lookAtVpn requested) fun ready ↦ ?_
          cases ready with
          | true => exact asks_pure _
          | false => exact Asks.bind (asks_ask (.inl trivial)) fun _ ↦ ih

end AsksState

/-! ## Before anything was activated -/

section Fresh

variable {fl : Message → String} {vpn : VpnProfile} {past segment : Past}

theorem fresh_nil : Fresh [] := ⟨fun _ ↦ List.not_mem_nil, fun _ _ ↦ List.not_mem_nil⟩

/-- Quiet requests activate nothing; what they have seen decides. -/
theorem Fresh.append (h : Fresh past) (hquiet : ∀ reply ∈ segment, IsQuiet reply.1)
    (hseen : ∀ path, ⟨.activeState path, .ok 2⟩ ∉ segment) : Fresh (past ++ segment) where
  notSeen path hmem := by
    rcases List.mem_append.mp hmem with hmem | hmem
    · exact h.notSeen path hmem
    · exact hseen path hmem
  notActivated path r hmem := by
    rcases List.mem_append.mp hmem with hmem | hmem
    · exact h.notActivated path r hmem
    · rcases hquiet _ hmem with hstill | ⟨path', heq⟩
      · exact hstill
      · cases heq

theorem not_seen_of_isStill (hstill : ∀ reply ∈ segment, IsStill reply.1) (path : ObjectPath) :
    ⟨.activeState path, .ok 2⟩ ∉ segment := fun hmem ↦ hstill _ hmem

theorem Fresh.still (h : Fresh past) (hstill : ∀ reply ∈ segment, IsStill reply.1) : Fresh (past ++ segment) :=
  h.append (fun reply hreply ↦ .inl (hstill reply hreply)) (not_seen_of_isStill hstill)

theorem Fresh.answered (h : Fresh past) {q : VpnRequest} {r : q.Answer} (hstate : ∀ path, q ≠ .activeState path)
    (hactivate : ∀ path, q ≠ .activateConnection path) : Fresh (past ++ [⟨q, r⟩]) where
  notSeen path hmem := by
    rcases List.mem_append.mp hmem with hmem | hmem
    · exact h.notSeen path hmem
    · exact hstate path (Sigma.mk.inj (List.mem_singleton.mp hmem)).1.symm
  notActivated path r hmem := by
    rcases List.mem_append.mp hmem with hmem | hmem
    · exact h.notActivated path r hmem
    · exact hactivate path (Sigma.mk.inj (List.mem_singleton.mp hmem)).1.symm

/-- Where a tunnel was seen up, that is the result. -/
theorem replay_state_seen {r : Except VpnError VpnConnectionState} (h : (state vpn).run.replay segment = some r)
    {path : ObjectPath} (hmem : ⟨.activeState path, .ok 2⟩ ∈ segment) : r = .ok .activated := by
  rcases Program.replay_run_bind_cases h with ⟨e, hchecked, -⟩ | ⟨first, second, ⟨⟩, rfl, hchecked, h₁⟩
  · obtain ⟨rfl, -⟩ := Program.replay_done hchecked
    exact absurd hmem List.not_mem_nil
  obtain ⟨rfl, -⟩ := Program.replay_check hchecked
  rcases Program.replay_run_bind_cases h₁ with ⟨e, hnamed, -⟩ | ⟨third, fourth, uuid, rfl, hnamed, h₂⟩
  · obtain ⟨rfl, -⟩ := Program.replay_done hnamed
    exact absurd hmem List.not_mem_nil
  obtain ⟨rfl, -⟩ := Program.replay_check hnamed
  have hstill {found : Except VpnError (Option ObjectPath)} {looked : Past}
      (hfound : (activePath uuid).run.replay looked = some found) : ⟨.activeState path, .ok 2⟩ ∉ looked :=
    not_seen_of_isStill (Program.replay_only (asks_activePath (fun _ hq ↦ hq) uuid).only hfound) path
  rcases Program.replay_run_bind_cases h₂ with ⟨e, hfound, -⟩ | ⟨fifth, sixth, found, rfl, hfound, h₃⟩
  · exact absurd hmem (hstill hfound)
  rcases List.mem_append.mp (show _ ∈ fifth ++ sixth from hmem) with hlooked | hlooked
  · exact absurd hlooked (hstill hfound)
  clear hmem
  cases found with
  | none =>
      obtain ⟨rfl, -⟩ := Program.replay_done h₃
      exact absurd hlooked List.not_mem_nil
  | some other =>
      rcases Program.replay_run_bind_cases h₃ with ⟨e, hasked, -⟩ | ⟨asked, rest, code, rfl, hasked, h₄⟩
      · obtain rfl := Program.replay_request hasked
        obtain ⟨hpath, heq⟩ := Sigma.mk.inj (List.mem_singleton.mp hlooked)
        obtain rfl := VpnRequest.activeState.inj hpath
        cases eq_of_heq heq
      · obtain rfl := Program.replay_request hasked
        obtain ⟨rfl, rfl⟩ := Program.replay_done h₄
        obtain ⟨hpath, heq⟩ := Sigma.mk.inj (List.mem_singleton.mp hlooked)
        obtain rfl := VpnRequest.activeState.inj hpath
        obtain rfl := Except.ok.inj (eq_of_heq heq)
        rfl

theorem replay_vpnTunnelReady_seen {r : Except String Bool}
    (h : (vpnTunnelReady fl vpn).run.replay segment = some r) {path : ObjectPath}
    (hmem : ⟨.activeState path, .ok 2⟩ ∈ segment) : r = .ok true := by
  rw [vpnTunnelReady] at h
  cases hkind : vpn.kind with
  | legacyCisco =>
      rw [hkind] at h
      obtain ⟨rfl, -⟩ := Program.replay_done h
      exact absurd hmem List.not_mem_nil
  | networkManager =>
      rw [hkind] at h
      have hcases := Program.replay_run_bind_cases h
      rw [shown, Program.run_reporting] at hcases
      rcases hcases with ⟨e, hlooked, rfl⟩ | ⟨first, second, st, rfl, hlooked, h₁⟩
      · obtain ⟨third, fourth, result, rfl, hstate, h₂⟩ := Program.replay_bind hlooked
        obtain ⟨rfl, hresult⟩ := Program.replay_done h₂
        rw [List.append_nil] at hmem
        rw [replay_state_seen hstate hmem] at hresult
        cases hresult
      · obtain ⟨third, fourth, result, rfl, hstate, h₂⟩ := Program.replay_bind hlooked
        obtain ⟨rfl, hresult⟩ := Program.replay_done h₂
        obtain ⟨rfl, rfl⟩ := Program.replay_done h₁
        simp only [List.append_nil] at hmem
        rw [replay_state_seen hstate hmem] at hresult
        obtain rfl := Except.ok.inj hresult
        rfl

end Fresh

end CosmicMounter.Vpn

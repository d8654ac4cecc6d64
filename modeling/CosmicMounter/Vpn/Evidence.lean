import CosmicMounter.Interaction.Replay
import CosmicMounter.Vpn.World

/-!
# What the answers show

What was seen stays seen.  A recorded segment that replays to a result holds
the answers the result came from: a profile that counts as ready was seen up
with every check passed, and a profile that nothing uses was seen unused.
-/

namespace CosmicMounter.Vpn

open Rust Interaction

/-! ## More is seen later -/

section Mono

variable {vpn : VpnProfile} {use : Use} {past past' : Past}

theorem SavedAs.mono {path : ObjectPath} (h : SavedAs vpn past path) (hsub : past ⊆ past') :
    SavedAs vpn past' path := by
  obtain ⟨values, saved, hmem, hsaved⟩ := h
  exact ⟨values, saved, hsub hmem, hsaved⟩

theorem ActiveAs.mono {path : ObjectPath} (h : ActiveAs vpn past path) (hsub : past ⊆ past') :
    ActiveAs vpn past' path := by
  obtain ⟨uuid, huuid, hmem⟩ := h
  exact ⟨uuid, huuid, hsub hmem⟩

theorem CheckedReady.mono {check : ReadinessCheck} (h : CheckedReady past check) (hsub : past ⊆ past') :
    CheckedReady past' check := by
  cases check with
  | networkManagerState => exact h.imp fun _ hstate ↦ ⟨hsub hstate.1, hstate.2⟩
  | interface name => exact h.imp fun _ hpath ↦ ⟨hsub hpath.1, hsub hpath.2⟩
  | route target => exact hsub h
  | dnsName name => exact hsub h
  | endpoint endpoint => exact h.imp fun _ htarget ↦ ⟨htarget.1, hsub htarget.2⟩

theorem SeenUp.mono (h : SeenUp vpn past) (hsub : past ⊆ past') : SeenUp vpn past' where
  active := h.active.imp fun _ hpath ↦ ⟨hpath.1.mono hsub, hsub hpath.2⟩
  checked check hcheck := (h.checked check hcheck).mono hsub

theorem BroughtUp.append (h : BroughtUp vpn past) (more : Past) : BroughtUp vpn (past ++ more) := by
  obtain ⟨before, path, after, rfl, hfresh, hsaved, hup⟩ := h
  exact ⟨before, path, after ++ more, by simp, hfresh, hsaved, hup.mono (List.subset_append_left _ _)⟩

theorem Activated.append (h : Activated vpn past) (more : Past) : Activated vpn (past ++ more) := by
  obtain ⟨before, path, after, rfl, hfresh, hsaved⟩ := h
  exact ⟨before, path, after ++ more, by simp, hfresh, hsaved⟩

theorem Configured.mono (h : Configured use past vpn) (hsub : past ⊆ past') : Configured use past' vpn where
  own := h.own
  loaded := by
    obtain ⟨document, saved, isOpenconnect, hdocument, hsaved⟩ := h.loaded
    exact ⟨document, saved, isOpenconnect, hsub hdocument, hsaved⟩

theorem Ensured.mono (h : Ensured use past) (hsub : past ⊆ past') : Ensured use past' := by
  intro id hid
  obtain ⟨vpn, hvpn, hconfigured, hup⟩ := h id hid
  exact ⟨vpn, hvpn, hconfigured.mono hsub, hup.mono hsub⟩

theorem SeenInactive.mono {mounts : List Mounts.MountEntry} {connection : Connection}
    (h : SeenInactive mounts past connection) (hsub : past ⊆ past') : SeenInactive mounts past' connection := by
  cases hmode : connection.mode with
  | onlineMount options =>
      simp only [SeenInactive, hmode] at h ⊢
      exact ⟨h.1, h.2.imp fun _ hstatus ↦ ⟨hsub hstatus.1, hstatus.2⟩⟩
  | offlineMirror options =>
      simp only [SeenInactive, hmode] at h ⊢
      exact fun kind ↦ (h kind).imp fun _ hstatus ↦ ⟨hsub hstatus.1, hstatus.2⟩

theorem SeenUnused.mono {id : VpnProfileId} {connection : ConnectionId} (h : SeenUnused id connection past)
    (hsub : past ⊆ past') : SeenUnused id connection past' where
  inactive := by
    obtain ⟨document, text, mounts, hdocument, htext, hmounts, hothers⟩ := h.inactive
    exact ⟨document, text, mounts, hsub hdocument, hsub htext, hmounts,
      fun other hother ↦ (hothers other hother).mono hsub⟩
  unused := h.unused.imp fun _ husers ↦ ⟨hsub husers.1, husers.2⟩

theorem Releases.mono {id : VpnProfileId} {connection : Connection} (h : Releases id connection past)
    (hsub : past ⊆ past') : Releases id connection past' where
  wanted := h.wanted
  listed := h.listed.imp fun _ hids ↦ ⟨hsub hids.1, hids.2⟩
  unused := h.unused.mono hsub

end Mono

/-! ## Saved and active connections -/

section Replay

variable {fl : Message → String} {vpn : VpnProfile} {segment : Past}

theorem replay_ask {ε : Type} {q : VpnRequest} {r : q.Answer}
    (h : (liftM (ask q) : ExceptT ε (Program VpnRequest.Answer) q.Answer).run.replay segment = some (.ok r)) :
    segment = [⟨q, r⟩] := Program.replay_request (Program.replay_lift h)

theorem replay_profilesAt {paths : List ObjectPath} {entries : List (NetworkManagerVpnProfile × ObjectPath)}
    (h : (profilesAt paths).run.replay segment = some (.ok entries)) :
    ∀ entry ∈ entries, ∃ values, ⟨.getSettings entry.2, .ok values⟩ ∈ segment ∧
      profileFromSettings values = some entry.1 := by
  induction paths generalizing segment entries with
  | nil =>
      obtain ⟨-, hentries⟩ := Program.replay_done h
      obtain rfl := Except.ok.inj hentries
      exact fun _ hmem ↦ absurd hmem List.not_mem_nil
  | cons path rest ih =>
      obtain ⟨first, second, values, rfl, hfirst, h₁⟩ := Program.replay_run_bind h
      obtain rfl := Program.replay_request hfirst
      obtain ⟨third, fourth, others, rfl, hthird, h₂⟩ := Program.replay_run_bind h₁
      have hkept {entry : NetworkManagerVpnProfile × ObjectPath} (hentry : entry ∈ others) :=
        (ih hthird entry hentry).imp fun _ hvalues ↦
          And.imp_left (fun hmem ↦ List.mem_cons_of_mem (⟨.getSettings path, .ok values⟩ : (q : VpnRequest) × q.Answer)
            (List.mem_append_left fourth hmem)) hvalues
      cases hsaved : profileFromSettings values with
      | none =>
          rw [hsaved] at h₂
          obtain rfl := Except.ok.inj (Program.replay_done h₂).2
          exact fun entry hentry ↦ hkept hentry
      | some saved =>
          rw [hsaved] at h₂
          obtain rfl := Except.ok.inj (Program.replay_done h₂).2
          intro entry hentry
          rcases List.mem_cons.mp hentry with rfl | hentry
          · exact ⟨values, List.mem_append_left _ List.mem_cons_self, hsaved⟩
          · exact hkept hentry

theorem replay_profile {uuid : String} {entry : NetworkManagerVpnProfile × ObjectPath}
    (h : (profile fl uuid).run.replay segment = some (.ok entry)) (huuid : vpn.externalProfileId = some uuid) :
    SavedAs vpn segment entry.2 := by
  obtain ⟨first, second, entries, rfl, hfirst, h₁⟩ := Program.replay_run_bind h
  obtain ⟨third, fourth, paths, rfl, -, hpaths⟩ := Program.replay_run_bind hfirst
  obtain ⟨rfl, hfound⟩ := Program.replay_check h₁
  rw [found] at hfound
  cases hfind : entries.find? fun entry ↦ decide (entry.1.uuid = uuid) with
  | none =>
      rw [hfind] at hfound
      cases hfound
  | some other =>
      rw [hfind] at hfound
      obtain rfl := Except.ok.inj hfound
      obtain ⟨values, hmem, hsaved⟩ := replay_profilesAt hpaths other (List.mem_of_find?_eq_some hfind)
      have hother : other.1.uuid = uuid := by simpa using List.find?_some hfind
      refine ⟨values, other.1, ?_, hsaved, by rw [huuid, hother]⟩
      simp [hmem]

theorem replay_activePath {uuid : String} {path : ObjectPath}
    (h : (activePath uuid).run.replay segment = some (.ok (some path))) : ⟨.activeUuid path, .ok uuid⟩ ∈ segment := by
  obtain ⟨first, second, paths, rfl, -, h₁⟩ := Program.replay_run_bind h
  refine List.mem_append_right _ ?_
  clear h
  induction paths generalizing second with
  | nil => cases (Program.replay_done h₁).2
  | cons other rest ih =>
      obtain ⟨third, fourth, activeUuid, rfl, hthird, h₂⟩ := Program.replay_run_bind h₁
      obtain rfl := Program.replay_request hthird
      by_cases huuid : activeUuid = uuid
      · rw [if_pos huuid] at h₂
        obtain ⟨-, hpath⟩ := Program.replay_done h₂
        obtain rfl := Option.some.inj (Except.ok.inj hpath)
        exact List.mem_append_left _ (huuid ▸ List.mem_cons_self)
      · rw [if_neg huuid] at h₂
        exact List.mem_append_right _ (ih _ h₂)

theorem externalProfileId_eq_ok {uuid : String} (h : externalProfileId vpn = .ok uuid) :
    vpn.externalProfileId = some uuid := by
  rw [externalProfileId] at h
  cases hid : vpn.externalProfileId with
  | none =>
      rw [hid] at h
      cases h
  | some value =>
      rw [hid] at h
      dsimp only at h
      split_ifs at h
      exact congrArg some (Except.ok.inj h)

theorem ofCode_ready {code : Nat} (h : (VpnConnectionState.ofCode code).ready = true) : code = 2 := by
  unfold VpnConnectionState.ofCode at h
  split at h
  all_goals first | rfl | exact absurd h (by decide)

theorem replay_state {st : VpnConnectionState} (h : (state vpn).run.replay segment = some (.ok st))
    (hready : st.ready = true) : ∃ path, ActiveAs vpn segment path ∧ ⟨.activeState path, .ok 2⟩ ∈ segment := by
  obtain ⟨first, second, ⟨⟩, rfl, hfirst, h₁⟩ := Program.replay_run_bind h
  obtain ⟨rfl, -⟩ := Program.replay_check hfirst
  obtain ⟨third, fourth, uuid, rfl, hthird, h₂⟩ := Program.replay_run_bind h₁
  obtain ⟨rfl, huuid⟩ := Program.replay_check hthird
  obtain ⟨fifth, sixth, path, rfl, hfifth, h₃⟩ := Program.replay_run_bind h₂
  cases path with
  | none =>
      obtain rfl := Except.ok.inj (Program.replay_done h₃).2
      cases hready
  | some path =>
      obtain ⟨asked, rest, code, rfl, hasked, h₄⟩ := Program.replay_run_bind h₃
      obtain rfl := Program.replay_request hasked
      obtain ⟨rfl, hst⟩ := Program.replay_done h₄
      obtain rfl := Except.ok.inj hst
      obtain rfl := ofCode_ready hready
      refine ⟨path, ⟨uuid, externalProfileId_eq_ok huuid, ?_⟩, by simp⟩
      simp [replay_activePath hfifth]

/-! ## Readiness -/

theorem replay_connected (h : connected.run.replay segment = some (.ok true)) :
    CheckedReady segment .networkManagerState := by
  obtain ⟨first, second, code, rfl, hfirst, h₁⟩ := Program.replay_run_bind h
  obtain rfl := Program.replay_request hfirst
  have hcode := Except.ok.inj (Program.replay_done h₁).2
  exact ⟨code, List.mem_append_left _ List.mem_cons_self, by simpa using hcode⟩

theorem replay_interfaceReady {name : String} (h : (interfaceReady name).run.replay segment = some (.ok true)) :
    CheckedReady segment (.interface name) := by
  obtain ⟨first, second, paths, rfl, -, h₁⟩ := Program.replay_run_bind h
  refine CheckedReady.mono ?_ (List.subset_append_right _ _)
  clear h
  induction paths generalizing second with
  | nil => cases (Program.replay_done h₁).2
  | cons path rest ih =>
      obtain ⟨third, fourth, interface, rfl, hthird, h₂⟩ := Program.replay_run_bind h₁
      obtain rfl := Program.replay_request hthird
      by_cases hname : interface = name
      · rw [if_pos hname] at h₂
        obtain ⟨fifth, sixth, code, rfl, hfifth, h₃⟩ := Program.replay_run_bind h₂
        obtain rfl := Program.replay_request hfifth
        obtain rfl : code = 100 := beq_iff_eq.mp (Except.ok.inj (Program.replay_done h₃).2)
        subst hname
        exact ⟨path, by simp, by simp⟩
      · rw [if_neg hname] at h₂
        exact (ih _ h₂).mono (List.subset_append_right _ _)

theorem replay_probe {check : ReadinessCheck} (h : (probe check).run.replay segment = some (.ok true)) :
    CheckedReady segment check := by
  cases check with
  | networkManagerState => exact replay_connected h
  | interface name => exact replay_interfaceReady h
  | route target =>
      obtain rfl := replay_ask h
      exact List.mem_cons_self
  | dnsName name =>
      obtain rfl := replay_ask h
      exact List.mem_cons_self
  | endpoint endpoint =>
      obtain ⟨first, second, target, rfl, hfirst, h₁⟩ := Program.replay_run_bind h
      obtain ⟨rfl, htarget⟩ := Program.replay_check hfirst
      obtain rfl := replay_ask h₁
      exact ⟨target, htarget, List.mem_cons_self⟩

theorem replay_readinessReport {checks : List ReadinessCheck}
    (h : (readinessReport checks).run.replay segment = some (.ok true)) :
    ∀ check ∈ checks, CheckedReady segment check := by
  induction checks generalizing segment with
  | nil => exact fun _ hmem ↦ absurd hmem List.not_mem_nil
  | cons check rest ih =>
      obtain ⟨first, second, ready, rfl, hfirst, h₁⟩ := Program.replay_run_bind h
      obtain ⟨third, fourth, restReady, rfl, hthird, h₂⟩ := Program.replay_run_bind h₁
      obtain ⟨rfl, hboth⟩ := Program.replay_done h₂
      obtain ⟨rfl, rfl⟩ := (Bool.and_eq_true _ _).mp (Except.ok.inj hboth)
      intro other hother
      rcases List.mem_cons.mp hother with rfl | hother
      · exact (replay_probe hfirst).mono (List.subset_append_left _ _)
      · exact (ih hthird other hother).mono (by simp)

/-- A tunnel that counts as ready was seen up. -/
theorem replay_vpnTunnelReady (h : (vpnTunnelReady fl vpn).run.replay segment = some (.ok true)) :
    ∃ path, ActiveAs vpn segment path ∧ ⟨.activeState path, .ok 2⟩ ∈ segment := by
  rw [vpnTunnelReady] at h
  cases hkind : vpn.kind with
  | legacyCisco =>
      rw [hkind] at h
      cases (Program.replay_done h).2
  | networkManager =>
      rw [hkind] at h
      obtain ⟨first, second, st, rfl, hfirst, h₁⟩ := Program.replay_run_bind h
      obtain ⟨path, hactive, hmem⟩ := replay_state (Program.replay_reporting hfirst)
        (Except.ok.inj (Program.replay_done h₁).2)
      exact ⟨path, hactive.mono (List.subset_append_left _ _), List.mem_append_left _ hmem⟩

theorem replay_vpnProfileReady (h : (vpnProfileReady fl vpn).run.replay segment = some (.ok true)) :
    SeenUp vpn segment := by
  obtain ⟨first, second, up, rfl, hfirst, h₁⟩ := Program.replay_run_bind h
  cases up with
  | false => cases (Program.replay_done h₁).2
  | true =>
      have hchecked := replay_readinessReport (Program.replay_reporting h₁)
      refine ⟨(replay_vpnTunnelReady hfirst).imp fun path hpath ↦ ?_, fun check hcheck ↦ ?_⟩
      · exact ⟨hpath.1.mono (List.subset_append_left _ _), List.mem_append_left _ hpath.2⟩
      · exact (hchecked check hcheck).mono (List.subset_append_right _ _)

theorem replay_lookAtVpn {requested : Bool} (h : (lookAtVpn fl vpn requested).run.replay segment = some (.ok true)) :
    SeenUp vpn segment := by
  obtain ⟨first, second, result, rfl, -, h₁⟩ := Program.replay_run_bind h
  refine SeenUp.mono ?_ (List.subset_append_right _ _)
  cases result with
  | error e => cases (Program.replay_done h₁).2
  | ok st =>
      dsimp only at h₁
      cases hterminal : vpnActivationTerminalError fl st requested with
      | some error =>
          rw [hterminal] at h₁
          cases (Program.replay_done h₁).2
      | none =>
          rw [hterminal] at h₁
          dsimp only at h₁
          cases hready : st.ready with
          | false =>
              rw [hready] at h₁
              cases (Program.replay_done h₁).2
          | true =>
              rw [hready, if_pos rfl] at h₁
              obtain ⟨third, fourth, ready, rfl, hthird, h₂⟩ := Program.replay_run_bind h₁
              refine SeenUp.mono ?_ (List.subset_append_left _ _)
              cases ready with
              | error e => cases (Program.replay_done h₂).2
              | ok ready =>
                  obtain rfl := Except.ok.inj (Program.replay_done h₂).2
                  exact replay_vpnProfileReady (Program.replay_lift hthird)

theorem replay_waitForVpnReady {requested : Bool} {rounds : Nat}
    (h : (waitForVpnReady fl vpn requested rounds).run.replay segment = some (.ok true)) : SeenUp vpn segment := by
  induction rounds generalizing segment with
  | zero => cases (Program.replay_done h).2
  | succ rounds ih =>
      rw [waitForVpnReady] at h
      cases hkind : vpn.kind with
      | legacyCisco =>
          rw [hkind] at h
          exact replay_vpnProfileReady h
      | networkManager =>
          rw [hkind] at h
          obtain ⟨first, second, ready, rfl, hfirst, h₁⟩ := Program.replay_run_bind h
          cases ready with
          | true => exact (replay_lookAtVpn hfirst).mono (List.subset_append_left _ _)
          | false =>
              obtain ⟨third, fourth, ⟨⟩, rfl, -, h₂⟩ := Program.replay_run_bind h₁
              exact (ih h₂).mono (by simp)

/-! ## Use by others -/

theorem replay_unitIsUp {connection : ConnectionId} {kind : UnitKind} {up : Bool}
    (h : (unitIsUp connection kind).run.replay segment = some (.ok up)) :
    ∃ status, ⟨.unitStatus ⟨connection, kind⟩, status⟩ ∈ segment ∧ isUp status = up := by
  obtain ⟨first, second, status, rfl, hfirst, h₁⟩ := Program.replay_run_bind h
  obtain rfl := replay_ask hfirst
  exact ⟨status, List.mem_append_left _ List.mem_cons_self, Except.ok.inj (Program.replay_done h₁).2⟩

theorem replay_connectionAppearsActive {connection : Connection} {mounts : List Mounts.MountEntry}
    (h : (connectionAppearsActive connection mounts).run.replay segment = some (.ok false)) :
    SeenInactive mounts segment connection := by
  rw [connectionAppearsActive] at h
  rw [SeenInactive]
  cases hmode : connection.mode with
  | onlineMount options =>
      rw [hmode] at h
      dsimp only at h ⊢
      cases hmounted : Detach.isMountedAt connection mounts with
      | true =>
          rw [hmounted] at h
          cases (Program.replay_done h).2
      | false =>
          rw [hmounted] at h
          exact ⟨rfl, replay_unitIsUp h⟩
  | offlineMirror options =>
      rw [hmode] at h
      dsimp only at h ⊢
      obtain ⟨first, second, service, rfl, hfirst, h₁⟩ := Program.replay_run_bind h
      cases service with
      | true => cases (Program.replay_done h₁).2
      | false =>
          intro kind
          cases kind with
          | service =>
              exact (replay_unitIsUp hfirst).imp fun _ hstatus ↦ ⟨List.mem_append_left _ hstatus.1, hstatus.2⟩
          | timer =>
              exact (replay_unitIsUp h₁).imp fun _ hstatus ↦ ⟨List.mem_append_right _ hstatus.1, hstatus.2⟩

theorem replay_activeAmong {mounts : List Mounts.MountEntry} {connections : List Connection}
    (h : (activeAmong mounts connections).run.replay segment = some (.ok ∅)) :
    ∀ connection ∈ connections, SeenInactive mounts segment connection := by
  induction connections generalizing segment with
  | nil => exact fun _ hmem ↦ absurd hmem List.not_mem_nil
  | cons connection rest ih =>
      obtain ⟨first, second, active, rfl, hfirst, h₁⟩ := Program.replay_run_bind h
      obtain ⟨third, fourth, others, rfl, hthird, h₂⟩ := Program.replay_run_bind h₁
      have hnone := Except.ok.inj (Program.replay_done h₂).2
      cases active with
      | true => exact absurd hnone (Finset.insert_ne_empty connection.id others)
      | false =>
          obtain rfl : others = ∅ := hnone
          intro other hother
          rcases List.mem_cons.mp hother with rfl | hother
          · exact (replay_connectionAppearsActive hfirst).mono (List.subset_append_left _ _)
          · exact (ih hthird other hother).mono (by simp)

/-- No active connection means that every other one was seen inactive, and no finite user. -/
theorem replay_activeConnectionsUsingVpn {id : VpnProfileId} {connection : ConnectionId}
    (h : (activeConnectionsUsingVpn fl id connection).run.replay segment = some (.ok ∅)) :
    SeenUnused id connection segment := by
  obtain ⟨first, second, document, rfl, hfirst, h₁⟩ := Program.replay_run_bind h
  obtain rfl := replay_ask hfirst
  obtain ⟨third, fourth, mounts, rfl, hthird, h₂⟩ := Program.replay_run_bind h₁
  obtain ⟨asked, rest, text, rfl, hasked, htable⟩ := Program.replay_run_bind hthird
  obtain rfl := Program.replay_request hasked
  obtain ⟨rfl, hmounts⟩ := Program.replay_check htable
  obtain ⟨fifth, sixth, active, rfl, hfifth, h₃⟩ := Program.replay_run_bind h₂
  obtain ⟨seventh, last, users, rfl, hseventh, h₄⟩ := Program.replay_run_bind h₃
  obtain rfl := replay_ask hseventh
  obtain ⟨rfl, hunion⟩ := Program.replay_done h₄
  obtain ⟨rfl, husers⟩ := Finset.union_eq_empty.mp (Except.ok.inj hunion)
  have hmounts : (Str.lines text).mapM Mounts.parseMountinfoLine = .ok mounts := by
    cases hparsed : (Str.lines text).mapM Mounts.parseMountinfoLine with
    | error e =>
        rw [hparsed] at hmounts
        cases hmounts
    | ok parsed =>
        rw [hparsed] at hmounts
        exact congrArg Except.ok (Except.ok.inj hmounts)
  refine ⟨⟨document, text, mounts, by simp, by simp, hmounts, fun other hother ↦ ?_⟩, users, by simp, husers⟩
  refine (replay_activeAmong hfifth other hother).mono ?_
  exact List.subset_append_of_subset_right _ (List.subset_append_of_subset_right _ (List.subset_append_left _ _))

end Replay

end CosmicMounter.Vpn

import CosmicMounter.Interaction.Remembering
import CosmicMounter.Vpn.Looking

/-!
# Each operation keeps to its contract

A tunnel is activated and listed while the lock of its profile is held, and
brought down for a reason that the operation has seen.  Storage is only reached
after the tunnel was seen up.
-/

namespace CosmicMounter.Vpn

open Rust Interaction Program

section Contract

variable {T P : Type} [DecidableEq P] {process : T → P} {use : Use} {t : T}
  {fl : Message → String} {vpn : VpnProfile} {connection : Connection}

/-! ## The lock -/

/-- The thread holds the lock of this profile in its process, and no other. -/
def Locked (process : T → P) (t : T) (held : Option VpnProfileId) (s : Shared T P) : Prop :=
  ∀ id, Holds process t id s ↔ held = some id

/-- A step that leaves the lock alone. -/
abbrev Steps (process : T → P) (use : Use) (t : T) (held : Option VpnProfileId) {α : Type} (x : Call α)
    (post : α → Shared T P × Past → Prop) (s : Shared T P × Past) : Prop :=
  Remembers (guarded process use t) (Locked process t held) x post s

variable {held : Option VpnProfileId} {s s' : Shared T P} {past : Past}

omit [DecidableEq P] in
theorem Locked.relied (h : Locked process t held s) (hrely : Relied process t s s') : Locked process t held s' :=
  fun id ↦ (hrely id).trans (h id)

/-- A request about no lock leaves the locks alone. -/
def IsLockless : VpnRequest → Prop
  | .lockActivation _ | .unlockActivation _ => False
  | _ => True

theorem Locked.answered {q : VpnRequest} {r : q.Answer} (h : Locked process t held s) (hq : IsLockless q)
    (hw : World.interfered (Answers process t) (Relied process t) s q r s') : Locked process t held s' := by
  obtain ⟨s₁, hanswers, hrely⟩ := hw
  have hholder : s₁.holder = s.holder := by
    rw [hanswers.holder]
    cases q with
    | lockActivation id | unlockActivation id => exact hq.elim
    | _ => rfl
  refine Locked.relied (fun id ↦ ?_) hrely
  rw [Holds, hholder]
  exact h id

theorem isLockless_of_isQuiet {q : VpnRequest} (h : IsQuiet q) : IsLockless q := by
  rcases h with h | ⟨path, rfl⟩
  · cases q with
    | lockActivation id | unlockActivation id => exact h
    | _ => trivial
  · trivial

omit [DecidableEq P] in
theorem mayAsk_of_isQuiet {q : VpnRequest} (h : IsQuiet q) : MayAsk process use t s past q := by
  rcases h with h | ⟨path, rfl⟩
  · cases q with
    | work step =>
        refine ⟨fun hneeds ↦ absurd hneeds h, ?_⟩
        rintro operation rfl
        exact absurd trivial h
    | activateConnection path | deactivateConnection path | writeActivated ids | lockActivation id
    | unlockActivation id | registerUser id connection | unregisterUser id connection => exact h.elim
    | _ => trivial
  · trivial

/-! ## Single steps -/

section Steps

variable {α : Type} {base : Shared T P × Past}

/-- Looking: what the answers show is known afterwards. -/
theorem Steps.look {ε : Type} {x : ExceptT ε (Program VpnRequest.Answer) α} {post : α → Shared T P × Past → Prop}
    (hx : Asks IsQuiet x) (hs : Locked process t held base.1)
    (h : ∀ a state segment, Locked process t held state → (∀ reply ∈ segment, IsQuiet reply.1) →
      x.run.replay segment = some (.ok a) → post a (state, base.2 ++ segment)) :
    Remembers (guarded process use t) (Locked process t held) x post base :=
  Remembers.look (P := IsQuiet) (fun _ _ _ _ hq ↦ mayAsk_of_isQuiet hq)
    (fun _ _ _ _ hs hq hw ↦ hs.answered (isLockless_of_isQuiet hq) hw) hx hs h

/-- A look that is still shows no tunnel that is up. -/
theorem Steps.still {ε : Type} {x : ExceptT ε (Program VpnRequest.Answer) α} (hx : Asks IsStill x)
    (hs : Locked process t held base.1) :
    Remembers (guarded process use t) (Locked process t held) x (fun _ s ↦ Fresh base.2 → Fresh s.2) base :=
  Steps.look (hx.mono isQuiet_of_isStill) hs fun _ _ _ _ _ hreplay hfresh ↦
    hfresh.still (Program.replay_only hx.only hreplay)

/-- Looking where nothing has to be remembered. -/
theorem Steps.glance {ε : Type} {x : ExceptT ε (Program VpnRequest.Answer) α} (hx : Asks IsQuiet x)
    (hs : Locked process t held base.1) :
    Remembers (guarded process use t) (Locked process t held) x (fun _ _ ↦ True) base :=
  Steps.look hx hs fun _ _ _ _ _ _ ↦ trivial

theorem Steps.ask {ε : Type} {q : VpnRequest} {post : q.Answer → Shared T P × Past → Prop} (hq : IsLockless q)
    (hs : Locked process t held base.1) (hmay : MayAsk process use t base.1 base.2 q)
    (h : ∀ r state, Locked process t held state → post r (state, base.2 ++ [⟨q, r⟩])) :
    Remembers (guarded process use t) (Locked process t held)
      (liftM (ask q) : ExceptT ε (Program VpnRequest.Answer) q.Answer) post base :=
  Remembers.ask hmay (fun _ _ hw ↦ hs.answered hq hw) fun r state hstate ↦ h r state hstate

theorem Steps.answer {ε : Type} {q : VpnRequest} {f : q.Answer → Except ε α}
    {post : α → Shared T P × Past → Prop} (hq : IsLockless q) (hs : Locked process t held base.1)
    (hmay : MayAsk process use t base.1 base.2 q)
    (h : ∀ r state a, Locked process t held state → f r = .ok a → post a (state, base.2 ++ [⟨q, r⟩])) :
    Remembers (guarded process use t) (Locked process t held)
      (ExceptT.mk (Program.ask (R := VpnRequest.Answer) q fun r ↦ .done (f r))) post base :=
  Remembers.answer hmay (fun _ _ hw ↦ hs.answered hq hw) h

end Steps

/-! ## Activating -/

section Activation

variable {base : Shared T P × Past}

/-- The activation of a tunnel that was not seen up, under the lock. -/
theorem steps_activate (hs : Locked process t (some vpn.id) base.1) (hconfigured : Configured use base.2 vpn)
    (hfresh : Fresh base.2) :
    Remembers (guarded process use t) (Locked process t (some vpn.id)) (activate fl vpn)
      (fun _ s ↦ ∃ before path, s.2 = before ++ [⟨.activateConnection path, .ok ()⟩] ∧ Fresh before ∧
        SavedAs vpn before path) base := by
  refine Remembers.check_bind hs fun _ _ ↦ Remembers.check_bind hs fun uuid hchecked ↦ ?_
  have huuid := externalProfileId_eq_ok hchecked
  refine Remembers.bind (J := fun entry s ↦ Fresh s.2 ∧ SavedAs vpn s.2 entry.2)
    (Steps.look (asks_profile isQuiet_of_isStill uuid) hs fun entry state segment _ hquiet hreplay ↦ ?_) ?_
  · have hstill := Program.replay_only (asks_profile (fun _ hq ↦ hq) uuid).only hreplay
    exact ⟨hfresh.still hstill, (replay_profile hreplay huuid).mono (List.subset_append_right _ _)⟩
  rintro entry s₁ h₁ ⟨hfresh₁, hsaved⟩
  have hactivated {s₂ : Shared T P × Past} (h₂ : Later (Locked process t (some vpn.id)) s₁ s₂) (hfresh₂ : Fresh s₂.2) :
      Remembers (guarded process use t) (Locked process t (some vpn.id))
        (ExceptT.mk (ask (.activateConnection entry.2)) : Dbus Unit) (fun _ s ↦ ∃ before path,
          s.2 = before ++ [⟨.activateConnection path, .ok ()⟩] ∧ Fresh before ∧ SavedAs vpn before path) s₂ := by
    have hsaved₂ := hsaved.mono h₂.subset
    have hmay : MayAsk process use t s₂.1 s₂.2 (.activateConnection entry.2) :=
      ⟨vpn, (hconfigured.mono h₁.subset).mono h₂.subset, (h₂.holds vpn.id).mpr rfl, hfresh₂, hsaved₂⟩
    exact Steps.answer (q := .activateConnection entry.2) (f := fun r ↦ r) trivial h₂.holds hmay
      fun r state _ _ hr ↦ ⟨s₂.2, entry.2, by rw [hr], hfresh₂, hsaved₂⟩
  cases entry.1.isOpenconnect with
  | false => exact hactivated (.refl h₁.holds) hfresh₁
  | true =>
      have hasks : Asks IsStill (ExceptT.mk (ask .restartOpenconnectAgent) : Dbus Unit) := asks_mk (only_ask trivial)
      exact Remembers.bind (Steps.still hasks h₁.holds) fun _ s₂ h₂ hfresh₂ ↦ hactivated h₂ (hfresh₂ hfresh₁)

/-- A tunnel is brought down where there is a reason for it at that time. -/
theorem steps_deactivate (hs : Locked process t held base.1) (hconfigured : Configured use base.2 vpn)
    (hmay : ∀ s, Later (Locked process t held) base s → MayDeactivate process use t s.1 s.2 vpn) :
    Remembers (guarded process use t) (Locked process t held) (deactivate vpn) (fun _ _ ↦ True) base := by
  refine Remembers.check_bind hs fun _ _ ↦ Remembers.check_bind hs fun uuid hchecked ↦ ?_
  have huuid := externalProfileId_eq_ok hchecked
  refine Remembers.bind (J := fun found s ↦ ∀ path, found = some path → ActiveAs vpn s.2 path)
    (Steps.look (asks_activePath isQuiet_of_isStill uuid) hs fun found state segment _ _ hreplay path hpath ↦ ?_) ?_
  · subst hpath
    exact ⟨uuid, huuid, List.mem_append_right _ (replay_activePath hreplay)⟩
  intro found s₁ h₁ hactive
  cases found with
  | none => exact Remembers.pure h₁.holds trivial
  | some path =>
      have hmay₁ : MayAsk process use t s₁.1 s₁.2 (.deactivateConnection path) :=
        ⟨vpn, hconfigured.mono h₁.subset, hactive path rfl, hmay s₁ h₁⟩
      exact Steps.answer (q := .deactivateConnection path) (f := fun r ↦ r) trivial h₁.holds hmay₁
        fun _ _ _ _ _ ↦ trivial

/-- The list is read and written again; what may be written is told by what was read. -/
theorem steps_relist {f : Finset VpnProfileId → Finset VpnProfileId} (hs : Locked process t held base.1)
    (hmay : ∀ read s, Later (Locked process t held) base s → ⟨.readActivated, read⟩ ∈ s.2 →
      MayList process use t s.1 s.2 (f read)) :
    Steps process use t held (do
      let profiles ← ask .readActivated
      ask (.writeActivated (f profiles))) (fun _ _ ↦ True) base := by
  refine Remembers.bind (J := fun read s ↦ ⟨.readActivated, read⟩ ∈ s.2)
    (Steps.ask trivial hs trivial fun read state _ ↦ List.mem_append_right _ List.mem_cons_self) ?_
  intro read s₁ h₁ hread
  exact Steps.ask trivial h₁.holds (hmay read s₁ h₁ hread) fun _ _ _ ↦ trivial

theorem steps_unmark (id : VpnProfileId) (hs : Locked process t held base.1) :
    Steps process use t held (unmarkVpnAppletActivated id) (fun _ _ ↦ True) base :=
  steps_relist hs fun read _ _ hread ↦ ⟨id, read, hread, .inl rfl⟩

theorem steps_mark (hs : Locked process t (some vpn.id) base.1) (hconfigured : Configured use base.2 vpn)
    (hbrought : BroughtUp vpn base.2) :
    Steps process use t (some vpn.id) (markVpnAppletActivated vpn.id) (fun _ _ ↦ True) base := by
  refine steps_relist hs fun read s hlater hread ↦ ?_
  obtain ⟨more, hmore⟩ := hlater.grown
  exact ⟨vpn.id, read, hread, .inr ⟨rfl, vpn, rfl, hconfigured.mono hlater.subset, (hlater.holds vpn.id).mpr rfl,
    hmore ▸ hbrought.append more⟩⟩

/-- A profile that became ready was seen up since the waiting began. -/
theorem steps_wait (requested : Bool) (rounds : Nat) (hs : Locked process t held base.1) :
    Steps process use t held (waitForVpnReady fl vpn requested rounds)
      (fun ready s ↦ ∃ segment, s.2 = base.2 ++ segment ∧ (ready = true → SeenUp vpn segment)) base := by
  refine Steps.look (asks_waitForVpnReady requested rounds) hs fun ready state segment _ _ hreplay ↦ ?_
  refine ⟨segment, rfl, ?_⟩
  rintro rfl
  exact replay_waitForVpnReady hreplay

theorem steps_startActivation (hs : Locked process t (some vpn.id) base.1) (hconfigured : Configured use base.2 vpn)
    (hfresh : Fresh base.2) :
    Steps process use t (some vpn.id) (startActivation fl vpn) (fun _ s ↦ ∃ before path,
      s.2 = before ++ [⟨.activateConnection path, .ok ()⟩] ∧ Fresh before ∧ SavedAs vpn before path) base := by
  rw [startActivation]
  cases vpn.kind with
  | networkManager => exact Remembers.reporting (steps_activate hs hconfigured hfresh)
  | legacyCisco => exact Remembers.throw hs

theorem steps_cleanup (isOpenconnect : Bool) (hs : Locked process t (some vpn.id) base.1)
    (hconfigured : Configured use base.2 vpn) (hactivated : Activated vpn base.2) :
    Steps process use t (some vpn.id) (cleanupTimedOutVpnActivation fl vpn isOpenconnect) (fun _ _ ↦ True) base := by
  have hmay (s : Shared T P × Past) (hlater : Later (Locked process t (some vpn.id)) base s) :
      MayDeactivate process use t s.1 s.2 vpn := by
    obtain ⟨more, hmore⟩ := hlater.grown
    exact .inl ⟨(hlater.holds vpn.id).mpr rfl, hmore ▸ hactivated.append more⟩
  refine Remembers.bind (Remembers.reporting (steps_deactivate hs hconfigured hmay)) fun _ s₁ h₁ _ ↦ ?_
  cases isOpenconnect with
  | false => exact Remembers.pure h₁.holds trivial
  | true => exact Steps.glance (asks_reporting (asks_mk (only_ask (.inl trivial)))) h₁.holds

/-- A profile of an own activation that became ready was brought up. -/
theorem steps_settle_own (isOpenconnect ready : Bool) (hs : Locked process t (some vpn.id) base.1)
    (hconfigured : Configured use base.2 vpn) (hactivated : Activated vpn base.2)
    (hready : ready = true → BroughtUp vpn base.2) :
    Steps process use t (some vpn.id) (settleActivation fl vpn isOpenconnect false ready)
      (fun _ _ ↦ ready = true) base := by
  cases ready with
  | true => exact (steps_mark hs hconfigured (hready rfl)).mono fun _ _ _ _ ↦ rfl
  | false =>
      exact Remembers.bind (Remembers.attempt (steps_cleanup isOpenconnect hs hconfigured hactivated))
        fun _ _ h _ ↦ Remembers.throw h.holds

/-- Under the lock a profile is ready in the end, or the step fails. -/
theorem steps_ensureLocked (rounds : Nat) (isOpenconnect : Bool) (hs : Locked process t (some vpn.id) base.1)
    (hconfigured : Configured use base.2 vpn) (hfresh : Fresh base.2) :
    Steps process use t (some vpn.id) (ensureLocked fl rounds vpn isOpenconnect)
      (fun _ s ↦ SeenUp vpn s.2) base := by
  have hasks : Asks IsQuiet (liftM (vpnTunnelReady fl vpn).run : Call (Except String Bool)) :=
    asks_lift asks_vpnTunnelReady.only
  refine Remembers.bind (J := fun tunnel s ↦ tunnel.toOption.getD false = false → Fresh s.2)
    (Steps.look hasks hs fun tunnel state segment _ hquiet hreplay hdown ↦ ?_) ?_
  · refine hfresh.append hquiet fun path hmem ↦ ?_
    rw [replay_vpnTunnelReady_seen (Program.replay_lift hreplay) hmem] at hdown
    cases hdown
  intro tunnel s₁ h₁ hfresh₁
  cases hup : tunnel.toOption.getD false with
  | true =>
      dsimp only
      rw [if_neg (by decide)]
      refine Remembers.bind (steps_wait _ rounds h₁.holds) ?_
      rintro ready s₂ h₂ ⟨segment, hsegment, hready⟩
      cases ready with
      | true => exact Remembers.pure h₂.holds (hsegment ▸ (hready rfl).mono (List.subset_append_right _ _))
      | false => exact Remembers.throw h₂.holds
  | false =>
      dsimp only
      rw [if_pos (by decide)]
      refine Remembers.bind (steps_startActivation h₁.holds (hconfigured.mono h₁.subset) (hfresh₁ hup)) ?_
      rintro _ s₂ h₂ ⟨before, path, hpast, hbefore, hsaved⟩
      refine Remembers.bind (steps_wait _ rounds h₂.holds) ?_
      rintro ready s₃ h₃ ⟨segment, hsegment, hready⟩
      have hpast₃ : s₃.2 = before ++ ⟨.activateConnection path, .ok ()⟩ :: segment := by
        rw [hsegment, hpast, List.append_assoc, List.singleton_append]
      have hconfigured₃ := ((hconfigured.mono h₁.subset).mono h₂.subset).mono h₃.subset
      refine (steps_settle_own isOpenconnect ready h₃.holds hconfigured₃ ⟨before, path, segment, hpast₃, hbefore, hsaved⟩
        fun hup ↦ ⟨before, path, segment, hpast₃, hbefore, hsaved, hready hup⟩).mono fun _ s₄ h₄ hup ↦ ?_
      refine (hready hup).mono (List.Subset.trans ?_ h₄.subset)
      rw [hsegment]
      exact List.subset_append_right _ _

theorem Locked.acquired {id : VpnProfileId} {r : Unit} (h : Locked process t none s)
    (hw : World.interfered (Answers process t) (Relied process t) s (.lockActivation id) r s') :
    Locked process t (some id) s' := by
  obtain ⟨s₁, hanswers, hrely⟩ := hw
  refine Locked.relied (fun other ↦ ?_) hrely
  rw [Holds, hanswers.holder, holderAfter]
  by_cases hother : other = id
  · subst hother
    rw [Function.update_self]
    exact iff_of_true rfl rfl
  · rw [Function.update_of_ne (by simpa using hother)]
    exact (h other).trans (iff_of_false (by simp) fun heq ↦ hother (Option.some.inj heq).symm)

theorem Locked.released {id : VpnProfileId} {r : Unit} (h : Locked process t (some id) s)
    (hw : World.interfered (Answers process t) (Relied process t) s (.unlockActivation id) r s') :
    Locked process t none s' := by
  obtain ⟨s₁, hanswers, hrely⟩ := hw
  refine Locked.relied (fun other ↦ ?_) hrely
  rw [Holds, hanswers.holder, holderAfter]
  by_cases hother : other = id
  · subst hother
    rw [Function.update_self]
    exact iff_of_false (by simp) (by simp)
  · rw [Function.update_of_ne (by simpa using hother)]
    exact (h other).trans (iff_of_false (fun heq ↦ hother (Option.some.inj heq).symm) (by simp))

/-- What is done under a lock is done with it, and gives it back on either exit. -/
theorem steps_locked {x : Call Unit} {J : Past → Prop} {id : VpnProfileId} (hs : Locked process t none base.1)
    (hof : use.Of id) (hmono : ∀ past more, J past → J (past ++ more))
    (hx : ∀ s, Locked process t (some id) s.1 → s.2 = base.2 ++ [⟨.lockActivation id, ()⟩] →
      Steps process use t (some id) x (fun _ s ↦ J s.2) s) :
    Steps process use t none (do
      ask (.lockActivation id)
      let result ← Program.attempt x
      ask (.unlockActivation id)
      Program.check result) (fun _ s ↦ J s.2) base := by
  obtain ⟨state, past⟩ := base
  refine (Program.wp_liftM_bind _ _ _ _).mpr (Program.wp_ask_recorded.mpr ⟨hof, fun r s₁ hw ↦ ?_⟩)
  have hlocked : Locked process t (some id) s₁ := hs.acquired hw
  have hheld := hx (s₁, past ++ [⟨.lockActivation id, r⟩]) hlocked rfl
  refine (Program.wp_run_bind _ _ _ _).mpr ?_
  rw [Program.run_attempt, Program.wp_bind]
  refine Program.wp_mono ?_ hheld
  rintro result ⟨s₂, past₂⟩ hresult
  have hlater : Later (Locked process t (some id)) (s₁, past ++ [⟨.lockActivation id, r⟩]) (s₂, past₂) := by
    cases result with
    | ok a => exact hresult.1
    | error e => exact hresult
  refine (Program.wp_liftM_bind _ _ _ _).mpr (Program.wp_ask_recorded.mpr ⟨(hlater.holds id).mpr rfl, fun r' s₃ hw' ↦ ?_⟩)
  have hend : Later (Locked process t none) (state, past) (s₃, past₂ ++ [⟨.unlockActivation id, r'⟩]) :=
    ⟨hlater.holds.released hw', ((List.prefix_append _ _).trans hlater.grown).trans (List.prefix_append _ _)⟩
  cases result with
  | ok a => exact ⟨hend, hmono _ _ hresult.2⟩
  | error e => exact hend

/-- A connection's profile is up with all checks passed, or the step fails. -/
theorem steps_ensureVpnReadyForConnection (rounds : Nat) (hown : use.connection? = some connection)
    (hs : Locked process t none base.1) (hfresh : Fresh base.2) :
    Steps process use t none (ensureVpnReadyForConnection fl rounds connection)
      (fun _ s ↦ Ensured use s.2) base := by
  have hof {id : VpnProfileId} : use.Of id ↔ connection.vpnProfileId = some id := by
    constructor
    · rintro ⟨other, hother, hid⟩
      rwa [Option.some.inj (hown.symm.trans hother)]
    · exact fun hid ↦ ⟨connection, hown, hid⟩
  rw [ensureVpnReadyForConnection]
  cases hid : connection.vpnProfileId with
  | none =>
      refine Remembers.pure hs fun id hused ↦ ?_
      rw [hof, hid] at hused
      cases hused
  | some id =>
      refine Remembers.bind (J := fun document s ↦ s.2 = base.2 ++ [⟨.loadRuntime, document⟩])
        (Steps.ask trivial hs trivial fun document state _ ↦ rfl) ?_
      rintro document s₁ h₁ hpast₁
      cases hfind : document.vpnProfiles.find? fun vpn ↦ decide (vpn.id = id) with
      | none => exact Remembers.throw h₁.holds
      | some saved =>
          have hsaved : saved.id = id := by simpa using List.find?_some hfind
          have hfresh₁ : Fresh s₁.2 := by
            rw [hpast₁]
            refine hfresh.still fun reply hreply ↦ ?_
            obtain rfl := List.mem_singleton.mp hreply
            trivial
          have hasks : Asks IsStill (isOpenconnectProfile fl saved) := asks_isOpenconnectProfile fun _ hq ↦ hq
          refine Remembers.bind (Steps.still hasks h₁.holds) fun isOpenconnect s₂ h₂ hfresh₂ ↦ ?_
          have hsame : (applyOpenconnectTimeout saved isOpenconnect).id = id := by
            cases isOpenconnect <;> exact hsaved
          have hconfigured : Configured use s₂.2 (applyOpenconnectTimeout saved isOpenconnect) := by
            refine ⟨hof.mpr (hid.trans (congrArg some hsame.symm)), document, saved, isOpenconnect, h₂.subset ?_,
              List.mem_of_find?_eq_some hfind, rfl⟩
            rw [hpast₁]
            exact List.mem_append_right _ List.mem_cons_self
          refine (steps_locked (J := fun past ↦ SeenUp (applyOpenconnectTimeout saved isOpenconnect) past)
            h₂.holds hconfigured.own (fun _ _ hup ↦ hup.mono (List.subset_append_left _ _))
            fun s hs hpast ↦ steps_ensureLocked rounds isOpenconnect hs ?_ ?_).mono ?_
          · rw [hpast]
            exact hconfigured.mono (List.subset_append_left _ _)
          · rw [hpast]
            exact (hfresh₂ hfresh₁).answered (by simp) (by simp)
          · intro _ s₃ h₃ hup other hother
            rw [hof, hid] at hother
            obtain rfl := Option.some.inj hother
            exact ⟨_, hsame, hconfigured.mono h₃.subset, hup⟩

end Activation

/-! ## Giving back -/

section Release

variable {base : Shared T P × Past}

theorem steps_disconnectVpnProfile {id : VpnProfileId} (hs : Locked process t none base.1)
    (hown : use.connection? = some connection) (hid : connection.vpnProfileId = some id)
    (hreleases : Releases id connection base.2) :
    Steps process use t none (disconnectVpnProfile fl id) (fun _ _ ↦ True) base := by
  refine Remembers.bind (J := fun document s ↦ ⟨.loadRuntime, document⟩ ∈ s.2)
    (Steps.ask trivial hs trivial fun _ _ _ ↦ List.mem_append_right _ List.mem_cons_self) ?_
  intro document s₁ h₁ hdocument
  cases hfind : document.vpnProfiles.find? fun vpn ↦ decide (vpn.id = id) with
  | none => exact Remembers.pure h₁.holds trivial
  | some vpn =>
      have hvpn : vpn.id = id := by simpa using List.find?_some hfind
      have hconfigured : Configured use s₁.2 vpn :=
        ⟨⟨connection, hown, hid.trans (congrArg some hvpn.symm)⟩, document, vpn, false, hdocument,
          List.mem_of_find?_eq_some hfind, rfl⟩
      dsimp only
      cases vpn.kind with
      | legacyCisco => exact Remembers.throw h₁.holds
      | networkManager =>
          refine Remembers.reporting (steps_deactivate h₁.holds hconfigured fun s hlater ↦ ?_)
          exact .inr ⟨connection, hown, hvpn ▸ hreleases.mono (List.Subset.trans h₁.subset hlater.subset)⟩

theorem shutdownDecision_disconnect {snapshot : VpnUsageSnapshot} (h : shutdownDecision snapshot = .disconnect) :
    snapshot.appletActivated = true ∧ snapshot.activeConnectionIds = ∅ := by
  rw [shutdownDecision] at h
  split_ifs at h with hactive hactivated
  exact ⟨hactivated, not_not.mp hactive⟩

theorem steps_maybeShutdownVpnAfterUnmount (hs : Locked process t none base.1)
    (hown : use.connection? = some connection) :
    Steps process use t none (maybeShutdownVpnAfterUnmount fl connection) (fun _ _ ↦ True) base := by
  rw [maybeShutdownVpnAfterUnmount]
  cases hid : connection.vpnProfileId with
  | none => exact Remembers.pure hs trivial
  | some id =>
      cases hwanted : connection.disconnectVpnWhenUnused with
      | false => exact Remembers.pure hs trivial
      | true =>
          dsimp only
          rw [if_neg (by decide)]
          refine Remembers.bind (J := fun ids s ↦ ⟨.readActivated, ids⟩ ∈ s.2)
            (Steps.ask trivial hs trivial fun _ _ _ ↦ List.mem_append_right _ List.mem_cons_self) ?_
          intro ids s₁ h₁ hread
          refine Remembers.bind (J := fun active s ↦ active = ∅ → SeenUnused id connection.id s.2)
            (Steps.look (asks_activeConnectionsUsingVpn isQuiet_of_isStill id connection.id) h₁.holds
              fun active _ _ _ _ hreplay hnone ↦ ?_) ?_
          · subst hnone
            exact (replay_activeConnectionsUsingVpn hreplay).mono (List.subset_append_right _ _)
          intro active s₂ h₂ hunused
          cases hdecision : shutdownDecision ⟨id, decide (id ∈ ids), active⟩ with
          | noAction | keepAliveShared | keepAlivePreExisting => exact Remembers.pure h₂.holds trivial
          | disconnect =>
              obtain ⟨hlisted, hnone⟩ := shutdownDecision_disconnect hdecision
              have hreleases : Releases id connection s₂.2 :=
                ⟨hwanted, ⟨ids, h₂.subset hread, of_decide_eq_true hlisted⟩, hunused hnone⟩
              exact Remembers.bind (steps_disconnectVpnProfile h₂.holds hown hid hreleases)
                fun _ _ h₃ _ ↦ steps_unmark id h₃.holds

theorem steps_finishOfflineVpnUse (hs : Locked process t none base.1) (hown : use.connection? = some connection) :
    Steps process use t none (finishOfflineVpnUse fl connection) (fun _ _ ↦ True) base := by
  rw [finishOfflineVpnUse]
  cases hid : connection.vpnProfileId with
  | none => exact steps_maybeShutdownVpnAfterUnmount hs hown
  | some id =>
      exact Remembers.bind (J := fun _ _ ↦ True) (Steps.ask trivial hs ⟨connection, hown, hid, rfl⟩ fun _ _ _ ↦ trivial)
        fun _ _ h₁ _ ↦ steps_maybeShutdownVpnAfterUnmount h₁.holds hown

end Release

/-! ## Operations -/

section Operations

variable {base : Shared T P × Past}

theorem inUse_of_none (hown : use.connection? = some connection) (hid : connection.vpnProfileId = none) :
    InUse use past := by
  intro other id hother hused
  obtain rfl := Option.some.inj (hown.symm.trans hother)
  rw [hid] at hused
  cases hused

theorem inUse_of_registered {id : VpnProfileId} {r : Unit} (hown : use.connection? = some connection)
    (hid : connection.vpnProfileId = some id) : InUse use (past ++ [⟨.registerUser id connection.id, r⟩]) := by
  intro other id' hother hused
  obtain rfl := Option.some.inj (hown.symm.trans hother)
  obtain rfl := Option.some.inj (hid.symm.trans hused)
  exact pending_append.mpr (.inr rfl)

/-- A finite operation has its VPN, and is registered as using it. -/
theorem steps_beginFiniteOfflineVpnUse (rounds : Nat) (hown : use.connection? = some connection)
    (hs : Locked process t none base.1) (hfresh : Fresh base.2) :
    Steps process use t none (beginFiniteOfflineVpnUse fl rounds connection)
      (fun _ s ↦ Ensured use s.2 ∧ InUse use s.2) base := by
  refine Remembers.bind (Steps.still (asks_strictNetworkReady fun _ hq ↦ hq) hs) fun ready s₁ h₁ hfresh₁ ↦ ?_
  cases ready with
  | false => exact Remembers.throw h₁.holds
  | true =>
      dsimp only
      rw [if_neg (by decide)]
      refine Remembers.bind (steps_ensureVpnReadyForConnection rounds hown h₁.holds (hfresh₁ hfresh)) ?_
      intro _ s₂ h₂ hensured
      cases hid : connection.vpnProfileId with
      | none => exact Remembers.pure h₂.holds ⟨hensured, inUse_of_none hown hid⟩
      | some id =>
          exact Steps.ask trivial h₂.holds ⟨hensured, connection, hown, hid, rfl⟩ fun _ _ _ ↦
            ⟨hensured.mono (List.subset_append_left _ _), inUse_of_registered hown hid⟩

theorem steps_work {step : Work} (hs : Locked process t none base.1) (hensured : step.NeedsVpn → Ensured use base.2)
    (hused : ∀ operation, step = .bisync operation → InUse use base.2) :
    Steps process use t none (work step) (fun _ s ↦ ∃ r, s.2 = base.2 ++ [⟨.work step, r⟩]) base :=
  Steps.answer (q := .work step) (f := fun r ↦ r) trivial hs ⟨hensured, hused⟩ fun r _ _ _ _ ↦ ⟨r, rfl⟩

/-- Work that does not reach for the storage leaves everything as it was seen. -/
theorem steps_aside {step : Work} (hs : Locked process t none base.1) (hstep : ¬step.NeedsVpn) :
    Steps process use t none (work step) (fun _ s ↦ Fresh base.2 → Fresh s.2) base := by
  refine (steps_work hs (fun hneeds ↦ absurd hneeds hstep) ?_).mono ?_
  · rintro operation rfl
    exact absurd trivial hstep
  · rintro _ s - ⟨r, hr⟩ hfresh
    rw [hr]
    exact hfresh.answered (by simp) (by simp)

/-- An online operation mounts only what it has seen up. -/
theorem steps_runManagedOnlineMountOperationResult (rounds : Nat) (operation : Operation)
    (hown : use.connection? = some connection) (hs : Locked process t none base.1) (hfresh : Fresh base.2) :
    Steps process use t none (runManagedOnlineMountOperationResult fl rounds connection operation)
      (fun _ _ ↦ True) base := by
  rw [runManagedOnlineMountOperationResult]
  cases Detach.onlineMountEngine connection with
  | none => exact Remembers.throw hs
  | some engine =>
      refine Remembers.bind (steps_aside hs (fun h ↦ h)) fun _ s₁ h₁ hfresh₁ ↦ ?_
      cases operation with
      | mount =>
          refine Remembers.bind (steps_aside h₁.holds (fun h ↦ h)) fun _ s₂ h₂ hfresh₂ ↦ ?_
          refine Remembers.bind (steps_ensureVpnReadyForConnection rounds hown h₂.holds
            (hfresh₂ (hfresh₁ hfresh))) fun _ s₃ h₃ hensured ↦ ?_
          exact (steps_work h₃.holds (fun _ ↦ hensured) (by simp)).mono fun _ _ _ _ ↦ trivial
      | unmount =>
          refine Remembers.bind (steps_aside h₁.holds (fun h ↦ h)) fun _ s₂ h₂ _ ↦ ?_
          exact Remembers.bind (steps_maybeShutdownVpnAfterUnmount h₂.holds hown) fun _ s₃ h₃ _ ↦
            Remembers.pure h₃.holds trivial
      | _ => exact Remembers.throw h₁.holds

/-- A tracked step is made unless it cannot be recorded, and its end is recorded in any case. -/
theorem steps_runTrackedOfflineOperation {step : Call String} (hs : Locked process t none base.1)
    (hstep : ∀ s, Later (Locked process t none) base s → (Fresh base.2 → Fresh s.2) →
      Steps process use t none step (fun _ _ ↦ True) s) :
    Steps process use t none (runTrackedOfflineOperation step) (fun _ _ ↦ True) base := by
  have hmade : Steps process use t none (do
      let _ ← work .recordRunning
      step) (fun _ _ ↦ True) base :=
    Remembers.bind (steps_aside hs (fun h ↦ h)) fun _ s₁ h₁ hfresh₁ ↦ hstep s₁ h₁ hfresh₁
  refine Remembers.bind (Remembers.attempt hmade) fun result s₁ h₁ _ ↦ ?_
  refine Remembers.bind (Remembers.attempt (steps_aside h₁.holds (fun h ↦ h))) fun recorded s₂ h₂ _ ↦ ?_
  exact Remembers.check_bind h₂.holds fun _ _ ↦ Remembers.check_bind h₂.holds fun _ _ ↦
    Remembers.pure h₂.holds trivial

theorem steps_ensureBackgroundSyncMayStart (rounds : Nat) (hown : use.connection? = some connection)
    (hs : Locked process t none base.1) (hfresh : Fresh base.2) :
    Steps process use t none (ensureBackgroundSyncMayStart fl rounds connection) (fun _ s ↦ Ensured use s.2) base := by
  rw [ensureBackgroundSyncMayStart]
  cases connection.mode with
  | onlineMount options => exact Remembers.throw hs
  | offlineMirror options =>
      refine Remembers.bind (Steps.still (asks_strictNetworkReady fun _ hq ↦ hq) hs)
        fun networkReady s₁ h₁ hfresh₁ ↦ ?_
      refine Remembers.bind (Steps.still (asks_currentMeteredNetwork fun _ hq ↦ hq) h₁.holds)
        fun meteredNetwork s₂ h₂ hfresh₂ ↦ ?_
      cases syncNowRequest ⟨.scheduled, true, true, meteredNetwork, false, ⟨networkReady, true⟩⟩ options with
      | run => exact steps_ensureVpnReadyForConnection rounds hown h₂.holds (hfresh₂ (hfresh₁ hfresh))
      | waitForNetwork | waitForVpn | pauseMetered | reject rejection => exact Remembers.throw h₂.holds

theorem steps_startRcloneOfflineMirrorBackground (rounds : Nat) (hown : use.connection? = some connection)
    (hs : Locked process t none base.1) (hfresh : Fresh base.2) :
    Steps process use t none (startRcloneOfflineMirrorBackground fl rounds connection) (fun _ _ ↦ True) base := by
  refine Remembers.bind (J := fun _ s ↦ Fresh s.2)
    (Steps.ask trivial hs trivial fun _ _ _ ↦ hfresh.answered (by simp) (by simp)) fun initialized s₁ h₁ hfresh₁ ↦ ?_
  cases initialized with
  | false => exact Remembers.throw h₁.holds
  | true =>
      dsimp only
      rw [if_neg (by decide)]
      refine Remembers.bind (steps_ensureBackgroundSyncMayStart rounds hown h₁.holds hfresh₁)
        fun _ s₂ h₂ hensured ↦ ?_
      refine Remembers.bind (Remembers.attempt (steps_work h₂.holds (fun _ ↦ hensured) (by simp)))
        fun result s₃ h₃ _ ↦ ?_
      cases result with
      | ok summary => exact Remembers.pure h₃.holds trivial
      | error error =>
          exact Remembers.bind (Remembers.attempt (steps_finishOfflineVpnUse h₃.holds hown)) fun _ s₄ h₄ _ ↦
            Remembers.check h₄.holds fun _ _ ↦ trivial

theorem steps_mirrorStep (rounds : Nat) {operation : Operation} (hown : use.connection? = some connection)
    (hs : Locked process t none base.1)
    (hfinite : isFinite operation = true → Ensured use base.2 ∧ InUse use base.2)
    (hfresh : isFinite operation = false → Fresh base.2) :
    Steps process use t none (mirrorStep fl rounds connection operation) (fun _ _ ↦ True) base := by
  have hprepared : ¬Work.prepareMirror.NeedsVpn := fun h ↦ h
  cases operation with
  | previewInitialSync | syncNow =>
      obtain ⟨hensured, hused⟩ := hfinite rfl
      exact (steps_work hs (fun _ ↦ hensured) fun _ _ ↦ hused).mono fun _ _ _ _ ↦ trivial
  | pauseSync =>
      refine steps_runTrackedOfflineOperation hs fun s h _ ↦ ?_
      have hstopped : ¬Work.stopTimer.NeedsVpn := fun h ↦ h
      exact Remembers.bind (steps_aside h.holds hprepared) fun _ s₁ h₁ _ ↦
        (steps_aside h₁.holds hstopped).mono fun _ _ _ _ ↦ trivial
  | resumeSync =>
      refine steps_runTrackedOfflineOperation hs fun s h hfresh₁ ↦ ?_
      exact Remembers.bind (steps_aside h.holds hprepared) fun _ s₁ h₁ hfresh₂ ↦
        steps_startRcloneOfflineMirrorBackground rounds hown h₁.holds (hfresh₂ (hfresh₁ (hfresh rfl)))
  | mount | unmount | repair =>
      have hplanned : ¬Work.plan.NeedsVpn := fun h ↦ h
      exact Remembers.bind (steps_aside hs hplanned) fun _ s₁ h₁ _ ↦ Remembers.throw h₁.holds

theorem steps_legacyStep (operation : Operation) (hs : Locked process t none base.1) :
    Steps process use t none (legacyStep fl connection operation) (fun _ _ ↦ True) base := by
  refine steps_runTrackedOfflineOperation hs fun s h _ ↦ ?_
  split_ifs
  · have hretired : ¬Work.retireLegacyMirror.NeedsVpn := fun h ↦ h
    exact (steps_aside h.holds hretired).mono fun _ _ _ _ ↦ trivial
  · exact Remembers.check_bind h.holds fun _ _ ↦ Remembers.throw h.holds

/-- A finite operation is a user while its step lasts; what is given back is given back in any case. -/
theorem steps_usingVpn (rounds : Nat) {operation : Operation} {step : Call String}
    (hown : use.connection? = some connection) (hs : Locked process t none base.1) (hfresh : Fresh base.2)
    (hstep : ∀ s, Later (Locked process t none) base s →
      (isFinite operation = true → Ensured use s.2 ∧ InUse use s.2) → (isFinite operation = false → Fresh s.2) →
        Steps process use t none step (fun _ _ ↦ True) s) :
    Steps process use t none (usingVpn fl rounds connection operation step) (fun _ _ ↦ True) base := by
  have hafter {s : Shared T P × Past} (h : Later (Locked process t none) base s)
      (hfinite : isFinite operation = true → Ensured use s.2 ∧ InUse use s.2)
      (hnot : isFinite operation = false → Fresh s.2) : Steps process use t none (do
        let result ← Program.attempt step
        if isFinite operation || (operation == .pauseSync && result.isOk) then do
          let release ← Program.attempt (finishOfflineVpnUse fl connection)
          Program.check (mergeOfflineVpnRelease fl result release)
        else Program.check result) (fun _ _ ↦ True) s := by
    refine Remembers.bind (Remembers.attempt (hstep s h hfinite hnot)) fun result s₁ h₁ _ ↦ ?_
    split_ifs
    · exact Remembers.bind (Remembers.attempt (steps_finishOfflineVpnUse h₁.holds hown)) fun _ s₂ h₂ _ ↦
        Remembers.check h₂.holds fun _ _ ↦ trivial
    · exact Remembers.check h₁.holds fun _ _ ↦ trivial
  rw [usingVpn]
  cases hfinite : isFinite operation with
  | false =>
      rw [hfinite] at hafter
      exact hafter (.refl hs) (by simp) fun _ ↦ hfresh
  | true =>
      rw [hfinite] at hafter
      exact Remembers.bind (steps_beginFiniteOfflineVpnUse rounds hown hs hfresh) fun _ s₁ h₁ hbegun ↦
        hafter h₁ (fun _ ↦ hbegun) (by simp)

theorem steps_runOfflineMirrorRepairOperation (hown : use.connection? = some connection)
    (hs : Locked process t none base.1) :
    Steps process use t none (runOfflineMirrorRepairOperation fl connection) (fun _ _ ↦ True) base := by
  refine Remembers.bind (Remembers.attempt (steps_aside hs (fun h ↦ h))) fun result s₁ h₁ _ ↦ ?_
  refine Remembers.bind (Remembers.attempt (steps_aside h₁.holds (fun h ↦ h))) fun recorded s₂ h₂ _ ↦ ?_
  refine Remembers.check_bind h₂.holds fun _ _ ↦ Remembers.check_bind h₂.holds fun _ _ ↦ ?_
  exact Remembers.bind (Remembers.attempt (steps_finishOfflineVpnUse h₂.holds hown)) fun _ s₃ h₃ _ ↦
    Remembers.pure h₃.holds trivial

theorem steps_testConnectionPlanAndAccess (rounds : Nat) (hown : use.connection? = some connection)
    (hs : Locked process t none base.1) (hfresh : Fresh base.2) :
    Steps process use t none (testConnectionPlanAndAccess fl rounds connection) (fun _ _ ↦ True) base := by
  refine Remembers.check_bind hs fun _ _ ↦ ?_
  refine Remembers.bind (steps_aside hs (fun h ↦ h)) fun plan s₁ h₁ hfresh₁ ↦ ?_
  refine Remembers.bind (steps_ensureVpnReadyForConnection rounds hown h₁.holds (hfresh₁ hfresh))
    fun _ s₂ h₂ hensured ↦ ?_
  exact Remembers.bind (steps_work h₂.holds (fun _ ↦ hensured) (by simp)) fun access s₃ h₃ _ ↦
    Remembers.pure h₃.holds trivial

theorem steps_readyStates (profiles : List VpnProfile) (hs : Locked process t none base.1) :
    Steps process use t none (readyStates profiles) (fun _ _ ↦ True) base := by
  induction profiles generalizing base with
  | nil => exact Remembers.pure hs trivial
  | cons vpn rest ih =>
      have hrest {s : Shared T P × Past} (ready : Bool) (h : Later (Locked process t none) base s) :
          Steps process use t none (do
            let others ← readyStates rest
            return (vpn.id, ready) :: others) (fun _ _ ↦ True) s :=
        Remembers.bind (ih h.holds) fun _ s₁ h₁ _ ↦ Remembers.pure h₁.holds trivial
      have hseen {s : Shared T P × Past} (ready : Bool) (h : Later (Locked process t none) base s) :
          Steps process use t none (do
            if !ready then
              unmarkVpnAppletActivated vpn.id
            let others ← readyStates rest
            return (vpn.id, ready) :: others) (fun _ _ ↦ True) s := by
        cases ready with
        | true => exact hrest true h
        | false => exact Remembers.bind (steps_unmark vpn.id h.holds) fun _ s₁ h₁ _ ↦ hrest false (h.trans h₁)
      rw [readyStates]
      cases vpn.kind with
      | legacyCisco => exact hseen false (.refl hs)
      | networkManager =>
          exact Remembers.bind (Steps.glance (asks_orElse asks_state) hs) fun state s₁ h₁ _ ↦ hseen state.ready h₁

/-- Every operation keeps to its contract, and returns without a lock. -/
theorem steps_program (rounds : Nat) (hs : Locked process t none base.1) (hfresh : Fresh base.2) :
    Steps process use t none (use.program fl rounds) (fun _ _ ↦ True) base := by
  have hdone {α : Type} {x : Call α} (hx : Steps process use t none x (fun _ _ ↦ True) base) :
      Steps process use t none (do let _ ← x) (fun _ _ ↦ True) base :=
    Remembers.bind hx fun _ s₁ h₁ _ ↦ Remembers.pure h₁.holds trivial
  cases use with
  | online connection operation =>
      exact hdone (steps_runManagedOnlineMountOperationResult rounds operation rfl hs hfresh)
  | mirror connection operation =>
      exact hdone (steps_usingVpn rounds rfl hs hfresh fun s h hfinite hnot ↦
        steps_mirrorStep rounds rfl h.holds hfinite hnot)
  | legacyMirror connection operation =>
      have husing : Steps process (.legacyMirror connection operation) t none
          (usingVpn fl rounds connection operation (legacyStep fl connection operation)) (fun _ _ ↦ True) base :=
        steps_usingVpn rounds rfl hs hfresh fun s h _ _ ↦ steps_legacyStep operation h.holds
      refine hdone ?_
      rw [runManagedOnedriveOfflineMirrorOperation]
      split_ifs
      · exact Remembers.check_bind hs fun _ _ ↦ husing
      · exact husing
  | repair connection => exact hdone (steps_runOfflineMirrorRepairOperation rfl hs)
  | test connection => exact hdone (steps_testConnectionPlanAndAccess rounds rfl hs hfresh)
  | observe config =>
      refine hdone (Remembers.bind (Remembers.attempt (Steps.glance (asks_hostMountEntries isQuiet_of_isStill) hs))
        fun mounts s₁ h₁ _ ↦ ?_)
      exact Remembers.bind (Steps.glance (asks_activeAmong isQuiet_of_isStill _ _) h₁.holds) fun active s₂ h₂ _ ↦
        steps_readyStates _ h₂.holds

end Operations

end Contract

end CosmicMounter.Vpn

import CosmicMounter.Vpn.Contract
import CosmicMounter.Vpn.Registry

/-!
# All users of a VPN

Operations of any connections, begun at any time in any process and interleaved
at every request.  Each may end between two of them, which gives its lock back.
No tunnel is ever brought down whose profile none of them has activated.
-/

namespace CosmicMounter.Vpn

open Rust Interaction

/-! ## The system -/

/-- What each thread does, and how often it looks before its time is over. -/
structure Calls (T : Type) where
  use : T → Use
  rounds : T → Nat

section System

variable {T P : Type} [DecidableEq T]

/-- The locks of a thread are given back when it ends; the users of its process are gone where that ends. -/
structure Ends (process : T → P) (t : T) (s s' : Shared T P) : Prop where
  holder : ∀ key, s'.holder key = if s.holder key = some t then none else s.holder key
  users : s'.users = s.users ∨ ∀ id, s'.users (process t, id) = ∅
  activated : s'.activated = s.activated

variable [DecidableEq P]

/-- A thread begins without locks. -/
def operating (process : T → P) (fl : Message → String) (calls : Calls T) :
    Threads T VpnRequest.Answer (Shared T P) (Except String Unit) where
  starts t s p s' := s' = s ∧ p = ((calls.use t).program fl (calls.rounds t)).run ∧ ∀ id, ¬Holds process t id s
  world t := Answers process t
  leaves t _ s s' := Ends process t s s'

variable {process : T → P} {fl : Message → String} {calls : Calls T} {s s' : Shared T P} {past : Past}

/-! ## What the threads may rely on -/

omit [DecidableEq T] in
/-- What is done to a lock that no other thread has is nothing to the others. -/
theorem update_eq_other {holder : P × VpnProfileId → Option T} {key key' : P × VpnProfileId} {other : T}
    {value : Option T} (hbefore : holder key ≠ some other) (hafter : value ≠ some other) :
    Function.update holder key value key' = some other ↔ holder key' = some other := by
  by_cases hkey : key' = key
  · subst hkey
    rw [Function.update_self]
    exact iff_of_false hafter hbefore
  · rw [Function.update_of_ne hkey]

omit [DecidableEq T] in
theorem MayAsk.relied {use : Use} {t other : T} {q : VpnRequest} {r : q.Answer}
    (hmay : MayAsk process use t s past q) (hanswers : Answers process t s q r s') (hother : other ≠ t) :
    Relied process other s s' := by
  intro id
  rw [Holds, Holds, hanswers.holder]
  have hhonest := hanswers.honest
  cases q with
  | lockActivation locked =>
      have hfree : s.holder (process t, locked) = none := hhonest
      refine update_eq_other ?_ fun heq ↦ hother (Option.some.inj heq).symm
      rw [hfree]
      exact (Option.some_ne_none other).symm
  | unlockActivation locked =>
      have hheld : s.holder (process t, locked) = some t := hmay
      refine update_eq_other ?_ (Option.some_ne_none other).symm
      rw [hheld]
      exact fun heq ↦ hother (Option.some.inj heq).symm
  | _ => exact Iff.rfl

/-- What an operation leaves behind where it has returned: no lock, and nobody it registered. -/
structure Returned (process : T → P) (t : T) (s : Shared T P × Past) : Prop where
  unlocked : ∀ id, ¬Holds process t id s.1
  unregistered : ∀ user : VpnProfileId × ConnectionId, ¬Open user.1 user.2 s

/-- All uses of a VPN keep to their contracts, side by side, and leave nothing behind. -/
theorem governed (calls : Calls T) : (operating process fl calls).Governed
    (fun t ↦ Permitted process (calls.use t) t) (Relied process) fun t _ s ↦ Returned process t s where
  refl _ _ _ := Iff.rfl
  trans _ _ _ _ h h' id := (h' id).trans (h id)
  start t s p s' hstart := by
    obtain ⟨hs, hp, hfree⟩ := hstart
    subst hs hp
    intro s'' hrely
    have hlocked : Locked process t none s'' :=
      Locked.relied (fun id ↦ iff_of_false (hfree id) (Option.some_ne_none id).symm) hrely
    have hnobody : ((calls.use t).program fl (calls.rounds t)).run.wp
        (Program.free (World.interfered (Answers process t) (Relied process t)))
        (fun _ s ↦ ∀ user : VpnProfileId × ConnectionId, ¬Open user.1 user.2 s) (s'', []) :=
      Program.wp_forall fun user ↦ wp_unregistered (calls.use t) (calls.rounds t) s''
    refine Program.wp_mono ?_ (Program.wp_and_free (steps_program (calls.rounds t) hlocked fresh_nil) hnobody)
    rintro result s₁ ⟨hresult, hunregistered⟩
    refine ⟨fun id hholds ↦ ?_, hunregistered⟩
    have hfree : Locked process t none s₁.1 := by
      cases result with
      | ok => exact hresult.1.holds
      | error e => exact hresult.holds
    cases (hfree id).mp hholds
  startRelied _ _ _ _ hstart _ _ := by
    obtain ⟨hs, -⟩ := hstart
    subst hs
    exact fun _ ↦ Iff.rfl
  askRelied _ _ _ _ _ _ hmay hanswers _ hother := MayAsk.relied hmay hanswers hother
  leaveRelied t _ s s' hends other hother := by
    intro id
    rw [Holds, Holds, hends.holder]
    split_ifs with hown
    · exact iff_of_false (fun h ↦ h) fun heq ↦ hother (Option.some.inj (heq.symm.trans hown))
    · exact Iff.rfl

end System

/-! ## What was brought up -/

abbrev UseState (T P : Type) := Tracked T VpnRequest.Answer (Shared T P)

abbrev UseEvent (T P : Type) := Event T VpnRequest.Answer (UseState T P)

section Activations

variable {T P : Type} [DecidableEq T] [DecidableEq P] {process : T → P} {fl : Message → String}

abbrev Calls.permitted (process : T → P) (calls : Calls T) (t : T) (s : UseState T P) (q : VpnRequest) : Prop :=
  MayAsk process (calls.use t) t s.shared (s.past t) q

/-- The profile is activated by an operation whose connection uses it, which holds its lock and has not
seen it up, and NetworkManager accepts. -/
structure Activates (process : T → P) (calls : Calls T) (id : VpnProfileId) (e : UseEvent T P) : Prop where
  profile : ∃ vpn path, vpn.id = id ∧ Configured (calls.use e.thread) (e.before.past e.thread) vpn ∧
    SavedAs vpn (e.before.past e.thread) path ∧
    (⟨e.request, e.answer⟩ : (q : VpnRequest) × q.Answer) = ⟨.activateConnection path, .ok ()⟩
  locked : Holds process e.thread id e.before.shared
  fresh : Fresh (e.before.past e.thread)

/-- Every profile that is listed, or that was read as listed, was activated before. -/
structure Accounted (process : T → P) (calls : Calls T) (tr : List (UseEvent T P)) (s : UseState T P) : Prop where
  permitted : ∀ e ∈ tr, calls.permitted process e.thread e.before e.request
  remembered : Threads.Remembered tr s
  listed : ∀ id ∈ s.shared.activated, ∃ e ∈ tr, Activates process calls id e
  read : ∀ t ids, ⟨.readActivated, ids⟩ ∈ s.past t → ∀ id ∈ ids, ∃ e ∈ tr, Activates process calls id e

variable {calls : Calls T} {tr : List (UseEvent T P)} {s s' : UseState T P} {t : T}

omit [DecidableEq T] [DecidableEq P] in
/-- The connection of a thread has one profile. -/
theorem Use.Of.unique {use : Use} {id id' : VpnProfileId} (h : use.Of id) (h' : use.Of id') : id = id' := by
  obtain ⟨connection, hconnection, hid⟩ := h
  obtain ⟨connection', hconnection', hid'⟩ := h'
  obtain rfl := Option.some.inj (hconnection.symm.trans hconnection')
  exact Option.some.inj (hid.symm.trans hid')

omit [DecidableEq T] [DecidableEq P] in
/-- An activation that a thread remembers was one of its profile. -/
theorem Accounted.activated (h : Accounted process calls tr s) {id : VpnProfileId} (hof : (calls.use t).Of id)
    {path : ObjectPath} (hmem : ⟨.activateConnection path, .ok ()⟩ ∈ s.past t) :
    ∃ e ∈ tr, Activates process calls id e := by
  obtain ⟨e, he, rfl, hreply⟩ := h.remembered t _ hmem
  have hmay := h.permitted e he
  obtain ⟨thread, before, q, r, after⟩ := e
  obtain ⟨rfl, hr⟩ := Sigma.mk.inj hreply
  obtain rfl := eq_of_heq hr
  obtain ⟨vpn, hconfigured, hholds, hfresh, hsaved⟩ := hmay
  obtain rfl := hconfigured.own.unique hof
  exact ⟨_, he, ⟨vpn, path, rfl, hconfigured, hsaved, rfl⟩, hholds, hfresh⟩

omit [DecidableEq T] [DecidableEq P] in
theorem BroughtUp.activated {vpn : VpnProfile} {past : Past} (h : BroughtUp vpn past) :
    ∃ path, ⟨.activateConnection path, .ok ()⟩ ∈ past := by
  obtain ⟨before, path, after, rfl, -⟩ := h
  exact ⟨path, List.mem_append_right _ List.mem_cons_self⟩

omit [DecidableEq T] [DecidableEq P] in
theorem Activated.activated {vpn : VpnProfile} {past : Past} (h : Activated vpn past) :
    ∃ path, ⟨.activateConnection path, .ok ()⟩ ∈ past := by
  obtain ⟨before, path, after, rfl, -⟩ := h
  exact ⟨path, List.mem_append_right _ List.mem_cons_self⟩

omit [DecidableEq T] in
/-- A profile gets onto the list only where its own activation is remembered. -/
theorem Accounted.written (h : Accounted process calls tr s) {q : VpnRequest} {r : q.Answer}
    (hmay : calls.permitted process t s q) (hanswers : Answers process t s.shared q r s'.shared) :
    ∀ id ∈ s'.shared.activated, ∃ e ∈ tr, Activates process calls id e := by
  have hwritten := hanswers.activated
  cases q with
  | writeActivated ids =>
      obtain ⟨written, read, hread, hids⟩ := hmay
      rcases hwritten with hnew | hnew | hnew
      · rw [hnew]
        intro id hid
        rcases hids with rfl | ⟨rfl, vpn, rfl, hconfigured, -, hbrought⟩
        · exact h.read t read hread id (Finset.mem_of_mem_erase hid)
        · rcases Finset.mem_insert.mp hid with rfl | hid
          · obtain ⟨path, hactivated⟩ := hbrought.activated
            exact h.activated hconfigured.own hactivated
          · exact h.read t read hread id hid
      · rw [hnew]
        exact h.listed
      · rw [hnew]
        exact fun id hid ↦ absurd hid (Finset.notMem_empty id)
  | _ =>
      rw [show s'.shared.activated = s.shared.activated from hwritten]
      exact h.listed

theorem Accounted.ask (h : Accounted process calls tr s) {q : VpnRequest} {r : q.Answer}
    (hmay : calls.permitted process t s q) (hworld : (operating process fl calls).tracked.world t s q r s') :
    Accounted process calls (tr ++ [⟨t, s, q, r, s'⟩]) s' := by
  have hanswers : Answers process t s.shared q r s'.shared := hworld.1
  have hgrown {id : VpnProfileId} (hid : ∃ e ∈ tr, Activates process calls id e) :
      ∃ e ∈ tr ++ [⟨t, s, q, r, s'⟩], Activates process calls id e :=
    hid.imp fun _ he ↦ ⟨List.mem_append_left _ he.1, he.2⟩
  refine ⟨fun e he ↦ ?_, h.remembered.ask hworld, fun id hid ↦ hgrown (h.written hmay hanswers id hid),
    fun other ids hread id hid ↦ hgrown ?_⟩
  · rcases List.mem_append.mp he with he | he
    · exact h.permitted e he
    · obtain rfl := List.mem_singleton.mp he
      exact hmay
  · rw [hworld.2] at hread
    by_cases hother : other = t
    · subst hother
      rw [Function.update_self] at hread
      rcases List.mem_append.mp hread with hread | hread
      · exact h.read other ids hread id hid
      · obtain ⟨rfl, hids⟩ := Sigma.mk.inj (List.mem_singleton.mp hread)
        obtain rfl := eq_of_heq hids
        rcases hanswers.honest with hids | hids
        · exact h.listed id (hids ▸ hid)
        · exact absurd (hids ▸ hid) (Finset.notMem_empty id)
    · rw [Function.update_of_ne hother] at hread
      exact h.read other ids hread id hid

theorem Accounted.start (h : Accounted process calls tr s) {p : Program VpnRequest.Answer (Except String Unit)}
    (hstart : (operating process fl calls).tracked.starts t s p s') : Accounted process calls tr s' := by
  refine ⟨h.permitted, h.remembered.start hstart, ?_, fun other ids hread ↦ ?_⟩
  · rw [hstart.1.1]
    exact h.listed
  · rw [hstart.2] at hread
    by_cases hother : other = t
    · subst hother
      rw [Function.update_self] at hread
      cases hread
    · rw [Function.update_of_ne hother] at hread
      exact h.read other ids hread

theorem Accounted.leave (h : Accounted process calls tr s) {p : Program VpnRequest.Answer (Except String Unit)}
    (hleave : (operating process fl calls).tracked.leaves t p s s') : Accounted process calls tr s' := by
  refine ⟨h.permitted, h.remembered.leave hleave, ?_, ?_⟩
  · rw [hleave.1.activated]
    exact h.listed
  · rw [hleave.2]
    exact h.read

/-! ## Every run -/

/-- Nothing is listed, and nothing was answered. -/
structure Unlisted (s : UseState T P) : Prop where
  activated : s.shared.activated = ∅
  past : ∀ t, s.past t = []

omit [DecidableEq T] [DecidableEq P] in
theorem Unlisted.accounted (h : Unlisted s) : Accounted process calls [] s where
  permitted _ he := absurd he List.not_mem_nil
  remembered t reply hreply := by
    rw [h.past t] at hreply
    cases hreply
  listed id hid := absurd (h.activated ▸ hid) (Finset.notMem_empty id)
  read t ids hread := by
    rw [h.past t] at hread
    cases hread

variable {s₀ : UseState T P} {pool : Pool T VpnRequest.Answer (Except String Unit)}

/-- An operation that has returned, with whatever result, holds no lock, and is registered nowhere. -/
theorem returned_settled (h : (operating process fl calls).tracked.Run s₀ s pool tr) {t : T}
    {result : Except String Unit} (hreturned : pool t = some (.done result)) :
    Returned process t (s.shared, s.past t) :=
  (h.governed (governed calls)).1 t _ hreturned s.shared fun _ ↦ Iff.rfl

theorem accounted_throughout (hunlisted : Unlisted s₀) (h : (operating process fl calls).tracked.Run s₀ s pool tr) :
    Throughout (fun before e ↦ Accounted process calls before e.before ∧
      calls.permitted process e.thread e.before e.request) tr ∧ Accounted process calls tr s := by
  refine h.throughout (governed calls) (Accounted process calls) hunlisted.accounted ?_ ?_ ?_
  · intro tr t s p s' hs hstart
    exact hs.start hstart
  · intro tr t s q r s' hs hpermitted hworld
    exact hs.ask hpermitted hworld
  · intro tr t s p s' hs hleave
    exact hs.leave hleave

/-- A tunnel that is brought down belongs to a profile that an operation has activated before. -/
theorem deactivations_follow_activations (hunlisted : Unlisted s₀)
    (h : (operating process fl calls).tracked.Run s₀ s pool tr) :
    Throughout (fun before e ↦ ∀ path, e.request = .deactivateConnection path →
      ∃ vpn, Configured (calls.use e.thread) (e.before.past e.thread) vpn ∧
        ActiveAs vpn (e.before.past e.thread) path ∧ ∃ e' ∈ before, Activates process calls vpn.id e') tr := by
  intro before e after htr path hrequest
  obtain ⟨haccounted, hpermitted⟩ := (accounted_throughout hunlisted h).1 before e after htr
  rw [Calls.permitted, hrequest] at hpermitted
  obtain ⟨vpn, hconfigured, hactive, hmay⟩ := hpermitted
  refine ⟨vpn, hconfigured, hactive, ?_⟩
  rcases hmay with ⟨-, hactivated⟩ | ⟨connection, -, hreleases⟩
  · obtain ⟨path', hmem⟩ := hactivated.activated
    exact haccounted.activated hconfigured.own hmem
  · obtain ⟨ids, hread, hid⟩ := hreleases.listed
    exact haccounted.read e.thread ids hread vpn.id hid

end Activations

/-! ## An activation that is given up -/

def sampleVpnId : VpnProfileId := ⟨"0c9a52f1-7e6d-4b3a-9c1d-5e4f3a2b1c0d", by decide⟩

def sampleVpn : VpnProfile := ⟨sampleVpnId, "Office", .networkManager, some "office", [], 30⟩

def sampleFiles : Connection where
  id := sampleId
  name := "Files"
  provider := .sftp
  mode := .onlineMount {}
  remoteReference := "files"
  localPath := "/home/u/Files"
  vpnProfileId := some sampleVpnId

def sampleSettings : NmSettings := fun group name ↦
  [(("connection", "id"), "Office"), (("connection", "uuid"), "office"), (("connection", "type"), "vpn")].lookup
    (group, name)

/-- The tunnel is being activated, and never gets any further. -/
def sampleAnswer (s : Shared Unit Unit) : (q : VpnRequest) → q.Answer
  | .managerState => .ok 70
  | .managerMetered => .ok 4
  | .listConnections | .activeConnections | .devices => .ok ["/1"]
  | .getSettings _ => .ok sampleSettings
  | .activeUuid _ | .deviceInterface _ => .ok "office"
  | .activeState _ | .deviceState _ => .ok 1
  | .activateConnection _ | .deactivateConnection _ | .restartOpenconnectAgent => .ok ()
  | .routeReady _ | .dnsReady _ | .endpointReady _ _ => true
  | .lockActivation _ | .unlockActivation _ | .registerUser _ _ | .unregisterUser _ _ => ()
  | .finiteUsers id => s.users ((), id)
  | .readActivated => s.activated
  | .writeActivated _ | .sleep => ()
  | .loadRuntime => { vpnProfiles := [sampleVpn] }
  | .hostMountInfo => .ok ""
  | .unitStatus _ => none
  | .initialSyncMarkerExists => true
  | .work _ => .ok ""

def sampleListed (s : Shared Unit Unit) : VpnRequest → Finset VpnProfileId
  | .writeActivated ids => ids
  | _ => s.activated

def sampleHost : Handler VpnRequest.Answer (Shared Unit Unit) := fun q s ↦
  (sampleAnswer s q, ⟨holderAfter id () s q, usersAfter id () s q, sampleListed s q⟩)

/-- A lock is free where it is asked for. -/
def takesFree (m : Moment VpnRequest.Answer (Shared Unit Unit)) : Bool :=
  match m.request with
  | .lockActivation id => (m.before.holder ((), id)).isNone
  | _ => true

theorem sampleHost_answers {m : Moment VpnRequest.Answer (Shared Unit Unit)} (h : takesFree m = true) :
    Answers id () m.before m.request (sampleHost m.request m.before).1 (sampleHost m.request m.before).2 := by
  obtain ⟨before, q, r⟩ := m
  refine ⟨?_, rfl, rfl, ?_⟩
  · cases q with
    | lockActivation locked => exact Option.isNone_iff_eq_none.mp h
    | finiteUsers locked => rfl
    | readActivated => exact .inl rfl
    | _ => trivial
  · cases q with
    | writeActivated ids => exact .inl rfl
    | _ => rfl

def sampleCalls : Calls Unit := ⟨fun _ ↦ .online sampleFiles .mount, fun _ ↦ 1⟩

def sampleStart : Shared Unit Unit := ⟨fun _ ↦ none, fun _ ↦ ∅, ∅⟩

def sampleTexts (message : Message) : String := message.key

def sampleProgram : Program VpnRequest.Answer (Except String Unit) :=
  ((sampleCalls.use ()).program sampleTexts (sampleCalls.rounds ())).run

/-- The mount activates its VPN in vain, and takes that back. -/
theorem sample_gives_up : ∃ s tr pool, (operating id sampleTexts sampleCalls).tracked.Run ⟨sampleStart, fun _ ↦ []⟩ s
    pool tr ∧ (∃ result, pool () = some (.done result)) ∧ ∃ e ∈ tr, e.request = .deactivateConnection "/1" := by
  have hstart : (operating id sampleTexts sampleCalls).tracked.starts () ⟨sampleStart, fun _ ↦ []⟩ sampleProgram
      ⟨sampleStart, Function.update (fun _ ↦ []) () []⟩ := ⟨⟨rfl, rfl, fun _ ↦ (Option.some_ne_none ()).symm⟩, rfl⟩
  have hfree : (sampleProgram.trace sampleHost sampleStart).all takesFree = true := by decide +kernel
  have hasked : ∃ m ∈ sampleProgram.trace sampleHost sampleStart, m.request = .deactivateConnection "/1" := by
    have hany : ((sampleProgram.trace sampleHost sampleStart).any fun m ↦
        decide (m.request = .deactivateConnection "/1")) = true := by decide +kernel
    obtain ⟨m, hm, hrequest⟩ := List.any_eq_true.mp hany
    exact ⟨m, hm, of_decide_eq_true hrequest⟩
  obtain ⟨s, tr, hrun, -, hevents⟩ := Threads.Run.traced (.start .init rfl hstart) (Function.update_self ..)
    fun m hm ↦ sampleHost_answers (List.all_eq_true.mp hfree m hm)
  obtain ⟨m, hm, hrequest⟩ := hasked
  obtain ⟨e, he, -, hsame⟩ := hevents m hm
  exact ⟨s, _, _, hrun, ⟨_, Function.update_self ..⟩, e, List.mem_append_right _ he, hsame.trans hrequest⟩

theorem sample_unlisted : Unlisted (⟨sampleStart, fun _ ↦ []⟩ : UseState Unit Unit) := ⟨rfl, fun _ ↦ rfl⟩

theorem returned_settled_sample : ∃ s tr pool,
    (operating id sampleTexts sampleCalls).tracked.Run ⟨sampleStart, fun _ ↦ []⟩ s pool tr ∧
      (∃ result, pool () = some (.done result)) ∧ Returned id () (s.shared, s.past ()) := by
  obtain ⟨s, tr, pool, hrun, ⟨result, hreturned⟩, -⟩ := sample_gives_up
  exact ⟨s, tr, pool, hrun, ⟨result, hreturned⟩, returned_settled hrun hreturned⟩

theorem deactivations_follow_activations_sample : ∃ s tr pool,
    (operating id sampleTexts sampleCalls).tracked.Run ⟨sampleStart, fun _ ↦ []⟩ s pool tr ∧
      (∃ e ∈ tr, e.request = .deactivateConnection "/1") ∧
      Throughout (fun before e ↦ ∀ path, e.request = .deactivateConnection path →
        ∃ vpn, Configured (sampleCalls.use e.thread) (e.before.past e.thread) vpn ∧
          ActiveAs vpn (e.before.past e.thread) path ∧ ∃ e' ∈ before, Activates id sampleCalls vpn.id e') tr := by
  obtain ⟨s, tr, pool, hrun, -, hasked⟩ := sample_gives_up
  exact ⟨s, tr, pool, hrun, hasked, deactivations_follow_activations sample_unlisted hrun⟩

end CosmicMounter.Vpn

import CosmicMounter.Sync.CoordinatorRuns

/-!
# What no order of the runs can break

A mirror is synchronized for the first time only after its preview, and in
another mode only after the first synchronization was established.  A record
that was left as running is never changed again.
-/

namespace CosmicMounter.Coordinator

open Rust Interaction Host Retention Retargeting

section Safety

variable {T : Type} [DecidableEq T] {ext : Externals} {texts : Set String} {workRoot : String} {id : ConnectionId}
  {calls : Calls ext workRoot id T} {json : SerdeJson} {timestamp : Preview.ParseTimestamp}

abbrev RunEvent (T : Type) := Event T HostRequest.Answer (Tracked T HostRequest.Answer (Shared T))

abbrev RunState (T : Type) := Tracked T HostRequest.Answer (Shared T)

/-! ## Published markers -/

/-- The event has published a file at the path. -/
def Places (e : RunEvent T) (path : String) : Prop :=
  ∃ source, (⟨e.request, e.answer⟩ : (q : HostRequest) × q.Answer) = ⟨.rename source path, .ok ()⟩

variable (calls)

/-- An initial synchronization has published its marker, with all that it has to pass behind it. -/
structure Initializes (path : String) (e : RunEvent T) : Prop where
  placed : Places e path
  marker : path = initialSyncMarker (calls.plan e.thread)
  mode : (calls.op e.thread).mode = .initialSync
  established : Established (calls.plan e.thread) (calls.op e.thread) (e.before.past e.thread)

/-- An initial preview has published that it may be confirmed. -/
structure Previews (path : String) (e : RunEvent T) : Prop where
  placed : Places e path
  marker : path = initialPreviewMarker (calls.plan e.thread)
  mode : (calls.op e.thread).mode = .initialPreview
  synchronized : HasSynchronized (calls.plan e.thread) (calls.op e.thread) (e.before.past e.thread)

/-- Each marker that is there, or was seen, was published in the run for a reason. -/
structure Backed (tr : List (RunEvent T)) (s : RunState T) : Prop where
  initialized : ∀ path, IsMarker workRoot syncMarkerName path → s.shared.files path = true →
    ∃ e ∈ tr, Initializes calls path e
  previewed : ∀ path, IsMarker workRoot previewMarkerName path → s.shared.files path = true →
    ∃ e ∈ tr, Previews calls path e
  seen : ∀ t path, IsMarker workRoot previewMarkerName path → ⟨.isFile path, true⟩ ∈ s.past t →
    ∃ e ∈ tr, Previews calls path e
  stays : ∀ e ∈ tr, ∀ path, IsMarker workRoot syncMarkerName path → Places e path → s.shared.files path = true

variable {calls}

omit [DecidableEq T] in
/-- A marker that appears was renamed to its place. -/
theorem Permitted.renamed [DecidableEq T] {plan : RcloneBisyncPlan} {op : Operation} {t : T} {s s' : Shared T} {past : Past}
    {q : HostRequest} {r : q.Answer} (hpermitted : Permitted plan op workRoot t (s, past) q)
    (hanswers : Answers workRoot id t s q r s') {path : String} (hmarker : IsSomeMarker workRoot path)
    (hbefore : s.files path = false) (hafter : s'.files path = true) :
    ∃ source, (⟨q, r⟩ : (q : HostRequest) × q.Answer) = ⟨.rename source path, .ok ()⟩ := by
  by_cases htouches : Touches q r path
  · have hmay := hpermitted.mayAsk
    cases q with
    | createNew target content | writePrivate target content =>
        obtain rfl : path = target := htouches
        exact absurd hmarker hmay
    | rename source target =>
        cases r with
        | error e => exact htouches.elim
        | ok =>
            rcases htouches with rfl | rfl
            · exact absurd hmarker hmay.1
            · exact ⟨source, rfl⟩
    | removeFile target =>
        cases r with
        | error e => exact htouches.elim
        | ok =>
            have hleft := hanswers.leaves path false hmarker ⟨htouches, rfl⟩
            exact absurd (hleft.symm.trans hafter) nofun
    | removeDirAll directory =>
        obtain ⟨hdirect, hapart⟩ := hmay.2.2 path hmarker
        have hpath : IsDirect path := hmarker.elim (·.direct) (·.direct)
        exact absurd ((htouches hdirect hpath).symm.trans hapart) nofun
    | _ => exact htouches.elim
  · rw [hanswers.markers path hmarker htouches, hbefore] at hafter
    cases hafter

theorem Backed.ask {tr : List (RunEvent T)} {t : T} {s s' : RunState T} {q : HostRequest} {r : q.Answer}
    (h : Backed calls tr s) (hpermitted : calls.permitted t (s.shared, s.past t) q)
    (hworld : (coordinated json timestamp calls).tracked.world t s q r s') :
    Backed calls (tr ++ [⟨t, s, q, r, s'⟩]) s' := by
  obtain ⟨hanswers, hpast⟩ := hworld
  have hanswers : Answers workRoot id t s.shared q r s'.shared := hanswers
  have hgrown {P : RunEvent T → Prop} (hold : ∃ e ∈ tr, P e) : ∃ e ∈ tr ++ [⟨t, s, q, r, s'⟩], P e :=
    hold.imp fun _ he ↦ ⟨List.mem_append_left _ he.1, he.2⟩
  refine ⟨fun path hmarker hfile ↦ ?_, fun path hmarker hfile ↦ ?_, fun other path hmarker hseen ↦ ?_,
    fun e he path hmarker hplaced ↦ ?_⟩
  · cases hbefore : s.shared.files path with
    | true => exact hgrown (h.initialized path hmarker hbefore)
    | false =>
        obtain ⟨source, hrename⟩ := hpermitted.renamed hanswers (.inl hmarker) hbefore hfile
        refine ⟨_, List.mem_append_right _ List.mem_cons_self, ?_⟩
        obtain ⟨rfl, hanswer⟩ := Sigma.mk.inj hrename
        obtain ⟨hpath, hmode, hestablished⟩ := hpermitted.mayAsk.2.complete hmarker
        exact ⟨⟨source, hrename⟩, hpath, hmode, hestablished⟩
  · cases hbefore : s.shared.files path with
    | true => exact hgrown (h.previewed path hmarker hbefore)
    | false =>
        obtain ⟨source, hrename⟩ := hpermitted.renamed hanswers (.inr hmarker) hbefore hfile
        refine ⟨_, List.mem_append_right _ List.mem_cons_self, ?_⟩
        obtain ⟨rfl, hanswer⟩ := Sigma.mk.inj hrename
        obtain ⟨hpath, hmode, hdone⟩ := hpermitted.mayAsk.2.confirmable hmarker
        exact ⟨⟨source, hrename⟩, hpath, hmode, hdone⟩
  · rw [hpast] at hseen
    have hnew : ⟨.isFile path, true⟩ ∈ s.past other ∨
        (⟨.isFile path, true⟩ : (q : HostRequest) × q.Answer) = ⟨q, r⟩ := by
      by_cases hother : other = t
      · subst hother
        rw [Function.update_self] at hseen
        exact (List.mem_append.mp hseen).imp_right List.mem_singleton.mp
      · rw [Function.update_of_ne hother] at hseen
        exact .inl hseen
    rcases hnew with hold | hnew
    · exact hgrown (h.seen other path hmarker hold)
    · obtain ⟨rfl, hanswer⟩ := Sigma.mk.inj hnew
      obtain rfl := eq_of_heq hanswer
      have hfile : true = s.shared.files path := hanswers.honest
      exact hgrown (h.previewed path hmarker hfile.symm)
  · rcases List.mem_append.mp he with he | he
    · exact hpermitted.complete hanswers hmarker (h.stays e he path hmarker hplaced)
    · obtain rfl := List.mem_singleton.mp he
      obtain ⟨source, hrename⟩ := hplaced
      obtain ⟨rfl, hanswer⟩ := Sigma.mk.inj hrename
      obtain rfl := eq_of_heq hanswer
      exact hanswers.leaves path true (.inl hmarker) ⟨rfl, rfl⟩

theorem Backed.start {tr : List (RunEvent T)} {t : T} {s s' : RunState T} {p : Program HostRequest.Answer _}
    (h : Backed calls tr s) (hstart : (coordinated json timestamp calls).tracked.starts t s p s') :
    Backed calls tr s' := by
  obtain ⟨⟨hshared, -⟩, hpast⟩ := hstart
  refine ⟨?_, ?_, fun other path hmarker hseen ↦ ?_, ?_⟩
  · rw [hshared]
    exact h.initialized
  · rw [hshared]
    exact h.previewed
  · rw [hpast] at hseen
    by_cases hother : other = t
    · subst hother
      rw [Function.update_self] at hseen
      cases hseen
    · rw [Function.update_of_ne hother] at hseen
      exact h.seen other path hmarker hseen
  · rw [hshared]
    exact h.stays

theorem Backed.leave {tr : List (RunEvent T)} {t : T} {s s' : RunState T} {p : Program HostRequest.Answer _}
    (h : Backed calls tr s) (hleave : (coordinated json timestamp calls).tracked.leaves t p s s') :
    Backed calls tr s' := by
  obtain ⟨hshared, hpast⟩ := hleave
  have hfiles : s'.shared.files = s.shared.files := by rw [hshared]
  refine ⟨?_, ?_, ?_, ?_⟩
  · rw [hfiles]
    exact h.initialized
  · rw [hfiles]
    exact h.previewed
  · rw [hpast]
    exact h.seen
  · rw [hfiles]
    exact h.stays

/-! ## The protocol -/

/-- What has to have happened before a command is sent. -/
structure Ordered (calls : Calls ext workRoot id T) (before : List (RunEvent T)) (e : RunEvent T) : Prop where
  initialized : (calls.op e.thread).mode.isInitial = false →
    ∃ e' ∈ before, Initializes calls (initialSyncMarker (calls.plan e.thread)) e'
  uninitialized : (calls.op e.thread).mode.isInitial = true →
    ∀ e' ∈ before, ¬Places e' (initialSyncMarker (calls.plan e.thread))
  confirmed : (calls.op e.thread).mode = .initialSync →
    ∃ e' ∈ before, Previews calls (initialPreviewMarker (calls.plan e.thread)) e'

/-- Nothing is marked, and nothing was answered. -/
structure Fresh (workRoot : String) (s : RunState T) : Prop where
  unmarked : ∀ path, IsSomeMarker workRoot path → s.shared.files path = false
  past : ∀ t, s.past t = []

omit [DecidableEq T] in
theorem Fresh.backed {s : RunState T} (h : Fresh workRoot s) : Backed calls [] s where
  initialized path hmarker hfile := absurd ((h.unmarked path (.inl hmarker)).symm.trans hfile) nofun
  previewed path hmarker hfile := absurd ((h.unmarked path (.inr hmarker)).symm.trans hfile) nofun
  seen t path hmarker hseen := by
    rw [h.past t] at hseen
    cases hseen
  stays _ he := absurd he List.not_mem_nil

variable {s₀ s : RunState T} {pool : Pool T HostRequest.Answer (Except String BisyncOutcome)}
  {tr : List (RunEvent T)}

theorem backed_throughout (hdigests : ext.Digests texts) (hroot : IsDirect workRoot) (hfresh : Fresh workRoot s₀)
    (h : (coordinated json timestamp calls).tracked.Run s₀ s pool tr) :
    Throughout (fun before e ↦ Backed calls before e.before ∧
      calls.permitted e.thread (e.before.shared, e.before.past e.thread) e.request) tr := by
  refine (h.throughout (governed json timestamp hdigests hroot) (Backed calls) hfresh.backed ?_ ?_ ?_).1
  · intro tr t s p s' hs hstart
    exact hs.start hstart
  · intro tr t s q r s' hs hpermitted hworld
    exact hs.ask hpermitted hworld
  · intro tr t s p s' hs hleave
    exact hs.leave hleave

/-- A run that has returned has told the record how it ended, if it has claimed it. -/
theorem returned_told (hdigests : ext.Digests texts) (hroot : IsDirect workRoot)
    (h : (coordinated json timestamp calls).tracked.Run s₀ s pool tr) {t : T} {result : Except String BisyncOutcome}
    (hreturned : pool t = some (.done result)) : Told workRoot (calls.op t) result (s.past t) :=
  (h.governed (governed json timestamp hdigests hroot)).1 t _ hreturned s.shared (.refl t s.shared)

/-! ## A record left as running -/

/-- The record says that something is running, and whoever holds the lock has not claimed it. -/
structure Stuck (calls : Calls ext workRoot id T) (running : OfflineCoordinatorState) (s : RunState T) : Prop where
  record : s.shared.record = some running
  running : running.state = .running
  unclaimed : ∀ t, s.shared.holder = some t → ¬Claimed workRoot (calls.op t) (s.past t)

theorem claimed_append {op : Operation} {past : Past} {q : HostRequest} {r : q.Answer}
    (h : Claimed workRoot op (past ++ [⟨q, r⟩])) (hq : ∀ path state, q ≠ .writeState path state) :
    Claimed workRoot op past := by
  obtain ⟨running, hmem, hrunning⟩ := h
  refine ⟨running, (List.mem_append.mp hmem).resolve_right fun hlast ↦ ?_, hrunning⟩
  exact hq _ _ (Sigma.mk.inj (List.mem_singleton.mp hlast)).1.symm

omit [DecidableEq T] in
/-- Nothing that is permitted then changes the record. -/
theorem Stuck.not_writeState {running : OfflineCoordinatorState} {t : T} {q : HostRequest}
    (h : Stuck calls running s) (hpermitted : calls.permitted t (s.shared, s.past t) q) (path : String)
    (state : OfflineCoordinatorState) : q ≠ .writeState path state := by
  rintro rfl
  have hholder := hpermitted.locked rfl
  have hrecords := hpermitted.mayAsk
  by_cases hstate : state.state = .running
  · have hfree := hrecords.begins hstate
    rw [h.record, Option.all_some, h.running] at hfree
    cases hfree
  · obtain ⟨claimed, hmem, hrunning⟩ := hrecords.ends hstate
    rw [hrecords.path_eq] at hmem
    exact h.unclaimed t hholder ⟨claimed, hmem, hrunning⟩

omit [DecidableEq T] in
theorem Stuck.not_run {running : OfflineCoordinatorState} {t : T} {q : HostRequest} (h : Stuck calls running s)
    (hpermitted : calls.permitted t (s.shared, s.past t) q) (request : CommandRequest) : q ≠ .run request := by
  rintro rfl
  obtain ⟨state, -, -, -, hrunning, hmem⟩ := hpermitted.mayAsk.1.claimed
  exact h.unclaimed t (hpermitted.locked rfl) ⟨state, hmem, hrunning⟩

theorem Stuck.ask {running : OfflineCoordinatorState} {t : T} {s s' : RunState T} {q : HostRequest} {r : q.Answer}
    (h : Stuck calls running s) (hpermitted : calls.permitted t (s.shared, s.past t) q)
    (hworld : (coordinated json timestamp calls).tracked.world t s q r s') : Stuck calls running s' := by
  obtain ⟨hanswers, hpast⟩ := hworld
  have hanswers : Answers workRoot id t s.shared q r s'.shared := hanswers
  have hwrite := h.not_writeState hpermitted
  refine ⟨?_, h.running, fun other hother hclaimed ↦ ?_⟩
  · rw [hanswers.record, ← h.record]
    cases q with
    | writeState path state => exact absurd rfl (hwrite path state)
    | _ => rfl
  · rw [hpast] at hclaimed
    have hbefore : Claimed workRoot (calls.op other) (s.past other) := by
      by_cases hsame : other = t
      · subst hsame
        rw [Function.update_self] at hclaimed
        exact claimed_append hclaimed hwrite
      · rwa [Function.update_of_ne hsame] at hclaimed
    rw [hanswers.holder] at hother
    cases q with
    | acquireGuard directory =>
        cases r with
        | error e => exact h.unclaimed other hother hbefore
        | ok =>
            rw [holderAfter] at hother
            split_ifs at hother
            · obtain rfl := Option.some.inj hother
              have hfirst : s.past t = [] := hpermitted.mayAsk.2
              rw [hfirst] at hbefore
              obtain ⟨running, hmem, -⟩ := hbefore
              cases hmem
            · exact h.unclaimed other hother hbefore
    | releaseGuard directory =>
        rw [holderAfter] at hother
        split_ifs at hother
        exact h.unclaimed other hother hbefore
    | _ => exact h.unclaimed other hother hbefore

/-- The record was left as running, and nobody holds the lock. -/
structure Abandoned (running : OfflineCoordinatorState) (s : Shared T) : Prop where
  record : s.record = some running
  running : running.state = .running
  free : s.holder = none

omit [DecidableEq T] in
theorem Abandoned.stuck {running : OfflineCoordinatorState} (h : Abandoned running s.shared) :
    Stuck calls running s :=
  ⟨h.record, h.running, fun _ hholder ↦ absurd (h.free.symm.trans hholder) nofun⟩

theorem Stuck.start {running : OfflineCoordinatorState} {t : T} {s s' : RunState T}
    {p : Program HostRequest.Answer _} (h : Stuck calls running s)
    (hstart : (coordinated json timestamp calls).tracked.starts t s p s') : Stuck calls running s' := by
  obtain ⟨⟨hshared, -⟩, hpast⟩ := hstart
  refine ⟨hshared ▸ h.record, h.running, fun other hother hclaimed ↦ ?_⟩
  rw [hpast] at hclaimed
  by_cases hsame : other = t
  · subst hsame
    rw [Function.update_self] at hclaimed
    obtain ⟨claimed, hmem, -⟩ := hclaimed
    cases hmem
  · rw [Function.update_of_ne hsame] at hclaimed
    exact h.unclaimed other (hshared ▸ hother) hclaimed

theorem Stuck.leave {running : OfflineCoordinatorState} {t : T} {s s' : RunState T}
    {p : Program HostRequest.Answer _} (h : Stuck calls running s)
    (hleave : (coordinated json timestamp calls).tracked.leaves t p s s') : Stuck calls running s' := by
  obtain ⟨hshared, hpast⟩ := hleave
  refine ⟨?_, h.running, fun other hother hclaimed ↦ ?_⟩
  · rw [hshared]
    exact h.record
  · rw [hshared] at hother
    rw [hpast] at hclaimed
    dsimp only at hother
    split_ifs at hother
    exact h.unclaimed other hother hclaimed

/-- Once abandoned, the record is stuck at every later event. -/
theorem stuck_throughout (hdigests : ext.Digests texts) (hroot : IsDirect workRoot)
    (h : (coordinated json timestamp calls).tracked.Run s₀ s pool tr) (running : OfflineCoordinatorState) :
    Throughout (fun before e ↦ (∀ e' ∈ before, Abandoned running e'.before.shared → Stuck calls running e.before) ∧
      calls.permitted e.thread (e.before.shared, e.before.past e.thread) e.request) tr ∧
      ∀ e ∈ tr, Abandoned running e.before.shared → Stuck calls running s := by
  refine h.throughout (governed json timestamp hdigests hroot)
    (fun tr s ↦ ∀ e ∈ tr, Abandoned running e.before.shared → Stuck calls running s)
    (fun _ he ↦ absurd he List.not_mem_nil) ?_ ?_ ?_
  · intro tr t s p s' hs hstart e he habandoned
    exact (hs e he habandoned).start hstart
  · intro tr t s q r s' hs hpermitted hworld e he habandoned
    rcases List.mem_append.mp he with he | he
    · exact (hs e he habandoned).ask hpermitted hworld
    · obtain rfl := List.mem_singleton.mp he
      exact habandoned.stuck.ask hpermitted hworld
  · intro tr t s p s' hs hleave e he habandoned
    exact (hs e he habandoned).leave hleave

end Safety

/-! ## The first preview -/

theorem sample_digests : sampleExternals.Digests ∅ := ⟨fun _ ↦ show '/' ∉ "00".toList by decide, Set.injOn_empty _⟩

theorem sample_direct : IsDirect sampleWork := by decide

theorem sample_fresh : Fresh sampleWork (⟨sampleStart, fun _ ↦ []⟩ : RunState BisyncMode) :=
  ⟨fun _ _ ↦ rfl, fun _ ↦ rfl⟩

theorem sample_started (mode : BisyncMode) (shared : Shared BisyncMode) :
    sampleSystem.tracked.Run ⟨shared, fun _ ↦ []⟩ ⟨shared, Function.update (fun _ ↦ []) mode []⟩
      (Function.update (fun _ ↦ none) mode (some (sampleRun mode))) [] :=
  .start .init rfl ⟨⟨rfl, (sampleRun_eq mode).symm⟩, rfl⟩

theorem returned_told_sample : ∃ s tr result, sampleSystem.tracked.Run ⟨sampleStart, fun _ ↦ []⟩ s
    (Function.update (fun _ ↦ none) .initialPreview (some (.done result))) tr ∧
      Told sampleWork (sampleCalls.op .initialPreview) result (s.past .initialPreview) := by
  obtain ⟨s, tr, hrun, -, -⟩ := Threads.Run.eval (sample_started .initialPreview sampleStart)
    (Function.update_self ..) (sampleRemote_answers .initialPreview)
  rw [Function.update_idem] at hrun
  exact ⟨s, _, _, hrun, returned_told sample_digests sample_direct hrun (Function.update_self ..)⟩

/-- A synchronization that died. -/
def sampleAbandoned : OfflineCoordinatorState where
  connectionId := sampleId
  operation := .sync
  state := .running
  updatedUnixSeconds := 0

def sampleDead : Shared BisyncMode := { sampleStart with record := some sampleAbandoned }

def sampleAcquire : HostRequest := .acquireGuard (coordinatorDirectory sampleWork sampleId)

end CosmicMounter.Coordinator

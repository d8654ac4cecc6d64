import CosmicMounter.Interaction.Asks
import CosmicMounter.Sync.CoordinatorWorld

/-!
# What a coordinated run asks

Every request of a run is one it may make then, whatever the other runs do in
between, and a run that returns has recorded its result.  The proof follows the
steps of the run with what it knows: that it holds the lock, what the record
says, whether the mirror is initialized, and some of its past answers.
-/

namespace CosmicMounter.Coordinator

open Rust Interaction Host Retention Retargeting

/-! ## File names -/

theorem fileName_join {name : String} (h : Path.IsName name) (base : String) :
    Path.fileName (Path.join base name) = some name := by
  rw [Path.fileName, Path.components_join h, List.getLast?_append]
  rfl

theorem isName_around {before after : String} (id : Uuid) (hbefore : '/' ∉ before.toList)
    (hafter : '/' ∉ after.toList) : Path.IsName (before ++ id.text ++ after) := by
  have hlong : ∀ short : String, short.toList.length < 36 → before ++ id.text ++ after ≠ short := by
    rintro short hshort rfl
    rw [String.toList_append, String.toList_append, List.length_append, List.length_append,
      Uuid.length_text] at hshort
    omega
  refine ⟨?_, hlong "" (by decide), hlong "." (by decide), hlong ".." (by decide)⟩
  rw [String.toList_append, String.toList_append, List.mem_append, List.mem_append]
  have htext : '/' ∉ id.text.toList := Uuid.notMem_text (by decide) (by decide)
  tauto

section Markers

variable {workRoot name path : String}

theorem not_isSomeMarker (hname : Path.fileName path = some name) (hsync : name ≠ syncMarkerName)
    (hpreview : name ≠ previewMarkerName) : ¬IsSomeMarker workRoot path := by
  rintro (h | h)
  · exact hsync (Option.some.inj (hname.symm.trans h.named))
  · exact hpreview (Option.some.inj (hname.symm.trans h.named))

/-- A file of another name is no marker. -/
theorem not_isSomeMarker_join (h : Path.IsName name) (hsync : name ≠ syncMarkerName)
    (hpreview : name ≠ previewMarkerName) (base : String) : ¬IsSomeMarker workRoot (Path.join base name) :=
  not_isSomeMarker (fileName_join h base) hsync hpreview

theorem not_isSomeMarker_around {before after : String} (id : Uuid) (hbefore : '/' ∉ before.toList)
    (hafter : '/' ∉ after.toList) (hdot : before.toList.head? = some '.') (base : String) :
    ¬IsSomeMarker workRoot (Path.join base (before ++ id.text ++ after)) := by
  have hhead : ∀ name : String, name.toList.head? = some 'i' → before ++ id.text ++ after ≠ name := by
    rintro name hname rfl
    rw [String.toList_append, String.toList_append, List.head?_append, List.head?_append, hdot] at hname
    cases hname
  exact not_isSomeMarker_join (isName_around id hbefore hafter) (hhead _ (by decide)) (hhead _ (by decide)) base

end Markers

/-! ## What a run knows -/

section Going

variable {T : Type} {workRoot : String} {id : ConnectionId} {t : T} {plan : RcloneBisyncPlan}

/-- What is left of a run's knowledge when it fails. -/
structure Held (t : T) (base : Past) (s : Shared T × Past) : Prop where
  holder : s.1.holder = some t
  based : base ⊆ s.2

/-- The run holds the lock, and knows about the record, its marker and its answers. -/
structure Going (t : T) (plan : RcloneBisyncPlan) (P : Option OfflineCoordinatorState → Prop) (initialized : Bool)
    (base known : Past) (s : Shared T × Past) : Prop where
  holder : s.1.holder = some t
  record : P s.1.record
  marker : s.1.files (initialSyncMarker plan) = initialized
  based : base ⊆ known
  known : known ⊆ s.2

variable {P : Option OfflineCoordinatorState → Prop} {initialized : Bool} {base known : Past}
  {s : Shared T × Past}

theorem Going.held (h : Going t plan P initialized base known s) : Held t base s :=
  ⟨h.holder, List.Subset.trans h.based h.known⟩

/-- What a run needs to know of its own is in its past. -/
theorem Going.forget {known' : Past} (h : Going t plan P initialized base known s) (hbase : base ⊆ known')
    (hknown : known' ⊆ known) : Going t plan P initialized base known' s :=
  { h with based := hbase, known := List.Subset.trans hknown h.known }

/-- The requests that change neither the lock nor the record. -/
def IsPlain : HostRequest → Bool
  | .acquireGuard _ | .releaseGuard _ | .writeState _ _ => false
  | _ => true

theorem recordAfter_eq {q : HostRequest} (hq : IsPlain q = true) (s : Shared T) (r : q.Answer) :
    recordAfter workRoot id s q r = s.record := by
  cases q <;> first | rfl | cases hq

variable [DecidableEq T]

theorem holderAfter_eq {q : HostRequest} (hq : IsPlain q = true) (s : Shared T) (r : q.Answer) :
    holderAfter workRoot id t s q r = s.holder := by
  cases q <;> first | rfl | cases hq

/-- A plain request adds its answer to what is known, and may have changed the marker only. -/
theorem Going.after {q : HostRequest} {r : q.Answer} {s₁ : Shared T}
    (hmarker : IsMarker workRoot syncMarkerName (initialSyncMarker plan))
    (h : Going t plan P initialized base known s) (hq : IsPlain q = true)
    (hworld : (World.interfered (Answers workRoot id t) (Relied workRoot t)) s.1 q r s₁) :
    Going t plan P (s₁.files (initialSyncMarker plan)) base (⟨q, r⟩ :: known) (s₁, s.2 ++ [⟨q, r⟩]) ∧
      (¬Touches q r (initialSyncMarker plan) → s₁.files (initialSyncMarker plan) = initialized) := by
  obtain ⟨s', hanswers, hrelied⟩ := hworld
  have hholder : s'.holder = some t := by rw [hanswers.holder, holderAfter_eq hq, h.holder]
  have hrecord : s'.record = s.1.record := by rw [hanswers.record, recordAfter_eq hq]
  refine ⟨⟨hrelied.holder hholder, ?_, rfl, List.subset_cons_of_subset _ h.based, ?_⟩, fun htouches ↦ ?_⟩
  · rw [hrelied.record hholder, hrecord]
    exact h.record
  · intro reply hreply
    rcases List.mem_cons.mp hreply with rfl | hreply
    · exact List.mem_append_right _ List.mem_cons_self
    · exact List.mem_append_left _ (h.known hreply)
  · rw [hrelied.markers hholder _ (.inl hmarker), hanswers.markers _ (.inl hmarker) htouches]
    exact h.marker

theorem Going.next {q : HostRequest} {r : q.Answer} {s₁ : Shared T}
    (hmarker : IsMarker workRoot syncMarkerName (initialSyncMarker plan))
    (h : Going t plan P initialized base known s) (hq : IsPlain q = true)
    (htouches : ¬Touches q r (initialSyncMarker plan))
    (hworld : (World.interfered (Answers workRoot id t) (Relied workRoot t)) s.1 q r s₁) :
    Going t plan P initialized base (⟨q, r⟩ :: known) (s₁, s.2 ++ [⟨q, r⟩]) := by
  obtain ⟨hnext, hkept⟩ := h.after hmarker hq hworld
  rwa [hkept htouches] at hnext

end Going

/-! ## Quiet steps -/

section Quiet

variable {T : Type} {workRoot : String} {t : T} {plan : RcloneBisyncPlan} {op : Operation}
  {P : Option OfflineCoordinatorState → Prop} {initialized : Bool} {base known : Past} {s : Shared T × Past}

/-- What a run may ask at any time under the lock. -/
def IsQuiet (workRoot : String) : HostRequest → Prop
  | .createNew path _ | .writePrivate path _ | .removeFile path => ¬IsSomeMarker workRoot path
  | .rename source target => ¬IsSomeMarker workRoot source ∧ ¬IsSomeMarker workRoot target ∧
      Path.fileName target ≠ some ownerMarker
  | .acquireGuard _ | .releaseGuard _ | .writeState _ _ | .run _ | .removeDirAll _ | .systemd _ _
  | .cancelAndWait | .finish => False
  | _ => True

theorem IsQuiet.isPlain {q : HostRequest} (h : IsQuiet workRoot q) : IsPlain q = true := by
  cases q <;> first | rfl | exact h.elim

theorem IsQuiet.not_touches {q : HostRequest} (h : IsQuiet workRoot q) (r : q.Answer) {marker : String}
    (hmarker : IsSomeMarker workRoot marker) : ¬Touches q r marker := by
  intro htouches
  cases q with
  | createNew path content =>
      have heq : marker = path := htouches
      exact h (heq ▸ hmarker)
  | writePrivate path content =>
      have heq : marker = path := htouches
      exact h (heq ▸ hmarker)
  | rename source target =>
      cases r with
      | error e => exact htouches
      | ok =>
          rcases htouches with rfl | rfl
          · exact h.1 hmarker
          · exact h.2.1 hmarker
  | removeFile path =>
      cases r with
      | error e => exact htouches
      | ok =>
          obtain rfl := htouches
          exact h hmarker
  | removeDirAll path => exact h
  | _ => exact htouches

theorem IsQuiet.permitted {q : HostRequest} (h : IsQuiet workRoot q) (hholder : s.1.holder = some t) :
    Permitted plan op workRoot t s q := by
  refine ⟨fun _ ↦ hholder, ?_⟩
  cases q with
  | createNew path content | writePrivate path content => exact h
  | rename source target =>
      exact ⟨h.1, fun hsync ↦ absurd (.inl hsync) h.2.1, fun hpreview ↦ absurd (.inr hpreview) h.2.1,
        fun howner ↦ absurd howner h.2.2⟩
  | removeFile path => exact ⟨fun hsync ↦ h (.inl hsync), fun hpreview ↦ absurd (.inr hpreview) h⟩
  | acquireGuard | releaseGuard | writeState | run | removeDirAll | systemd | cancelAndWait | finish =>
      exact h.elim
  | _ => trivial

variable [DecidableEq T]

/-- The contract of a run while the others go on. -/
abbrev guarded (workRoot : String) (plan : RcloneBisyncPlan) (op : Operation) (t : T) :
    Contract HostRequest.Answer (Shared T × Past) :=
  .recorded (World.interfered (Answers workRoot op.connection.id t) (Relied workRoot t))
    (Permitted plan op workRoot t)

variable (hmarker : IsMarker workRoot syncMarkerName (initialSyncMarker plan))

include hmarker

/-- A request that is answered honestly, and changes nothing the run knows of. -/
theorem wp_plain {q : HostRequest} {post : q.Answer → Shared T × Past → Prop} (hq : IsPlain q = true)
    (htouches : ∀ r, ¬Touches q r (initialSyncMarker plan)) (hpermitted : Permitted plan op workRoot t s q)
    (h : Going t plan P initialized base known s)
    (hpost : ∀ r s', Honest workRoot op.connection.id s.1 q r →
      Going t plan P initialized base (⟨q, r⟩ :: known) s' → post r s') :
    (ask q).wp (guarded workRoot plan op t) post s := by
  refine Program.wp_ask_recorded.mpr ⟨hpermitted, ?_⟩
  intro r s' hworld
  exact hpost r _ hworld.choose_spec.1.honest (h.next hmarker hq (htouches r) hworld)

theorem wp_quiet {q : HostRequest} {post : q.Answer → Shared T × Past → Prop} (hq : IsQuiet workRoot q)
    (h : Going t plan P initialized base known s)
    (hpost : ∀ r s', Honest workRoot op.connection.id s.1 q r →
      Going t plan P initialized base (⟨q, r⟩ :: known) s' → post r s') :
    (ask q).wp (guarded workRoot plan op t) post s :=
  wp_plain hmarker hq.isPlain (fun r ↦ hq.not_touches r (.inl hmarker)) (hq.permitted h.holder) h hpost

/-- Quiet steps take nothing from what the run knows, on either exit. -/
theorem wp_quiet_steps {α : Type} {x : Host.Call α} (hx : Asks (IsQuiet workRoot) x)
    (h : Going t plan P initialized base known s) :
    x.run.wp (guarded workRoot plan op t)
      (Program.onExit (Held t base) fun _ ↦ Going t plan P initialized base known) s := by
  refine Program.wp_frame_onExit (P := IsQuiet workRoot) ?_ ?_ (fun s hs ↦ hs.held) hx.only h
  · intro s q hs hq
    exact hq.permitted hs.holder
  · rintro s q r ⟨s', past⟩ hs hq ⟨hworld, rfl⟩
    have hnext := hs.next hmarker hq.isPlain (hq.not_touches r (.inl hmarker)) hworld
    exact hnext.forget hs.based (List.subset_cons_self _ _)

end Quiet

/-! ## The quiet parts of a run -/

section Parts

variable {workRoot : String} (fl : Message → String)

theorem asks_ask {α : Type} {q : HostRequest} {P : HostRequest → Prop} {f : q.Answer → Ask (Except String α)}
    (hq : P q) (hf : ∀ r, (f r).Only P) : Asks P (ExceptT.mk (ask q >>= f)) :=
  asks_mk ⟨hq, hf⟩

theorem asks_fileStep {α : Type} {P : HostRequest → Prop} {key : String} {step : Ask (Except IoError α)}
    (h : step.Only P) : Asks P (fileStep fl key step) := asks_reporting (asks_mk h)

theorem asks_createDirAll (key path : String) : Asks (IsQuiet workRoot) (createDirAll fl key path) :=
  asks_fileStep fl ⟨trivial, fun _ ↦ trivial⟩

/-- Writing a file asks for nothing but its staging and its renaming. -/
theorem asks_writeAtomic {P : HostRequest → Prop} {path contents : String}
    (hcreate : ∀ parent, P (.createDirAll parent)) (huuid : P .newUuid)
    (hstage : ∀ parent (uuid : Uuid), Path.parent path = some parent →
      let staging := Path.join parent (".managed-" ++ uuid.text ++ ".tmp")
      P (.writePrivate staging contents) ∧ P (.rename staging path) ∧ P (.removeFile staging)) :
    Asks P (writeAtomic fl path contents) := by
  rw [writeAtomic]
  cases hparent : Path.parent path with
  | none => exact asks_throw _
  | some parent =>
      refine Asks.bind (asks_fileStep fl ⟨hcreate parent, fun _ ↦ trivial⟩) fun _ ↦ ?_
      refine Asks.bind (asks_lift ⟨huuid, fun _ ↦ trivial⟩) fun uuid ↦ ?_
      obtain ⟨hwrite, hrename, hremove⟩ := hstage parent uuid hparent
      refine Asks.bind (asks_attempt ?_) fun result ↦ ?_
      · refine Asks.bind (asks_mk ⟨hwrite, fun _ ↦ trivial⟩) fun _ ↦ ?_
        exact asks_fileStep fl ⟨hrename, fun _ ↦ trivial⟩
      · cases result with
        | ok => exact asks_pure ()
        | error e => exact Asks.bind (asks_lift ⟨hremove, fun _ ↦ trivial⟩) fun _ ↦ asks_throw e

theorem not_isSomeMarker_staging (parent : String) (uuid : Uuid) :
    ¬IsSomeMarker workRoot (Path.join parent (".managed-" ++ uuid.text ++ ".tmp")) :=
  not_isSomeMarker_around uuid (by decide) (by decide) (by decide) parent

/-- A file that is neither a marker nor an owner's is written quietly. -/
theorem asks_writeAtomic_join {name contents : String} (h : Path.IsName name) (hsync : name ≠ syncMarkerName)
    (hpreview : name ≠ previewMarkerName) (howner : name ≠ ownerMarker) (directory : String) :
    Asks (IsQuiet workRoot) (writeAtomic fl (Path.join directory name) contents) := by
  refine asks_writeAtomic fl (fun _ ↦ trivial) trivial fun parent uuid _ ↦ ?_
  refine ⟨not_isSomeMarker_staging parent uuid, ⟨not_isSomeMarker_staging parent uuid,
    not_isSomeMarker_join h hsync hpreview directory, ?_⟩, not_isSomeMarker_staging parent uuid⟩
  rw [fileName_join h]
  exact fun heq ↦ howner (Option.some.inj heq)

theorem asks_removeIfExists {P : HostRequest → Prop} {path : String} (h : P (.removeFile path)) :
    Asks P (removeIfExists fl path) := by
  refine Asks.bind (asks_lift ⟨h, fun _ ↦ trivial⟩) fun result ↦ ?_
  cases result with
  | ok => exact asks_pure ()
  | error error =>
      dsimp only
      split_ifs
      · exact asks_pure ()
      · exact asks_throw _

theorem only_isSymlink (path : String) : (isSymlink path).Only (IsQuiet workRoot) := by
  refine ⟨trivial, fun r ↦ ?_⟩
  cases r <;> trivial

theorem asks_validateLocalAccessMarker (connection : Connection) (plan : RcloneBisyncPlan) :
    Asks (IsQuiet workRoot) (validateLocalAccessMarker fl connection plan) := by
  rw [validateLocalAccessMarker]
  cases plan.accessMarkerName with
  | none => exact asks_pure ()
  | some name =>
      refine Asks.bind (asks_lift ⟨trivial, fun _ ↦ trivial⟩) fun type ↦ ?_
      cases type with
      | error e => exact asks_throw _
      | ok type =>
          refine Asks.bind (asks_ensure _ _) fun _ ↦ ?_
          refine Asks.bind (asks_fileStep fl ⟨trivial, fun _ ↦ trivial⟩) fun _ ↦ asks_ensure _ _

/-- The anchors of a connection are named after it. -/
theorem accessMarkerName_eq_some {connection : Connection} {name : String}
    (h : accessMarkerName connection = some name) :
    Path.IsName name ∧ name.toList.head? = some '.' ∧ name ≠ ownerMarker := by
  have hlong (before : String) : before ++ connection.id.text ++ "" ≠ ownerMarker := by
    intro heq
    have hlength := congrArg (fun s ↦ s.toList.length) heq
    simp only [String.toList_append, List.length_append, Uuid.length_text, ownerMarker] at hlength
    simp at hlength
  unfold accessMarkerName at h
  split at h
  · obtain rfl := Option.some.inj h
    rw [← String.append_empty (s := ".cloud-mounter-sharepoint-anchor-" ++ connection.id.text)]
    exact ⟨isName_around _ (by decide) (by decide), by simp, hlong _⟩
  · obtain rfl := Option.some.inj h
    rw [← String.append_empty (s := ".cloud-mounter-onedrive-anchor-" ++ connection.id.text)]
    exact ⟨isName_around _ (by decide) (by decide), by simp, hlong _⟩
  · cases h

end Parts

/-! ## Before the record is claimed -/

/-- What a plan of the work root gives: its markers are below it, its files are
named as planned, and the recovery directory is elsewhere. -/
structure Suits (workRoot : String) (plan : RcloneBisyncPlan) (op : Operation) : Prop where
  complete : IsMarker workRoot syncMarkerName (initialSyncMarker plan)
  confirmable : IsMarker workRoot previewMarkerName (initialPreviewMarker plan)
  filters : plan.filtersFile = Path.join plan.workDirectory "filters.txt"
  anchor : plan.accessMarkerName = accessMarkerName op.connection
  apart : ∀ options, op.connection.mode = .offlineMirror options →
    pathsOverlap workRoot options.recoveryDirectory = false ∧ IsDirect options.recoveryDirectory

section Prepare

variable {T : Type} [DecidableEq T] {workRoot : String} {t : T} {plan : RcloneBisyncPlan} {op : Operation}
  {P : Option OfflineCoordinatorState → Prop} {initialized : Bool} {base known : Past} {s : Shared T × Past}

/-- The run goes on when its mode fits, and has seen the preview that it makes real. -/
def Begun (t : T) (plan : RcloneBisyncPlan) (op : Operation) (P : Option OfflineCoordinatorState → Prop)
    (base known : Past) (s : Shared T × Past) : Prop :=
  ∃ known', known ⊆ known' ∧ (op.mode = .initialSync → Confirmed plan known') ∧
    Going t plan P (!op.mode.isInitial) base known' s

theorem wp_validateModeMarkers (fl : Message → String) (hsuits : Suits workRoot plan op)
    (h : Going t plan P initialized base known s) :
    (validateModeMarkers fl op.mode plan).run.wp (guarded workRoot plan op t)
      (Program.onExit (Held t base) fun _ ↦ Begun t plan op P base known) s := by
  rw [validateModeMarkers, Program.wp_liftM_bind]
  refine wp_quiet hsuits.complete trivial h fun answer s' hanswer hs' ↦ ?_
  obtain rfl : answer = initialized := hanswer.trans h.marker
  have hs' := hs'.forget h.based (List.subset_cons_self _ _)
  have hbegun (hfits : answer = !op.mode.isInitial) (hmode : op.mode ≠ .initialSync) :
      Begun t plan op P base known s' :=
    ⟨known, List.Subset.refl _, fun hinitial ↦ absurd hinitial hmode, hfits ▸ hs'⟩
  cases hmode : op.mode with
  | initialPreview =>
      rw [hmode] at hbegun
      exact Program.wp_ensure_onExit (fun hnot ↦ hbegun ((Bool.not_eq_true' _).mp hnot) nofun) hs'.held
  | preview | sync | scheduled =>
      rw [hmode] at hbegun
      exact Program.wp_ensure_onExit (fun his ↦ hbegun his nofun) hs'.held
  | initialSync =>
      refine Program.wp_seq_onExit (J := fun _ s' ↦ answer = false ∧ Going t plan P answer base known s')
        (Program.wp_ensure_onExit (fun hnot ↦ ⟨by simpa using hnot, hs'⟩) hs'.held) ?_
      rintro - s' ⟨rfl, hs'⟩
      rw [Program.wp_liftM_bind]
      refine wp_quiet hsuits.complete trivial hs' fun confirmable s'' _ hs'' ↦ ?_
      refine Program.wp_ensure_onExit (fun hconfirmable ↦ ?_) hs''.held
      obtain rfl := hconfirmable
      refine ⟨_, List.subset_cons_self _ _, fun _ ↦ List.mem_cons_self, ?_⟩
      rw [hmode]
      exact hs''

theorem asks_verifyBinding (ext : Externals) (connection : Connection) :
    Asks (IsQuiet workRoot) (verifyBinding ext connection) := by
  have hverify : Asks (IsQuiet workRoot) (ExceptT.mk (ask (.verifyMirrorBinding connection))) :=
    asks_mk ⟨trivial, fun _ ↦ trivial⟩
  rw [verifyBinding]
  split_ifs
  · exact Asks.bind (asks_check _) fun _ ↦ hverify
  · exact Asks.bind (asks_check _) fun _ ↦ hverify
  · exact asks_pure ()

theorem wp_resolve (ext : Externals) (hsuits : Suits workRoot plan op)
    (h : Going t plan P initialized base known s) :
    (LocalMirrorPaths.resolve ext op.connection).run.wp (guarded workRoot plan op t)
      (Program.onExit (Held t base) fun paths s' ↦
        (pathsOverlap workRoot paths.recovery = false ∧ IsDirect paths.recovery) ∧
          Going t plan P initialized base known s') s := by
  rw [LocalMirrorPaths.resolve, Program.wp_liftM_bind]
  refine wp_quiet hsuits.complete trivial h fun cancelled s' _ hs' ↦ ?_
  have hs' := hs'.forget h.based (List.subset_cons_self _ _)
  refine Program.wp_seq_onExit (J := fun _ ↦ Going t plan P initialized base known)
    (Program.wp_ensure_onExit (fun _ ↦ hs') hs'.held) fun _ s' hs' ↦ ?_
  refine Program.wp_seq_onExit (J := fun paths s' ↦
    (pathsOverlap workRoot paths.recovery = false ∧ IsDirect paths.recovery) ∧
      Going t plan P initialized base known s') (Program.wp_check_onExit ?_ hs'.held) ?_
  · intro paths hpaths
    refine ⟨?_, hs'⟩
    rw [LocalMirrorPaths.native] at hpaths
    cases hmode : op.connection.mode with
    | onlineMount options =>
        rw [hmode] at hpaths
        cases hpaths
    | offlineMirror options =>
        rw [hmode] at hpaths
        obtain rfl := Except.ok.inj hpaths
        exact hsuits.apart options hmode
  · rintro paths s' ⟨hpaths, hs'⟩
    cases ext.mode with
    | native exe => exact ⟨hpaths, hs'⟩
    | flatpakSpawnHost =>
        refine Program.wp_seq_onExit (J := fun _ ↦ Going t plan P initialized base known) ?_ ?_
        · refine wp_quiet hsuits.complete trivial hs' fun mirror s'' _ hs'' ↦ ?_
          have hstep := hs''.forget h.based (List.subset_cons_self _ _)
          cases mirror with
          | ok mirror => exact hstep
          | error e => exact hstep.held
        · intro mirror s' hs'
          refine Program.wp_seq_onExit (J := fun recovery s' ↦
            (pathsOverlap workRoot recovery = false ∧ IsDirect recovery) ∧
              Going t plan P initialized base known s') ?_ fun recovery s' hs' ↦ hs'
          refine wp_quiet hsuits.complete trivial hs' fun recovery s'' hgranted hs'' ↦ ?_
          have hstep := hs''.forget h.based (List.subset_cons_self _ _)
          cases recovery with
          | ok recovery => exact ⟨hgranted, hstep⟩
          | error e => exact hstep.held

theorem asks_ensureLocalAccessMarker (fl : Message → String) {connection : Connection}
    {plan : RcloneBisyncPlan} (hanchor : plan.accessMarkerName = accessMarkerName op.connection) :
    Asks (IsQuiet workRoot) (ensureLocalAccessMarker fl connection plan) := by
  rw [ensureLocalAccessMarker]
  cases hname : plan.accessMarkerName with
  | none => exact asks_pure ()
  | some name =>
      refine Asks.bind ?_ fun _ ↦ asks_validateLocalAccessMarker fl connection plan
      obtain ⟨hname, hhead, -⟩ := accessMarkerName_eq_some (hanchor.symm.trans hname)
      have hnot (marker : String) (hmarker : marker.toList.head? = some 'i') : name ≠ marker := by
        rintro rfl
        rw [hhead] at hmarker
        cases hmarker
      refine Asks.bind (asks_lift ⟨trivial, fun _ ↦ trivial⟩) fun found ↦ ?_
      split_ifs
      · exact asks_pure ()
      · refine Asks.bind (asks_lift ⟨trivial, fun _ ↦ trivial⟩) fun initialized ↦ ?_
        split_ifs
        · exact asks_pure ()
        · refine asks_fileStep fl ⟨?_, fun _ ↦ trivial⟩
          exact not_isSomeMarker_join hname (hnot _ (by decide)) (hnot _ (by decide)) _

theorem asks_prepareInputs (fl : Message → String) {connection : Connection} {plan : RcloneBisyncPlan}
    (mode : BisyncMode) (hfilters : plan.filtersFile = Path.join plan.workDirectory "filters.txt")
    (hanchor : plan.accessMarkerName = accessMarkerName op.connection) :
    Asks (IsQuiet workRoot) (prepareInputs fl connection plan mode) := by
  refine Asks.bind (asks_lift (only_isSymlink _)) fun _ ↦ Asks.bind (asks_ensure _ _) fun _ ↦ ?_
  refine Asks.bind (asks_lift (only_isSymlink _)) fun _ ↦ Asks.bind (asks_ensure _ _) fun _ ↦ ?_
  refine Asks.bind (asks_createDirAll fl _ _) fun _ ↦ Asks.bind (asks_createDirAll fl _ _) fun _ ↦ ?_
  refine Asks.bind (asks_createDirAll fl _ _) fun _ ↦ Asks.bind ?_ fun _ ↦ ?_
  · rw [hfilters]
    exact asks_writeAtomic_join fl (by decide) (by decide) (by decide) (by decide) _
  · split_ifs
    · exact asks_pure ()
    · exact asks_reporting (asks_ensureLocalAccessMarker fl hanchor)

/-- The run may go on, with its directories apart from the work root. -/
theorem wp_prepare (ext : Externals) (hsuits : Suits workRoot plan op)
    (h : Going t plan P initialized base known s) :
    (prepare ext op.connection op.mode plan).run.wp (guarded workRoot plan op t)
      (Program.onExit (Held t base) fun paths s' ↦
        (pathsOverlap workRoot paths.recovery = false ∧ IsDirect paths.recovery) ∧
          Begun t plan op P base known s') s := by
  refine Program.wp_seq_onExit (wp_validateModeMarkers ext.fl hsuits h) ?_
  rintro - s ⟨known', hknown, hconfirmed, h⟩
  refine Program.wp_seq_onExit (wp_quiet_steps hsuits.complete (asks_verifyBinding ext _) h) ?_
  intro _ s h
  refine Program.wp_seq_onExit (wp_resolve ext hsuits h) ?_
  rintro paths s ⟨hpaths, h⟩
  refine Program.wp_seq_onExit (wp_quiet_steps hsuits.complete
    (asks_prepareInputs ext.fl op.mode hsuits.filters hsuits.anchor) h) ?_
  intro _ s h
  have hcount : ¬IsSomeMarker workRoot (previewCountPath plan) :=
    not_isSomeMarker_join (by decide) (by decide) (by decide) _
  have hremove : Asks (IsQuiet workRoot) (if isRcloneOneDrive op.connection = true then
      removeIfExists ext.fl (previewCountPath plan) else pure ()) := by
    split_ifs
    · exact asks_removeIfExists ext.fl hcount
    · exact asks_pure ()
  refine Program.wp_seq_onExit (wp_quiet_steps hsuits.complete hremove h) ?_
  intro _ s h
  exact ⟨hpaths, known', hknown, hconfirmed, h⟩

end Prepare

end CosmicMounter.Coordinator

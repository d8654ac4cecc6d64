import CosmicMounter.Providers.VfsHealth

/-!
# Where the two readings agree

A response that the decisions on detaching take for clean may lack the
counters that the sleep cleanup asks for: a missing field counts as zero.
-/

namespace CosmicMounter

open Rust Serde

/-! ## Clean statistics -/

structure RcloneVfsHealth.IsClean (health : RcloneVfsHealth) : Prop where
  queuedUploads : health.queuedUploads = 0
  activeUploads : health.activeUploads = 0
  cacheErrors : health.cacheErrors = 0
  cacheExhausted : health.cacheExhausted = false

/-- The leaf reports a pending upload, or an error or an exhausted cache. -/
def troubles (leaf : String × Value) : Bool :=
  match statistic? leaf.1 with
  | some .cacheExhausted => leaf.2.asBool.getD (decide (0 < jsonU64 leaf.2))
  | some _ => decide (0 < jsonU64 leaf.2)
  | none => false

theorem isClean_readStatistic {health : RcloneVfsHealth} {leaf : String × Value} :
    (readStatistic health leaf).IsClean ↔ health.IsClean ∧ troubles leaf = false := by
  have hzero : decide (0 < jsonU64 leaf.2) = false ↔ jsonU64 leaf.2 = 0 := by
    rw [decide_eq_false_iff_not]
    omega
  rw [readStatistic, troubles]
  cases statistic? leaf.1 with
  | none => simp
  | some statistic =>
      cases statistic with
      | queuedUploads =>
          simp only [hzero]
          constructor
          · rintro ⟨hqueued, hactive, herrors, hexhausted⟩
            obtain ⟨hbefore, hleaf⟩ := Nat.max_eq_zero_iff.mp hqueued
            exact ⟨⟨hbefore, hactive, herrors, hexhausted⟩, hleaf⟩
          · rintro ⟨⟨hqueued, hactive, herrors, hexhausted⟩, hleaf⟩
            exact ⟨Nat.max_eq_zero_iff.mpr ⟨hqueued, hleaf⟩, hactive, herrors, hexhausted⟩
      | activeUploads =>
          simp only [hzero]
          constructor
          · rintro ⟨hqueued, hactive, herrors, hexhausted⟩
            obtain ⟨hbefore, hleaf⟩ := Nat.max_eq_zero_iff.mp hactive
            exact ⟨⟨hqueued, hbefore, herrors, hexhausted⟩, hleaf⟩
          · rintro ⟨⟨hqueued, hactive, herrors, hexhausted⟩, hleaf⟩
            exact ⟨hqueued, Nat.max_eq_zero_iff.mpr ⟨hactive, hleaf⟩, herrors, hexhausted⟩
      | cacheErrors =>
          simp only [hzero]
          constructor
          · rintro ⟨hqueued, hactive, herrors, hexhausted⟩
            obtain ⟨hbefore, hleaf⟩ := Nat.max_eq_zero_iff.mp herrors
            exact ⟨⟨hqueued, hactive, hbefore, hexhausted⟩, hleaf⟩
          · rintro ⟨⟨hqueued, hactive, herrors, hexhausted⟩, hleaf⟩
            exact ⟨hqueued, hactive, Nat.max_eq_zero_iff.mpr ⟨herrors, hleaf⟩, hexhausted⟩
      | cacheExhausted =>
          constructor
          · rintro ⟨hqueued, hactive, herrors, hexhausted⟩
            obtain ⟨hbefore, hleaf⟩ := Bool.or_eq_false_iff.mp hexhausted
            exact ⟨⟨hqueued, hactive, herrors, hbefore⟩, hleaf⟩
          · rintro ⟨⟨hqueued, hactive, herrors, hexhausted⟩, hleaf⟩
            exact ⟨hqueued, hactive, herrors, Bool.or_eq_false_iff.mpr ⟨hexhausted, hleaf⟩⟩

theorem isClean_foldl {leaves : List (String × Value)} {health : RcloneVfsHealth} :
    (leaves.foldl readStatistic health).IsClean ↔
      health.IsClean ∧ ∀ leaf ∈ leaves, troubles leaf = false := by
  induction leaves generalizing health with
  | nil => simp
  | cons leaf rest ih => rw [List.foldl_cons, ih, isClean_readStatistic, List.forall_mem_cons, and_assoc]

/-- Some leaf of the response reports trouble. -/
def ReportsTrouble (value : Value) : Prop :=
  ∃ leaf ∈ collectJsonPaths value "", troubles leaf = true

theorem isClean_healthOf {value : Value} : (healthOf value).IsClean ↔ ¬ReportsTrouble value := by
  rw [healthOf, isClean_foldl, and_iff_right ⟨rfl, rfl, rfl, rfl⟩, ReportsTrouble]
  push Not
  simp only [ne_eq, Bool.not_eq_true]

/-! ## Decisions -/

theorem pendingOrActiveWrites_eq_false {health : RcloneVfsHealth} :
    health.pendingOrActiveWrites = false ↔ health.queuedUploads = 0 ∧ health.activeUploads = 0 := by
  simp [RcloneVfsHealth.pendingOrActiveWrites]

theorem isClean_iff {health : RcloneVfsHealth} :
    health.IsClean ↔ health.pendingOrActiveWrites = false ∧ health.healthyCache = true := by
  rw [pendingOrActiveWrites_eq_false, RcloneVfsHealth.healthyCache]
  simp only [Bool.and_eq_true, beq_iff_eq, Bool.not_eq_true']
  exact ⟨fun ⟨a, b, c, d⟩ ↦ ⟨⟨a, b⟩, c, d⟩, fun ⟨⟨a, b⟩, c, d⟩ ↦ ⟨a, b, c, d⟩⟩

/-- Detaching is allowed, or offered. -/
def MayDetach (health : RcloneVfsHealth) : Prop :=
  (∃ connectivityLost, detachDecision health connectivityLost = .cleanUnmount ∨
    detachDecision health connectivityLost = .autoDetachSafe) ∨
  lazyUnmountDecision health = .offerAfterConfirmation

theorem mayDetach_iff {health : RcloneVfsHealth} : MayDetach health ↔ health.IsClean := by
  rw [isClean_iff]
  cases hpending : health.pendingOrActiveWrites <;> cases hhealthy : health.healthyCache
  all_goals simp [MayDetach, detachDecision, lazyUnmountDecision, hpending, hhealthy]

/-- Nothing is detached while uploads are pending. -/
def IsBlocked (health : RcloneVfsHealth) : Prop :=
  (∀ connectivityLost, detachDecision health connectivityLost = .blockedByPendingWrites) ∧
    lazyUnmountDecision health = .blockedByPendingWrites

theorem isBlocked_of_pending {health : RcloneVfsHealth}
    (h : health.queuedUploads ≠ 0 ∨ health.activeUploads ≠ 0) : IsBlocked health := by
  have hpending : health.pendingOrActiveWrites = true := by
    rw [← Bool.not_eq_false, pendingOrActiveWrites_eq_false]
    tauto
  simp [IsBlocked, detachDecision, lazyUnmountDecision, hpending]

/-! ## The two counters -/

/-- Both counters are there, as unsigned numbers. -/
def CountersKnown (value : Value) : Prop :=
  ∃ disk queued active, value.get "diskCache" = some disk ∧
    (disk.get "uploadsQueued").bind Value.asU64 = some queued ∧
    (disk.get "uploadsInProgress").bind Value.asU64 = some active

theorem idleOf_of_known {value : Value} (h : CountersKnown value) :
    ∃ idle, idleOf value = .ok idle := by
  obtain ⟨disk, queued, active, hdisk, hqueued, hactive⟩ := h
  refine ⟨queued == 0 && active == 0, ?_⟩
  simp [idleOf, uploadCounter, hdisk, hqueued, hactive, bind, Except.bind, pure, Except.pure]

theorem mem_collectFields {fields : Fields} {key path : String} {value : Value}
    {leaf : String × Value} (hfield : (key, value) ∈ fields.toList)
    (hleaf : leaf ∈ collectJsonPaths value (childPath path key)) :
    leaf ∈ collectFields fields path := by
  match fields, hfield with
  | .cons key' value' rest, hfield =>
      rcases List.mem_cons.mp hfield with heq | hfield
      · obtain ⟨rfl, rfl⟩ := Prod.mk.inj heq
        exact List.mem_append_left _ hleaf
      · exact List.mem_append_right _ (mem_collectFields hfield hleaf)

/-- A counter of the disk cache is among the paths. -/
theorem mem_paths_of_counter {value disk : Value} {name : String} {count : Nat}
    (hdisk : value.get "diskCache" = some disk)
    (hcount : (disk.get name).bind Value.asU64 = some count) :
    ("diskCache" ++ "." ++ name, .number (.unsigned count)) ∈ collectJsonPaths value "" := by
  obtain ⟨counter, hcounter, hnumber⟩ := Option.bind_eq_some_iff.mp hcount
  have hvalue : counter = .number (.unsigned count) := by
    cases counter with
    | number n =>
        cases n with
        | unsigned n => rw [Option.some.inj hnumber]
        | negative | float => cases hnumber
    | null | bool | string | array | object => cases hnumber
  obtain ⟨fields, rfl, hfield⟩ := Value.exists_fields_of_get hdisk
  obtain ⟨counters, rfl, hcounters⟩ := Value.exists_fields_of_get hcounter
  rw [hvalue] at hcounters
  refine mem_collectFields hfield (mem_collectFields hcounters ?_)
  simp [collectJsonPaths, childPath]

theorem isClean_counts {value : Value} (h : CountersKnown value)
    (hclean : (healthOf value).IsClean) : idleOf value = .ok true := by
  obtain ⟨disk, queued, active, hdisk, hqueued, hactive⟩ := h
  rw [isClean_healthOf, ReportsTrouble] at hclean
  push Not at hclean
  have hstatistics : statistic? ("diskCache" ++ "." ++ "uploadsQueued") = some .queuedUploads ∧
      statistic? ("diskCache" ++ "." ++ "uploadsInProgress") = some .activeUploads := by
    decide
  have hzero {count : Nat} {name : String} {statistic : Statistic}
      (hname : statistic? ("diskCache" ++ "." ++ name) = some statistic)
      (hstatistic : statistic ≠ .cacheExhausted)
      (hcount : (disk.get name).bind Value.asU64 = some count) : count = 0 := by
    have hleaf := hclean _ (mem_paths_of_counter hdisk hcount)
    rw [troubles, hname] at hleaf
    cases statistic with
    | cacheExhausted => exact absurd rfl hstatistic
    | queuedUploads | activeUploads | cacheErrors =>
        have hnot : ¬0 < count := of_decide_eq_false (Bool.eq_false_iff.mpr hleaf)
        omega
  obtain rfl := hzero hstatistics.1 (by decide) hqueued
  obtain rfl := hzero hstatistics.2 (by decide) hactive
  simp [idleOf, uploadCounter, hdisk, hqueued, hactive, bind, Except.bind, pure, Except.pure]

/-- A counter only grows over the paths. -/
theorem le_foldl_readStatistic (leaves : List (String × Value)) (health : RcloneVfsHealth) :
    health.queuedUploads ≤ (leaves.foldl readStatistic health).queuedUploads ∧
      health.activeUploads ≤ (leaves.foldl readStatistic health).activeUploads := by
  induction leaves generalizing health with
  | nil => exact ⟨le_rfl, le_rfl⟩
  | cons leaf rest ih =>
      have hstep : health.queuedUploads ≤ (readStatistic health leaf).queuedUploads ∧
          health.activeUploads ≤ (readStatistic health leaf).activeUploads := by
        unfold readStatistic
        split
        all_goals simp
      rw [List.foldl_cons]
      have hrest := ih (readStatistic health leaf)
      exact ⟨hstep.1.trans hrest.1, hstep.2.trans hrest.2⟩

theorem le_counts_of_mem {leaves : List (String × Value)} {health : RcloneVfsHealth}
    {leaf : String × Value} (h : leaf ∈ leaves) :
    (statistic? leaf.1 = some .queuedUploads →
      jsonU64 leaf.2 ≤ (leaves.foldl readStatistic health).queuedUploads) ∧
    (statistic? leaf.1 = some .activeUploads →
      jsonU64 leaf.2 ≤ (leaves.foldl readStatistic health).activeUploads) := by
  induction leaves generalizing health with
  | nil => exact absurd h List.not_mem_nil
  | cons head rest ih =>
      rw [List.foldl_cons]
      rcases List.mem_cons.mp h with rfl | h
      · obtain ⟨hqueued, hactive⟩ :=
          le_foldl_readStatistic rest (readStatistic health leaf)
        constructor
        · intro hstatistic
          refine le_trans ?_ hqueued
          simp [readStatistic, hstatistic]
        · intro hstatistic
          refine le_trans ?_ hactive
          simp [readStatistic, hstatistic]
      · exact ih h

/-- A pending upload in the disk cache blocks every way of detaching. -/
theorem isBlocked_of_idle_false {value : Value} (h : idleOf value = .ok false) :
    IsBlocked (healthOf value) := by
  obtain ⟨disk, queued, active, hdisk, hqueued, hactive, hidle⟩ := idleOf_eq_ok h
  have hstatistics : statistic? ("diskCache" ++ "." ++ "uploadsQueued") = some .queuedUploads ∧
      statistic? ("diskCache" ++ "." ++ "uploadsInProgress") = some .activeUploads := by
    decide
  have hqueuedLe : queued ≤ (healthOf value).queuedUploads :=
    (le_counts_of_mem (mem_paths_of_counter hdisk hqueued)).1 hstatistics.1
  have hactiveLe : active ≤ (healthOf value).activeUploads :=
    (le_counts_of_mem (mem_paths_of_counter hdisk hactive)).2 hstatistics.2
  have hsome : queued ≠ 0 ∨ active ≠ 0 := by
    by_contra hnone
    push Not at hnone
    simp [hnone.1, hnone.2] at hidle
  apply isBlocked_of_pending
  omega

/-! ## Agreement -/

/-- Detaching is allowed only when both counters are known to be zero, and is
blocked when one of them is known not to be. -/
def AgreesOnUploads (fromStr : FromStr) (text : String) (health : RcloneVfsHealth) : Prop :=
  (MayDetach health → uploadsIdle fromStr text = .ok true) ∧
    (uploadsIdle fromStr text = .ok false → IsBlocked health)

theorem agreesOnUploads_iff {fromStr : FromStr} {text : String} {health : RcloneVfsHealth}
    (h : parseVfsStats fromStr text = .ok health) :
    AgreesOnUploads fromStr text health ↔
      ∀ value, fromStr text = .ok value → CountersKnown value ∨ ReportsTrouble value := by
  unfold parseVfsStats at h
  cases hparsed : fromStr text with
  | error e => simp [hparsed, Except.mapError, bind, Except.bind] at h
  | ok value =>
      rw [hparsed] at h
      obtain rfl : healthOf value = health := Except.ok.inj h
      have hidle : uploadsIdle fromStr text = idleOf value := by
        rw [uploadsIdle, hparsed]
        rfl
      rw [AgreesOnUploads, mayDetach_iff, hidle, isClean_healthOf]
      constructor
      · rintro ⟨hclean, -⟩ value' hvalue
        obtain rfl := Except.ok.inj hvalue
        by_contra hneither
        push Not at hneither
        obtain ⟨disk, queued, active, hdisk, hqueued, hactive, -⟩ := idleOf_eq_ok (hclean hneither.2)
        exact hneither.1 ⟨disk, queued, active, hdisk, hqueued, hactive⟩
      · intro hknown
        refine ⟨fun hclean ↦ ?_, isBlocked_of_idle_false⟩
        have hcounters := (hknown value rfl).resolve_right hclean
        exact isClean_counts hcounters (isClean_healthOf.mpr hclean)

/-! ## Samples -/

/-- A parser that knows two responses. -/
def sampleFromStr (text : String) : Except String Value :=
  if text = "{}" then .ok (.ofFields [])
  else .ok (.ofFields [("diskCache", .ofFields [("uploadsQueued", .number (.unsigned 0)),
    ("uploadsInProgress", .number (.unsigned 0))])])

theorem agreesOnUploads_sample : ∃ health, parseVfsStats sampleFromStr "idle" = .ok health ∧
    AgreesOnUploads sampleFromStr "idle" health := by
  refine ⟨_, rfl, (agreesOnUploads_iff rfl).mpr fun value hvalue ↦ .inl ?_⟩
  obtain rfl := Except.ok.inj hvalue
  exact ⟨_, 0, 0, rfl, rfl, rfl⟩

/-- An empty response says nothing about uploads, and yet allows to detach. -/
theorem empty_response_is_clean : ∃ health, parseVfsStats sampleFromStr "{}" = .ok health ∧
    ¬AgreesOnUploads sampleFromStr "{}" health := by
  refine ⟨_, rfl, ?_⟩
  rintro ⟨hclean, -⟩
  have hdetach : MayDetach (healthOf (.ofFields [])) := mayDetach_iff.mpr ⟨rfl, rfl, rfl, rfl⟩
  have hidle := hclean hdetach
  cases hidle

end CosmicMounter

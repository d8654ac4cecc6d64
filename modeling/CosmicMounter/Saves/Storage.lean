import CosmicMounter.Config.Validation

/-!
# The stored configuration

Loading the document and saving an edit of a loaded one (`config.rs`).  Every
writer replaces the whole document.
-/

namespace CosmicMounter

open Rust

/-! ## Loading -/

/-- The entry of the first configuration format. -/
inductive LegacyEntry
  | absent
  | notifications (enabled : Bool)
  | unreadable
  deriving DecidableEq, Repr

/-- What is stored: a document that parses, one that does not, or none. -/
inductive Stored
  | document (document : ConfigDocument)
  | unreadable
  | missing (legacy : LegacyEntry)
  deriving DecidableEq, Repr

inductive LoadSource
  | current
  | migratedV1
  | fresh
  | recoveredDefaults
  deriving DecidableEq, Repr

inductive LoadWarning
  | invalid (error : ValidationError)
  | unreadable
  | notMigrated
  deriving DecidableEq, Repr

structure LoadReport where
  config : Config
  source : LoadSource
  warnings : List LoadWarning
  deriving DecidableEq, Repr

def ConfigDocument.migratePreloadSettings (document : ConfigDocument) : ConfigDocument :=
  match document.onedriverPreloadSeconds with
  | none => document
  | some seconds =>
      { document with
        onedriverPreloadSeconds := none
        preload := { document.preload with
          onedrive := { document.preload.onedrive with maximumSeconds := seconds } } }

def Config.default : Config := ⟨{}⟩

def LoadReport.recovered (warnings : List LoadWarning) : LoadReport :=
  ⟨Config.default, .recoveredDefaults, warnings⟩

def LoadReport.ofDocument (ext : Externals) (document : ConfigDocument) : LoadReport :=
  match Config.validate ext ⟨document.migratePreloadSettings⟩ with
  | .ok () => ⟨⟨document.migratePreloadSettings⟩, .current, []⟩
  | .error errors => .recovered (errors.map .invalid)

def migratedDocument (notificationsEnabled : Bool) : ConfigDocument := { notificationsEnabled }

/-- The report, and what is stored afterwards: migrating writes, if it can. -/
def Stored.load (ext : Externals) (writes : Bool) : Stored → LoadReport × Stored
  | .document found => (.ofDocument ext found, .document found)
  | .unreadable => (.recovered [.unreadable], .unreadable)
  | .missing .absent => (⟨Config.default, .fresh, []⟩, .missing .absent)
  | .missing .unreadable => (.recovered [.unreadable], .missing .unreadable)
  | .missing (.notifications enabled) =>
      if writes then
        (⟨⟨migratedDocument enabled⟩, .migratedV1, []⟩, .document (migratedDocument enabled))
      else
        (⟨⟨migratedDocument enabled⟩, .migratedV1, [.notMigrated]⟩, .missing (.notifications enabled))

/-- `load_runtime_config`: a report with warnings is a failure. -/
def LoadReport.complete (report : LoadReport) : Except (List LoadWarning) Config :=
  match report.warnings with
  | [] => .ok report.config
  | warnings => .error warnings

/-! ## Saving -/

inductive SaveError
  | validation (errors : List ValidationError)
  | storage
  deriving DecidableEq, Repr

/-- The result, the caller's copy and what is stored afterwards. -/
structure Saved where
  result : Except SaveError Bool
  config : Config
  stored : Stored

def Config.updateValidatedWith (ext : Externals) (writes : Bool) (stored : Stored) (config : Config)
    (update : ConfigDocument → ConfigDocument) : Saved :=
  if (⟨update config.document⟩ : Config) = config then ⟨.ok false, config, stored⟩
  else match Config.validate ext ⟨update config.document⟩ with
    | .error errors => ⟨.error (.validation errors), config, stored⟩
    | .ok () =>
        if writes then ⟨.ok true, ⟨update config.document⟩, .document (update config.document)⟩
        else ⟨.error .storage, config, stored⟩

/-! ## The loaded content -/

/-- The document that a load without warnings gives. -/
def Stored.content (ext : Externals) : Stored → Option ConfigDocument
  | .document found =>
      match Config.validate ext ⟨found.migratePreloadSettings⟩ with
      | .ok () => some found.migratePreloadSettings
      | .error _ => none
  | .unreadable => none
  | .missing .absent => some {}
  | .missing (.notifications enabled) => some (migratedDocument enabled)
  | .missing .unreadable => none

theorem ConfigDocument.migratePreloadSettings_of_none {document : ConfigDocument}
    (h : document.onedriverPreloadSeconds = none) : document.migratePreloadSettings = document := by
  rw [migratePreloadSettings, h]

theorem ConfigDocument.onedriverPreloadSeconds_migrate (document : ConfigDocument) :
    document.migratePreloadSettings.onedriverPreloadSeconds = none := by
  unfold migratePreloadSettings
  cases h : document.onedriverPreloadSeconds with
  | none => exact h
  | some seconds => rfl

theorem Config.validate_migrated (ext : Externals) (enabled : Bool) :
    Config.validate ext ⟨migratedDocument enabled⟩ = .ok () := rfl

theorem resultOf_ne_nil {errors reported : List ValidationError}
    (h : Config.resultOf errors = .error reported) : reported ≠ [] := by
  unfold Config.resultOf at h
  split_ifs at h with hempty
  obtain rfl := Except.error.inj h
  simpa using hempty

variable {ext : Externals} {stored : Stored}

/-- A complete load gives the content, which stays what is stored. -/
theorem Stored.complete_load {writes : Bool} {config : Config}
    (h : (stored.load ext writes).1.complete = .ok config) :
    stored.content ext = some config.document ∧ (stored.load ext writes).2.content ext = some config.document := by
  cases stored with
  | document found =>
      simp only [load, LoadReport.ofDocument, content] at h ⊢
      cases hvalid : Config.validate ext ⟨found.migratePreloadSettings⟩ with
      | ok valid =>
          rw [hvalid] at h
          obtain rfl := Except.ok.inj h
          exact ⟨rfl, rfl⟩
      | error errors =>
          rw [hvalid] at h
          obtain ⟨error, rest, rfl⟩ := List.exists_cons_of_ne_nil (resultOf_ne_nil hvalid)
          cases h
  | unreadable => cases h
  | missing legacy =>
      cases legacy with
      | absent =>
          obtain rfl := Except.ok.inj h
          exact ⟨rfl, rfl⟩
      | unreadable => cases h
      | notifications enabled =>
          cases writes with
          | false => cases h
          | true =>
              obtain rfl := Except.ok.inj h
              exact ⟨rfl, rfl⟩

/-- Loading what cannot be loaded completely writes nothing. -/
theorem Stored.load_of_content_none (writes : Bool) (h : stored.content ext = none) :
    (stored.load ext writes).2 = stored := by
  cases stored with
  | document found => rfl
  | unreadable => rfl
  | missing legacy =>
      cases legacy with
      | absent => rfl
      | unreadable => rfl
      | notifications enabled => cases h

theorem Stored.onedriverPreloadSeconds_content {document : ConfigDocument}
    (h : stored.content ext = some document) : document.onedriverPreloadSeconds = none := by
  cases stored with
  | document found =>
      rw [content] at h
      split at h
      · obtain rfl := Option.some.inj h
        exact found.onedriverPreloadSeconds_migrate
      · cases h
  | unreadable => cases h
  | missing legacy =>
      cases legacy with
      | absent =>
          obtain rfl := Option.some.inj h
          rfl
      | unreadable => cases h
      | notifications enabled =>
          obtain rfl := Option.some.inj h
          rfl

/-- Editing the stored content replaces it by its edit. -/
theorem Config.content_updateValidatedWith {writes saved : Bool} {config : Config}
    {update : ConfigDocument → ConfigDocument} (hcurrent : stored.content ext = some config.document)
    (hkeeps : (update config.document).onedriverPreloadSeconds = none)
    (h : (config.updateValidatedWith ext writes stored update).result = .ok saved) :
    (config.updateValidatedWith ext writes stored update).stored.content ext =
      some (update config.document) := by
  unfold Config.updateValidatedWith at h ⊢
  split_ifs at h ⊢ with hsame hwrites
  · rw [hcurrent]
    exact congrArg some (congrArg Config.document hsame).symm
  · cases hvalid : Config.validate ext ⟨update config.document⟩ with
    | error errors =>
        rw [hvalid] at h
        cases h
    | ok valid =>
        dsimp only
        rw [Stored.content, ConfigDocument.migratePreloadSettings_of_none hkeeps, hvalid]
  · cases hvalid : Config.validate ext ⟨update config.document⟩ with
    | error errors =>
        rw [hvalid] at h
        cases h
    | ok valid =>
        rw [hvalid] at h
        cases h

end CosmicMounter

import CosmicMounter.Interaction.History
import CosmicMounter.Rust.Result
import CosmicMounter.Services.Controller

/-!
# Retirement of a legacy mirror

What `retire_legacy_mirror` asks of the manager and does to the unit file while
other programs may change the file between its steps.  The file is removed
without a last comparison, so the promises hold when nobody else writes unit
files after the content has been checked for the last time.
-/

namespace CosmicMounter.UnitController

open Rust Interaction StructuralUnitValidator

/-! ## The unit files -/

/-- How far the call is: no status yet, a status, or the content checked again after it. -/
inductive Phase
  | acting
  | observed
  | rechecked
  deriving DecidableEq, Repr

def Phase.next : Phase → ControllerRequest → Phase
  | _, .action .status _ => .observed
  | .observed, .store (.read _) => .rechecked
  | phase, _ => phase

/-- The unit files, and what the call has removed. -/
structure Disk where
  files : UnitName → Option String
  removed : List (UnitName × String) := []
  phase : Phase := .acting

def fileState (uuid : UuidParser) : Option String → UnitFileState
  | none => .missing
  | some content =>
      match parseOwnedConnection uuid content with
      | some id => .managed id
      | none => .external

/-- The store writes valid documents where no other unit stands. -/
def Accepts (uuid : UuidParser) (d : Disk) (document : UnitDocument) : Prop :=
  validate document = .ok () ∧
    (d.files document.name = none ∨
      fileState uuid (d.files document.name) = .managed document.name.connectionId)

/-- One call of the store or the manager; every call may fail. -/
def serves (uuid : UuidParser) : Disk → (q : ControllerRequest) → q.Answer → Disk → Prop
  | d, .store (.read name), answer, d' => d' = d ∧ (answer = .ok (d.files name) ∨ ∃ e, answer = .error e)
  | d, .store (.state name), answer, d' =>
      d' = d ∧ (answer = .ok (fileState uuid (d.files name)) ∨ ∃ e, answer = .error e)
  | d, .store (.write document), .ok (), d' => Accepts uuid d document ∧
      d' = { d with files := Function.update d.files document.name (some document.content) }
  | d, .store (.remove name), .ok (), d' => d.files name = none ∧ d' = d ∨
      ∃ content, d.files name = some content ∧
        fileState uuid (some content) = .managed name.connectionId ∧
        d' = { d with
          files := Function.update d.files name none
          removed := d.removed ++ [(name, content)] }
  | d, .store (.write _), .error _, d' | d, .store (.remove _), .error _, d' => d' = d
  | d, .action _ _, _, d' | d, .isCancelled, _, d' => d' = d

/-- Other programs may change unit files before each call. -/
def editingWorld (uuid : UuidParser) : World ControllerRequest.Answer Disk := fun d q r d' ↦
  ∃ files after, serves uuid { d with files } q r after ∧ d' = { after with phase := d.phase.next q }

/-- A write fails only where the store does not accept the document. -/
def writesAccepted (uuid : UuidParser) (d : Disk) : (q : ControllerRequest) → q.Answer → Prop
  | .store (.write document), .error _ => ¬Accepts uuid d document
  | _, _ => True

/-- Once the content has been checked again after the status, other programs leave the unit files
alone, and what the store accepts is written. -/
def steadyWorld (uuid : UuidParser) : World ControllerRequest.Answer Disk := fun d q r d' ↦
  ∃ files after, (d.phase = .rechecked → files = d.files) ∧ writesAccepted uuid { d with files } q r ∧
    serves uuid { d with files } q r after ∧ d' = { after with phase := d.phase.next q }

/-! ## What is promised -/

abbrev ControllerPast := History ControllerRequest.Answer

abbrev mirrorUnit (id : ConnectionId) : UnitName := ⟨id, .service⟩

def issuedAction : (q : ControllerRequest) × q.Answer → Option (SystemdAction × Option UnitName)
  | ⟨.action action unit, _⟩ => some (action, unit)
  | _ => none

/-- The actions asked of the manager, in order. -/
def issued (past : ControllerPast) : List (SystemdAction × Option UnitName) :=
  past.filterMap issuedAction

def retirementActions (id : ConnectionId) : List (SystemdAction × Option UnitName) :=
  [(.validateRetirementLoaded, some (mirrorUnit id)), (.disable, some (mirrorUnit id)),
    (.stop, some (mirrorUnit id)), (.status, some (mirrorUnit id)), (.daemonReload, none)]

/-- The first answer, the content of the unit file. -/
def FirstRead (id : ConnectionId) (past : ControllerPast) (content : String) : Prop :=
  ∃ rest, past = ⟨.store (.read (mirrorUnit id)), .ok (some content)⟩ :: rest

/-- The command of the unit is the legacy client's: its one `ExecStart` line runs it. -/
def RunsOnedrive (content : String) : Prop :=
  ∃ line, (Str.lines content).filter (Str.startsWith "ExecStart=") = [line] ∧
    Str.startsWith "ExecStart=\"/usr/bin/onedrive\" " line = true

/-- The file that was read first is a valid unit of this connection's legacy mirror. -/
def Guarded (id : ConnectionId) (past : ControllerPast) : Prop :=
  ∃ content, FirstRead id past content ∧ validate ⟨mirrorUnit id, content⟩ = .ok () ∧
    ⟨.store (.state (mirrorUnit id)), .ok (.managed id)⟩ ∈ past ∧ RunsOnedrive content

/-- A file was removed with the content that was read first, and after a status at rest. -/
def RemovedRightly (id : ConnectionId) (past : ControllerPast) (removed : UnitName × String) : Prop :=
  removed.1 = mirrorUnit id ∧ FirstRead id past removed.2 ∧
    ∃ status, ⟨.action .status (some (mirrorUnit id)), .ok (some status)⟩ ∈ past ∧
      isRetired status = true

/-- Every write puts a removed file back. -/
def WritesBack (d : Disk) (past : ControllerPast) : Prop :=
  ∀ reply ∈ past, ∀ document, reply.1 = .store (.write document) →
    (document.name, document.content) ∈ d.removed

structure Retires (id : ConnectionId) (d : Disk) (past : ControllerPast) : Prop where
  actions : issued past <+: retirementActions id
  guarded : issued past ≠ [] → Guarded id past
  removals : ∀ removed ∈ d.removed, RemovedRightly id past removed
  writes : WritesBack d past

/-- In every run, stopped anywhere, the call does only what retires the mirror, and what it has
removed is back on the disk when it fails. -/
def KeepsUnit (W : World ControllerRequest.Answer Disk) (id : ConnectionId) : Prop :=
  ∀ files tr rest d, Exec W (retireLegacyMirror id).run { files } tr rest d →
    Retires id d (replies tr) ∧
      ∀ e, rest = .done (.error e) → ∀ removed ∈ d.removed, d.files removed.1 = some removed.2

/-! ## The command of a valid unit -/

theorem require_eq_ok {key : String} {arguments : List (String × String)} {holds : Bool} {u : Unit}
    (h : require key arguments holds = .ok u) : holds = true := by
  unfold require at h
  split_ifs at h with hholds
  · exact hholds
  · cases h

theorem addDirective_eq_ok {scan scan' : Scan} {line : String} (h : addDirective scan line = .ok scan') :
    ∃ current key value, Str.splitOnce '=' line = some (key, value) ∧ key ∈ allowedKeys current ∧
      scan'.directives = scan.directives ++ [((current, key), value)] := by
  unfold addDirective at h
  split at h
  · cases h
  · cases h
  · next current key value hcurrent hsplit =>
      obtain ⟨u, hrequire, h⟩ := Result.bind_eq_ok h
      obtain rfl := Except.ok.inj h
      have hallowed := require_eq_ok hrequire
      rw [Bool.and_eq_true, decide_eq_true_eq] at hallowed
      exact ⟨current, key, value, hsplit, hallowed.1, rfl⟩

/-- `ExecStart` is a key of services alone. -/
theorem section_of_execStart {current : String} (h : "ExecStart" ∈ allowedKeys current) :
    current = "Service" := by
  unfold allowedKeys at h
  split at h
  all_goals first | rfl | exact absurd h (by decide)

theorem splitOnce_execStart {line : String} (h : Str.startsWith "ExecStart=" line = true) :
    ∃ value, Str.splitOnce '=' line = some ("ExecStart", value) := by
  obtain ⟨rest, hrest⟩ := (Str.startsWith_iff _ _).mp h
  refine ⟨.ofList rest, Str.splitOnce_of_toList ?_ (by decide)⟩
  rw [← hrest, String.toList_ofList]
  simp

/-- A line adds what it assigns; the command's line assigns the command. -/
theorem scanLine_directives {kind : UnitKind} {scan scan' : Scan} {line : String}
    (h : scanLine kind scan line = .ok scan') :
    ∃ more, scan'.directives = scan.directives ++ more ∧
      (Str.startsWith "ExecStart=" line = true → ∃ value, more = [(("Service", "ExecStart"), value)]) := by
  have hfirst : ∀ p : String, p.toList.head? ≠ some 'E' → p ≠ "" → Str.startsWith "ExecStart=" line = true →
      Str.startsWith p line = false := by
    intro p hp hne hexec
    rw [← Bool.not_eq_true, Str.startsWith_iff]
    intro hprefix
    obtain ⟨rest, hrest⟩ := (Str.startsWith_iff _ _).mp hexec
    obtain ⟨c, cs, hcs⟩ := List.exists_cons_of_ne_nil (mt String.toList_eq_nil_iff.mp hne)
    obtain ⟨rest', hrest'⟩ := hprefix
    rw [← hrest, hcs] at hrest'
    have hc : c = 'E' := (List.cons.inj hrest').1
    rw [hcs, hc] at hp
    exact hp rfl
  obtain ⟨u, -, h⟩ := Result.bind_eq_ok h
  split_ifs at h with hblank
  · obtain rfl := Except.ok.inj h
    refine ⟨[], (List.append_nil _).symm, fun hexec ↦ ?_⟩
    rcases hblank with rfl | hcomment
    · exact absurd hexec (by decide)
    · rw [hfirst "#" (by decide) (by decide) hexec] at hcomment
      cases hcomment
  · split at h
    · next name hheader =>
        obtain ⟨-, -, h⟩ := Result.bind_eq_ok h
        obtain ⟨-, -, h⟩ := Result.bind_eq_ok h
        obtain rfl := Except.ok.inj h
        refine ⟨[], (List.append_nil _).symm, fun hexec ↦ ?_⟩
        have hnone := Str.stripPrefix_eq_none_iff.mpr (hfirst "[" (by decide) (by decide) hexec)
        rw [sectionHeader, hnone] at hheader
        cases hheader
    · obtain ⟨current, key, value, hsplit, hkey, hdirectives⟩ := addDirective_eq_ok h
      refine ⟨_, hdirectives, fun hexec ↦ ?_⟩
      obtain ⟨value', hsplit'⟩ := splitOnce_execStart hexec
      rw [hsplit'] at hsplit
      obtain ⟨rfl, rfl⟩ := Prod.mk.inj (Option.some.inj hsplit)
      exact ⟨_, by rw [section_of_execStart hkey]⟩

theorem foldlM_directives {kind : UnitKind} {lines : List String} {scan scan' : Scan}
    (h : lines.foldlM (scanLine kind) scan = .ok scan') :
    (scan.values "Service" "ExecStart").length + (lines.filter (Str.startsWith "ExecStart=")).length ≤
      (scan'.values "Service" "ExecStart").length := by
  induction lines generalizing scan with
  | nil =>
      obtain rfl := Except.ok.inj h
      exact Nat.le_refl _
  | cons line lines ih =>
      rw [List.foldlM_cons] at h
      obtain ⟨next, hnext, h⟩ := Result.bind_eq_ok h
      have hrest := ih h
      obtain ⟨more, hmore, hexec⟩ := scanLine_directives hnext
      have hvalues : (next.values "Service" "ExecStart").length =
          (scan.values "Service" "ExecStart").length +
            (more.filter (·.1 == ("Service", "ExecStart"))).length := by
        rw [Scan.values, hmore, List.filter_append, List.map_append, List.length_append, Scan.values,
          List.length_map, List.length_map]
      rw [List.filter_cons]
      split_ifs with hline
      · obtain ⟨value, rfl⟩ := hexec hline
        rw [List.length_cons]
        simp only [List.filter_cons, beq_self_eq_true, if_true, List.filter_nil, List.length_singleton]
          at hvalues
        omega
      · omega

theorem one_of_checkService {scan : Scan} {u : Unit} (h : checkService scan = .ok u) :
    ∃ value, one scan "Service" "ExecStart" = .ok value := by
  obtain ⟨type, -, h⟩ := Result.bind_eq_ok h
  obtain ⟨u, -, h⟩ := Result.bind_eq_ok h
  obtain ⟨directory, -, h⟩ := Result.bind_eq_ok h
  obtain ⟨u, -, h⟩ := Result.bind_eq_ok h
  obtain ⟨status, -, h⟩ := Result.bind_eq_ok h
  obtain ⟨u, -, h⟩ := Result.bind_eq_ok h
  obtain ⟨value, hvalue, -⟩ := Result.bind_eq_ok h
  exact ⟨value, hvalue⟩

/-- A valid unit has no second command. -/
theorem runsOnedrive_of_validate {id : ConnectionId} {content : String}
    (hvalid : validate ⟨mirrorUnit id, content⟩ = .ok ())
    (hline : (Str.lines content).any (Str.startsWith "ExecStart=\"/usr/bin/onedrive\" ") = true) :
    RunsOnedrive content := by
  obtain ⟨rest, hmarkers, hvalid⟩ := Result.bind_eq_ok hvalid
  obtain ⟨-, -, hvalid⟩ := Result.bind_eq_ok hvalid
  obtain ⟨scan, hscan, hbody⟩ := Result.bind_eq_ok hvalid
  have hlines := lines_of_checkMarkers hmarkers
  have hone : (scan.values "Service" "ExecStart").length = 1 := by
    obtain ⟨u, -, hbody⟩ := Result.bind_eq_ok hbody
    obtain ⟨description, -, hbody⟩ := Result.bind_eq_ok hbody
    obtain ⟨u, -, hservice⟩ := Result.bind_eq_ok hbody
    obtain ⟨value, hvalue⟩ := one_of_checkService hservice
    unfold one at hvalue
    split at hvalue
    · next value' hvalues => rw [hvalues, List.length_singleton]
    · cases hvalue
  have hcount := foldlM_directives hscan
  have hfilter : (Str.lines content).filter (Str.startsWith "ExecStart=") =
      rest.filter (Str.startsWith "ExecStart=") := by
    have hmanaged : Str.startsWith "ExecStart=" managedMarker = false := by decide
    have huuid : Str.startsWith "ExecStart=" (uuidMarker ++ id.text) = false := by
      rw [← Bool.not_eq_true, Str.startsWith_iff]
      rintro ⟨tail, htail⟩
      rw [String.toList_append] at htail
      cases htail
    rw [hlines, List.filter_cons_of_neg (by simp [hmanaged]), List.filter_cons_of_neg (by simp [huuid])]
  obtain ⟨line, hmem, hstart⟩ := List.any_eq_true.mp hline
  have hexec : line ∈ (Str.lines content).filter (Str.startsWith "ExecStart=") := by
    refine List.mem_filter.mpr ⟨hmem, ?_⟩
    rw [Str.startsWith_iff] at hstart ⊢
    exact List.IsPrefix.trans ⟨"\"/usr/bin/onedrive\" ".toList, rfl⟩ hstart
  rw [hfilter] at hexec
  refine ⟨line, ?_, hstart⟩
  rw [hfilter]
  match hrest : rest.filter (Str.startsWith "ExecStart="), hexec with
  | [only], hexec => rw [List.mem_singleton.mp hexec]
  | first :: second :: more, _ =>
      rw [hrest, hone] at hcount
      simp only [Scan.values, List.filter_nil, List.map_nil, List.length_nil, List.length_cons] at hcount
      omega

end CosmicMounter.UnitController

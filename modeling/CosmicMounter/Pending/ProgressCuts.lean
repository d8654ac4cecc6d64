import CosmicMounter.Data.Reader
import CosmicMounter.Pending.ProgressMessages

/-!
# A log that is still being written

The progress that a cut log shows, against that of its whole records, and
when the progress says that nothing is pending.
-/

namespace CosmicMounter.Progress

open Rust Serde

variable {json : SerdeJson}

/-! ## Cuts -/

/-- What the reader of `serde_json` does with a text that begins with a value: white space may
follow, and where an object is read nothing else may. -/
structure ReadsRecords (json : SerdeJson) : Prop where
  trailing : ∀ (s w : List Char) (value : Value), json.fromStr (.ofList s) = .ok value →
    (∀ c ∈ w, c ∈ Json.spaces) → json.fromStr (.ofList (s ++ w)) = .ok value
  delimited : ∀ (s w : List Char) (fields : Fields) (value : Value),
    json.fromStr (.ofList (s ++ w)) = .ok (.object fields) → json.fromStr (.ofList s) = .ok value →
      ∀ c ∈ w, c ∈ Json.spaces

theorem utf8Size_of_mem_spaces {c : Char} (h : c ∈ Json.spaces) : c.utf8Size = 1 := by
  rw [Json.spaces] at h
  fin_cases h <;> rfl

theorem exists_fields {record : Value} {message : String}
    (h : (record.get "msg").bind Value.asStr = some message) : ∃ fields, record = .object fields := by
  obtain ⟨field, hfield, -⟩ := Option.bind_eq_some_iff.mp h
  obtain ⟨fields, hrecord, -⟩ := Value.exists_fields_of_get hfield
  exact ⟨fields, hrecord⟩

/-- Once a value can be read of the beginning of a record, it is the whole record. -/
theorem isWhole_of_parses (hjson : ReadsRecords json) {s : List Char} {more after : List UInt8}
    (hline : IsWhole json (Utf8.encode s ++ more ++ after)) {value : Value}
    (hparse : json.fromStr (.ofList s) = .ok value) : IsWhole json (Utf8.encode s ++ more) := by
  obtain ⟨text, record, message, hholds⟩ := hline
  have hencode := hholds.encodes
  rw [List.append_assoc] at hencode
  obtain ⟨w, rfl, hw⟩ := Utf8.exists_append_of_encode hencode.symm
  obtain ⟨fields, rfl⟩ := exists_fields hholds.msg
  have hspaces := hjson.delimited s w fields value hholds.parses hparse
  have hall := hjson.trailing s w value hparse hspaces
  have hsame : value = .object fields := by
    rw [hholds.parses] at hall
    exact (Except.ok.inj hall).symm
  have hmore : Utf8.encode (w.take more.length) = more := by
    rw [← Utf8.take_encode_of_narrow (fun c hc ↦ utf8Size_of_mem_spaces (hspaces c hc)), hw, List.take_left]
  refine ⟨s ++ w.take more.length, .object fields, message, ?_, ?_, hholds.msg⟩
  · rw [Utf8.encode_append, hmore]
  · rw [← hsame]
    exact hjson.trailing s _ value hparse fun c hc ↦ hspaces c (List.mem_of_mem_take hc)

/-- The longest beginning of a log that consists of whole records. -/
structure LongestWhole (json : SerdeJson) (bytes whole : List UInt8) : Prop where
  begins : whole <+: bytes
  isWhole : WholeRecords json whole
  longest : ∀ other, other <+: bytes → WholeRecords json other → other.length ≤ whole.length

section Cut

variable {log ended tail : List UInt8}

theorem wholeRecords_append (hended : EndsLine ended) (rest : List UInt8) :
    WholeRecords json (ended ++ rest) ↔ WholeRecords json ended ∧ WholeRecords json rest := by
  simp only [WholeRecords, readLines_append hended, List.forall_mem_append]

theorem wholeRecords_tail (htail : (10 : UInt8) ∉ tail) :
    WholeRecords json tail ↔ tail = [] ∨ IsWhole json tail := by
  by_cases hnil : tail = []
  · subst hnil
    simp [WholeRecords, readLines]
  · rw [WholeRecords, readLines_of_notMem hnil htail, List.forall_mem_singleton, or_iff_right hnil]

/-- The line that is being written goes on as a whole record. -/
theorem exists_line (hlog : WholeRecords json log) (hended : EndsLine ended) (htail : (10 : UInt8) ∉ tail)
    (hne : tail ≠ []) (hcut : ended ++ tail <+: log) : ∃ after, IsWhole json (tail ++ after) := by
  obtain ⟨rest, rfl⟩ := hcut
  rw [List.append_assoc, wholeRecords_append hended] at hlog
  obtain ⟨after, lines, hlines, -⟩ := exists_readLines hne htail rest
  exact ⟨after, hlog.2 _ (by rw [hlines]; exact List.mem_cons_self)⟩

theorem isWhole_of_begins (hjson : ReadsRecords json) {line begun after : List UInt8}
    (hline : IsWhole json (line ++ after)) (hbegun : begun <+: line) (hwhole : IsWhole json begun) :
    IsWhole json line := by
  obtain ⟨more, rfl⟩ := hbegun
  obtain ⟨text, value, message, hholds⟩ := hwhole
  rw [← hholds.encodes] at hline ⊢
  exact isWhole_of_parses hjson hline hholds.parses

/-- No whole beginning reaches into a line that is broken off. -/
theorem length_le_ended (hjson : ReadsRecords json) (hlog : WholeRecords json log)
    (hended : EndsLine ended) (htail : (10 : UInt8) ∉ tail) (hcut : ended ++ tail <+: log)
    (hne : tail ≠ []) (hnot : ¬IsWhole json tail) {other : List UInt8} (hother : other <+: ended ++ tail)
    (hwhole : WholeRecords json other) : other.length ≤ ended.length := by
  by_contra hlonger
  obtain ⟨begun, rfl⟩ := List.prefix_of_prefix_length_le (List.prefix_append ended tail) hother
    (Nat.le_of_not_le hlonger)
  have hbegun : begun <+: tail := (List.prefix_append_right_inj ended).mp hother
  have hbegunWhole := ((wholeRecords_append hended begun).mp hwhole).2
  rcases (wholeRecords_tail fun hmem ↦ htail (hbegun.subset hmem)).mp hbegunWhole with rfl | hwhole
  · rw [List.append_nil] at hlonger
    exact hlonger (Nat.le_refl _)
  · obtain ⟨after, hline⟩ := exists_line hlog hended htail hne hcut
    exact hnot (isWhole_of_begins hjson hline hbegun hwhole)

theorem wholeRecords_ended (hlog : WholeRecords json log) (hended : EndsLine ended)
    (hcut : ended ++ tail <+: log) : WholeRecords json ended := by
  obtain ⟨rest, rfl⟩ := hcut
  rw [List.append_assoc, wholeRecords_append hended] at hlog
  exact hlog.1

theorem longestWhole_ended (hjson : ReadsRecords json) (hlog : WholeRecords json log)
    (hended : EndsLine ended) (htail : (10 : UInt8) ∉ tail) (hcut : ended ++ tail <+: log)
    (hne : tail ≠ []) (hnot : ¬IsWhole json tail) : LongestWhole json (ended ++ tail) ended where
  begins := List.prefix_append ended tail
  isWhole := wholeRecords_ended hlog hended hcut
  longest _ hother hwhole := length_le_ended hjson hlog hended htail hcut hne hnot hother hwhole

/-- The longest whole beginning of a cut log: all of it, or its ended lines. -/
theorem longestWhole_cases (hjson : ReadsRecords json) (hlog : WholeRecords json log)
    (hended : EndsLine ended) (htail : (10 : UInt8) ∉ tail) (hcut : ended ++ tail <+: log)
    {whole : List UInt8} (h : LongestWhole json (ended ++ tail) whole) :
    whole = ended ++ tail ∨ whole = ended ∧ tail ≠ [] ∧ ¬IsWhole json tail := by
  have hendedWhole := wholeRecords_ended hlog hended hcut
  by_cases htailWhole : tail = [] ∨ IsWhole json tail
  · left
    have hall : WholeRecords json (ended ++ tail) :=
      (wholeRecords_append hended tail).mpr ⟨hendedWhole, (wholeRecords_tail htail).mpr htailWhole⟩
    exact h.begins.eq_of_length_le (h.longest _ List.prefix_rfl hall)
  · right
    obtain ⟨hne, hnot⟩ := not_or.mp htailWhole
    have hle := length_le_ended hjson hlog hended htail hcut hne hnot h.begins h.isWhole
    have hge := h.longest ended (List.prefix_append ended tail) hendedWhole
    have hbegins : ended <+: whole :=
      List.prefix_of_prefix_length_le (List.prefix_append ended tail) h.begins hge
    exact ⟨(hbegins.eq_of_length_le hle).symm, hne, hnot⟩

end Cut

/-! ## What is pending -/

def ReportsNothing (run : List String) : Prop :=
  lastReport "Path1:" run = some 0 ∧ lastReport "Path2:" run = some 0

/-- The messages of a run that has failed, and has not succeeded. -/
def HasFailed (run : List String) : Prop :=
  run.any saysSuccess = false ∧ run.any saysFailure = true

/-- The messages by which a run has nothing left to do. -/
def IsDone (run : List String) : Prop := run.any saysSuccess = true ∨ ReportsNothing run

instance (run : List String) : Decidable (ReportsNothing run) := instDecidableAnd

instance (run : List String) : Decidable (HasFailed run) := instDecidableAnd

instance (run : List String) : Decidable (IsDone run) := instDecidableOr

section Pending

variable {run : List String} {progress : MirrorProgress}

theorem Shows.pending_eq_unavailable_iff (h : Shows run progress) :
    progress.pending = .error unavailable ↔ HasFailed run := by
  rw [HasFailed, ← h.succeeded, ← h.failed, MirrorProgress.pending]
  cases progress.succeeded with
  | true => simp
  | false =>
      cases progress.failed with
      | true => simp
      | false =>
          simp only [Bool.false_eq_true, if_false, and_false, iff_false]
          split <;> simp [unavailable, unreadable]

theorem pending_ne_responseIncomplete (progress : MirrorProgress) :
    progress.pending ≠ .error responseIncomplete := by
  rw [MirrorProgress.pending]
  split_ifs
  · simp
  · simp [unavailable, responseIncomplete]
  · split <;> simp [unreadable, responseIncomplete]

theorem Shows.pending_eq_zero_iff (h : Shows run progress) :
    progress.pending = .ok 0 ↔ IsDone run ∧ ¬HasFailed run := by
  rw [IsDone, HasFailed, ReportsNothing, ← h.succeeded, ← h.failed, ← h.path1, ← h.path2,
    MirrorProgress.pending]
  cases progress.succeeded with
  | true => simp
  | false =>
      cases progress.failed with
      | true => simp
      | false =>
          cases progress.path1 with
          | none => simp
          | some left =>
              cases progress.path2 with
              | none => simp
              | some right =>
                  simp only [Bool.false_eq_true, if_false, Except.ok.injEq, Option.some_inj, false_or,
                    and_false, not_false_eq_true, and_true]
                  split_ifs <;> omega

end Pending

theorem Describes.pending_eq_unavailable_iff {ms : List String} {progress : MirrorProgress}
    (h : Describes ms progress) : progress.pending = .error unavailable ↔
      ∃ start after, LastRun ms start after ∧ HasFailed (start :: after) := by
  refine h.iff ?_ fun shown hshown ↦ hshown.pending_eq_unavailable_iff
  rintro rfl hpending
  simp [MirrorProgress.pending, unavailable, unreadable] at hpending

theorem Describes.pending_eq_zero_iff {ms : List String} {progress : MirrorProgress}
    (h : Describes ms progress) : progress.pending = .ok 0 ↔
      ∃ start after, LastRun ms start after ∧ IsDone (start :: after) ∧ ¬HasFailed (start :: after) := by
  refine h.iff ?_ fun shown hshown ↦
    hshown.pending_eq_zero_iff
  rintro rfl hpending
  cases hpending

theorem readLog_eq_zero_iff {log : List UInt8} : readLog json log = .ok 0 ↔
    (∀ line ∈ readLines log, IsReadable json line) ∧ ∃ start after,
      LastRun (messages json log) start after ∧ IsDone (start :: after) ∧ ¬HasFailed (start :: after) := by
  rw [readLog]
  rcases observe_log json log with ⟨progress, hall, hobserve, hdescribes⟩ | ⟨hsome, message, hobserve⟩
  · rw [hobserve, ← hdescribes.pending_eq_zero_iff]
    exact (and_iff_right hall).symm
  · rw [hobserve]
    constructor
    · intro h
      cases h
    · intro h
      exact absurd h.1 hsome

/-! ## The result on a cut log -/

/-- What of the rest of a log does not change the result: a rest that can be decoded, and any
where a line was too long before it, or the run has failed. -/
def Tolerates (json : SerdeJson) (whole rest : List UInt8) : Prop :=
  (∃ line ∈ readLines whole, 1024 * 1024 < line.length) ∨
  ((Utf8.strict rest).isSome = true ∧ rest.length ≤ 1024 * 1024) ∨
  (Utf8.strict rest = none ∧
    ∃ start after, LastRun (messages json whole) start after ∧ HasFailed (start :: after))

theorem readLine_of_broken (hjson : ReadsRecords json) {tail after : List UInt8} {text : List Char}
    (hline : IsWhole json (tail ++ after)) (htail : (10 : UInt8) ∉ tail) (hnot : ¬IsWhole json tail)
    (htext : Utf8.encode text = tail) (hshort : tail.length ≤ 1024 * 1024) :
    readLine json tail = .incomplete := by
  rw [readLine, Utf8.strict_eq_some_iff.mpr htext]
  dsimp only
  rw [if_neg (Nat.not_lt_of_le hshort)]
  have hopen : text.getLast? ≠ some '\n' := by
    intro hlast
    rw [getLast?_encode, htext] at hlast
    exact htail (List.mem_of_getLast? hlast)
  cases hparse : json.fromStr (.ofList text) with
  | error _ =>
      dsimp only
      rw [if_neg hopen]
  | ok value =>
      have hline' : IsWhole json (Utf8.encode text ++ [] ++ after) := by
        rw [htext, List.append_nil]
        exact hline
      have hwhole := isWhole_of_parses hjson hline' hparse
      rw [htext, List.append_nil] at hwhole
      exact absurd hwhole hnot

theorem readLog_tail {progress : MirrorProgress} {tail : List UInt8}
    (hread : readLine json tail = .incomplete) : observeLines json progress [tail] = .ok progress := by
  rw [observeLines, hread]

theorem IsWhole.long_of_not_readable {line : List UInt8} (h : IsWhole json line)
    (hnot : ¬IsReadable json line) : 1024 * 1024 < line.length := by
  by_contra hlong
  obtain ⟨text, record, message, hholds⟩ := h
  refine hnot ⟨Nat.le_of_not_lt hlong, text, hholds.encodes, .inl ?_⟩
  rw [hholds.messageOf]
  rfl

/-- A cut log shows what its whole records show, when the rest is tolerated. -/
theorem readLog_cut (hjson : ReadsRecords json) {log bytes whole : List UInt8}
    (hlog : WholeRecords json log) (hcut : bytes <+: log) (h : LongestWhole json bytes whole) :
    readLog json bytes = readLog json whole ↔ Tolerates json whole (bytes.drop whole.length) := by
  obtain ⟨ended, tail, rfl, hended, htail⟩ := exists_endsLine bytes
  have hendedWhole := wholeRecords_ended hlog hended hcut
  rcases longestWhole_cases hjson hlog hended htail hcut h with rfl | ⟨rfl, hne, hnot⟩
  · rw [List.drop_length]
    exact iff_of_true rfl (.inr (.inl ⟨rfl, Nat.zero_le _⟩))
  · rw [List.drop_left, readLog, readLog, readLines_append hended, readLines_of_notMem hne htail]
    have hlines : ∀ line ∈ readLines whole, line.getLast? = some 10 :=
      fun _ hline ↦ getLast?_of_mem_readLines hended hline
    rcases observeLines_ended json hlines describes_nil with
      ⟨progress, hall, hdescribes, hobserve⟩ | ⟨hsome, message, hobserve⟩
    · have hwhole := hobserve []
      rw [List.append_nil] at hwhole
      rw [hobserve, hwhole]
      have hshort : ¬∃ line ∈ readLines whole, 1024 * 1024 < line.length := by
        rintro ⟨line, hline, hlong⟩
        exact absurd (hall line hline).1 (Nat.not_le_of_lt hlong)
      rw [Tolerates, or_iff_right hshort]
      cases hstrict : Utf8.strict tail with
      | none =>
          have hread : readLine json tail = .refused unavailable := by rw [readLine, hstrict]
          have hpending := hdescribes.pending_eq_unavailable_iff
          rw [List.nil_append] at hpending
          simp only [observeLines, hread, Option.isSome_none, Bool.false_eq_true, false_and, false_or,
            true_and]
          rw [messages, ← hpending]
          exact eq_comm
      | some text =>
          have htext := Utf8.strict_eq_some_iff.mp hstrict
          simp only [Option.isSome_some, true_and, reduceCtorEq, false_and, or_false]
          by_cases hlong : 1024 * 1024 < tail.length
          · have hread : readLine json tail = .refused responseIncomplete := by
              rw [readLine, hstrict]
              exact if_pos hlong
            simp only [observeLines, hread]
            refine iff_of_false ?_ (Nat.not_le_of_lt hlong)
            exact fun hsame ↦ pending_ne_responseIncomplete progress hsame.symm
          · obtain ⟨after, hline⟩ := exists_line hlog hended htail hne hcut
            have hread := readLine_of_broken hjson hline htail hnot htext (Nat.le_of_not_lt hlong)
            rw [readLog_tail hread]
            exact iff_of_true rfl (Nat.le_of_not_lt hlong)
    · have hwhole := hobserve []
      rw [List.append_nil] at hwhole
      rw [hobserve, hwhole]
      refine iff_of_true rfl (.inl ?_)
      by_contra hshort
      apply hsome
      intro line hline
      by_contra hrefused
      exact hshort ⟨line, hline, (hendedWhole line hline).long_of_not_readable hrefused⟩

/-! ## The live progress -/

/-- The state file that belongs to an invocation. -/
def StateMatches (json : ProgressJson) (file : Option (List UInt8)) (invocation : String) : Prop :=
  ∃ bytes, file = some bytes ∧ bytes.length ≤ 4096 ∧
    (json.fromSlice bytes).toOption.bind LiveProgressState.ofValue = some ⟨1, invocation⟩

theorem checkState_eq_ok_iff {json : ProgressJson} {file : Option (List UInt8)} {invocation : String} :
    checkState json file invocation = .ok () ↔ StateMatches json file invocation := by
  rw [StateMatches]
  cases file with
  | none => simp [checkState]
  | some bytes =>
      rw [checkState]
      simp only [Option.some_inj, exists_eq_left']
      split_ifs with hlong
      · simp [Nat.not_le_of_lt hlong]
      · rw [and_iff_right (Nat.le_of_not_lt hlong)]
        split
        · next hnone => simp [hnone]
        · next state hstate =>
            rw [hstate, Option.some_inj, LiveProgressState.mk.injEq]
            split_ifs with hother
            · simp only [false_iff, not_and_or]
              exact hother
            · simp only [true_iff]
              exact not_or.mp hother |>.imp not_not.mp not_not.mp

/-- The message that starts a run decides itself that nothing is pending. -/
def StartDecides (start : String) (after : List String) : Prop :=
  saysSuccess start = true ∨ ReportsNothing (start :: after) ∧ ¬HasFailed (start :: after)

instance (start : String) (after : List String) : Decidable (StartDecides start after) := instDecidableOr

theorem isDone_and_not_hasFailed_iff {start : String} {after : List String} (h : ¬IsDone after) :
    IsDone (start :: after) ∧ ¬HasFailed (start :: after) ↔ StartDecides start after := by
  obtain ⟨hsuccess, -⟩ := not_or.mp h
  have hany : (start :: after).any saysSuccess = saysSuccess start := by
    rw [List.any_cons, Bool.eq_false_iff.mpr hsuccess, Bool.or_false]
  rw [IsDone, HasFailed, StartDecides, HasFailed, hany]
  cases saysSuccess start with
  | true => simp
  | false => simp

section Live

variable {json : ProgressJson} {state : Option (List UInt8)} {invocation : String}

theorem live_of_matches (h : StateMatches json state invocation) (log : List UInt8) :
    rcloneMirrorProgressForInvocation json ⟨state, some log⟩ invocation = readLog json.toSerdeJson log := by
  rw [rcloneMirrorProgressForInvocation, checkState_eq_ok_iff.mpr h]

theorem live_eq_zero_iff {log : List UInt8} :
    rcloneMirrorProgressForInvocation json ⟨state, some log⟩ invocation = .ok 0 ↔
      StateMatches json state invocation ∧ readLog json.toSerdeJson log = .ok 0 := by
  by_cases hstate : StateMatches json state invocation
  · rw [live_of_matches hstate, and_iff_right hstate]
  · refine iff_of_false ?_ fun h ↦ hstate h.1
    intro hzero
    rw [rcloneMirrorProgressForInvocation] at hzero
    split at hzero
    · cases hzero
    · next hcheck => exact hstate (checkState_eq_ok_iff.mp hcheck)

/-- On a log that is still written the result is that of its whole records exactly where the
rest is tolerated, and nothing is pending only by what the last run says after its start exactly
where its start does not decide that alone. -/
theorem progress_iff (json : ProgressJson) (hjson : ReadsRecords json.toSerdeJson)
    (state : Option (List UInt8)) (invocation : String) :
    (StateMatches json state invocation → ∀ log bytes whole : List UInt8,
      WholeRecords json.toSerdeJson log → bytes <+: log → LongestWhole json.toSerdeJson bytes whole →
        (rcloneMirrorProgressForInvocation json ⟨state, some bytes⟩ invocation =
            rcloneMirrorProgressForInvocation json ⟨state, some whole⟩ invocation ↔
          Tolerates json.toSerdeJson whole (bytes.drop whole.length))) ∧
    ∀ log : List UInt8,
      (rcloneMirrorProgressForInvocation json ⟨state, some log⟩ invocation = .ok 0 →
        ∃ start after, LastRun (messages json.toSerdeJson log) start after ∧ IsDone after) ↔
      (StateMatches json state invocation → (∀ line ∈ readLines log, IsReadable json.toSerdeJson line) →
        ∀ start after, LastRun (messages json.toSerdeJson log) start after →
          StartDecides start after → IsDone after) := by
  constructor
  · intro hstate log bytes whole hlog hcut h
    rw [live_of_matches hstate, live_of_matches hstate]
    exact readLog_cut hjson hlog hcut h
  · intro log
    rw [live_eq_zero_iff, readLog_eq_zero_iff]
    constructor
    · intro hclaim hstate hreadable start after hrun hdecides
      by_contra hnot
      have hdone := (isDone_and_not_hasFailed_iff hnot).mpr hdecides
      obtain ⟨start', after', hrun', hdone'⟩ := hclaim ⟨hstate, hreadable, start, after, hrun, hdone⟩
      obtain ⟨rfl, rfl⟩ := hrun.unique hrun'
      exact hnot hdone'
    · rintro hcondition ⟨hstate, hreadable, start, after, hrun, hdone⟩
      refine ⟨start, after, hrun, ?_⟩
      by_contra hnot
      exact hnot (hcondition hstate hreadable start after hrun
        ((isDone_and_not_hasFailed_iff hnot).mp hdone))

end Live

/-! ## A run in progress -/

def sampleInvocation : String := "0123456789abcdef0123456789abcdef"

def sampleState : List UInt8 :=
  Utf8.encode "\x7b\"version\":1,\"invocation_id\":\"0123456789abcdef0123456789abcdef\"\x7d".toList

/-- A reader of compact documents, and of the one state file. -/
def compactJson : ProgressJson where
  fromStr := Json.parseDocument
  toString _ := ""
  fromSlice bytes :=
    if bytes = sampleState then
      .ok (.ofFields [("version", .number (.unsigned 1)), ("invocation_id", .string sampleInvocation)])
    else .error "expected value"

theorem readsRecords_compactJson : ReadsRecords compactJson.toSerdeJson where
  trailing _ _ _ hparse hspaces := (Json.parseDocument_append hspaces).trans hparse
  delimited _ _ _ _ hlong hshort := Json.spaces_of_parseDocument hlong hshort

theorem stateMatches_sample : StateMatches compactJson (some sampleState) sampleInvocation :=
  ⟨sampleState, rfl, by decide +kernel, by decide +kernel⟩

/-- One record of a log, with its newline. -/
def recordLine (message : String) : List UInt8 :=
  Utf8.encode (Json.write (Json.object [("msg", .string message)]) ++ ['\n'])

def endedRun : List UInt8 := recordLine "Synching Path1" ++ recordLine "Bisync successful"

/-- A record that is cut inside its last character. -/
def brokenRecord : List UInt8 := (recordLine "é").take 9

/-- A log whose last line breaks off after some bytes. -/
def writtenRun (n : Nat) : List UInt8 := endedRun ++ (recordLine "é").take n

theorem wholeRecords_sample : WholeRecords compactJson.toSerdeJson (endedRun ++ recordLine "é") := by
  decide +kernel

theorem endsLine_sample : EndsLine endedRun := by
  have hlast : endedRun.getLast? = some 10 := by decide +kernel
  intro byte hbyte
  rw [hlast] at hbyte
  exact (Option.some.inj hbyte).symm

theorem writtenRun_begins (n : Nat) : writtenRun n <+: endedRun ++ recordLine "é" :=
  (List.prefix_append_right_inj endedRun).mpr (List.take_prefix n _)

theorem longestWhole_sample :
    LongestWhole compactJson.toSerdeJson (writtenRun 5) endedRun ∧
      LongestWhole compactJson.toSerdeJson (writtenRun 9) endedRun := by
  have hlongest := fun n ↦ @longestWhole_ended _ _ endedRun ((recordLine "é").take n)
    readsRecords_compactJson wholeRecords_sample endsLine_sample
  have hbroken : (10 : UInt8) ∉ (recordLine "é").take 9 ∧ (recordLine "é").take 5 ≠ [] ∧
      (recordLine "é").take 9 ≠ [] ∧ ¬IsWhole compactJson.toSerdeJson ((recordLine "é").take 5) ∧
      ¬IsWhole compactJson.toSerdeJson ((recordLine "é").take 9) := by decide +kernel
  obtain ⟨hopen, hne, hne', hnot, hnot'⟩ := hbroken
  have hopen' : (10 : UInt8) ∉ (recordLine "é").take 5 := fun hmem ↦
    hopen ((List.take_subset_take_left _ (by decide)) hmem)
  exact ⟨hlongest 5 hopen' (writtenRun_begins 5) hne hnot,
    hlongest 9 hopen (writtenRun_begins 9) hne' hnot'⟩

/-- A record that is cut at a character leaves the result as it is. -/
theorem progress_iff_sample :
    rcloneMirrorProgressForInvocation compactJson ⟨some sampleState, some (writtenRun 5)⟩ sampleInvocation =
      rcloneMirrorProgressForInvocation compactJson ⟨some sampleState, some endedRun⟩ sampleInvocation ∧
    ∃ start after, LastRun (messages compactJson.toSerdeJson endedRun) start after ∧ IsDone after := by
  have hsample := progress_iff compactJson readsRecords_compactJson (some sampleState) sampleInvocation
  constructor
  · refine (hsample.1 stateMatches_sample _ _ _ wholeRecords_sample (writtenRun_begins 5)
      longestWhole_sample.1).mpr (.inr (.inl ?_))
    decide +kernel
  · refine (hsample.2 endedRun).mpr ?_ ?_
    · intro _ _ start after hrun _
      have hmessages : messages compactJson.toSerdeJson endedRun = ["Synching Path1", "Bisync successful"] := by
        decide +kernel
      have hlast : LastRun (messages compactJson.toSerdeJson endedRun) "Synching Path1"
          ["Bisync successful"] := ⟨⟨[], hmessages⟩, by decide +kernel, by decide +kernel⟩
      obtain ⟨-, rfl⟩ := hlast.unique hrun
      decide +kernel
    · decide +kernel

def mirroredFolder : String := "Synching Path1 \"/Bisync successful/\""

/-- A record that is cut inside a character hides that the run is done, and the name of a folder
in the message that starts a run makes it look done. -/
theorem cut_character_hides_progress :
    (WholeRecords compactJson.toSerdeJson (endedRun ++ recordLine "é") ∧
      writtenRun 9 <+: endedRun ++ recordLine "é" ∧
      LongestWhole compactJson.toSerdeJson (writtenRun 9) endedRun ∧
      rcloneMirrorProgressForInvocation compactJson ⟨some sampleState, some (writtenRun 9)⟩ sampleInvocation =
        .error unavailable ∧
      rcloneMirrorProgressForInvocation compactJson ⟨some sampleState, some endedRun⟩ sampleInvocation =
        .ok 0) ∧
    rcloneMirrorProgressForInvocation compactJson ⟨some sampleState, some (recordLine mirroredFolder)⟩
      sampleInvocation = .ok 0 ∧
    ¬∃ start after, LastRun (messages compactJson.toSerdeJson (recordLine mirroredFolder)) start after ∧
      IsDone after := by
  refine ⟨⟨wholeRecords_sample, writtenRun_begins 9, longestWhole_sample.2, ?_, ?_⟩, ?_, ?_⟩
  · rw [live_of_matches stateMatches_sample]
    decide +kernel
  · rw [live_of_matches stateMatches_sample]
    decide +kernel
  · rw [live_of_matches stateMatches_sample]
    decide +kernel
  · rintro ⟨start, after, hrun, hdone⟩
    have hmessages : messages compactJson.toSerdeJson (recordLine mirroredFolder) = [mirroredFolder] := by
      decide +kernel
    have hlast : LastRun (messages compactJson.toSerdeJson (recordLine mirroredFolder)) mirroredFolder [] :=
      ⟨⟨[], hmessages⟩, by decide +kernel, fun _ hmem ↦ absurd hmem List.not_mem_nil⟩
    obtain ⟨-, rfl⟩ := hlast.unique hrun
    revert hdone
    decide +kernel

end CosmicMounter.Progress

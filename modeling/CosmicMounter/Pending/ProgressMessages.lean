import CosmicMounter.Pending.Progress

/-!
# The messages of a log

What the progress of a mirror knows, in terms of the messages of its log: of
the last run only, and only while every line can be read.
-/

namespace CosmicMounter.Progress

open Rust Serde

/-! ## The last run -/

/-- The message that starts the last run of a log, and those after it. -/
structure LastRun (messages : List String) (start : String) (after : List String) : Prop where
  split : ∃ before, messages = before ++ start :: after
  starts : startsRun start = true
  quiet : ∀ message ∈ after, startsRun message = false

/-- The changes that the last report about a path gives. -/
def lastReport (label : String) (messages : List String) : Option Nat :=
  (messages.filterMap (report label)).getLast?.join

/-- What the messages of a run, its start included, leave in the progress. -/
structure Shows (run : List String) (progress : MirrorProgress) : Prop where
  started : progress.started = true
  succeeded : progress.succeeded = run.any saysSuccess
  failed : progress.failed = run.any saysFailure
  path1 : progress.path1 = lastReport "Path1:" run
  path2 : progress.path2 = lastReport "Path2:" run

def Describes (messages : List String) (progress : MirrorProgress) : Prop :=
  progress = {} ∧ (∀ message ∈ messages, startsRun message = false) ∨
    ∃ start after, LastRun messages start after ∧ Shows (start :: after) progress

theorem LastRun.unique {messages : List String} {start start' : String} {after after' : List String}
    (h : LastRun messages start after) (h' : LastRun messages start' after') :
    start = start' ∧ after = after' := by
  obtain ⟨before, rfl⟩ := h.split
  obtain ⟨before', hsplit⟩ := h'.split
  rcases List.append_eq_append_iff.mp hsplit with ⟨middle, hbefore, htail⟩ | ⟨middle, hbefore, htail⟩
  · cases middle with
    | nil => simpa using htail
    | cons message middle =>
        have hmem : start' ∈ after := by
          rw [(List.cons.inj htail).2]
          simp
        have hstarts := h'.starts
        rw [h.quiet start' hmem] at hstarts
        cases hstarts
  · cases middle with
    | nil => simpa [eq_comm] using htail
    | cons message middle =>
        have hmem : start ∈ after' := by
          rw [(List.cons.inj htail).2]
          simp
        have hstarts := h.starts
        rw [h'.quiet start hmem] at hstarts
        cases hstarts

/-- What the progress tells of the run that it shows. -/
theorem Describes.iff {messages : List String} {progress : MirrorProgress} {told : Prop}
    {run : List String → Prop} (h : Describes messages progress) (hempty : progress = {} → ¬told)
    (hshows : ∀ shown, Shows shown progress → (told ↔ run shown)) :
    told ↔ ∃ start after, LastRun messages start after ∧ run (start :: after) := by
  rcases h with ⟨hnew, hnone⟩ | ⟨start, after, hrun, hshown⟩
  · constructor
    · intro htold
      exact absurd htold (hempty hnew)
    · rintro ⟨start, after, hrun, -⟩
      obtain ⟨before, rfl⟩ := hrun.split
      have hstarts := hrun.starts
      rw [hnone start (by simp)] at hstarts
      cases hstarts
  · rw [hshows _ hshown]
    constructor
    · intro htold
      exact ⟨start, after, hrun, htold⟩
    · rintro ⟨start', after', hrun', htold⟩
      obtain ⟨rfl, rfl⟩ := hrun.unique hrun'
      exact htold

theorem LastRun.start {messages : List String} {message : String} (h : startsRun message = true) :
    LastRun (messages ++ [message]) message [] :=
  ⟨⟨messages, rfl⟩, h, fun _ hmem ↦ (List.not_mem_nil hmem).elim⟩

theorem LastRun.extend {messages after : List String} {start message : String}
    (h : LastRun messages start after) (hquiet : startsRun message = false) :
    LastRun (messages ++ [message]) start (after ++ [message]) := by
  obtain ⟨before, rfl⟩ := h.split
  refine ⟨⟨before, by simp⟩, h.starts, ?_⟩
  intro other hmem
  rcases List.mem_append.mp hmem with hafter | hlast
  · exact h.quiet other hafter
  · rwa [List.mem_singleton.mp hlast]

theorem lastReport_append (label : String) (run : List String) (message : String) :
    lastReport label (run ++ [message]) = (report label message).getD (lastReport label run) := by
  rw [lastReport, List.filterMap_append, lastReport]
  cases hreport : report label message with
  | none => simp [hreport]
  | some changes => simp [hreport]

theorem Shows.note {run : List String} {progress : MirrorProgress} (h : Shows run progress)
    (message : String) (object : Option String) : Shows (run ++ [message]) (progress.note message object) where
  started := h.started
  succeeded := by
    rw [List.any_append, ← h.succeeded]
    simp [MirrorProgress.note]
  failed := by
    rw [List.any_append, ← h.failed]
    simp [MirrorProgress.note]
  path1 := by
    rw [lastReport_append, ← h.path1]
    rfl
  path2 := by
    rw [lastReport_append, ← h.path2]
    rfl

theorem shows_start : Shows [] { started := true } := ⟨rfl, rfl, rfl, rfl, rfl⟩

/-- A message resets what is known, or adds to it, or comes before every run. -/
theorem Describes.observe {messages : List String} {progress : MirrorProgress}
    (h : Describes messages progress) (message : String) (object : Option String) :
    Describes (messages ++ [message]) (progress.observe message object) := by
  by_cases hstarts : startsRun message = true
  · right
    refine ⟨message, [], LastRun.start hstarts, ?_⟩
    rw [MirrorProgress.observe, if_pos hstarts]
    exact shows_start.note message object
  · have hquiet : startsRun message = false := Bool.eq_false_iff.mpr hstarts
    rw [MirrorProgress.observe, if_neg hstarts]
    rcases h with ⟨rfl, hnone⟩ | ⟨start, after, hrun, hshows⟩
    · left
      refine ⟨rfl, ?_⟩
      intro other hmem
      rcases List.mem_append.mp hmem with hbefore | hlast
      · exact hnone other hbefore
      · rwa [List.mem_singleton.mp hlast]
    · right
      refine ⟨start, after ++ [message], hrun.extend hquiet, ?_⟩
      rw [if_pos hshows.started]
      exact hshows.note message object

/-! ## Whole records -/

/-- The text of a line, the record it holds, and the message of the record. -/
structure Holds (json : SerdeJson) (line : List UInt8) (text : List Char) (record : Value)
    (message : String) : Prop where
  encodes : Utf8.encode text = line
  parses : json.fromStr (.ofList text) = .ok record
  msg : (record.get "msg").bind Value.asStr = some message

def IsWhole (json : SerdeJson) (line : List UInt8) : Prop :=
  ∃ text record message, Holds json line text record message

def WholeRecords (json : SerdeJson) (log : List UInt8) : Prop :=
  ∀ line ∈ readLines log, IsWhole json line

def messageOf (json : SerdeJson) (line : List UInt8) : Option String :=
  (Utf8.strict line).bind fun text ↦
    (json.fromStr (.ofList text)).toOption.bind fun record ↦ (record.get "msg").bind Value.asStr

def messages (json : SerdeJson) (log : List UInt8) : List String :=
  (readLines log).filterMap (messageOf json)

variable {json : SerdeJson}

theorem Holds.messageOf {line : List UInt8} {text : List Char} {record : Value} {message : String}
    (h : Holds json line text record message) : messageOf json line = some message := by
  rw [Progress.messageOf, Utf8.strict_eq_some_iff.mpr h.encodes, Option.bind_some, h.parses]
  exact h.msg

theorem exists_holds {line : List UInt8} {message : String} (h : messageOf json line = some message) :
    ∃ text record, Holds json line text record message := by
  obtain ⟨text, htext, h⟩ := Option.bind_eq_some_iff.mp h
  obtain ⟨record, hrecord, h⟩ := Option.bind_eq_some_iff.mp h
  refine ⟨text, record, Utf8.strict_eq_some_iff.mp htext, ?_, h⟩
  cases hparse : json.fromStr (.ofList text) with
  | error _ =>
      rw [hparse] at hrecord
      cases hrecord
  | ok value =>
      rw [hparse] at hrecord
      rw [Option.some.inj hrecord]

theorem isWhole_iff {line : List UInt8} : IsWhole json line ↔ (messageOf json line).isSome = true := by
  rw [Option.isSome_iff_exists]
  constructor
  · rintro ⟨text, record, message, h⟩
    exact ⟨message, h.messageOf⟩
  · rintro ⟨message, h⟩
    obtain ⟨text, record, h⟩ := exists_holds h
    exact ⟨text, record, message, h⟩

instance (line : List UInt8) : Decidable (IsWhole json line) := decidable_of_iff _ isWhole_iff.symm

instance (log : List UInt8) : Decidable (WholeRecords json log) :=
  inferInstanceAs (Decidable (∀ line ∈ readLines log, IsWhole json line))

/-! ## Lines -/

def EndsLine (bytes : List UInt8) : Prop := ∀ byte ∈ bytes.getLast?, byte = 10

theorem readLines_ne_nil {bytes : List UInt8} (h : bytes ≠ []) : readLines bytes ≠ [] := by
  cases bytes with
  | nil => exact absurd rfl h
  | cons byte rest =>
      rw [readLines]
      split_ifs
      · exact List.cons_ne_nil _ _
      · split <;> exact List.cons_ne_nil _ _

theorem flatten_readLines (bytes : List UInt8) : (readLines bytes).flatten = bytes := by
  induction bytes with
  | nil => rfl
  | cons byte rest ih =>
      rw [readLines]
      split_ifs
      · rw [List.flatten_cons, ih]
        rfl
      · split
        · next hlines =>
            rw [hlines] at ih
            rw [← ih]
            rfl
        · next line lines hlines =>
            rw [hlines] at ih
            rw [← ih]
            rfl

theorem EndsLine.tail {byte : UInt8} {rest : List UInt8} (h : EndsLine (byte :: rest)) : EndsLine rest := by
  intro last hlast
  apply h
  rw [List.getLast?_cons, hlast]
  rfl

theorem readLines_append {bytes : List UInt8} (h : EndsLine bytes) (rest : List UInt8) :
    readLines (bytes ++ rest) = readLines bytes ++ readLines rest := by
  induction bytes with
  | nil => rfl
  | cons byte bytes ih =>
      rw [List.cons_append, readLines, readLines, ih h.tail]
      split_ifs with hbyte
      · rfl
      · cases hlines : readLines bytes with
        | nil =>
            have hnil : bytes = [] := by
              by_contra hne
              exact readLines_ne_nil hne hlines
            subst hnil
            exact absurd (h byte rfl) hbyte
        | cons line lines => rfl

/-- The first line of a text begins with what stands before the first newline. -/
theorem exists_readLines {bytes : List UInt8} (hne : bytes ≠ []) (h : 10 ∉ bytes) (rest : List UInt8) :
    ∃ more lines, readLines (bytes ++ rest) = (bytes ++ more) :: lines ∧ more <+: rest := by
  induction bytes with
  | nil => exact absurd rfl hne
  | cons byte bytes ih =>
      have hbyte : byte ≠ 10 := by
        rintro rfl
        exact h List.mem_cons_self
      rw [List.cons_append, readLines, if_neg hbyte]
      by_cases hnil : bytes = []
      · subst hnil
        cases hrest : readLines rest with
        | nil => exact ⟨[], [], by rw [List.nil_append, hrest]; rfl, List.nil_prefix⟩
        | cons line lines =>
            refine ⟨line, lines, by rw [List.nil_append, hrest]; rfl, ?_⟩
            rw [← flatten_readLines rest, hrest]
            exact List.prefix_append _ _
      · obtain ⟨more, lines, hlines, hmore⟩ := ih hnil (fun hmem ↦ h (List.mem_cons_of_mem byte hmem))
        exact ⟨more, lines, by rw [hlines]; rfl, hmore⟩

theorem readLines_of_notMem {bytes : List UInt8} (hne : bytes ≠ []) (h : 10 ∉ bytes) :
    readLines bytes = [bytes] := by
  induction bytes with
  | nil => exact absurd rfl hne
  | cons byte bytes ih =>
      have hbyte : byte ≠ 10 := by
        rintro rfl
        exact h List.mem_cons_self
      rw [readLines, if_neg hbyte]
      by_cases hnil : bytes = []
      · rw [hnil, readLines]
      · rw [ih hnil fun hmem ↦ h (List.mem_cons_of_mem byte hmem)]

/-- A log is its ended lines and what has been written of another one. -/
theorem exists_endsLine (bytes : List UInt8) :
    ∃ ended tail, bytes = ended ++ tail ∧ EndsLine ended ∧ (10 : UInt8) ∉ tail := by
  induction bytes with
  | nil => exact ⟨[], [], rfl, (by rintro byte ⟨⟩), List.not_mem_nil⟩
  | cons byte bytes ih =>
      obtain ⟨ended, tail, rfl, hended, htail⟩ := ih
      by_cases hstart : ended = [] ∧ byte ≠ 10
      · obtain ⟨rfl, hbyte⟩ := hstart
        refine ⟨[], byte :: tail, rfl, hended, ?_⟩
        rw [List.mem_cons, not_or]
        exact ⟨hbyte.symm, htail⟩
      · refine ⟨byte :: ended, tail, rfl, ?_, htail⟩
        intro last hlast
        cases hlist : ended with
        | nil =>
            rw [hlist] at hlast
            have hbyte : byte = 10 := by
              by_contra hbyte
              exact hstart ⟨hlist, hbyte⟩
            rw [← hbyte]
            exact (Option.some.inj hlast).symm
        | cons first rest =>
            rw [hlist, List.getLast?_cons_cons, ← hlist] at hlast
            exact hended last hlast

theorem getLast?_of_mem_readLines {bytes line : List UInt8} (h : EndsLine bytes)
    (hline : line ∈ readLines bytes) : line.getLast? = some 10 := by
  induction bytes generalizing line with
  | nil => cases hline
  | cons byte bytes ih =>
      rw [readLines] at hline
      split_ifs at hline with hbyte
      · rcases List.mem_cons.mp hline with rfl | hrest
        · rw [hbyte]
          rfl
        · exact ih h.tail hrest
      · cases hlines : readLines bytes with
        | nil =>
            have hnil : bytes = [] := by
              by_contra hne
              exact readLines_ne_nil hne hlines
            subst hnil
            exact absurd (h byte rfl) hbyte
        | cons first lines =>
            rw [hlines] at hline ih
            rcases List.mem_cons.mp hline with rfl | hrest
            · rw [List.getLast?_cons, ih h.tail List.mem_cons_self]
              rfl
            · exact ih h.tail (List.mem_cons_of_mem first hrest)

/-! ## What is read of a line -/

/-- A line that is not refused: it is short, and holds a record or breaks off. -/
def IsReadable (json : SerdeJson) (line : List UInt8) : Prop :=
  line.length ≤ 1024 * 1024 ∧ ∃ text, Utf8.encode text = line ∧
    ((messageOf json line).isSome = true ∨
      (json.fromStr (.ofList text)).toOption = none ∧ line.getLast? ≠ some 10)

theorem getLast?_encode {text : List Char} :
    text.getLast? = some '\n' ↔ (Utf8.encode text).getLast? = some 10 := by
  rcases List.eq_nil_or_concat text with rfl | ⟨init, c, rfl⟩
  · simp [Utf8.encode]
  · obtain ⟨first, tail, hc⟩ := Utf8.exists_isEncoding c
    have hencode : Utf8.encode (init.concat c) = Utf8.encode init ++ (first :: tail) := by
      rw [List.concat_eq_append, Utf8.encode_append, Utf8.encode_cons, hc.encode]
      simp [Utf8.encode]
    rw [hencode, List.concat_eq_append, List.getLast?_append, List.getLast?_append,
      List.getLast?_singleton, Option.some_or, Option.some_inj]
    have hdecode := hc.decode
    constructor
    · rintro rfl
      have hnewline := hc.encode
      rw [show String.utf8EncodeChar '\n' = [10] from rfl] at hnewline
      rw [← hnewline]
      rfl
    · intro hlast
      rcases List.eq_nil_or_concat tail with rfl | ⟨before, byte, rfl⟩
      · rw [List.getLast?_singleton, Option.some_or, Option.some_inj] at hlast
        rw [hlast] at hdecode
        rw [← hdecode]
        rfl
      · rw [List.concat_eq_append, ← List.cons_append, List.getLast?_append, List.getLast?_singleton,
          Option.some_or, Option.some_or, Option.some_inj] at hlast
        have hcontinuation := hc.continuation byte (by simp)
        rw [hlast] at hcontinuation
        cases hcontinuation

theorem messageOf_of_encode (json : SerdeJson) {line : List UInt8} {text : List Char} (h : Utf8.encode text = line) :
    messageOf json line =
      (json.fromStr (.ofList text)).toOption.bind fun record ↦ (record.get "msg").bind Value.asStr := by
  rw [messageOf, Utf8.strict_eq_some_iff.mpr h, Option.bind_some]

theorem isReadable_iff {line : List UInt8} {text : List Char} (h : Utf8.encode text = line) :
    IsReadable json line ↔ line.length ≤ 1024 * 1024 ∧ ((messageOf json line).isSome = true ∨
      (json.fromStr (.ofList text)).toOption = none ∧ line.getLast? ≠ some 10) := by
  rw [IsReadable]
  constructor
  · rintro ⟨hshort, text', htext, hread⟩
    have hsame : text' = text := by
      rw [← Utf8.decode_encode text', htext, ← h, Utf8.decode_encode]
    rw [hsame] at hread
    exact ⟨hshort, hread⟩
  · rintro ⟨hshort, hread⟩
    exact ⟨hshort, text, h, hread⟩

/-- A record was read, or reading stops at the end of the log, or the line is refused. -/
theorem readLine_cases (json : SerdeJson) (line : List UInt8) :
    (∃ message object, readLine json line = .record message object ∧
      messageOf json line = some message ∧ IsReadable json line) ∨
    (readLine json line = .incomplete ∧ messageOf json line = none ∧ IsReadable json line ∧
      line.getLast? ≠ some 10) ∨
    (∃ message, readLine json line = .refused message ∧ ¬IsReadable json line) := by
  rw [readLine]
  cases hstrict : Utf8.strict line with
  | none =>
      right; right
      refine ⟨unavailable, rfl, ?_⟩
      rintro ⟨-, text, htext, -⟩
      rw [Utf8.strict_eq_some_iff.mpr htext] at hstrict
      cases hstrict
  | some text =>
      have hencode := Utf8.strict_eq_some_iff.mp hstrict
      have hmessageOf := messageOf_of_encode json hencode
      rw [isReadable_iff hencode]
      dsimp only
      by_cases hlong : 1024 * 1024 < line.length
      · right; right
        rw [if_pos hlong]
        exact ⟨responseIncomplete, rfl, fun h ↦ absurd h.1 (Nat.not_le_of_lt hlong)⟩
      rw [if_neg hlong]
      have hshort := Nat.le_of_not_lt hlong
      cases hparse : json.fromStr (.ofList text) with
      | error _ =>
          rw [hparse] at hmessageOf
          by_cases hended : text.getLast? = some '\n'
          · right; right
            have hlast := getLast?_encode.mp hended
            rw [hencode] at hlast
            refine ⟨unreadable, by rw [if_pos hended], ?_⟩
            rw [hmessageOf, hlast]
            simp [Except.toOption]
          · right; left
            have hopen : line.getLast? ≠ some 10 := by
              rw [← hencode]
              exact fun hlast ↦ hended (getLast?_encode.mpr hlast)
            exact ⟨by rw [if_neg hended], hmessageOf, ⟨hshort, .inr ⟨rfl, hopen⟩⟩, hopen⟩
      | ok record =>
          rw [hparse] at hmessageOf
          change messageOf json line = (record.get "msg").bind Value.asStr at hmessageOf
          dsimp only
          rw [← hmessageOf]
          cases hmessage : messageOf json line with
          | none =>
              right; right
              refine ⟨unreadable, rfl, ?_⟩
              simp [Except.toOption]
          | some message =>
              left
              exact ⟨message, _, rfl, rfl, hshort, .inl rfl⟩

/-! ## A whole log -/

/-- Ended lines are all read, or one of them is refused whatever follows. -/
theorem observeLines_ended (json : SerdeJson) {lines : List (List UInt8)} (hended : ∀ line ∈ lines, line.getLast? = some 10)
    {before : List String} {progress : MirrorProgress} (h : Describes before progress) :
    (∃ progress', (∀ line ∈ lines, IsReadable json line) ∧
      Describes (before ++ lines.filterMap (messageOf json)) progress' ∧
      ∀ more, observeLines json progress (lines ++ more) = observeLines json progress' more) ∨
    ((¬∀ line ∈ lines, IsReadable json line) ∧
      ∃ message, ∀ more, observeLines json progress (lines ++ more) = .error message) := by
  induction lines generalizing before progress with
  | nil =>
      left
      exact ⟨progress, fun _ hline ↦ absurd hline List.not_mem_nil, by simpa using h, fun _ ↦ rfl⟩
  | cons line lines ih =>
      have hrest := fun other hmem ↦ hended other (List.mem_cons_of_mem line hmem)
      simp only [List.cons_append, observeLines, List.forall_mem_cons]
      rcases readLine_cases json line with ⟨message, object, hread, hmessage, hreadable⟩ |
        ⟨-, -, -, hopen⟩ | ⟨message, hread, hrefused⟩
      · rw [hread, List.filterMap_cons_some hmessage]
        have hnext := ih hrest (h.observe message object)
        rw [List.append_assoc, List.singleton_append] at hnext
        rcases hnext with ⟨progress', hall, hnext⟩ | ⟨hsome, hnext⟩
        · exact .inl ⟨progress', ⟨hreadable, hall⟩, hnext⟩
        · exact .inr ⟨fun hall ↦ hsome hall.2, hnext⟩
      · exact absurd (hended line List.mem_cons_self) hopen
      · right
        exact ⟨fun hall ↦ hrefused hall.1, message, fun _ ↦ by rw [hread]⟩

theorem describes_nil : Describes [] {} := .inl ⟨rfl, fun _ hmem ↦ absurd hmem List.not_mem_nil⟩

theorem messages_append {ended : List UInt8} (hended : EndsLine ended) (rest : List UInt8) :
    messages json (ended ++ rest) = messages json ended ++ messages json rest := by
  rw [messages, readLines_append hended, List.filterMap_append, messages, messages]

/-- The messages of a log are all taken in, unless a line is refused. -/
theorem observe_log (json : SerdeJson) (log : List UInt8) :
    (∃ progress, (∀ line ∈ readLines log, IsReadable json line) ∧
      observeLines json {} (readLines log) = .ok progress ∧ Describes (messages json log) progress) ∨
    ((¬∀ line ∈ readLines log, IsReadable json line) ∧
      ∃ message, observeLines json {} (readLines log) = .error message) := by
  obtain ⟨ended, tail, rfl, hended, htail⟩ := exists_endsLine log
  have hlines : ∀ line ∈ readLines ended, line.getLast? = some 10 :=
    fun _ hline ↦ getLast?_of_mem_readLines hended hline
  rw [readLines_append hended, messages_append hended]
  simp only [List.forall_mem_append]
  rcases observeLines_ended json hlines describes_nil with
    ⟨progress, hall, hdescribes, hobserve⟩ | ⟨hsome, message, hobserve⟩
  · rw [hobserve]
    by_cases hnil : tail = []
    · left
      subst hnil
      refine ⟨progress, ⟨hall, fun _ hline ↦ absurd hline List.not_mem_nil⟩, rfl, ?_⟩
      simpa [messages, readLines] using hdescribes
    · have hmessages : messages json tail = [tail].filterMap (messageOf json) := by
        rw [messages, readLines_of_notMem hnil htail]
      rw [hmessages, readLines_of_notMem hnil htail, List.forall_mem_singleton]
      rcases readLine_cases json tail with ⟨message, object, hread, hmessage, hreadable⟩ |
        ⟨hread, hnone, hreadable, -⟩ | ⟨message, hread, hrefused⟩
      · left
        refine ⟨progress.observe message object, ⟨hall, hreadable⟩, by rw [observeLines, hread]; rfl, ?_⟩
        rw [List.filterMap_cons_some hmessage]
        exact hdescribes.observe message object
      · left
        refine ⟨progress, ⟨hall, hreadable⟩, by rw [observeLines, hread], ?_⟩
        rw [List.filterMap_cons_none hnone, List.filterMap_nil, List.append_nil]
        exact hdescribes
      · right
        exact ⟨fun h ↦ hrefused h.2, message, by rw [observeLines, hread]⟩
  · right
    exact ⟨fun h ↦ hsome h.1, message, hobserve _⟩

end CosmicMounter.Progress

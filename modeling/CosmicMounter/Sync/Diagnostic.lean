import CosmicMounter.Host.Request
import CosmicMounter.Process.Redaction
import CosmicMounter.Text.Contexts

/-!
# Diagnostics of mirror commands

What `mirror_command_diagnostic` (`bisync_coordinator.rs`) shows of the standard
error of a failed command: quoted passages and words that look like a path are
hidden, and the last lines are kept.
-/

namespace CosmicMounter.Diagnostic

open Rust

/-! ## The diagnostic -/

def quotes : List Char := ['\'', '"', '\x60']

def redacted : String := "[REDACTED]"

/-- A quoted passage becomes one mark, at the quote that opens it. -/
def hideQuoted : Option Char → List Char → List Char
  | _, [] => []
  | some quote, c :: rest => hideQuoted (if c = quote then none else some quote) rest
  | none, c :: rest =>
      if c ∈ quotes then redacted.toList ++ hideQuoted (some c) rest
      else if !Str.isControl c || c == '\n' then c :: hideQuoted none rest
      else hideQuoted none rest

def isSeparator (c : Char) : Bool := c == '/' || c == '\\' || c == ':'

def hideWord (word : String) : String := if word.toList.any isSeparator then redacted else word

def hideLine (line : String) : String := Str.join " " ((Str.splitWhitespace line).map hideWord)

/-- The last eight lines, and of them the first 1600 characters. -/
def lastLines (text : String) : String :=
  let lines := ((Str.lines text).reverse.take 8).map hideLine
  .ofList ((Str.join "\n" lines.reverse).toList.take 1600)

def mirrorCommandDiagnostic (json : SerdeJson) (output : CapturedOutput) : String :=
  if output.invalidUtf8 then ""
  else lastLines (.ofList (hideQuoted none (redactText json output.text).toList))

def commandFailure (fl : Message → String) (json : SerdeJson) (stage : String) : CommandError → String
  | .missingExecutable =>
      fl ⟨"ui-bisync-coordinator-stage-failed-because-rclone-is-missing", [("stage", stage)]⟩
  | .invalidArgument =>
      fl ⟨"ui-bisync-coordinator-stage-rejected-an-unsafe-argument", [("stage", stage)]⟩
  | .timeout _ timeout =>
      fl ⟨"ui-bisync-coordinator-stage-timed-out-after-value2-seconds",
        [("stage", stage), ("value2", toString (timeout / 1000000000))]⟩
  | .cancelled _ => fl ⟨"ui-bisync-coordinator-stage-was-cancelled", [("stage", stage)]⟩
  | .spawn .. => fl ⟨"ui-bisync-coordinator-stage-could-not-start-rclone", [("stage", stage)]⟩
  | .nonZero _ code _ stderr =>
      let summary := match code with
        | some code => fl ⟨"ui-bisync-coordinator-stage-failed-with-exit-status-code",
            [("stage", stage), ("code", toString code)]⟩
        | none => fl ⟨"ui-bisync-coordinator-stage-failed", [("stage", stage)]⟩
      let diagnostic := mirrorCommandDiagnostic json stderr
      if diagnostic = "" then summary
      else fl ⟨"mirror-command-diagnostic", [("summary", summary), ("diagnostic", diagnostic)]⟩

/-! ## Quotes -/

/-- The quote that is open behind a passage. -/
def openQuote : Option Char → List Char → Option Char
  | state, [] => state
  | some quote, c :: rest => openQuote (if c = quote then none else some quote) rest
  | none, c :: rest => openQuote (if c ∈ quotes then some c else none) rest

theorem hideQuoted_append (state : Option Char) (passage rest : List Char) :
    hideQuoted state (passage ++ rest) =
      hideQuoted state passage ++ hideQuoted (openQuote state passage) rest := by
  induction passage generalizing state with
  | nil => cases state <;> rfl
  | cons c passage ih =>
      cases state with
      | some quote => exact ih _
      | none =>
          rw [List.cons_append, hideQuoted, hideQuoted, openQuote]
          split
          · rw [ih, List.append_assoc]
          · split
            · rw [ih, List.cons_append]
            · exact ih none

theorem hideQuoted_of_open {quote : Char} {passage : List Char} (h : quote ∉ passage) (rest : List Char) :
    hideQuoted (some quote) (passage ++ rest) = hideQuoted (some quote) rest := by
  induction passage with
  | nil => rfl
  | cons c passage ih =>
      have hne : c ≠ quote := by
        rintro rfl
        exact h List.mem_cons_self
      rw [List.cons_append, hideQuoted, if_neg hne]
      exact ih fun hmem ↦ h (List.mem_cons_of_mem _ hmem)

theorem hideQuoted_of_plain {passage : List Char}
    (h : ∀ c ∈ passage, c ∉ quotes ∧ Str.isControl c = false) (rest : List Char) :
    hideQuoted none (passage ++ rest) = passage ++ hideQuoted none rest := by
  induction passage with
  | nil => rfl
  | cons c passage ih =>
      obtain ⟨hquote, hcontrol⟩ := h c List.mem_cons_self
      rw [List.cons_append, hideQuoted, if_neg hquote, hcontrol, if_pos (by simp),
        ih fun d hd ↦ h d (List.mem_cons_of_mem _ hd), List.cons_append]

/-! ## Lines -/

section Lines

variable {line passage passage' : List Char} {others : List (List Char)}

/-- A passage inside a line. -/
structure IsInLine (passage : List Char) : Prop where
  ne_nil : passage ≠ []
  newline : '\n' ∉ passage
  last : passage.getLast? ≠ some '\r'

theorem splitOn_cons_of_ne {c : Char} (hc : c ≠ '\n') (rest : List Char) :
    (c :: rest).splitOn '\n' = (rest.splitOn '\n').modifyHead (c :: ·) := by
  rw [List.splitOn_cons_eq_if_modifyHead, if_neg (by simpa using hc)]

/-- The lines before a place do not depend on what follows it. -/
theorem exists_splitOn_append (before : List Char) : ∃ full start, ∀ rest,
    (before ++ rest).splitOn '\n' = full ++ (rest.splitOn '\n').modifyHead (start ++ ·) := by
  induction before with
  | nil =>
      refine ⟨[], [], fun rest ↦ ?_⟩
      cases hrest : rest.splitOn '\n' <;> simp [hrest]
  | cons c before ih =>
      obtain ⟨full, start, hbefore⟩ := ih
      by_cases hc : c = '\n'
      · refine ⟨[] :: full, start, fun rest ↦ ?_⟩
        rw [List.cons_append, List.splitOn_cons_eq_if_modifyHead, if_pos (by simpa using hc), hbefore,
          List.cons_append]
      · cases full with
        | nil =>
            refine ⟨[], c :: start, fun rest ↦ ?_⟩
            rw [List.cons_append, splitOn_cons_of_ne hc, hbefore, List.nil_append, List.nil_append]
            cases rest.splitOn '\n' <;> rfl
        | cons first full =>
            refine ⟨(c :: first) :: full, start, fun rest ↦ ?_⟩
            rw [List.cons_append, splitOn_cons_of_ne hc, hbefore]
            rfl

theorem splitOn_append_of_notMem (h : '\n' ∉ passage) (rest : List Char) :
    (passage ++ rest).splitOn '\n' = (rest.splitOn '\n').modifyHead (passage ++ ·) := by
  induction passage with
  | nil => cases hrest : rest.splitOn '\n' <;> simp [hrest]
  | cons c passage ih =>
      have hc : c ≠ '\n' := by
        rintro rfl
        exact h List.mem_cons_self
      rw [List.cons_append, splitOn_cons_of_ne hc, ih fun hmem ↦ h (List.mem_cons_of_mem _ hmem)]
      cases rest.splitOn '\n' <;> rfl

theorem terminated_append_cons (full : List (List Char)) (hne : line ≠ []) :
    Str.terminated (full ++ line :: others) = full.map Str.stripReturn ++
      (if others = [] then line else Str.stripReturn line) :: Str.terminated others := by
  induction full with
  | nil =>
      cases others with
      | nil => simp [Str.terminated, hne]
      | cons next others => rfl
  | cons first full ih =>
      cases hfull : full ++ line :: others with
      | nil => simp at hfull
      | cons next rest =>
          rw [List.cons_append, hfull, Str.terminated, ← hfull, ih, List.map_cons, List.cons_append]
          exact List.cons_ne_nil next rest

theorem stripReturn_append (h : IsInLine passage) (start rest : List Char) :
    Str.stripReturn (start ++ passage ++ rest) = start ++ passage ++ Str.stripReturn rest := by
  by_cases hrest : rest = []
  · subst hrest
    have hlast : (start ++ passage).getLast? ≠ some '\r' := by
      rw [List.getLast?_append_of_ne_nil _ h.ne_nil]
      exact h.last
    rw [List.append_nil, Str.stripReturn, if_neg hlast]
    exact (List.append_nil _).symm
  · rw [Str.stripReturn, Str.stripReturn, List.getLast?_append_of_ne_nil _ hrest]
    split
    · rw [List.dropLast_append_of_ne_nil hrest]
    · rfl

/-- Passages that look alike in every line look alike in every text. -/
theorem map_lines_eq {β : Type} {f : String → β} (h : IsInLine passage) (h' : IsInLine passage')
    (hf : ∀ start rest, f (.ofList (start ++ passage ++ rest)) = f (.ofList (start ++ passage' ++ rest)))
    (before after : List Char) :
    (Str.lines (.ofList (before ++ (passage ++ after)))).map f =
      (Str.lines (.ofList (before ++ (passage' ++ after)))).map f := by
  obtain ⟨full, start, hbefore⟩ := exists_splitOn_append before
  obtain ⟨rest, others, hafter⟩ := List.exists_cons_of_ne_nil (List.splitOn_ne_nil '\n' after)
  have hsplit {text : List Char} (htext : IsInLine text) :
      (before ++ (text ++ after)).splitOn '\n' = full ++ (start ++ text ++ rest) :: others := by
    rw [hbefore, splitOn_append_of_notMem htext.newline, hafter, List.append_assoc]
    rfl
  have hlines {text : List Char} (htext : IsInLine text) :
      (Str.lines (.ofList (before ++ (text ++ after)))).map f =
        (full.map Str.stripReturn).map (f ∘ .ofList) ++
          f (.ofList (start ++ text ++ if others = [] then rest else Str.stripReturn rest)) ::
            (Str.terminated others).map (f ∘ .ofList) := by
    have hne : start ++ text ++ rest ≠ [] := by simp [htext.ne_nil]
    rw [Str.lines, String.toList_ofList, hsplit htext, terminated_append_cons full hne, List.map_map,
      List.map_append, List.map_cons, stripReturn_append htext]
    split <;> rfl
  rw [hlines h, hlines h', hf]

end Lines

/-! ## Words -/

theorem map_hideWord (line : List Char) :
    (Str.splitWhitespace (.ofList line)).map hideWord =
      ((Text.words Str.isWhitespace line).map (Text.mask isSeparator redacted.toList)).map .ofList := by
  have hword (word : List Char) :
      hideWord (.ofList word) = .ofList (Text.mask isSeparator redacted.toList word) := by
    rw [hideWord, Text.mask, String.toList_ofList]
    split <;> simp
  have hblank : ((fun run ↦ !Str.isBlank run) ∘ String.ofList : List Char → Bool) =
      fun run ↦ !run.all Str.isWhitespace := by
    funext run
    simp [Str.isBlank]
  rw [Str.splitWhitespace, Str.textRuns, String.toList_ofList, List.filter_map, hblank, List.map_map,
    List.map_map, Text.words]
  exact List.map_congr_left fun word _ ↦ hword word

/-- A passage outside quotes that is kept as a part of one line. -/
structure IsKept (passage : List Char) : Prop where
  plain : ∀ c ∈ passage, c ∉ quotes ∧ Str.isControl c = false
  passage : Text.IsPassage Str.isWhitespace passage

theorem IsKept.isInLine {passage : List Char} (h : IsKept passage) : IsInLine passage where
  ne_nil := h.passage.ne_nil
  newline := by
    intro hmem
    exact absurd (h.plain _ hmem).2 (by decide)
  last := by
    intro hlast
    exact absurd (h.plain _ (List.mem_of_getLast? hlast)).2 (by decide)

/-- Word by word, the passages are hidden or the same. -/
def HaveAlikeWords (passage passage' : List Char) : Prop :=
  List.Forall₂ (Text.Alike isSeparator) (Text.words Str.isWhitespace passage)
    (Text.words Str.isWhitespace passage')

theorem hideLine_eq {passage passage' : List Char} (h : IsKept passage) (h' : IsKept passage')
    (hwords : HaveAlikeWords passage passage') (start rest : List Char) :
    hideLine (.ofList (start ++ passage ++ rest)) = hideLine (.ofList (start ++ passage' ++ rest)) := by
  rw [hideLine, hideLine, map_hideWord, map_hideWord, h.passage.map_mask_words h'.passage hwords]

/-! ## Paths that leave no trace -/

/-- The two passages are hidden alike where this quote is open. -/
def AreHiddenAlike (state : Option Char) (passage passage' : List Char) : Prop :=
  passage = passage' ∨
  (∃ quote, state = some quote ∧ quote ∉ passage ∧ quote ∉ passage') ∨
  state = none ∧ IsKept passage ∧ IsKept passage' ∧ HaveAlikeWords passage passage'

theorem lastLines_eq {before after passage passage' : List Char}
    (h : AreHiddenAlike (openQuote none before) passage passage') :
    lastLines (.ofList (hideQuoted none (before ++ (passage ++ after)))) =
      lastLines (.ofList (hideQuoted none (before ++ (passage' ++ after)))) := by
  rw [hideQuoted_append none before, hideQuoted_append none before]
  rcases h with rfl | ⟨quote, hstate, hmem, hmem'⟩ | ⟨hstate, hpath, hpath', hwords⟩
  · rfl
  · rw [hstate, hideQuoted_of_open hmem, hideQuoted_of_open hmem']
  · rw [hstate, hideQuoted_of_plain hpath.plain, hideQuoted_of_plain hpath'.plain]
    have hlines := map_lines_eq hpath.isInLine hpath'.isInLine (hideLine_eq hpath hpath' hwords)
      (hideQuoted none before) (hideQuoted none after)
    simp only [lastLines, List.map_take, List.map_reverse, hlines]

/-- Redaction treats alike what is around two passages, and what it leaves of them is hidden alike. -/
def LeaveNoTrace (json : SerdeJson) (text text' : String) : Prop :=
  ∃ before passage passage' after,
    (redactText json text).toList = before ++ (passage ++ after) ∧
    (redactText json text').toList = before ++ (passage' ++ after) ∧
    AreHiddenAlike (openQuote none before) passage passage'

/-! ## Bounds -/

theorem notMem_join {c : Char} {sep : String} {parts : List String} (hsep : c ∉ sep.toList)
    (hparts : ∀ part ∈ parts, c ∉ part.toList) : c ∉ (Str.join sep parts).toList := by
  rw [Str.join, String.toList_ofList]
  induction parts with
  | nil => exact List.not_mem_nil
  | cons part parts ih =>
      have hpart := hparts part List.mem_cons_self
      have hrest := ih fun other hother ↦ hparts other (List.mem_cons_of_mem _ hother)
      cases parts with
      | nil => simpa using hpart
      | cons next parts =>
          rw [List.map_cons, List.map_cons, List.intercalate_cons_cons, List.mem_append, List.mem_append]
          rintro ((hmem | hmem) | hmem)
          · exact hpart hmem
          · exact hsep hmem
          · exact hrest hmem

theorem count_join_newline {parts : List String} (h : ∀ part ∈ parts, '\n' ∉ part.toList) :
    (Str.join "\n" parts).toList.count '\n' = parts.length - 1 := by
  rw [Str.join, String.toList_ofList]
  induction parts with
  | nil => rfl
  | cons part parts ih =>
      have hpart := List.count_eq_zero_of_not_mem (h part List.mem_cons_self)
      have hrest := ih fun other hother ↦ h other (List.mem_cons_of_mem _ hother)
      cases parts with
      | nil => simpa using hpart
      | cons next parts =>
          have hnewline : ("\n" : String).toList.count '\n' = 1 := by decide
          rw [List.map_cons, List.map_cons, List.intercalate_cons_cons, List.count_append,
            List.count_append, hpart, hnewline, ← List.map_cons, hrest, List.length_cons, List.length_cons,
            List.length_cons]
          omega

theorem notMem_newline_hideLine (line : String) : '\n' ∉ (hideLine line).toList := by
  apply notMem_join (by decide)
  intro part hpart
  obtain ⟨word, hword, rfl⟩ := List.mem_map.mp hpart
  rw [hideWord]
  split
  · decide
  · intro hmem
    have hblank := (Str.isToken_of_mem_splitWhitespace hword).noSpace '\n' hmem
    exact absurd hblank (by decide)

theorem length_splitOn_newline (text : List Char) :
    (text.splitOn '\n').length = text.count '\n' + 1 := by
  induction text with
  | nil => rfl
  | cons c text ih =>
      rw [List.splitOn_cons_eq_if_modifyHead, List.count_cons]
      split
      · rw [List.length_cons, ih]
      · rw [List.length_modifyHead, ih, Nat.add_zero]

theorem length_terminated_le (lines : List (List Char)) : (Str.terminated lines).length ≤ lines.length := by
  induction lines with
  | nil => exact le_rfl
  | cons line lines ih =>
      cases lines with
      | nil =>
          rw [Str.terminated]
          split <;> simp
      | cons next lines =>
          rw [Str.terminated, List.length_cons, List.length_cons]
          · omega
          · exact List.cons_ne_nil next lines

theorem length_lines_le (text : String) : (Str.lines text).length ≤ text.toList.count '\n' + 1 := by
  rw [Str.lines, List.length_map, ← length_splitOn_newline]
  exact length_terminated_le _

theorem lastLines_bounded (text : String) :
    (lastLines text).toList.length ≤ 1600 ∧ (Str.lines (lastLines text)).length ≤ 8 := by
  rw [lastLines, String.toList_ofList]
  constructor
  · exact List.length_take_le _ _
  · have hlines : ∀ line ∈ (((Str.lines text).reverse.take 8).map hideLine).reverse,
        '\n' ∉ line.toList := by
      intro line hline
      obtain ⟨shown, -, rfl⟩ := List.mem_map.mp (List.mem_reverse.mp hline)
      exact notMem_newline_hideLine shown
    have hlength : (((Str.lines text).reverse.take 8).map hideLine).reverse.length ≤ 8 := by
      rw [List.length_reverse, List.length_map]
      exact List.length_take_le _ _
    have hcount := (List.take_sublist 1600 (Str.join "\n"
      (((Str.lines text).reverse.take 8).map hideLine).reverse).toList).count_le '\n'
    have hle := length_lines_le (.ofList ((Str.join "\n"
      (((Str.lines text).reverse.take 8).map hideLine).reverse).toList.take 1600))
    rw [String.toList_ofList] at hle
    rw [count_join_newline hlines] at hcount
    omega

theorem mirrorCommandDiagnostic_bounded (json : SerdeJson) (output : CapturedOutput) :
    (mirrorCommandDiagnostic json output).toList.length ≤ 1600 ∧
      (Str.lines (mirrorCommandDiagnostic json output)).length ≤ 8 := by
  unfold mirrorCommandDiagnostic
  split
  · decide
  · exact lastLines_bounded _

/-! ## Texts with another path -/

theorem leaveNoTrace_of_redacted {json : SerdeJson} {before path path' after : String}
    (h : redactText json (before ++ path ++ after) = before ++ path ++ after)
    (h' : redactText json (before ++ path' ++ after) = before ++ path' ++ after)
    (hpaths : AreHiddenAlike (openQuote none before.toList) path.toList path'.toList) :
    LeaveNoTrace json (before ++ path ++ after) (before ++ path' ++ after) := by
  refine ⟨before.toList, path.toList, path'.toList, after.toList, ?_, ?_, hpaths⟩
  · rw [h, String.toList_append, String.toList_append, List.append_assoc]
  · rw [h', String.toList_append, String.toList_append, List.append_assoc]

theorem mirrorCommandDiagnostic_eq {json : SerdeJson} {text text' : String} (h : LeaveNoTrace json text text')
    (truncated invalidUtf8 : Bool) :
    mirrorCommandDiagnostic json ⟨text, truncated, invalidUtf8⟩ =
      mirrorCommandDiagnostic json ⟨text', truncated, invalidUtf8⟩ := by
  obtain ⟨before, passage, passage', after, hread, hread', hpaths⟩ := h
  unfold mirrorCommandDiagnostic
  rw [hread, hread', lastLines_eq hpaths]

def sampleJson : SerdeJson := ⟨fun _ ↦ .error "expected value", fun _ ↦ ""⟩

end CosmicMounter.Diagnostic

import CosmicMounter.Process.Redaction
import CosmicMounter.Sync.Preview
import CosmicMounter.Text.Infix

/-!
# The phrases of a preview line

The parser recognizes the lines of a dry run by phrases that may stand
anywhere in them: in the fixed text, and in the file name too.
-/

namespace CosmicMounter

open Rust Text

/-! ## Lines by their phrases -/

section Lines

variable {scan : PreviewScan} {line : String}

theorem addLine_repeats (h : repeatsAction (Str.toAsciiLowercase line) = true) : addLine scan line = scan := by
  simp only [addLine, h, if_true]

theorem addLine_queueDelete (hrepeats : repeatsAction (Str.toAsciiLowercase line) = false)
    (h : Str.contains "queue delete" (Str.toAsciiLowercase line) = true) :
    addLine scan line =
      { scan with summary := scan.summary.addDelete, queuedDeletes := scan.queuedDeletes + 1 } := by
  simp only [addLine, hrepeats, h, if_true, Bool.false_eq_true, if_false]

theorem addLine_skippedDelete (hrepeats : repeatsAction (Str.toAsciiLowercase line) = false)
    (hdelete : Str.contains "queue delete" (Str.toAsciiLowercase line) = false)
    (h : Str.contains "skipped delete as --dry-run is set" (Str.toAsciiLowercase line) = true) :
    addLine scan line = addConfirmedDelete scan := by
  simp only [addLine, hrepeats, hdelete, h, if_true, Bool.false_eq_true, if_false]

/-- A line of the queue of copies, or of a confirmed copy. -/
structure IsCopyLine (line : String) : Prop where
  repeats : repeatsAction (Str.toAsciiLowercase line) = false
  queueDelete : Str.contains "queue delete" (Str.toAsciiLowercase line) = false
  skippedDelete : Str.contains "skipped delete as --dry-run is set" (Str.toAsciiLowercase line) = false

theorem IsCopyLine.addLine_path1 (hline : IsCopyLine line)
    (hqueue : Str.contains "queue copy to" (Str.toAsciiLowercase line) = true)
    (h : Str.contains "path1" (Str.toAsciiLowercase line) = true) :
    addLine scan line =
      { scan with summary := scan.summary.addUpload, queuedCopies := scan.queuedCopies + 1 } := by
  simp only [addLine, hline.repeats, hline.queueDelete, hline.skippedDelete, hqueue, h, Bool.and_self,
    if_true, Bool.false_eq_true, if_false]

theorem IsCopyLine.addLine_path2 (hline : IsCopyLine line)
    (hqueue : Str.contains "queue copy to" (Str.toAsciiLowercase line) = true)
    (hpath1 : Str.contains "path1" (Str.toAsciiLowercase line) = false)
    (h : Str.contains "path2" (Str.toAsciiLowercase line) = true) :
    addLine scan line =
      { scan with summary := scan.summary.addDownload, queuedCopies := scan.queuedCopies + 1 } := by
  simp only [addLine, hline.repeats, hline.queueDelete, hline.skippedDelete, hqueue, hpath1, h,
    Bool.and_self, Bool.and_false, if_true, Bool.false_eq_true, if_false]

/-- A confirmed copy that is not read as queued changes at most the counter and the direction. -/
theorem IsCopyLine.addLine_skippedCopy (hline : IsCopyLine line)
    (hpath1 : Str.contains "path1" (Str.toAsciiLowercase line) = false)
    (hpath2 : (Str.contains "queue copy to" (Str.toAsciiLowercase line) &&
      Str.contains "path2" (Str.toAsciiLowercase line)) = false)
    (h : Str.contains "skipped copy as --dry-run is set" (Str.toAsciiLowercase line) = true)
    (hqueued : 0 < scan.queuedCopies) :
    ∃ direction copies, scan.queuedCopies ≤ copies + 1 ∧
      addLine scan line = { scan with rcloneCopyDirection := direction, queuedCopies := copies } := by
  simp only [addLine, hline.repeats, hline.queueDelete, hline.skippedDelete, hpath1, hpath2, h,
    Bool.and_false, if_true, Bool.false_eq_true, if_false]
  split
  · next direction _ => exact ⟨some direction, scan.queuedCopies, Nat.le_succ _, rfl⟩
  · rw [addConfirmedCopy, if_pos hqueued]
    exact ⟨scan.rcloneCopyDirection, scan.queuedCopies - 1, by omega, rfl⟩

end Lines

/-! ## Phrases in a line -/

theorem toList_lower_append (s t : String) :
    (Str.toAsciiLowercase (s ++ t)).toList = (Str.toAsciiLowercase s).toList ++ (Str.toAsciiLowercase t).toList := by
  rw [toList_toAsciiLowercase, String.toList_append, List.map_append, toList_toAsciiLowercase,
    toList_toAsciiLowercase]

/-- A line as `lines` gives it. -/
def shownLine (line : String) : String := .ofList (Str.stripReturn line.toList)

theorem shownLine_eq (line : String) : shownLine line = line ∨ line = shownLine line ++ "\r" := by
  unfold shownLine Str.stripReturn
  split_ifs with hreturn
  · right
    rw [← String.toList_inj, String.toList_append, String.toList_ofList]
    exact (List.dropLast_append_getLast? _ hreturn).symm
  · exact .inl String.ofList_toList

theorem contains_shownLine {phrase : String} (hne : phrase.toList ≠ []) (hreturn : '\r' ∉ phrase.toList)
    (line : String) : Str.contains phrase (Str.toAsciiLowercase (shownLine line)) =
      Str.contains phrase (Str.toAsciiLowercase line) := by
  rcases shownLine_eq line with heq | heq
  · rw [heq]
  · have hlower : (Str.toAsciiLowercase line).toList =
        (Str.toAsciiLowercase (shownLine line)).toList ++ '\r' :: [] := by
      rw [congrArg Str.toAsciiLowercase heq, toList_lower_append]
      rfl
    rw [Bool.eq_iff_iff, Str.contains_iff, Str.contains_iff, hlower, infix_append_cons_iff hreturn,
      List.infix_nil, or_iff_left hne]

theorem repeatsAction_shownLine (line : String) : repeatsAction (Str.toAsciiLowercase (shownLine line)) =
    repeatsAction (Str.toAsciiLowercase line) := by
  unfold repeatsAction
  rw [contains_shownLine (by decide) (by decide), contains_shownLine (by decide) (by decide),
    contains_shownLine (by decide) (by decide), contains_shownLine (by decide) (by decide)]

def levelLead (level : LogLevel) : List Char := (Str.toAsciiLowercase level.text).toList

def actionLead (coloured : Bool) (action : QueuedAction) : List Char :=
  (Str.toAsciiLowercase (action.text coloured)).toList

theorem actionLead_eq (coloured : Bool) (action : QueuedAction) :
    actionLead coloured action = (actionLead coloured action).dropLast ++ [' '] := by
  cases coloured <;> cases action <;> decide

def repeatPhrases : List String := [" changes:", "skipped move to", "file was deleted", "deleted:"]

theorem levelLead_eq (level : LogLevel) : levelLead level = [] ∨ ∃ word, levelLead level = word ++ [' '] ∧
    ∀ phrase ∈ repeatPhrases, clear phrase.toList word = true := by
  cases level
  · exact .inl (by decide)
  · exact .inr ⟨"info:".toList, by decide, by decide⟩
  · exact .inr ⟨"notice:".toList, by decide, by decide⟩

theorem clear_actionLead (coloured : Bool) (action : QueuedAction) :
    ∀ phrase ∈ repeatPhrases, clear phrase.toList (' ' :: (actionLead coloured action).dropLast) = true := by
  cases coloured <;> cases action <;> decide

section Queued

variable (level : LogLevel) (coloured : Bool) (action : QueuedAction) (name : FileName)

theorem toList_queued : (Str.toAsciiLowercase (PreviewEntry.queued level coloured action name).line).toList =
    levelLead level ++ (actionLead coloured action ++ (Str.toAsciiLowercase name.text).toList) := by
  rw [PreviewEntry.line, toList_lower_append, toList_lower_append, List.append_assoc, levelLead, actionLead]

theorem contains_queued {phrase : String} (hlevel : clear phrase.toList (levelLead level) = true)
    (haction : clear phrase.toList (actionLead coloured action) = true) :
    Str.contains phrase (Str.toAsciiLowercase (PreviewEntry.queued level coloured action name).line) =
      Str.contains phrase (Str.toAsciiLowercase name.text) := by
  rw [Bool.eq_iff_iff, Str.contains_iff, Str.contains_iff, toList_queued, infix_append_iff_of_clear hlevel,
    infix_append_iff_of_clear haction]

theorem contains_actionLead {phrase : String} (h : phrase.toList <:+: actionLead coloured action) :
    Str.contains phrase (Str.toAsciiLowercase (PreviewEntry.queued level coloured action name).line) = true := by
  rw [Str.contains_iff, toList_queued]
  refine (h.trans (List.prefix_append _ _).isInfix).trans (List.suffix_append _ _).isInfix

theorem repeatsAction_eq_any (s : String) : repeatsAction s = repeatPhrases.any (Str.contains · s) := by
  simp [repeatsAction, repeatPhrases, Bool.or_assoc]

theorem repeatsAction_queued :
    repeatsAction (Str.toAsciiLowercase (PreviewEntry.queued level coloured action name).line) =
      repeatsAction (" " ++ Str.toAsciiLowercase name.text) := by
  have hphrase : ∀ phrase ∈ repeatPhrases,
      Str.contains phrase (Str.toAsciiLowercase (PreviewEntry.queued level coloured action name).line) =
        Str.contains phrase (" " ++ Str.toAsciiLowercase name.text) := by
    intro phrase hphrase
    have hspaced := clear_actionLead coloured action phrase hphrase
    have hlead : clear phrase.toList (levelLead level ++ (actionLead coloured action).dropLast) = true := by
      rcases levelLead_eq level with hlevel | ⟨word, hlevel, hword⟩
      · rw [clear, Bool.and_eq_true] at hspaced
        rw [hlevel, List.nil_append]
        exact hspaced.2
      · rw [hlevel, List.append_assoc]
        exact clear_append (hword phrase hphrase) hspaced
    rw [Bool.eq_iff_iff, Str.contains_iff, Str.contains_iff, toList_queued, actionLead_eq, List.append_assoc,
      ← List.append_assoc, infix_append_iff_of_clear hlead, String.toList_append]
    rfl
  rw [repeatsAction_eq_any, repeatsAction_eq_any, Bool.eq_iff_iff, List.any_eq_true, List.any_eq_true]
  exact exists_congr fun phrase ↦ and_congr_right fun hmem ↦ by rw [hphrase phrase hmem]

end Queued

section Confirmed

variable (level : LogLevel) (kind : Confirmation) (name : FileName) (size : Nat)

theorem shownLine_confirmed : shownLine (PreviewEntry.confirmed level kind name size).line =
    (PreviewEntry.confirmed level kind name size).line := by
  have hlast : (PreviewEntry.confirmed level kind name size).line.toList.getLast? = some ')' := by
    rw [PreviewEntry.line, String.toList_append]
    exact List.getLast?_concat
  rw [shownLine, Str.stripReturn, if_neg (by rw [hlast]; decide), String.ofList_toList]

/-- The characters of the size that is printed at the end. -/
def sizeText (size : Nat) : List Char := (Str.toAsciiLowercase ("size " ++ toString size ++ ")")).toList

theorem mem_sizeText {size : Nat} {c : Char} (h : c ∈ sizeText size) :
    c ∈ "size )".toList ∨ c.isDigit = true := by
  obtain ⟨-, -, -, hall⟩ := Str.exists_digits size
  have hfixed : ("size ".toList.map Char.toLower ++ ")".toList.map Char.toLower) ⊆ "size )".toList :=
    List.Sublist.subset (by decide)
  rw [sizeText, toList_lower_append, toList_lower_append, toList_toAsciiLowercase, toList_toAsciiLowercase,
    toList_toAsciiLowercase, List.mem_append, List.mem_append] at h
  rcases h with (h | h) | h
  · exact .inl (hfixed (List.mem_append_left _ h))
  · right
    obtain ⟨d, hd, rfl⟩ := List.mem_map.mp h
    have hdigit := hall d hd
    have hrange := Str.toNat_of_isDigit hdigit
    have hlower : ∀ n, 48 ≤ n → n ≤ 57 → (Char.ofNat n).toLower.isDigit = true := by decide
    have hc := hlower d.toNat hrange.1 hrange.2
    rwa [Char.ofNat_toNat] at hc
  · exact .inl (hfixed (List.mem_append_right _ h))

theorem toList_confirmed : (Str.toAsciiLowercase (PreviewEntry.confirmed level kind name size).line).toList =
    (levelLead level ++ (Str.toAsciiLowercase name.text).toList) ++
      ':' :: ((Str.toAsciiLowercase kind.text).toList ++ '(' :: sizeText size) := by
  have hline : (PreviewEntry.confirmed level kind name size).line =
      level.text ++ (name.text ++ (":" ++ (kind.text ++ ("(" ++ ("size " ++ toString size ++ ")"))))) := by
    rw [← String.toList_inj]
    simp [PreviewEntry.line]
  rw [hline, toList_lower_append, toList_lower_append, toList_lower_append, toList_lower_append,
    toList_lower_append, List.append_assoc, levelLead, sizeText]
  have hcolon : (Str.toAsciiLowercase ":").toList = [':'] := by decide
  have hparen : (Str.toAsciiLowercase "(").toList = ['('] := by decide
  rw [hcolon, hparen, List.singleton_append, List.singleton_append]

theorem not_infix_sizeText {phrase : List Char} {c : Char} (hc : c ∈ phrase)
    (hsize : c ∉ "size )".toList ∧ c.isDigit = false) : ¬phrase <:+: sizeText size := by
  refine not_infix_of_notMem hc fun hmem ↦ ?_
  rcases mem_sizeText hmem with h | h
  · exact hsize.1 h
  · rw [hsize.2] at h
    cases h

/-- A phrase of letters stands in a confirmation when the name has it, or the fixed text. -/
theorem contains_confirmed {phrase : String} (hcolon : ':' ∉ phrase.toList) (hparen : '(' ∉ phrase.toList)
    {c : Char} (hc : c ∈ phrase.toList) (hsize : c ∉ "size )".toList ∧ c.isDigit = false)
    (hlevel : clear phrase.toList (levelLead level) = true) :
    Str.contains phrase (Str.toAsciiLowercase (PreviewEntry.confirmed level kind name size).line) =
      (Str.contains phrase (Str.toAsciiLowercase name.text) ||
        Str.contains phrase (Str.toAsciiLowercase kind.text)) := by
  rw [Bool.eq_iff_iff, Bool.or_eq_true, Str.contains_iff, Str.contains_iff, Str.contains_iff,
    toList_confirmed, infix_append_cons_iff hcolon, infix_append_cons_iff hparen,
    infix_append_iff_of_clear hlevel, or_iff_left (not_infix_sizeText size hc hsize)]

/-- Where the name with its colon repeats an action, the confirmation is passed by. -/
theorem repeatsAction_confirmed_of_name (h : repeatsAction (Str.toAsciiLowercase name.text ++ ":") = true) :
    repeatsAction (Str.toAsciiLowercase (PreviewEntry.confirmed level kind name size).line) = true := by
  have hmono : ∀ phrase, Str.contains phrase (Str.toAsciiLowercase name.text ++ ":") = true →
      Str.contains phrase (Str.toAsciiLowercase (PreviewEntry.confirmed level kind name size).line) = true := by
    intro phrase hphrase
    rw [Str.contains_iff, String.toList_append] at hphrase
    rw [Str.contains_iff, toList_confirmed]
    refine hphrase.trans ⟨levelLead level, (Str.toAsciiLowercase kind.text).toList ++ '(' :: sizeText size, ?_⟩
    simp
  unfold repeatsAction at h ⊢
  simp only [Bool.or_eq_true] at h ⊢
  exact h.imp (Or.imp (Or.imp (hmono _) (hmono _)) (hmono _)) (hmono _)

theorem notMem_kindText (kind : Confirmation) :
    (Str.toAsciiLowercase kind.text).toList.any ([':', 'm', 'f'].contains ·) = false := by
  cases kind <;> decide

/-- What is printed after the colon repeats no action. -/
theorem not_infix_kindText {phrase : List Char} {c : Char} (hc : c ∈ phrase) (hmarks : c ∈ [':', 'm', 'f']) :
    ¬phrase <:+: (Str.toAsciiLowercase kind.text).toList ++ '(' :: sizeText size := by
  have hother : c ≠ '(' ∧ c ∉ "size )".toList ∧ c.isDigit = false := by
    simp only [List.mem_cons, List.not_mem_nil, or_false] at hmarks
    rcases hmarks with rfl | rfl | rfl <;> decide
  refine not_infix_of_notMem hc fun hmem ↦ ?_
  rw [List.mem_append, List.mem_cons] at hmem
  rcases hmem with hmem | hmem | hmem
  · exact List.any_eq_false.mp (notMem_kindText kind) c hmem (List.contains_iff_mem.mpr hmarks)
  · exact hother.1 hmem
  · exact not_infix_sizeText size (List.mem_singleton_self c) hother.2
      ((List.singleton_infix_iff _ _).mpr hmem)

/-- The phrases of repeated actions end with a colon, or have none and a letter of their own. -/
theorem repeatPhrases_forms : ∀ phrase ∈ repeatPhrases,
    (∃ front, phrase.toList = front ++ [':'] ∧ ':' ∉ front) ∨
      (':' ∉ phrase.toList ∧ ∃ c ∈ phrase.toList, c ∈ [':', 'm', 'f']) := by
  simp only [repeatPhrases, List.forall_mem_cons]
  exact ⟨.inl ⟨" changes".toList, by decide, by decide⟩, .inr ⟨by decide, 'm', by decide, by decide⟩,
    .inr ⟨by decide, 'f', by decide, by decide⟩, .inl ⟨"deleted".toList, by decide, by decide⟩, nofun⟩

/-- Nothing else in a bare confirmation repeats an action. -/
theorem repeatsAction_bare (h : repeatsAction (Str.toAsciiLowercase name.text ++ ":") = false) :
    repeatsAction (Str.toAsciiLowercase (PreviewEntry.confirmed .bare kind name size).line) = false := by
  have hname : ∀ phrase ∈ repeatPhrases,
      phrase.toList <:+: (Str.toAsciiLowercase (PreviewEntry.confirmed .bare kind name size).line).toList →
        phrase.toList <:+: (Str.toAsciiLowercase name.text).toList ++ [':'] := by
    intro phrase hphrase hinfix
    have hbare : levelLead .bare = [] := by decide
    rw [toList_confirmed, hbare, List.nil_append] at hinfix
    rcases repeatPhrases_forms phrase hphrase with ⟨front, hfront, hcolon⟩ | ⟨hcolon, c, hc, hmark⟩
    · rw [hfront] at hinfix ⊢
      refine (infix_snoc hcolon hinfix).resolve_right (not_infix_kindText kind size ?_ List.mem_cons_self)
      exact List.mem_append_right _ List.mem_cons_self
    · have hside := (infix_append_cons_iff hcolon).mp hinfix
      exact (hside.resolve_right (not_infix_kindText kind size hc hmark)).trans
        (List.prefix_append _ _).isInfix
  rw [repeatsAction_eq_any, List.any_eq_false] at h ⊢
  intro phrase hphrase hcontains
  refine h phrase hphrase ?_
  rw [Str.contains_iff] at hcontains ⊢
  rw [String.toList_append]
  exact hname phrase hphrase hcontains

end Confirmed

end CosmicMounter

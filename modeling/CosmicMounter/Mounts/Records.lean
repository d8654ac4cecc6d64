import CosmicMounter.Mounts.TableAgreement

/-!
# Records of any mount

A mount whose target and source are any texts, as the kernel prints it, and
which of these the reader gets back.
-/

namespace CosmicMounter.Mounts

open Rust

/-- In the source of a mount the kernel escapes the number sign as well. -/
def escapeSourceChar (c : Char) : List Char := if c = '#' then "\\043".toList else escapeChar c

def escapeSource (source : String) : String := .ofList (source.toList.flatMap escapeSourceChar)

structure MountRecord where
  id : Nat
  parent : Nat
  major : Nat
  minor : Nat
  root : String
  target : String
  options : List String
  optional : List OptionalField
  filesystem : String
  source : String
  superOptions : String
  root_token : Str.IsToken root
  root_ne : root ≠ "-"
  options_ne : options ≠ []
  options_commas : ∀ option ∈ options, ',' ∉ option.toList
  options_token : Str.IsToken (Str.join "," options)
  options_dash : Str.join "," options ≠ "-"
  filesystem_token : Str.IsToken filesystem
  superOptions_token : Str.IsToken superOptions

namespace MountRecord

variable (record : MountRecord)

/-- The fields before the target. -/
def leading : List String :=
  [toString record.id, toString record.parent, toString record.major ++ ":" ++ toString record.minor,
    record.root]

/-- The fields between the target and the dash. -/
def trailing : List String :=
  Str.join "," record.options :: record.optional.map OptionalField.render

def rightFields : List String :=
  [record.filesystem, escapeSource record.source, record.superOptions]

def line : String :=
  Str.join " " (record.leading ++ escapeMountField record.target :: record.trailing ++
    "-" :: record.rightFields)

def entry : MountEntry where
  target := record.target
  options := record.options
  filesystem := record.filesystem
  source := record.source

end MountRecord

/-! ## What the reader can return -/

theorem mem_replace {c : Char} {p by' s : String} (h : c ∈ (Str.replace p by' s).toList) :
    c ∈ s.toList ∨ c ∈ by'.toList := by
  rw [Str.replace, String.toList_ofList] at h
  generalize s.toList = cs at h ⊢
  generalize 0 = skip at h
  induction cs generalizing skip with
  | nil => cases skip <;> cases h
  | cons d cs ih =>
      cases skip with
      | succ skip => exact (ih _ h).imp (List.mem_cons_of_mem d) id
      | zero =>
          rw [Str.replaceList] at h
          split_ifs at h
          · rcases List.mem_append.mp h with hby | hrest
            · exact Or.inr hby
            · exact (ih _ hrest).imp (List.mem_cons_of_mem d) id
          · rcases List.mem_cons.mp h with rfl | hrest
            · exact Or.inl List.mem_cons_self
            · exact (ih _ hrest).imp (List.mem_cons_of_mem d) id

theorem replace_ne_empty {p by' s : String} (hby : by' ≠ "") (h : s ≠ "") :
    Str.replace p by' s ≠ "" := by
  intro hempty
  have hlist := congrArg String.toList hempty
  rw [Str.replace, String.toList_ofList, String.toList_empty] at hlist
  obtain ⟨c, cs, hs⟩ := List.exists_cons_of_ne_nil (mt String.toList_eq_nil_iff.mp h)
  rw [hs, Str.replaceList] at hlist
  split_ifs at hlist
  exact hby (String.toList_eq_nil_iff.mp (List.append_eq_nil_iff.mp hlist).1)

theorem mem_unescape {c : Char} {value : String} (h : c ∈ (unescapeMountField value).toList) :
    c ∈ value.toList ∨ c ∈ [' ', '\t', '\n', '\\'] := by
  have hplain : ("\\" : String).toList = ['\\'] ∧ ("\n" : String).toList = ['\n'] ∧
      ("\t" : String).toList = ['\t'] ∧ (" " : String).toList = [' '] := ⟨rfl, rfl, rfl, rfl⟩
  rcases mem_replace h with h | h
  · rcases mem_replace h with h | h
    · rcases mem_replace h with h | h
      · rcases mem_replace h with h | h
        · exact Or.inl h
        · simp_all
      · simp_all
    · simp_all
  · simp_all

theorem unescape_ne_empty {value : String} (h : value ≠ "") : unescapeMountField value ≠ "" := by
  apply replace_ne_empty (by decide)
  apply replace_ne_empty (by decide)
  apply replace_ne_empty (by decide)
  exact replace_ne_empty (by decide) h

/-- A field that can be read: some characters, whose blanks the kernel has escaped. -/
structure IsReadable (value : String) : Prop where
  notEmpty : value ≠ ""
  blanks : HasEscapedBlanks value

theorem isReadable_unescape {word : String} (h : Str.IsToken word) :
    IsReadable (unescapeMountField word) := by
  refine ⟨unescape_ne_empty h.notEmpty, fun c hc hblank ↦ ?_⟩
  rcases mem_unescape hc with hmem | hmem
  · rw [h.noSpace c hmem] at hblank
    cases hblank
  · simp only [List.mem_cons, List.not_mem_nil, or_false] at hmem ⊢
    rcases hmem with rfl | rfl | rfl | rfl
    · exact Or.inl rfl
    · exact Or.inr (Or.inl rfl)
    · exact Or.inr (Or.inr rfl)
    · exact absurd hblank (by decide)

/-- The target and the source of an entry are readable, whatever the line is. -/
theorem isReadable_of_parse {line : String} {entry : MountEntry}
    (h : parseMountinfoLine line = .ok entry) : IsReadable entry.target ∧ IsReadable entry.source := by
  unfold parseMountinfoLine at h
  split at h
  · cases h
  · next left right hsplit =>
      split at h
      · next a b c d target options more filesystem source others hleft hright =>
          obtain rfl := Except.ok.inj h
          refine ⟨isReadable_unescape ?_, isReadable_unescape ?_⟩
          · apply Str.isToken_of_mem_splitWhitespace
            rw [hleft]
            simp
          · apply Str.isToken_of_mem_splitWhitespace
            rw [hright]
            simp
      · cases h

/-! ## The source -/

theorem escapeSource_of_notMem {source : String} (h : '#' ∉ source.toList) :
    escapeSource source = escapeMountField source := by
  rw [escapeSource, escapeMountField]
  congr 1
  apply List.flatMap_congr
  intro c hc
  rw [escapeSourceChar, if_neg]
  rintro rfl
  exact h hc

theorem sign_notMem_escapeSource (source : String) : '#' ∉ (escapeSource source).toList := by
  rw [escapeSource, String.toList_ofList, List.mem_flatMap]
  rintro ⟨c, -, hmem⟩
  rw [escapeSourceChar] at hmem
  split_ifs at hmem with hc
  · exact absurd hmem (by decide)
  · rcases escapeChar_cases c with ⟨-, h⟩ | ⟨-, h⟩ | ⟨-, h⟩ | ⟨-, h⟩ | ⟨-, -, -, -, h⟩
    all_goals rw [h] at hmem
    · exact absurd hmem (by decide)
    · exact absurd hmem (by decide)
    · exact absurd hmem (by decide)
    · exact absurd hmem (by decide)
    · exact hc (List.mem_singleton.mp hmem).symm

theorem unescape_escapeSource_iff (source : String) :
    unescapeMountField (escapeSource source) = source ↔ '#' ∉ source.toList := by
  constructor
  · intro heq hmem
    rw [← heq] at hmem
    rcases mem_unescape hmem with hmem | hmem
    · exact sign_notMem_escapeSource source hmem
    · exact absurd hmem (by decide)
  · intro h
    rw [escapeSource_of_notMem h, unescape_escape]

theorem isToken_escapeSource {source : String} (h : IsReadable source) :
    Str.IsToken (escapeSource source) := by
  constructor
  · intro hempty
    have hlist := congrArg String.toList hempty
    obtain ⟨c, cs, hs⟩ := List.exists_cons_of_ne_nil (mt String.toList_eq_nil_iff.mp h.notEmpty)
    rw [escapeSource, String.toList_ofList, hs, List.flatMap_cons, String.toList_empty,
      List.append_eq_nil_iff, escapeSourceChar] at hlist
    have hchar := hlist.1
    split_ifs at hchar
    · cases hchar
    · rcases escapeChar_cases c with ⟨-, hc⟩ | ⟨-, hc⟩ | ⟨-, hc⟩ | ⟨-, hc⟩ | ⟨-, -, -, -, hc⟩
      all_goals
        rw [hc] at hchar
        cases hchar
  · intro c hc
    rw [escapeSource, String.toList_ofList, List.mem_flatMap] at hc
    obtain ⟨d, hd, hmem⟩ := hc
    rw [escapeSourceChar] at hmem
    split_ifs at hmem
    · have hcode : ∀ c ∈ "\\043".toList, Str.isWhitespace c = false := by simp [Str.isWhitespace]
      exact hcode c hmem
    · apply (isToken_escapeMountField h.notEmpty h.blanks).noSpace
      rw [toList_escapeMountField]
      exact List.mem_flatMap.mpr ⟨d, hd, hmem⟩

/-! ## The record -/

namespace MountRecord

variable (record : MountRecord)

theorem leading_words : ∀ word ∈ record.leading, Str.IsToken word ∧ word ≠ "-" := by
  have hminor : ∀ c ∈ (":" ++ toString record.minor).toList, Str.isWhitespace c = false := by
    obtain ⟨-, -, -, hdigits⟩ := Str.exists_digits record.minor
    intro c hc
    rw [String.toList_append, List.mem_append] at hc
    rcases hc with hc | hc
    · obtain rfl : c = ':' := by simpa using hc
      decide
    · exact Str.isWhitespace_of_isDigit (hdigits c hc)
  have hnumber (n : Nat) : IsMountWord (toString n) := by
    simpa using isMountWord_number n "" (by simp)
  intro word hword
  simp only [leading, List.mem_cons, List.not_mem_nil, or_false] at hword
  rcases hword with rfl | rfl | rfl | rfl
  · exact ⟨(hnumber record.id).isToken, (hnumber record.id).notDash⟩
  · exact ⟨(hnumber record.parent).isToken, (hnumber record.parent).notDash⟩
  · have hdevice := isMountWord_number record.major (":" ++ toString record.minor) hminor
    rw [← String.append_assoc] at hdevice
    exact ⟨hdevice.isToken, hdevice.notDash⟩
  · exact ⟨record.root_token, record.root_ne⟩

theorem trailing_words : ∀ word ∈ record.trailing, Str.IsToken word ∧ word ≠ "-" := by
  intro word hword
  rcases List.mem_cons.mp hword with rfl | hoptional
  · exact ⟨record.options_token, record.options_dash⟩
  · obtain ⟨field, -, rfl⟩ := List.mem_map.mp hoptional
    exact ⟨(isMountWord_optional field).isToken, (isMountWord_optional field).notDash⟩

/-- A target that reads as the dash between the halves leaves a line without its fields. -/
theorem parse_line_of_dash (h : record.target = "-") :
    ∀ entry, parseMountinfoLine record.line ≠ .ok entry := by
  have hdash : escapeMountField "-" = "-" := by decide
  have hleading := record.leading_words
  have hline : record.line = Str.join " "
      (record.leading ++ "-" :: (record.trailing ++ "-" :: record.rightFields)) := by
    rw [line, h, hdash, List.append_assoc]
    rfl
  have hsplit := splitOnceText_line (record.trailing ++ "-" :: record.rightFields)
    (fun word hword ↦ (hleading word hword).1) (fun hmem ↦ (hleading "-" hmem).2 rfl) (by simp [leading])
    (by simp)
  intro entry hentry
  rw [parseMountinfoLine, hline, hsplit] at hentry
  dsimp only at hentry
  rw [splitWhitespace_join fun word hword ↦ (hleading word hword).1] at hentry
  cases hentry

theorem parse_line (htarget : IsReadable record.target) (hdash : record.target ≠ "-")
    (hsource : IsReadable record.source) :
    parseMountinfoLine record.line = .ok {
      target := record.target
      options := record.options
      filesystem := record.filesystem
      source := unescapeMountField (escapeSource record.source) } := by
  have hwords : ∀ word ∈ record.leading ++ escapeMountField record.target :: record.trailing,
      Str.IsToken word ∧ word ≠ "-" := by
    intro word hword
    rcases List.mem_append.mp hword with hleading | hrest
    · exact record.leading_words word hleading
    · rcases List.mem_cons.mp hrest with rfl | htrailing
      · refine ⟨isToken_escapeMountField htarget.notEmpty htarget.blanks, fun hescape ↦ hdash ?_⟩
        have htarget' := unescape_escape record.target
        rw [hescape] at htarget'
        exact htarget'.symm
      · exact record.trailing_words word htrailing
  have hright : ∀ word ∈ record.rightFields, Str.IsToken word := by
    intro word hword
    simp only [rightFields, List.mem_cons, List.not_mem_nil, or_false] at hword
    rcases hword with rfl | rfl | rfl
    · exact record.filesystem_token
    · exact isToken_escapeSource hsource
    · exact record.superOptions_token
  refine parseMountinfoLine_words (fun word hword ↦ (hwords word hword).1)
    (fun hmem ↦ (hwords "-" hmem).2 rfl) hright ?_
  have hoptions : Str.split ',' (Str.join "," record.options) = record.options :=
    Str.split_join record.options_commas record.options_ne
  rw [leading, trailing, rightFields]
  simp only [List.cons_append, List.nil_append, entryOfWords, unescape_escape, hoptions]

end MountRecord

/-- A network share, whose name holds a number sign. -/
def sampleRecord : MountRecord where
  id := 36
  parent := 35
  major := 0
  minor := 44
  root := "/"
  target := "/home/u/Cloud"
  options := ["rw", "nosuid"]
  optional := [.shared 12]
  filesystem := "cifs"
  source := "//server/share#1"
  superOptions := "rw"
  root_token := by decide
  root_ne := by decide
  options_ne := by decide
  options_commas := by decide
  options_token := by decide
  options_dash := by decide
  filesystem_token := by decide
  superOptions_token := by decide

end CosmicMounter.Mounts

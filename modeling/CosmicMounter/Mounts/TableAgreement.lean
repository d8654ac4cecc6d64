import CosmicMounter.Mounts.Table
import CosmicMounter.Process.Words

/-!
# The redacted mount table

Redaction keeps the shape of the table: every line still reads as a mount, at
the path whose sensitive part was replaced.
-/

namespace CosmicMounter.Mounts

open Rust Text

/-! ## Reading a line -/

theorem splitOnceList_append {p word : List Char} {c : Char} (hp : p.head? = some c)
    (hword : c ∉ word) (rest : List Char) :
    Str.splitOnceList p (word ++ rest) =
      (Str.splitOnceList p rest).map fun (before, behind) ↦ (word ++ before, behind) := by
  induction word with
  | nil =>
      rw [List.nil_append]
      cases Str.splitOnceList p rest <;> rfl
  | cons d word ih =>
      have hne : c ≠ d := fun h ↦ hword (by simp [h])
      have hprefix : p.isPrefixOf (d :: (word ++ rest)) = false := by
        obtain ⟨tail, rfl⟩ : ∃ tail, p = c :: tail := by
          cases p with
          | nil => cases hp
          | cons e tail => exact ⟨tail, by rw [Option.some.inj hp]⟩
        simp [List.isPrefixOf, hne]
      rw [List.cons_append, Str.splitOnceList, hprefix,
        ih fun h ↦ hword (List.mem_cons_of_mem _ h)]
      cases Str.splitOnceList p rest <;> rfl

theorem notMem_blank_of_isToken {word : String} (h : Str.IsToken word) : ' ' ∉ word.toList := by
  intro hmem
  have hblank := h.noSpace ' ' hmem
  exact absurd hblank (by decide)

theorem not_isPrefixOf_token {word : String} (h : Str.IsToken word) (hdash : word ≠ "-")
    (rest : List Char) : [' ', '-', ' '].isPrefixOf (' ' :: (word.toList ++ rest)) = false := by
  rw [← Bool.not_eq_true, List.isPrefixOf_iff_prefix, List.cons_prefix_cons]
  rintro ⟨-, hprefix⟩
  obtain ⟨c, tail, hword⟩ := List.exists_cons_of_ne_nil h.toList_ne_nil
  rw [hword, List.cons_append, List.cons_prefix_cons] at hprefix
  cases tail with
  | nil =>
      apply hdash
      rw [← String.toList_inj, hword, ← hprefix.1]
      rfl
  | cons d tail =>
      have hd : ' ' = d := by simpa using hprefix.2
      have hnotBlank := h.noSpace d (by simp [hword])
      rw [← hd] at hnotBlank
      exact absurd hnotBlank (by decide)

/-- The first lone dash ends the left half of a line. -/
theorem splitOnceText_line {left : List String} (right : List String) (hleft : ∀ word ∈ left, Str.IsToken word)
    (hdash : "-" ∉ left) (hne : left ≠ []) (hright : right ≠ []) :
    Str.splitOnceText " - " (Str.join " " (left ++ "-" :: right)) =
      some (Str.join " " left, Str.join " " right) := by
  have hpattern : (" - " : String).toList = [' ', '-', ' '] := rfl
  have hsplit : ∀ left : List String, (∀ word ∈ left, Str.IsToken word) → "-" ∉ left → left ≠ [] →
      Str.splitOnceList [' ', '-', ' '] (Str.join " " (left ++ "-" :: right)).toList =
        some ((Str.join " " left).toList, (Str.join " " right).toList) := by
    intro left hleft hdash hne
    induction left with
    | nil => exact absurd rfl hne
    | cons word left ih =>
        have hword : ' ' ∉ word.toList := notMem_blank_of_isToken (hleft word (by simp))
        cases left with
        | nil =>
            obtain ⟨next, others, rfl⟩ := List.exists_cons_of_ne_nil hright
            have htext : (Str.join " " ([word] ++ "-" :: next :: others)).toList =
                word.toList ++ ' ' :: '-' :: ' ' :: (Str.join " " (next :: others)).toList := by
              simp [Str.join, List.intercalate_cons_cons]
            rw [htext, splitOnceList_append rfl hword, Str.splitOnceList]
            simp
        | cons next others =>
            have ih' := ih (fun w hw ↦ hleft w (List.mem_cons_of_mem _ hw))
              (fun h ↦ hdash (List.mem_cons_of_mem _ h)) (by simp)
            have htext : (Str.join " " (word :: next :: others ++ "-" :: right)).toList =
                word.toList ++ ' ' :: (Str.join " " (next :: others ++ "-" :: right)).toList := by
              simp [Str.join, List.intercalate_cons_cons]
            have hprefix : [' ', '-', ' '].isPrefixOf
                (' ' :: (Str.join " " (next :: others ++ "-" :: right)).toList) = false := by
              obtain ⟨tail, htail⟩ : ∃ tail, (Str.join " " (next :: others ++ "-" :: right)).toList =
                  next.toList ++ tail := by
                cases others <;> exact ⟨_, by simp [Str.join, List.intercalate_cons_cons]; rfl⟩
              rw [htail]
              apply not_isPrefixOf_token (hleft next (by simp))
              intro heq
              exact hdash (by simp [heq])
            rw [htext, splitOnceList_append rfl hword, Str.splitOnceList, hprefix, ih']
            simp [Str.join, List.intercalate_cons_cons]
  rw [Str.splitOnceText, hpattern, hsplit left hleft hdash hne]
  simp

/-- The words of a line as the reader sees them. -/
def entryOfWords : List String → List String → Option MountEntry
  | _ :: _ :: _ :: _ :: target :: options :: _, filesystem :: source :: _ =>
      some {
        target := unescapeMountField target
        options := Str.split ',' options
        filesystem
        source := unescapeMountField source }
  | _, _ => none

theorem parseMountinfoLine_words {left right : List String} {entry : MountEntry}
    (hleft : ∀ word ∈ left, Str.IsToken word) (hdash : "-" ∉ left)
    (hright : ∀ word ∈ right, Str.IsToken word) (hentry : entryOfWords left right = some entry) :
    parseMountinfoLine (Str.join " " (left ++ "-" :: right)) = .ok entry := by
  match left, right, hentry with
  | a :: b :: c :: d :: target :: options :: more, filesystem :: source :: others, hentry =>
      have hsplit := splitOnceText_line (filesystem :: source :: others) hleft hdash (by simp) (by simp)
      rw [parseMountinfoLine, hsplit]
      dsimp only
      rw [splitWhitespace_join hleft, splitWhitespace_join hright]
      exact congrArg Except.ok (Option.some.inj hentry)

/-! ## The words of a mount -/

/-- A word that announces nothing, and is not the dash between the halves. -/
structure IsMountWord (word : String) : Prop where
  isToken : Str.IsToken word
  announces : announces word = 0
  notDash : word ≠ "-"

theorem isMountWord_of_quiet {word : String} {c : Char} {rest : List Char}
    (htoken : Str.IsToken word) (hword : word.toList = c :: rest) (hc : IsQuiet c) :
    IsMountWord word := by
  refine ⟨htoken, announces_of_quiet hword hc, ?_⟩
  rintro rfl
  obtain rfl : '-' = c := (List.cons.inj hword).1
  exact absurd hc (by decide)

theorem isMountWord_number (n : Nat) (tail : String)
    (htail : ∀ c ∈ tail.toList, Str.isWhitespace c = false) :
    IsMountWord (toString n ++ tail) := by
  obtain ⟨c, rest, hcons, hdigits⟩ := Str.exists_digits n
  have hlist : (toString n ++ tail).toList = c :: (rest ++ tail.toList) := by
    rw [String.toList_append, hcons, List.cons_append]
  have hdigit : c.isDigit = true := hdigits c (hcons ▸ List.mem_cons_self)
  refine isMountWord_of_quiet ⟨?_, ?_⟩ hlist (isQuiet_of_isDigit hdigit)
  · intro hempty
    rw [hempty] at hlist
    cases hlist
  · intro d hd
    rw [String.toList_append, List.mem_append] at hd
    rcases hd with hdigit | hd
    · exact Str.isWhitespace_of_isDigit (hdigits d hdigit)
    · exact htail d hd

/-- A constant word before a number. -/
theorem isMountWord_tagged {tag : String} {c : Char} {rest : List Char} (n : Nat)
    (htag : tag.toList = c :: rest) (hc : IsQuiet c)
    (hspace : tag.toList.any Str.isWhitespace = false) : IsMountWord (tag ++ toString n) := by
  obtain ⟨-, -, -, hdigits⟩ := Str.exists_digits n
  have hlist : (tag ++ toString n).toList = c :: (rest ++ (toString n).toList) := by
    rw [String.toList_append, htag, List.cons_append]
  refine isMountWord_of_quiet ⟨?_, ?_⟩ hlist hc
  · intro hempty
    rw [hempty] at hlist
    cases hlist
  · intro d hd
    rw [String.toList_append, List.mem_append] at hd
    rcases hd with hd | hdigit
    · exact Bool.eq_false_iff.mpr (List.any_eq_false.mp hspace d hd)
    · exact Str.isWhitespace_of_isDigit (hdigits d hdigit)

theorem isMountWord_optional (field : OptionalField) : IsMountWord field.render := by
  cases field with
  | shared group => exact isMountWord_tagged group rfl (by decide) (by decide)
  | master group => exact isMountWord_tagged group rfl (by decide) (by decide)
  | propagateFrom group => exact isMountWord_tagged group rfl (by decide) (by decide)
  | unbindable => exact isMountWord_of_quiet (by decide) rfl (by decide)

theorem isMountWord_options {options : String} (htoken : Str.IsToken options)
    (hhead : options.toList.head? = some 'r') : IsMountWord options := by
  cases hlist : options.toList with
  | nil => rw [hlist] at hhead; cases hhead
  | cons c rest =>
      rw [hlist] at hhead
      obtain rfl := Option.some.inj hhead
      exact isMountWord_of_quiet htoken hlist (by decide)

theorem announces_of_last {word : String} (hlast : word.toList.getLast? = some ']') :
    announces word = 0 := by
  have hlower : (Str.toAsciiLowercase word).toList.getLast? = some ']' := by
    rw [toList_toAsciiLowercase, List.getLast?_map, hlast]
    rfl
  have hkey : (Str.trimMatches isKeyPunctuation (Str.toAsciiLowercase word)).toList.getLast? = some ']' := by
    obtain ⟨before, hbefore⟩ := List.getLast?_eq_some_iff.mp hlower
    have hdrop : ∃ before', (Str.toAsciiLowercase word).toList.dropWhile isKeyPunctuation = before' ++ [']'] := by
      rw [hbefore, List.dropWhile_append]
      split_ifs
      · exact ⟨[], rfl⟩
      · exact ⟨_, rfl⟩
    obtain ⟨before', hbefore'⟩ := hdrop
    rw [Str.trimMatches, String.toList_ofList, hbefore', List.rdropWhile_concat_neg _ _ _ (by decide)]
    simp
  have hends : ∀ (text : String) (others : List String), text.toList.getLast? = some ']' →
      (others.any fun other ↦ other.toList.getLast? == some ']') = false → text ∉ others := by
    intro text others htext hothers hmem
    exact List.any_eq_false.mp hothers text hmem (beq_iff_eq.mpr htext)
  have hauthorization : Str.toAsciiLowercase word ∉ ["authorization:"] := hends _ _ hlower (by decide)
  have hannouncing := hends _
    ["bearer", "--password", "--passwd", "--token", "--client-id", "--client-secret"] hlower (by decide)
  have hclient := hends _ ["client_id", "client_secret"] hkey (by decide)
  rw [List.mem_singleton] at hauthorization
  simp only [announces, hauthorization, hannouncing, hclient, if_false, or_self]

theorem isMountWord_root {root : String} (htoken : Str.IsToken root)
    (hshape : root.toList.head? = some '/' ∨ root.toList.getLast? = some ']') : IsMountWord root := by
  rcases hshape with hhead | hlast
  · cases hlist : root.toList with
    | nil => rw [hlist] at hhead; cases hhead
    | cons c rest =>
        rw [hlist] at hhead
        obtain rfl := Option.some.inj hhead
        exact isMountWord_of_quiet htoken hlist (by decide)
  · refine ⟨htoken, announces_of_last hlast, ?_⟩
    rintro rfl
    exact absurd hlast (by decide)

/-! ## Escaped fields -/

/-- An octal escape. -/
structure IsCode (code : List Char) : Prop where
  shape : ∃ x y z, code = ['\\', x, y, z] ∧ x ≠ '\\' ∧ y ≠ '\\' ∧ z ≠ '\\'

section Replace

variable {code by' rest : List Char}

theorem isPrefixOf_of_head_ne {c : Char} (hcode : IsCode code) (hc : c ≠ '\\') :
    code.isPrefixOf (c :: rest) = false := by
  obtain ⟨x, y, z, rfl, -⟩ := hcode.shape
  simp [List.isPrefixOf, Ne.symm hc]

theorem replaceList_char {c : Char} (hcode : IsCode code) (hc : c ≠ '\\') :
    Str.replaceList code by' (c :: rest) 0 = c :: Str.replaceList code by' rest 0 := by
  rw [Str.replaceList, isPrefixOf_of_head_ne hcode hc]
  rfl

theorem replaceList_self (hcode : IsCode code) :
    Str.replaceList code by' (code ++ rest) 0 = by' ++ Str.replaceList code by' rest 0 := by
  obtain ⟨x, y, z, rfl, -⟩ := hcode.shape
  simp [Str.replaceList]

theorem replaceList_other {other : List Char} (hcode : IsCode code) (hother : IsCode other)
    (hne : other ≠ code) :
    Str.replaceList code by' (other ++ rest) 0 = other ++ Str.replaceList code by' rest 0 := by
  obtain ⟨x, y, z, rfl, hx, hy, hz⟩ := hother.shape
  have hprefix : code.isPrefixOf ('\\' :: x :: y :: z :: rest) = false := by
    obtain ⟨x', y', z', rfl, -⟩ := hcode.shape
    simp only [List.isPrefixOf, beq_self_eq_true, Bool.true_and, Bool.and_true, Bool.and_eq_false_iff,
      beq_eq_false_iff_ne]
    by_contra hall
    push Not at hall
    obtain ⟨rfl, rfl, rfl⟩ := hall
    exact hne rfl
  rw [List.cons_append, List.cons_append, List.cons_append, List.cons_append, List.nil_append,
    Str.replaceList, hprefix]
  simp only [Bool.false_eq_true, if_false]
  rw [replaceList_char hcode hx, replaceList_char hcode hy, replaceList_char hcode hz]
  rfl

/-- One pass undoes one escape. -/
theorem replaceList_flatMap {c₀ : Char} (escape : Char → List Char) (hcode : IsCode code)
    (h₀ : escape c₀ = code)
    (hrest : ∀ c, c ≠ c₀ → escape c = [c] ∧ c ≠ '\\' ∨ IsCode (escape c) ∧ escape c ≠ code)
    (cs : List Char) :
    Str.replaceList code [c₀] (cs.flatMap escape) 0 =
      cs.flatMap fun c ↦ if c = c₀ then [c₀] else escape c := by
  induction cs with
  | nil => rfl
  | cons c cs ih =>
      rw [List.flatMap_cons, List.flatMap_cons]
      by_cases hc : c = c₀
      · rw [if_pos hc, hc, h₀, replaceList_self hcode, ih]
      · rw [if_neg hc]
        rcases hrest c hc with ⟨hself, hne⟩ | ⟨hother, hne⟩
        · rw [hself, List.singleton_append, replaceList_char hcode hne, ih]
          rfl
        · rw [replaceList_other hcode hother hne, ih]

end Replace

theorem escapeChar_cases (c : Char) :
    (c = ' ' ∧ escapeChar c = "\\040".toList) ∨ (c = '\t' ∧ escapeChar c = "\\011".toList) ∨
      (c = '\n' ∧ escapeChar c = "\\012".toList) ∨ (c = '\\' ∧ escapeChar c = "\\134".toList) ∨
      (c ≠ ' ' ∧ c ≠ '\t' ∧ c ≠ '\n' ∧ c ≠ '\\' ∧ escapeChar c = [c]) := by
  unfold escapeChar
  split_ifs with h₁ h₂ h₃ h₄
  · exact Or.inl ⟨h₁, rfl⟩
  · exact Or.inr (Or.inl ⟨h₂, rfl⟩)
  · exact Or.inr (Or.inr (Or.inl ⟨h₃, rfl⟩))
  · exact Or.inr (Or.inr (Or.inr (Or.inl ⟨h₄, rfl⟩)))
  · exact Or.inr (Or.inr (Or.inr (Or.inr ⟨h₁, h₂, h₃, h₄, rfl⟩)))

theorem isCode_codes : IsCode "\\040".toList ∧ IsCode "\\011".toList ∧ IsCode "\\012".toList ∧
    IsCode "\\134".toList := by
  refine ⟨⟨_, _, _, rfl, ?_⟩, ⟨_, _, _, rfl, ?_⟩, ⟨_, _, _, rfl, ?_⟩, ⟨_, _, _, rfl, ?_⟩⟩
  all_goals decide

theorem isCode_or_self (c : Char) :
    IsCode (escapeChar c) ∨ escapeChar c = [c] ∧ c ≠ '\\' := by
  obtain ⟨hblank, htab, hnewline, hbackslash⟩ := isCode_codes
  rcases escapeChar_cases c with ⟨-, h⟩ | ⟨-, h⟩ | ⟨-, h⟩ | ⟨-, h⟩ | ⟨-, -, -, hne, h⟩
  · exact Or.inl (h ▸ hblank)
  · exact Or.inl (h ▸ htab)
  · exact Or.inl (h ▸ hnewline)
  · exact Or.inl (h ▸ hbackslash)
  · exact Or.inr ⟨h, hne⟩

theorem escapeChar_injective : Function.Injective escapeChar := by
  intro c d heq
  rcases escapeChar_cases c with ⟨rfl, h⟩ | ⟨rfl, h⟩ | ⟨rfl, h⟩ | ⟨rfl, h⟩ | ⟨hb, ht, hn, hs, h⟩
  all_goals
    rcases escapeChar_cases d with ⟨rfl, h'⟩ | ⟨rfl, h'⟩ | ⟨rfl, h'⟩ | ⟨rfl, h'⟩ | ⟨hb', ht', hn', hs', h'⟩
  all_goals first
    | rfl
    | rw [h, h'] at heq
      simp_all

/-- The escape in a text whose characters of the list are plain again. -/
def escapeExcept (plain : List Char) (c : Char) : List Char :=
  if c ∈ plain then [c] else escapeChar c

theorem replaceList_escapeExcept (plain : List Char) (c₀ : Char) (hplain : '\\' ∉ plain)
    (hc₀ : c₀ ∉ plain) (hcode : IsCode (escapeChar c₀)) (cs : List Char) :
    Str.replaceList (escapeChar c₀) [c₀] (cs.flatMap (escapeExcept plain)) 0 =
      cs.flatMap (escapeExcept (c₀ :: plain)) := by
  have hpass := replaceList_flatMap (escapeExcept plain) hcode (if_neg hc₀) ?_ cs
  · rw [hpass]
    congr 1
    funext c
    by_cases hc : c = c₀
    · simp [escapeExcept, hc]
    · simp [escapeExcept, hc]
  · intro c hc
    rw [escapeExcept]
    split_ifs with hmem
    · left
      refine ⟨rfl, ?_⟩
      rintro rfl
      exact hplain hmem
    · rcases isCode_or_self c with hcodeC | hself
      · exact Or.inr ⟨hcodeC, fun heq ↦ hc (escapeChar_injective heq)⟩
      · exact Or.inl hself

/-- The reader undoes what the kernel escapes. -/
theorem unescape_escape (value : String) : unescapeMountField (escapeMountField value) = value := by
  obtain ⟨hblank, htab, hnewline, hbackslash⟩ := isCode_codes
  have h₁ := replaceList_escapeExcept [] ' ' (by decide) (by decide) hblank
    value.toList
  have h₂ := replaceList_escapeExcept [' '] '\t' (by decide) (by decide) htab
    value.toList
  have h₃ := replaceList_escapeExcept ['\t', ' '] '\n' (by decide) (by decide)
    hnewline value.toList
  have h₄ := replaceList_escapeExcept ['\n', '\t', ' '] '\\' (by decide) (by decide)
    hbackslash value.toList
  have hstart : escapeExcept [] = escapeChar := by
    funext c
    exact if_neg List.not_mem_nil
  have hend : escapeExcept ['\\', '\n', '\t', ' '] = fun c ↦ [c] := by
    funext c
    rw [escapeExcept]
    split_ifs with hmem
    · rfl
    · rcases escapeChar_cases c with ⟨rfl, -⟩ | ⟨rfl, -⟩ | ⟨rfl, -⟩ | ⟨rfl, -⟩ | ⟨-, -, -, -, h⟩
      · exact absurd (by simp) hmem
      · exact absurd (by simp) hmem
      · exact absurd (by simp) hmem
      · exact absurd (by simp) hmem
      · exact h
  rw [hstart] at h₁
  rw [hend, List.flatMap_singleton'] at h₄
  have hcodes : ("\\040" : String).toList = escapeChar ' ' ∧ ("\\011" : String).toList = escapeChar '\t' ∧
      ("\\012" : String).toList = escapeChar '\n' ∧ ("\\134" : String).toList = escapeChar '\\' :=
    ⟨rfl, rfl, rfl, rfl⟩
  rw [unescapeMountField, escapeMountField, Str.replace, Str.replace, Str.replace, Str.replace]
  simp only [String.toList_ofList, hcodes]
  have hplain : (" " : String).toList = [' '] ∧ ("\t" : String).toList = ['\t'] ∧
      ("\n" : String).toList = ['\n'] ∧ ("\\" : String).toList = ['\\'] := ⟨rfl, rfl, rfl, rfl⟩
  rw [hplain.1, hplain.2.1, hplain.2.2.1, hplain.2.2.2, h₁, h₂, h₃, h₄, String.ofList_toList]

theorem toList_escapeMountField (value : String) :
    (escapeMountField value).toList = value.toList.flatMap escapeChar := by
  rw [escapeMountField, String.toList_ofList]

theorem equals_mem_escape {cs : List Char} : '=' ∈ cs.flatMap escapeChar ↔ '=' ∈ cs := by
  rw [List.mem_flatMap]
  constructor
  · rintro ⟨c, hc, hmem⟩
    rcases escapeChar_cases c with ⟨-, h⟩ | ⟨-, h⟩ | ⟨-, h⟩ | ⟨-, h⟩ | ⟨-, -, -, -, h⟩
    · rw [h] at hmem; exact absurd hmem (by decide)
    · rw [h] at hmem; exact absurd hmem (by decide)
    · rw [h] at hmem; exact absurd hmem (by decide)
    · rw [h] at hmem; exact absurd hmem (by decide)
    · rw [h, List.mem_singleton] at hmem
      rwa [hmem]
  · intro h
    exact ⟨'=', h, by decide⟩

/-- What redaction makes of a path in the table. -/
def redactPath (path : String) : String :=
  match Str.splitOnce '=' path with
  | some (key, _) => if hasSensitiveKey (escapeMountField key) then key ++ "=[REDACTED]" else path
  | none => path

theorem escape_append (s t : String) :
    escapeMountField (s ++ t) = escapeMountField s ++ escapeMountField t := by
  rw [← String.toList_inj, toList_escapeMountField, String.toList_append, List.flatMap_append,
    String.toList_append, toList_escapeMountField, toList_escapeMountField]

theorem redactToken_escape {path : String} {rest : List Char} (hpath : path.toList = '/' :: rest) :
    redactToken (escapeMountField path) = escapeMountField (redactPath path) := by
  have hhead : (escapeMountField path).toList = '/' :: rest.flatMap escapeChar := by
    rw [toList_escapeMountField, hpath]
    rfl
  rw [redactToken_of_quiet hhead (by decide), redactPath]
  cases hsplit : Str.splitOnce '=' path with
  | none =>
      have hnone : Str.splitOnce '=' (escapeMountField path) = none := by
        rw [Str.splitOnce] at hsplit ⊢
        split_ifs at hsplit with hmem
        rw [if_neg]
        rwa [toList_escapeMountField, equals_mem_escape]
      rw [hnone]
  | some parts =>
      obtain ⟨key, value⟩ := parts
      obtain ⟨hpathParts, hkey⟩ := Str.splitOnce_eq_some hsplit
      have hescaped : Str.splitOnce '=' (escapeMountField path) =
          some (escapeMountField key, escapeMountField value) := by
        apply Str.splitOnce_of_toList
        · rw [toList_escapeMountField, hpathParts, List.flatMap_append, List.flatMap_cons,
            toList_escapeMountField, toList_escapeMountField]
          rfl
        · rwa [toList_escapeMountField, equals_mem_escape]
      have hmark : escapeMountField "=[REDACTED]" = "=[REDACTED]" := by decide
      rw [hescaped]
      dsimp only
      split_ifs
      · rw [escape_append, hmark]
      · rfl

theorem isToken_escapeMountField {path : String} (hne : path ≠ "") (h : HasEscapedBlanks path) :
    Str.IsToken (escapeMountField path) := by
  constructor
  · intro hempty
    have hpath := unescape_escape path
    rw [hempty] at hpath
    exact hne hpath.symm
  · intro c hc
    rw [toList_escapeMountField, List.mem_flatMap] at hc
    obtain ⟨d, hd, hmem⟩ := hc
    have hcodes : ∀ code ∈ ["\\040", "\\011", "\\012", "\\134"], ∀ c ∈ code.toList,
        Str.isWhitespace c = false := by simp [Str.isWhitespace]
    rcases escapeChar_cases d with ⟨-, hd'⟩ | ⟨-, hd'⟩ | ⟨-, hd'⟩ | ⟨-, hd'⟩ | ⟨hb, ht, hn, -, hd'⟩
    · exact hcodes "\\040" (by simp) c (hd' ▸ hmem)
    · exact hcodes "\\011" (by simp) c (hd' ▸ hmem)
    · exact hcodes "\\012" (by simp) c (hd' ▸ hmem)
    · exact hcodes "\\134" (by simp) c (hd' ▸ hmem)
    · rw [hd', List.mem_singleton] at hmem
      rw [hmem, ← Bool.not_eq_true]
      intro hblank
      have hescaped := h d hd hblank
      simp [hb, ht, hn] at hescaped

/-! ## The words of a mount -/

namespace Mount

variable (mount : Mount)

theorem path_toList : ∃ rest, mount.path.toList = '/' :: rest := by
  refine ⟨(Str.join "/" mount.target).toList, ?_⟩
  rw [Mount.path, Config.absolute_eq, String.toList_append]
  rfl

theorem isMountWord_path : IsMountWord (escapeMountField mount.path) := by
  obtain ⟨rest, hpath⟩ := mount.path_toList
  have hhead : (escapeMountField mount.path).toList = '/' :: rest.flatMap escapeChar := by
    rw [toList_escapeMountField, hpath]
    rfl
  refine isMountWord_of_quiet (isToken_escapeMountField ?_ mount.target_blanks) hhead (by decide)
  intro hempty
  rw [hempty] at hpath
  cases hpath

theorem isMountWord_left : ∀ word ∈ mount.leftFields, IsMountWord word := by
  have hminor : ∀ c ∈ (":" ++ toString mount.minor).toList, Str.isWhitespace c = false := by
    obtain ⟨-, -, -, hdigits⟩ := Str.exists_digits mount.minor
    intro c hc
    rw [String.toList_append, List.mem_append] at hc
    rcases hc with hcolon | hdigit
    · obtain rfl : c = ':' := by simpa using hcolon
      decide
    · exact Str.isWhitespace_of_isDigit (hdigits c hdigit)
  intro word hword
  simp only [leftFields, List.mem_append, List.mem_cons, List.not_mem_nil, or_false, List.mem_map] at hword
  rcases hword with (rfl | rfl | rfl | rfl | rfl | rfl) | ⟨field, -, rfl⟩
  · simpa using isMountWord_number mount.id "" (by simp)
  · simpa using isMountWord_number mount.parent "" (by simp)
  · rw [String.append_assoc]
    exact isMountWord_number mount.major _ hminor
  · exact isMountWord_root mount.root_token mount.root_shape
  · exact mount.isMountWord_path
  · exact isMountWord_options mount.options_token mount.options_head
  · exact isMountWord_optional field

theorem isToken_right : ∀ word ∈ mount.rightFields, Str.IsToken word := by
  intro word hword
  simp only [rightFields, List.mem_cons, List.not_mem_nil, or_false] at hword
  rcases hword with rfl | rfl | rfl
  · exact mount.filesystem_token
  · exact mount.source_token
  · exact mount.superOptions_token

end Mount

/-! ## The redacted words of a mount -/

theorem announces_le (word : String) : announces word ≤ 2 := by
  dsimp only [announces]
  split_ifs <;> omega

theorem redactStep_of_announces {word : String} (h : announces word = 0) :
    redactStep 0 word = (redactToken word, 0) := by
  rw [redactStep, if_neg (Nat.lt_irrefl 0), h]
  rfl

theorem redactWords_of_announces {words : List String} (h : ∀ word ∈ words, announces word = 0) :
    redactWords 0 words = words.map redactToken ∧ carry 0 words = 0 := by
  induction words with
  | nil => exact ⟨rfl, rfl⟩
  | cons word words ih =>
      have hstep := redactStep_of_announces (h word (by simp))
      obtain ⟨hwords, hcarry⟩ := ih fun w hw ↦ h w (List.mem_cons_of_mem _ hw)
      rw [redactWords, carry, hstep]
      exact ⟨by rw [hwords, List.map_cons], hcarry⟩

theorem redactStep_snd_le {remaining : Nat} (h : remaining ≤ 2) (word : String) :
    (redactStep remaining word).2 ≤ 2 := by
  have hannounces := announces_le word
  unfold redactStep
  split_ifs
  · dsimp only
    omega
  · exact hannounces
  · exact Nat.zero_le 2

/-- A word that announces nothing uses up one of the words to redact. -/
theorem redactStep_snd_of_announces {word : String} (h : announces word = 0) (remaining : Nat) :
    (redactStep remaining word).2 = remaining - 1 := by
  rw [redactStep, h]
  split_ifs with hremaining
  · rfl
  · exact absurd rfl ‹0 ≠ 0›
  · dsimp only
    omega

theorem isToken_redactStep {word : String} (h : Str.IsToken word) (remaining : Nat) :
    Str.IsToken (redactStep remaining word).1 := (redacts_step h remaining).isToken h

theorem isToken_redactWords {words : List String} (h : ∀ word ∈ words, Str.IsToken word)
    (remaining : Nat) : ∀ word ∈ redactWords remaining words, Str.IsToken word := by
  induction words generalizing remaining with
  | nil => exact fun word hword ↦ absurd hword List.not_mem_nil
  | cons word words ih =>
      rw [redactWords, List.forall_mem_cons]
      exact ⟨isToken_redactStep (h word (by simp)) remaining,
        ih (fun w hw ↦ h w (List.mem_cons_of_mem _ hw)) _⟩

theorem dash_notMem_redactWords {words : List String} (h : ∀ word ∈ words, Str.IsToken word)
    (hdash : "-" ∉ words) (remaining : Nat) : "-" ∉ redactWords remaining words := by
  induction words generalizing remaining with
  | nil => exact List.not_mem_nil
  | cons word words ih =>
      rw [redactWords, List.mem_cons, not_or]
      constructor
      · intro heq
        have hsame := (redacts_step (h word (by simp)) remaining).eq_of_unmarked (by rw [← heq]; decide)
        exact hdash (by simp [heq, hsame])
      · exact ih (fun w hw ↦ h w (List.mem_cons_of_mem _ hw))
          (fun hmem ↦ hdash (List.mem_cons_of_mem _ hmem)) _

namespace Mount

variable (mount : Mount)

def words : List String := mount.leftFields ++ "-" :: mount.rightFields

theorem isToken_words : ∀ word ∈ mount.words, Str.IsToken word := by
  intro word hword
  rcases List.mem_append.mp hword with hleft | hright
  · exact (mount.isMountWord_left word hleft).isToken
  · rcases List.mem_cons.mp hright with rfl | hright
    · decide
    · exact mount.isToken_right word hright

theorem dash_notMem_left : "-" ∉ mount.leftFields := by
  intro hmem
  exact (mount.isMountWord_left "-" hmem).notDash rfl

theorem parse_line : ∃ entry, parseMountinfoLine (Str.join " " mount.words) = .ok entry ∧
    entry.target = mount.path := by
  have hentry : entryOfWords mount.leftFields mount.rightFields = some {
      target := unescapeMountField (escapeMountField mount.path)
      options := Str.split ',' mount.options
      filesystem := mount.filesystem
      source := unescapeMountField mount.source } := rfl
  refine ⟨_, parseMountinfoLine_words (fun w hw ↦ (mount.isMountWord_left w hw).isToken)
    mount.dash_notMem_left mount.isToken_right hentry, ?_⟩
  exact unescape_escape mount.path

/-- With at most one word left to redact before it, a line keeps its halves. -/
theorem redactWords_eq {remaining : Nat} (h : remaining ≤ 1) :
    redactWords remaining mount.words =
        redactWords remaining mount.leftFields ++ "-" :: redactWords 0 mount.rightFields ∧
      carry remaining mount.words ≤ 1 := by
  have hannounces : ∀ word ∈ mount.leftFields, announces word = 0 :=
    fun word hword ↦ (mount.isMountWord_left word hword).announces
  have hleft : carry remaining mount.leftFields = 0 := by
    obtain ⟨first, rest, hcons⟩ : ∃ first rest, mount.leftFields = first :: rest := ⟨_, _, rfl⟩
    rw [hcons] at hannounces ⊢
    have hfirst : (redactStep remaining first).2 = 0 := by
      rw [redactStep_snd_of_announces (hannounces first (by simp))]
      omega
    rw [carry, hfirst]
    exact (redactWords_of_announces fun w hw ↦ hannounces w (List.mem_cons_of_mem _ hw)).2
  have hdash : redactStep 0 "-" = ("-", 0) := by decide
  constructor
  · rw [words, redactWords_append, hleft, redactWords, hdash]
  · have hsuper : announces mount.superOptions = 0 :=
      (isMountWord_options mount.superOptions_token mount.superOptions_head).announces
    have hbefore := redactStep_snd_le (redactStep_snd_le (Nat.zero_le 2) mount.filesystem) mount.source
    rw [words, carry_append, hleft, carry, hdash, rightFields, carry, carry, carry, carry,
      redactStep_snd_of_announces hsuper]
    dsimp only
    omega

theorem parse_redacted {remaining : Nat} (h : remaining ≤ 1) :
    ∃ entry, parseMountinfoLine (Str.join " " (redactWords remaining mount.words)) = .ok entry ∧
      entry.target = redactPath mount.path := by
  have hannounces : ∀ word ∈ mount.leftFields, announces word = 0 :=
    fun word hword ↦ (mount.isMountWord_left word hword).announces
  have htokens : ∀ word ∈ mount.leftFields, Str.IsToken word :=
    fun word hword ↦ (mount.isMountWord_left word hword).isToken
  -- The first word may be redacted; from the second on only sensitive values are.
  have hleft : redactWords remaining mount.leftFields =
      (redactStep remaining (toString mount.id)).1 :: mount.leftFields.tail.map redactToken := by
    have hid : announces (toString mount.id) = 0 := hannounces _ List.mem_cons_self
    have hzero : (redactStep remaining (toString mount.id)).2 = 0 := by
      rw [redactStep_snd_of_announces hid]
      omega
    have hcons : mount.leftFields = toString mount.id :: mount.leftFields.tail := rfl
    rw [hcons, redactWords, hzero, List.tail_cons,
      (redactWords_of_announces fun w hw ↦ hannounces w (List.mem_of_mem_tail hw)).1]
  obtain ⟨source, super, hright⟩ : ∃ source super, redactWords 0 mount.rightFields =
      [(redactStep 0 mount.filesystem).1, source, super] := ⟨_, _, rfl⟩
  have hentry : entryOfWords (redactWords remaining mount.leftFields) (redactWords 0 mount.rightFields) =
      some {
        target := unescapeMountField (redactToken (escapeMountField mount.path))
        options := Str.split ',' (redactToken mount.options)
        filesystem := (redactStep 0 mount.filesystem).1
        source := unescapeMountField source } := by
    rw [hleft, hright]
    rfl
  obtain ⟨rest, hpath⟩ := mount.path_toList
  rw [(mount.redactWords_eq h).1]
  refine ⟨_, parseMountinfoLine_words (isToken_redactWords htokens remaining)
    (dash_notMem_redactWords htokens mount.dash_notMem_left remaining)
    (isToken_redactWords mount.isToken_right 0) hentry, ?_⟩
  dsimp only
  rw [redactToken_escape hpath, unescape_escape]

end Mount

/-! ## The whole table -/

theorem isLine_join {words : List String} (h : ∀ word ∈ words, Str.IsToken word) :
    Str.IsLine (Str.join " " words) := by
  have hblank : ∀ c ∈ (Str.join " " words).toList, Str.isWhitespace c = true → c = ' ' := by
    induction words with
    | nil => simp [Str.join]
    | cons word words ih =>
        have hword : ∀ c ∈ word.toList, Str.isWhitespace c = true → c = ' ' := by
          intro c hc hspace
          rw [(h word (by simp)).noSpace c hc] at hspace
          cases hspace
        have ih' := ih fun w hw ↦ h w (List.mem_cons_of_mem _ hw)
        cases words with
        | nil => rwa [Str.join_singleton]
        | cons next others =>
            have htext : (Str.join " " (word :: next :: others)).toList =
                word.toList ++ ' ' :: (Str.join " " (next :: others)).toList := by
              simp [Str.join, List.intercalate_cons_cons]
            intro c hc hspace
            rw [htext, List.mem_append, List.mem_cons] at hc
            rcases hc with hc | rfl | hc
            · exact hword c hc hspace
            · rfl
            · exact ih' c hc hspace
  constructor
  · intro hmem
    exact absurd (hblank '\n' hmem (by decide)) (by decide)
  · intro hlast
    exact absurd (hblank '\r' (List.mem_of_mem_getLast? hlast) (by decide)) (by decide)

/-- The lines read as mounts at these paths. -/
def ReadAs (lines targets : List String) : Prop :=
  List.Forall₂ (fun line target ↦
    ∃ entry, parseMountinfoLine line = .ok entry ∧ entry.target = target) lines targets

def alreadyMounted (mountpoint : String) : GuardError :=
  .message ⟨"mount-guard-already-mounted", [("path", mountpoint)]⟩

theorem checkLines_eq {mountpoint : String} {lines targets : List String} (h : ReadAs lines targets) :
    checkLines mountpoint lines =
      if ∃ target ∈ targets, Path.Same target mountpoint then .error (alreadyMounted mountpoint)
      else .ok () := by
  induction h with
  | nil => rw [if_neg (by simp)]; rfl
  | @cons line target lines targets hline _ ih =>
      obtain ⟨entry, hparse, rfl⟩ := hline
      rw [checkLines, hparse]
      dsimp only
      by_cases hsame : Path.Same entry.target mountpoint
      · rw [if_pos hsame, if_pos ⟨_, List.mem_cons_self, hsame⟩]
        rfl
      · have hiff : (∃ target ∈ entry.target :: targets, Path.Same target mountpoint) ↔
            ∃ target ∈ targets, Path.Same target mountpoint := by
          simp [hsame]
        rw [if_neg hsame, ih]
        simp only [hiff]

theorem table_eq (mounts : List Mount) : table mounts = tableText (mounts.map Mount.words) := by
  rw [table, tableText, List.map_map]
  rfl

theorem lines_tableText {rows : List (List String)} (h : ∀ words ∈ rows, ∀ word ∈ words, Str.IsToken word) :
    Str.lines (tableText rows) = rows.map (Str.join " ") := by
  apply Str.lines_unlines
  intro line hline
  obtain ⟨words, hwords, rfl⟩ := List.mem_map.mp hline
  exact isLine_join (h words hwords)

theorem readAs_table (mounts : List Mount) :
    ReadAs (Str.lines (table mounts)) (mounts.map Mount.path) := by
  rw [table_eq, lines_tableText]
  · rw [List.map_map, ReadAs, List.forall₂_map_left_iff, List.forall₂_map_right_iff]
    exact List.forall₂_same.mpr fun mount _ ↦ mount.parse_line
  · intro words hwords
    obtain ⟨mount, -, rfl⟩ := List.mem_map.mp hwords
    exact mount.isToken_words

theorem readAs_redactLines (mounts : List Mount) (remaining : Nat) (h : remaining ≤ 1) :
    ReadAs ((redactLines remaining (mounts.map Mount.words)).map (Str.join " "))
      (mounts.map fun mount ↦ redactPath mount.path) := by
  induction mounts generalizing remaining with
  | nil => exact List.Forall₂.nil
  | cons mount mounts ih =>
      exact List.Forall₂.cons (mount.parse_redacted h) (ih _ (mount.redactWords_eq h).2)

theorem isToken_redactLines {rows : List (List String)}
    (h : ∀ words ∈ rows, ∀ word ∈ words, Str.IsToken word) (remaining : Nat) :
    ∀ words ∈ redactLines remaining rows, ∀ word ∈ words, Str.IsToken word := by
  induction rows generalizing remaining with
  | nil => exact fun words hwords ↦ absurd hwords List.not_mem_nil
  | cons words rows ih =>
      rw [redactLines, List.forall_mem_cons]
      exact ⟨isToken_redactWords (h words (by simp)) remaining,
        ih (fun ws hws ↦ h ws (List.mem_cons_of_mem _ hws)) _⟩

theorem readAs_redacted (mounts : List Mount) :
    ReadAs (Str.lines (redactPlainText (table mounts)))
      (mounts.map fun mount ↦ redactPath mount.path) := by
  have htokens : ∀ words ∈ mounts.map Mount.words, ∀ word ∈ words, Str.IsToken word := by
    intro words hwords
    obtain ⟨mount, -, rfl⟩ := List.mem_map.mp hwords
    exact mount.isToken_words
  have hrows : ∀ words ∈ mounts.map Mount.words, words ≠ [] ∧ ∀ word ∈ words, Str.IsToken word := by
    intro words hwords
    refine ⟨?_, htokens words hwords⟩
    obtain ⟨mount, -, rfl⟩ := List.mem_map.mp hwords
    exact List.append_ne_nil_of_right_ne_nil _ (List.cons_ne_nil _ _)
  rw [table_eq, redactPlainText_tableText hrows, lines_tableText (isToken_redactLines htokens 0)]
  exact readAs_redactLines mounts 0 (Nat.zero_le 1)

/-! ## Agreement -/

theorem redactPath_redactPath (path : String) : redactPath (redactPath path) = redactPath path := by
  cases hsplit : Str.splitOnce '=' path with
  | none => simp only [redactPath, hsplit]
  | some parts =>
      obtain ⟨key, value⟩ := parts
      obtain ⟨-, hkey⟩ := Str.splitOnce_eq_some hsplit
      by_cases hsensitive : hasSensitiveKey (escapeMountField key) = true
      · have hredacted : redactPath path = key ++ "=[REDACTED]" := by
          simp only [redactPath, hsplit, hsensitive, if_true]
        have hagain : Str.splitOnce '=' (key ++ "=[REDACTED]") = some (key, "[REDACTED]") := by
          apply Str.splitOnce_of_toList _ hkey
          rw [String.toList_append]
          rfl
        rw [hredacted, redactPath, hagain]
        dsimp only
        rw [if_pos hsensitive]
      · have hkept : redactPath path = path := by
          simp only [redactPath, hsplit, hsensitive, Bool.false_eq_true, if_false]
        rw [hkept, hkept]

/-- The redacted path of a mount is the path of a mount again. -/
theorem exists_redactPath_absolute {names : List String} (h : ∀ name ∈ names, Path.IsName name) :
    ∃ names', (∀ name ∈ names', Path.IsName name) ∧
      redactPath (Config.absolute names) = Config.absolute names' := by
  by_cases hkept : redactPath (Config.absolute names) = Config.absolute names
  · exact ⟨names, h, hkept⟩
  · cases hsplit : Str.splitOnce '=' (Config.absolute names) with
    | none => exact absurd (by simp only [redactPath, hsplit]) hkept
    | some parts =>
        obtain ⟨key, value⟩ := parts
        obtain ⟨hparts, -⟩ := Str.splitOnce_eq_some hsplit
        have hredacted : redactPath (Config.absolute names) = key ++ "=[REDACTED]" := by
          by_cases hsensitive : hasSensitiveKey (escapeMountField key) = true
          · simp only [redactPath, hsplit, hsensitive, if_true]
          · exact absurd (by simp [redactPath, hsplit, hsensitive]) hkept
        have hslash : ("/" : String).toList = ['/'] := rfl
        rw [Config.absolute_eq, String.toList_append, hslash, List.singleton_append] at hparts
        obtain ⟨rest, hkey⟩ : ∃ rest, key.toList = '/' :: rest := by
          cases hlist : key.toList with
          | nil =>
              rw [hlist] at hparts
              exact absurd (List.cons.inj hparts).1 (by decide)
          | cons c rest =>
              rw [hlist] at hparts
              have hhead : '/' = c := (List.cons.inj hparts).1
              exact ⟨rest, by rw [hhead]⟩
        rw [hkey] at hparts
        have hnames : (Str.join "/" names).toList = rest ++ '=' :: value.toList :=
          (List.cons.inj hparts).2
        have hne : names ≠ [] := by
          rintro rfl
          simp [Str.join] at hnames
        obtain ⟨redacted, hlist⟩ : ∃ text : String, text.toList = rest ++ '=' :: "[REDACTED]".toList :=
          ⟨_, String.toList_ofList⟩
        have hmarked : Marked (fun _ ↦ true) redactionMarks (Str.join "/" names).toList
            redacted.toList := by
          have hmark : Marked (fun _ ↦ true) redactionMarks value.toList "[REDACTED]".toList :=
            Marked.of_mark (fun _ _ ↦ rfl) redacted_mem_marks
          have happend := (Marked.refl (rest ++ ['='])).append hmark
          rw [hnames, hlist]
          simpa using happend
        have hsplitNames : Str.split '/' (Str.join "/" names) = names :=
          Str.split_join (fun name hname ↦ (h name hname).noSlash) hne
        refine ⟨Str.split '/' redacted, ?_, ?_⟩
        · intro name hname
          have hslash : '/' ∉ name.toList := Str.notMem_of_mem_split hname
          have hraw : Redacts.Unmarked name → name ∈ names := by
            intro hfresh
            have hmem := Redacts.mem_split_of_marked hmarked hslash hfresh hname
            rwa [hsplitNames] at hmem
          refine ⟨hslash, ?_, ?_, ?_⟩
          · rintro rfl
            exact (h _ (hraw (by decide))).notEmpty rfl
          · rintro rfl
            exact (h _ (hraw (by decide))).notDot rfl
          · rintro rfl
            exact (h _ (hraw (by decide))).notDots rfl
        · have hjoin : Str.join "/" (Str.split '/' redacted) = redacted := Str.join_split '/' redacted
          rw [hredacted, Config.absolute_eq, hjoin, ← String.toList_inj, String.toList_append, hkey,
            String.toList_append, hslash, hlist]
          rfl

theorem absolute_injective {names names' : List String} (h : ∀ name ∈ names, Path.IsName name)
    (h' : ∀ name ∈ names', Path.IsName name)
    (hsame : Path.Same (Config.absolute names) (Config.absolute names')) : names = names' := by
  rw [Path.Same, Config.components_absolute h, Config.components_absolute h'] at hsame
  have hmaps := (List.cons.inj hsame).2
  apply List.map_injective_iff.mpr _ hmaps
  intro name other heq
  exact Component.normal.inj heq

/-- A mount at a path that redaction leads to is left alone itself. -/
theorem redactPath_of_same {mount other : Mount} {mountpoint : String}
    (h : Path.Same mount.path mountpoint) (hother : Path.Same (redactPath other.path) mountpoint) :
    redactPath mount.path = mount.path := by
  obtain ⟨names, hnames, hredacted⟩ := exists_redactPath_absolute other.target_names
  have hsame : Path.Same (Config.absolute mount.target) (Config.absolute names) := by
    rw [← hredacted]
    exact h.trans hother.symm
  have htargets : mount.target = names := absolute_injective mount.target_names hnames hsame
  have hpath : mount.path = redactPath other.path := by
    rw [Mount.path, htargets, ← hredacted]
    rfl
  rw [hpath, redactPath_redactPath]

/-- The exact condition: a mount that redaction leaves alone is at the path, or
none whose path it changes names it, before or after the change. -/
def TableSurvives (mounts : List Mount) (mountpoint : String) : Prop :=
  (∃ mount ∈ mounts, Path.Same mount.path mountpoint ∧ redactPath mount.path = mount.path) ∨
    ∀ mount ∈ mounts, redactPath mount.path ≠ mount.path →
      ¬Path.Same mount.path mountpoint ∧ ¬Path.Same (redactPath mount.path) mountpoint

theorem tableSurvives_iff {mounts : List Mount} {mountpoint : String} :
    ((∃ mount ∈ mounts, Path.Same (redactPath mount.path) mountpoint) ↔
      ∃ mount ∈ mounts, Path.Same mount.path mountpoint) ↔ TableSurvives mounts mountpoint := by
  constructor
  · intro hiff
    by_cases hmounted : ∃ mount ∈ mounts, Path.Same mount.path mountpoint
    · left
      obtain ⟨mount, hmount, hsame⟩ := hmounted
      obtain ⟨other, -, hother⟩ := hiff.mpr ⟨mount, hmount, hsame⟩
      exact ⟨mount, hmount, hsame, redactPath_of_same hsame hother⟩
    · right
      intro mount hmount _
      exact ⟨fun hsame ↦ hmounted ⟨mount, hmount, hsame⟩,
        fun hsame ↦ hmounted (hiff.mp ⟨mount, hmount, hsame⟩)⟩
  · rintro (⟨mount, hmount, hsame, hkept⟩ | hnone)
    · have hredacted : Path.Same (redactPath mount.path) mountpoint := by rwa [hkept]
      exact ⟨fun _ ↦ ⟨mount, hmount, hsame⟩, fun _ ↦ ⟨mount, hmount, hredacted⟩⟩
    · constructor
      · rintro ⟨mount, hmount, hsame⟩
        refine ⟨mount, hmount, ?_⟩
        by_cases hkept : redactPath mount.path = mount.path
        · rwa [hkept] at hsame
        · exact absurd hsame (hnone mount hmount hkept).2
      · rintro ⟨mount, hmount, hsame⟩
        refine ⟨mount, hmount, ?_⟩
        by_cases hkept : redactPath mount.path = mount.path
        · rwa [hkept]
        · exact absurd hsame (hnone mount hmount hkept).1

theorem checkMountinfo_redact_iff (mounts : List Mount) (mountpoint : String) :
    checkMountinfo (redactPlainText (table mounts)) mountpoint =
        checkMountinfo (table mounts) mountpoint ↔ TableSurvives mounts mountpoint := by
  rw [← tableSurvives_iff, checkMountinfo, checkMountinfo, checkLines_eq (readAs_redacted mounts),
    checkLines_eq (readAs_table mounts)]
  simp only [List.mem_map, exists_exists_and_eq_and]
  by_cases hredacted : ∃ mount ∈ mounts, Path.Same (redactPath mount.path) mountpoint
  · by_cases hraw : ∃ mount ∈ mounts, Path.Same mount.path mountpoint
    · simp only [hredacted, hraw]
    · simp only [hredacted, hraw, if_true, if_false, reduceCtorEq, iff_false, not_true_eq_false]
  · by_cases hraw : ∃ mount ∈ mounts, Path.Same mount.path mountpoint
    · simp only [hredacted, hraw, if_true, if_false, reduceCtorEq, false_iff, not_true_eq_false]
    · simp only [hredacted, hraw]

end CosmicMounter.Mounts

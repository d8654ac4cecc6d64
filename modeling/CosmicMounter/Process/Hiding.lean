import CosmicMounter.Process.Passages

/-!
# When redaction hides a value

A value after a marker is hidden exactly when it is a single word that the
marker announces.  Every other passage has two values that are written alike
and show in the redacted text.
-/

namespace CosmicMounter

open Rust

/-! ## Sample values -/

namespace Spelling

def opening : Spelling → List Char
  | .plain => []
  | .unclosed quote | .quoted quote => [quote.char]
  | .trailing quote => [quote.char, quote.char]

def closing : Spelling → List Char
  | .quoted quote => [quote.char]
  | _ => []

/-- A value of this spelling around some characters. -/
def fill (spelling : Spelling) (inside : List Char) : String :=
  .ofList (spelling.opening ++ inside ++ spelling.closing)

variable {spelling : Spelling} {inside : List Char}

theorem mem_opening {c : Char} (h : c ∈ spelling.opening) : c = '"' ∨ c = '\'' := by
  cases spelling with
  | plain => cases h
  | unclosed quote | quoted quote =>
      rw [List.mem_singleton.mp h]
      exact char_isQuote quote
  | trailing quote =>
      have hc : c = quote.char := by simpa [opening] using h
      rw [hc]
      exact char_isQuote quote

theorem mem_closing {c : Char} (h : c ∈ spelling.closing) : c = '"' ∨ c = '\'' := by
  cases spelling with
  | plain | unclosed | trailing => cases h
  | quoted quote =>
      rw [List.mem_singleton.mp h]
      exact char_isQuote quote

/-- What begins with a digit and has only foreign quotes is the inside of a value. -/
theorem writes_fill {d : Char} (hd : d.isDigit = true)
    (hspace : ∀ c ∈ inside, Str.isWhitespace c = false)
    (hforeign : ∀ quote, spelling = .unclosed quote ∨ spelling = .quoted quote → quote.char ∉ d :: inside) :
    (Quoting.word spelling).Writes (spelling.fill (d :: inside)) := by
  have hquoteSpace : ∀ {c : Char}, c = '"' ∨ c = '\'' → Str.isWhitespace c = false := by
    rintro c (rfl | rfl) <;> decide
  refine ⟨⟨?_, ?_⟩, ?_⟩
  · intro hempty
    simpa [fill] using congrArg String.toList hempty
  · intro c hc
    rw [fill, String.toList_ofList, List.mem_append, List.mem_append, List.mem_cons] at hc
    rcases hc with (hc | rfl | hc) | hc
    · exact hquoteSpace (mem_opening hc)
    · exact Str.isWhitespace_of_isDigit hd
    · exact hspace c hc
    · exact hquoteSpace (mem_closing hc)
  · rw [fill, String.toList_ofList]
    cases spelling with
    | plain =>
        intro quote hhead
        have hquote : d = quote.char := by simpa [opening] using hhead
        rw [hquote] at hd
        cases quote <;> cases hd
    | unclosed quote => exact ⟨d :: inside, List.append_nil _, hforeign quote (.inl rfl)⟩
    | trailing quote => exact ⟨[], d :: inside, List.append_nil _, List.cons_ne_nil d inside⟩
    | quoted quote => exact ⟨d :: inside, rfl, hforeign quote (.inr rfl)⟩

theorem writes_digit (spelling : Spelling) {d : Char} (hd : d.isDigit = true) :
    (Quoting.word spelling).Writes (spelling.fill [d]) := by
  refine writes_fill hd nofun fun quote _ hmem ↦ ?_
  rw [← List.mem_singleton.mp hmem] at hd
  cases quote <;> cases hd

end Spelling

/-! ## Values that nothing announces -/

theorem isPrefix_key {cs key rest rest' : List Char} (h : cs ++ rest = key ++ '=' :: rest') (hcs : '=' ∉ cs) :
    cs <+: key := by
  rcases List.append_eq_append_iff.mp h with ⟨more, hkey, -⟩ | ⟨more, hkey, hrest⟩
  · exact ⟨more, hkey.symm⟩
  · cases more with
    | nil => exact ⟨[], by rw [hkey, List.append_nil, List.append_nil]⟩
    | cons c more =>
        obtain rfl := (List.cons.inj hrest).1
        exact absurd (hkey ▸ List.mem_append_right _ List.mem_cons_self) hcs

/-- A word of quotes and a digit shows its first characters. -/
theorem redactStep_shows {token : String} {opening rest : List Char} {d : Char}
    (htoken : token.toList = opening ++ d :: rest) (hopening : ∀ b ∈ opening, b = '"' ∨ b = '\'')
    (hd : d.isDigit = true) : ∃ tail, (redactStep 0 token).1.toList = opening ++ d :: tail := by
  have hquiet := isQuiet_of_isDigit hd
  have hstep : redactStep 0 token = (redactToken token, 0) := by
    rw [redactStep, if_neg (Nat.lt_irrefl 0), announces_of_opening htoken hopening hquiet]
    rfl
  rw [hstep, redactToken_of_opening htoken hopening hquiet]
  split
  · next key value hsplit =>
      split_ifs
      · obtain ⟨htext, -⟩ := Str.splitOnce_eq_some hsplit
        have hprefix : opening ++ [d] <+: key.toList := by
          have hwhole : opening ++ [d] ++ rest = key.toList ++ '=' :: value.toList := by
            rw [← htext, htoken, List.append_assoc, List.singleton_append]
          refine isPrefix_key hwhole fun hmem ↦ ?_
          rcases List.mem_append.mp hmem with hmem | hmem
          · rcases hopening _ hmem with h | h <;> cases h
          · rw [← List.mem_singleton.mp hmem] at hd
            cases hd
        obtain ⟨more, hmore⟩ := hprefix
        exact ⟨more ++ "=[REDACTED]".toList, by rw [String.toList_append, ← hmore]; simp⟩
      · exact ⟨rest, htoken⟩
  · exact ⟨rest, htoken⟩

section Marked

variable {lead : String}

theorem carry_eq_zero (h : ¬Announced (Str.splitWhitespace lead)) : carry 0 (Str.splitWhitespace lead) = 0 :=
  Nat.eq_zero_of_not_pos (mt (announced_iff _).mpr h)

theorem redactAfter_of_announced (h : Announced (Str.splitWhitespace lead)) (word : String) :
    redactAfter lead word = (redactValueToken word, carry 0 (Str.splitWhitespace lead) - 1) :=
  redactStep_of_pos ((announced_iff _).mp h) word

theorem redactAfter_of_not_announced (h : ¬Announced (Str.splitWhitespace lead)) (word : String) :
    redactAfter lead word = redactStep 0 word := by
  rw [redactAfter, carry_eq_zero h]

/-- A word that nothing announces shows. -/
theorem shows_word (hlead : EndsBlank lead) (hquiet : ¬Announced (Str.splitWhitespace lead))
    (spelling : Spelling) (after : String) :
    redactPlainText (lead ++ spelling.fill ['0'] ++ after) ≠
      redactPlainText (lead ++ spelling.fill ['1'] ++ after) := by
  have hshows : ∀ d : Char, d.isDigit = true → ∃ tail,
      (redactAfter lead (wholeWord (spelling.fill [d]) after)).1.toList = spelling.opening ++ d :: tail := by
    intro d hd
    rw [redactAfter_of_not_announced hquiet]
    have hword : (wholeWord (spelling.fill [d]) after).toList =
        spelling.opening ++ d :: (spelling.closing ++ headWord after) := by
      rw [toList_wholeWord, Spelling.fill, String.toList_ofList]
      simp
    exact redactStep_shows hword (fun b hb ↦ Spelling.mem_opening hb) hd
  obtain ⟨tail, htail⟩ := hshows '0' rfl
  obtain ⟨tail', htail'⟩ := hshows '1' rfl
  exact redactPlainText_ne hlead (spelling.writes_digit rfl).1 (spelling.writes_digit rfl).1 htail htail'
    (by decide)

/-- What follows a closing quote shows. -/
theorem shows_trailing (hlead : EndsBlank lead) (hannounced : Announced (Str.splitWhitespace lead))
    {quote : Quote} {after : String} (hafter : quote.char ∉ headWord after) :
    redactPlainText (lead ++ (Spelling.trailing quote).fill ['0'] ++ after) ≠
      redactPlainText (lead ++ (Spelling.trailing quote).fill ['1'] ++ after) := by
  have hshows : ∀ d : Char, d.isDigit = true →
      (redactAfter lead (wholeWord ((Spelling.trailing quote).fill [d]) after)).1.toList =
        (quote.char :: "[REDACTED]".toList ++ [quote.char]) ++ d :: headWord after := by
    intro d hd
    rw [redactAfter_of_announced hannounced]
    have hword : (wholeWord ((Spelling.trailing quote).fill [d]) after).toList =
        quote.char :: [] ++ quote.char :: d :: headWord after := by
      rw [toList_wholeWord, Spelling.fill, String.toList_ofList]
      simp [Spelling.opening, Spelling.closing]
    have hkept : quote.char ∉ d :: headWord after := by
      rw [List.mem_cons]
      rintro (hquote | hmem)
      · rw [← hquote] at hd
        cases quote <;> cases hd
      · exact hafter hmem
    rw [redactValueToken_closed hword hkept, String.toList_ofList]
    simp
  exact redactPlainText_ne hlead (Spelling.writes_digit _ rfl).1 (Spelling.writes_digit _ rfl).1
    (hshows '0' rfl) (hshows '1' rfl) (by decide)

end Marked

/-! ## Strings of several words -/

/-- A quoted string of zeros, with the given white space before the first of them. -/
def phraseWords (quote : Quote) (extra : Nat) : List String :=
  List.replicate extra "0" ++ [quote.char.toString]

def samplePhrase (quote : Quote) (extra : Nat) (gap : String) : String :=
  quote.char.toString ++ gap ++ Str.join " " (phraseWords quote extra)

theorem isToken_quote (quote : Quote) : Str.IsToken quote.char.toString := by
  cases quote <;> decide

theorem isToken_phraseWords {quote : Quote} {extra : Nat} {word : String}
    (h : word ∈ phraseWords quote extra) : Str.IsToken word := by
  rcases List.mem_append.mp h with h | h
  · rw [List.eq_of_mem_replicate h]
    decide
  · rw [List.mem_singleton.mp h]
    exact isToken_quote quote

theorem exists_join_phraseWords (quote : Quote) (extra : Nat) :
    ∃ inside, (Str.join " " (phraseWords quote extra)).toList = inside ++ [quote.char] ∧
      quote.char ∉ inside := by
  induction extra with
  | zero => exact ⟨[], by simp [phraseWords], List.not_mem_nil⟩
  | succ extra ih =>
      obtain ⟨inside, hjoin, hnot⟩ := ih
      refine ⟨'0' :: ' ' :: inside, ?_, ?_⟩
      · obtain ⟨word, words, hwords⟩ : ∃ word words, phraseWords quote extra = word :: words :=
          List.exists_cons_of_ne_nil (List.append_ne_nil_of_right_ne_nil _ (List.cons_ne_nil _ _))
        have hcons : phraseWords quote (extra + 1) = "0" :: phraseWords quote extra := by
          rw [phraseWords, List.replicate_succ, List.cons_append, phraseWords]
        rw [hwords] at hjoin
        rw [hcons, hwords]
        simp only [Str.join, List.map_cons, List.intercalate_cons_cons, String.toList_ofList] at hjoin ⊢
        rw [hjoin]
        rfl
      · simp only [List.mem_cons, hnot, or_false, not_or]
        cases quote <;> decide

theorem writes_samplePhrase (quote : Quote) (extra : Nat) {gap : String} (hne : gap ≠ "")
    (hgap : ∀ c ∈ gap.toList, c = ' ') :
    (Quoting.phrase quote extra).Writes (samplePhrase quote extra gap) := by
  have hblank : ∀ c ∈ gap.toList, Str.isWhitespace c = true := by
    intro c hc
    rw [hgap c hc]
    decide
  constructor
  · obtain ⟨inside, hjoin, hnot⟩ := exists_join_phraseWords quote extra
    refine ⟨gap.toList ++ inside, ?_, ?_⟩
    · rw [samplePhrase, String.toList_append, String.toList_append, hjoin]
      simp
    · rw [List.mem_append]
      rintro (hmem | hmem)
      · have hquote := hgap _ hmem
        cases quote <;> cases hquote
      · exact hnot hmem
  · have hopening : Str.textRuns (quote.char.toString ++ gap) = [quote.char.toString, gap] := by
      have hruns := Str.textRuns_blank_append "" hne (List.all_eq_true.mpr hblank) nofun
      rw [String.append_empty, Str.textRuns_empty] at hruns
      rw [Str.textRuns_token_append _ (isToken_quote quote) fun c hc ↦ hblank c (List.mem_of_mem_head? hc),
        hruns]
    have hcut : Str.textRuns (samplePhrase quote extra gap) =
        [quote.char.toString, gap] ++ Str.textRuns (Str.join " " (phraseWords quote extra)) := by
      rw [samplePhrase, Str.textRuns_append, hopening]
      · intro c hc
        rw [String.toList_append, List.getLast?_append_of_ne_nil _ (mt String.toList_eq_nil_iff.mp hne)] at hc
        exact hblank c (List.mem_of_mem_getLast? hc)
      · have hhead : ∀ {words : List String}, words ≠ [] → (∀ w ∈ words, Str.IsToken w) →
            ∀ c ∈ (Str.join " " words).toList.head?, Str.isWhitespace c = false := by
          intro words hwords htokens
          match words with
          | [word] =>
              intro c hc
              rw [Str.join_singleton] at hc
              exact (htokens word List.mem_cons_self).noSpace c (List.mem_of_mem_head? hc)
          | word :: next :: others =>
              have hjoin : Str.join " " (word :: next :: others) =
                  word ++ (" " ++ Str.join " " (next :: others)) := by
                rw [← String.toList_inj]
                simp [Str.join, List.intercalate_cons_cons]
              rw [hjoin]
              exact head_token_append (htokens word List.mem_cons_self) _
        exact hhead (List.append_ne_nil_of_right_ne_nil _ (List.cons_ne_nil _ _))
          fun w hw ↦ isToken_phraseWords hw
    have hwords := splitWhitespace_join fun w hw ↦ @isToken_phraseWords quote extra w hw
    rw [Str.splitWhitespace] at hwords
    rw [Str.splitWhitespace, hcut, List.filter_append, hwords,
      List.filter_cons_of_pos (by rw [(isToken_quote quote).isBlank, Bool.not_false]),
      List.filter_cons_of_neg (by simpa [Str.isBlank] using hblank)]
    simp [phraseWords]

/-- White space stays as it is, that inside a quoted string too. -/
theorem shows_phrase (lead after : String) (quote : Quote) (extra : Nat) :
    redactPlainText (lead ++ samplePhrase quote extra " " ++ after) ≠
      redactPlainText (lead ++ samplePhrase quote extra "  " ++ after) := by
  intro heq
  have hfilter := (redacts_plainText (lead ++ samplePhrase quote extra " " ++ after)).filter_isWhitespace
  rw [heq, (redacts_plainText _).filter_isWhitespace] at hfilter
  have hlength := congrArg List.length hfilter
  simp only [samplePhrase, String.toList_append, List.filter_append, List.length_append] at hlength
  have hspaces : ("  ".toList.filter Str.isWhitespace).length = 2 ∧
      (" ".toList.filter Str.isWhitespace).length = 1 := by decide
  omega

/-! ## Values after a marker -/

/-- After a marker a value is hidden when it is one announced word. -/
theorem hides_value_iff {lead : String} (hlead : EndsBlank lead) (quoting : Quoting) (after : String) :
    (∀ value value', quoting.Writes value → quoting.Writes value' →
      redactPlainText (lead ++ value ++ after) = redactPlainText (lead ++ value' ++ after)) ↔
      Announced (Str.splitWhitespace lead) ∧ quoting.Fits after := by
  constructor
  · intro hhides
    cases quoting with
    | phrase quote extra =>
        have hwrites : ∀ {gap : String}, gap ≠ "" → (∀ c ∈ gap.toList, c = ' ') →
            (Quoting.phrase quote extra).Writes (samplePhrase quote extra gap) :=
          fun hne hgap ↦ writes_samplePhrase quote extra hne hgap
        exact absurd (hhides _ _ (hwrites (by decide) (by simp)) (hwrites (by decide) (by simp)))
          (shows_phrase lead after quote extra)
    | word spelling =>
        have hdigits := hhides _ _ (spelling.writes_digit (d := '0') rfl) (spelling.writes_digit (d := '1') rfl)
        have hannounced : Announced (Str.splitWhitespace lead) := by
          by_contra hquiet
          exact shows_word hlead hquiet spelling after hdigits
        refine ⟨hannounced, ?_⟩
        cases spelling with
        | trailing quote =>
            change quote.char ∈ headWord after
            by_contra hafter
            exact shows_trailing hlead hannounced hafter hdigits
        | plain | unclosed | quoted => trivial
  · rintro ⟨hannounced, hfits⟩ value value' hvalue hvalue'
    cases quoting with
    | phrase => cases hfits
    | word spelling =>
        refine redactPlainText_eq hlead hvalue.1 hvalue'.1 ?_
        rw [redactAfter_of_announced hannounced, redactAfter_of_announced hannounced,
          redactValueToken_congr hfits hvalue hvalue']

/-! ## Values of a key -/

section Assigned

variable {lead key after : String} {spelling : Spelling}

theorem toList_assigned (key value : String) :
    (key ++ "=" ++ value).toList = key.toList ++ '=' :: value.toList := by simp

theorem isToken_assigned {key value : String} (hkey : Str.IsToken key) (hvalue : Str.IsToken value) :
    Str.IsToken (key ++ "=" ++ value) := by
  constructor
  · intro hempty
    have hnil := congrArg String.toList hempty
    rw [toList_assigned] at hnil
    exact hkey.toList_ne_nil (List.append_eq_nil_iff.mp hnil).1
  · intro c hc
    rw [toList_assigned, List.mem_append, List.mem_cons] at hc
    rcases hc with hc | rfl | hc
    · exact hkey.noSpace c hc
    · decide
    · exact hvalue.noSpace c hc

theorem wholeWord_of_startsBlank (word : String) (h : StartsBlank after) : wholeWord word after = word := by
  rw [wholeWord, headWord_of_startsBlank h, List.append_nil, String.ofList_toList]

/-- No marker has an equals sign. -/
theorem announces_of_equals {token : String} (h : '=' ∈ token.toList) : announces token = 0 := by
  have hlower : '=' ∈ (Str.toAsciiLowercase token).toList := by
    rw [toList_toAsciiLowercase]
    exact List.mem_map.mpr ⟨'=', h, rfl⟩
  have htrimmed : '=' ∈ (Str.trimMatches isKeyPunctuation (Str.toAsciiLowercase token)).toList := by
    have hkept : ∀ {cs : List Char}, '=' ∈ cs → '=' ∈ cs.dropWhile isKeyPunctuation := by
      intro cs hcs
      rw [← List.takeWhile_append_dropWhile (p := isKeyPunctuation) (l := cs), List.mem_append] at hcs
      refine hcs.resolve_left fun htake ↦ ?_
      cases List.mem_takeWhile_imp htake
    rw [Str.trimMatches, String.toList_ofList, List.rdropWhile, List.mem_reverse]
    exact hkept (List.mem_reverse.mpr (hkept hlower))
  have hne : ∀ {s word : String}, '=' ∈ s.toList → '=' ∉ word.toList → s ≠ word := by
    rintro s word hmem hnot rfl
    exact hnot hmem
  have hword : Str.toAsciiLowercase token ∉
      ["bearer", "--password", "--passwd", "--token", "--client-id", "--client-secret"] := by
    simp only [List.mem_cons, List.not_mem_nil, or_false, not_or]
    refine ⟨?_, ?_, ?_, ?_, ?_, ?_⟩
    all_goals exact hne hlower (by decide)
  have hkey : Str.trimMatches isKeyPunctuation (Str.toAsciiLowercase token) ∉
      ["client_id", "client_secret"] := by
    simp only [List.mem_cons, List.not_mem_nil, or_false, not_or]
    exact ⟨hne htrimmed (by decide), hne htrimmed (by decide)⟩
  have hauthorization : Str.toAsciiLowercase token ≠ "authorization:" := hne hlower (by decide)
  simp only [announces, hauthorization, hword, hkey, if_false, or_self]

theorem startsWith_assigned {word : String} (hword : '=' ∉ word.toList) (key value : String) :
    Str.startsWith word (Str.toAsciiLowercase (key ++ "=" ++ value)) =
      Str.startsWith word (Str.toAsciiLowercase key) := by
  rw [Bool.eq_iff_iff, Str.startsWith_iff, Str.startsWith_iff, toList_toAsciiLowercase,
    toList_toAsciiLowercase, toList_assigned, List.map_append, List.map_cons]
  constructor
  · rintro ⟨rest, hrest⟩
    exact isPrefix_key hrest hword
  · intro hprefix
    exact hprefix.trans (List.prefix_append _ _)

/-- The value of a sensitive key is hidden where no value is announced. -/
theorem redactStep_assigned (hequals : '=' ∉ key.toList) (hsensitive : hasSensitiveKey key = true)
    (value value' : String) :
    redactStep 0 (key ++ "=" ++ value) = redactStep 0 (key ++ "=" ++ value') := by
  have hstep : ∀ v : String, redactStep 0 (key ++ "=" ++ v) = (redactToken (key ++ "=" ++ v), 0) := by
    intro v
    rw [redactStep, if_neg (Nat.lt_irrefl 0), announces_of_equals (by rw [toList_assigned]; simp)]
    rfl
  have hsplit : ∀ v : String, Str.splitOnce '=' (key ++ "=" ++ v) = some (key, v) := fun v ↦
    Str.splitOnce_of_toList (toList_assigned key v) hequals
  rw [hstep, hstep]
  simp only [redactToken, hsplit, hsensitive, if_true]
  rw [startsWith_assigned (by decide), startsWith_assigned (by decide), startsWith_assigned (by decide),
    startsWith_assigned (by decide), startsWith_assigned (by decide), startsWith_assigned (by decide)]

theorem char_injective {quote quote' : Quote} (h : quote.char = quote'.char) : quote = quote' := by
  cases quote <;> cases quote' <;> first | rfl | cases h

theorem notMem_closing {quote : Quote} (hspelling : spelling ≠ .quoted quote) :
    quote.char ∉ spelling.closing := by
  intro hmem
  cases spelling with
  | plain | unclosed | trailing => cases hmem
  | quoted quote' =>
      obtain rfl := char_injective (List.mem_singleton.mp hmem)
      exact hspelling rfl

/-- Where a value is announced, a key that opens another quote lets the value show. -/
theorem shows_assigned (hlead : EndsBlank lead) (hkey : Str.IsToken key) (hafter : StartsBlank after)
    (hannounced : Announced (Str.splitWhitespace lead)) {quote : Quote} {rest : List Char}
    (hrest : key.toList = quote.char :: rest) (hspelling : spelling ≠ .quoted quote) :
    ∃ value value', (Quoting.word spelling).Writes value ∧ (Quoting.word spelling).Writes value' ∧
      redactPlainText (lead ++ (key ++ "=" ++ value) ++ after) ≠
        redactPlainText (lead ++ (key ++ "=" ++ value') ++ after) := by
  have hredact : ∀ v : String, redactAfter lead (wholeWord (key ++ "=" ++ v) after) =
      (redactValueToken (key ++ "=" ++ v), carry 0 (Str.splitWhitespace lead) - 1) := by
    intro v
    rw [wholeWord_of_startsBlank _ hafter, redactAfter_of_announced hannounced]
  have htext : ∀ inside : List Char, (key ++ "=" ++ spelling.fill inside).toList =
      quote.char :: (rest ++ '=' :: spelling.opening) ++ (inside ++ spelling.closing) := by
    intro inside
    rw [toList_assigned, hrest, Spelling.fill, String.toList_ofList]
    simp
  have hdigit : ∀ d : Char, d.isDigit = true → quote.char ≠ d := by
    rintro d hd rfl
    cases quote <;> cases hd
  by_cases hopening : quote.char ∈ rest ++ '=' :: spelling.opening
  · obtain ⟨inside, tail, hsplit, htail⟩ := exists_last_quote hopening
    have hshows : ∀ d : Char, d.isDigit = true →
        (redactAfter lead (wholeWord (key ++ "=" ++ spelling.fill [d]) after)).1.toList =
          (quote.char :: "[REDACTED]".toList ++ quote.char :: tail) ++ d :: spelling.closing := by
      intro d hd
      have hclosed : (key ++ "=" ++ spelling.fill [d]).toList =
          quote.char :: inside ++ quote.char :: (tail ++ d :: spelling.closing) := by
        rw [htext, hsplit]
        simp
      have hnot : quote.char ∉ tail ++ d :: spelling.closing := by
        simp [htail, hdigit d hd, notMem_closing hspelling]
      rw [hredact, redactValueToken_closed hclosed hnot, String.toList_ofList]
      simp
    refine ⟨_, _, spelling.writes_digit (d := '0') rfl, spelling.writes_digit (d := '1') rfl, ?_⟩
    exact redactPlainText_ne hlead (isToken_assigned hkey (spelling.writes_digit rfl).1)
      (isToken_assigned hkey (spelling.writes_digit rfl).1) (hshows '0' rfl) (hshows '1' rfl) (by decide)
  · -- no quote closes the key's, unless the value brings one
    have hwrites : (Quoting.word spelling).Writes (spelling.fill ['0', quote.char]) := by
      refine Spelling.writes_fill rfl (fun c hc ↦ ?_) ?_
      · rw [List.mem_singleton.mp hc]
        cases quote <;> decide
      · rintro quote' (rfl | rfl) hmem
        all_goals
          obtain hzero | rfl : quote'.char = '0' ∨ quote' = quote :=
            (List.mem_cons.mp hmem).imp_right fun h ↦ char_injective (List.mem_singleton.mp h)
          · cases quote' <;> cases hzero
          · exact hopening (List.mem_append_right _ (List.mem_cons_of_mem _ List.mem_cons_self))
    have hopen : redactValueToken (key ++ "=" ++ spelling.fill ['0']) = "[REDACTED]" := by
      have hnot : quote.char ∉ (rest ++ '=' :: spelling.opening) ++ (['0'] ++ spelling.closing) := by
        intro hmem
        rcases List.mem_append.mp hmem with hmem | hmem
        · exact hopening hmem
        · rcases List.mem_cons.mp hmem with hmem | hmem
          · exact hdigit '0' rfl hmem
          · exact notMem_closing hspelling hmem
      exact redactValueToken_unclosed (htext ['0']) hnot
    have hclosed : (key ++ "=" ++ spelling.fill ['0', quote.char]).toList =
        quote.char :: (rest ++ '=' :: spelling.opening ++ ['0']) ++ quote.char :: spelling.closing := by
      rw [htext]
      simp
    have hshows : (redactAfter lead (wholeWord (key ++ "=" ++ spelling.fill ['0']) after)).1.toList =
        [] ++ '[' :: "REDACTED]".toList := by
      rw [hredact, hopen]
      change "[REDACTED]".toList = '[' :: "REDACTED]".toList
      decide
    have hshows' : (redactAfter lead
        (wholeWord (key ++ "=" ++ spelling.fill ['0', quote.char]) after)).1.toList =
        [] ++ quote.char :: ("[REDACTED]".toList ++ quote.char :: spelling.closing) := by
      rw [hredact, redactValueToken_closed hclosed (notMem_closing hspelling), String.toList_ofList]
      rfl
    refine ⟨_, _, spelling.writes_digit (d := '0') rfl, hwrites, ?_⟩
    refine redactPlainText_ne hlead (isToken_assigned hkey (spelling.writes_digit rfl).1)
      (isToken_assigned hkey hwrites.1) hshows hshows' ?_
    cases quote <;> decide

theorem hides_assigned_iff (hlead : EndsBlank lead) (hkey : Str.IsToken key) (hequals : '=' ∉ key.toList)
    (hsensitive : hasSensitiveKey key = true) (hafter : StartsBlank after) :
    (∀ value value', (Quoting.word spelling).Writes value → (Quoting.word spelling).Writes value' →
      redactPlainText (lead ++ (key ++ "=" ++ value) ++ after) =
        redactPlainText (lead ++ (key ++ "=" ++ value') ++ after)) ↔
      (Announced (Str.splitWhitespace lead) →
        ∀ quote : Quote, key.toList.head? = some quote.char → spelling = .quoted quote) := by
  have hwhole : ∀ v : String, wholeWord (key ++ "=" ++ v) after = key ++ "=" ++ v := fun v ↦
    wholeWord_of_startsBlank _ hafter
  constructor
  · intro hhides hannounced quote hquote
    by_contra hspelling
    obtain ⟨rest, hrest⟩ : ∃ rest, key.toList = quote.char :: rest := by
      obtain ⟨c, cs, hcons⟩ := List.exists_cons_of_ne_nil hkey.toList_ne_nil
      rw [hcons] at hquote
      exact ⟨cs, by rw [hcons, Option.some.inj hquote]⟩
    obtain ⟨value, value', hvalue, hvalue', hne⟩ :=
      shows_assigned hlead hkey hafter hannounced hrest hspelling
    exact hne (hhides value value' hvalue hvalue')
  · intro hcovered value value' hvalue hvalue'
    refine redactPlainText_eq hlead (isToken_assigned hkey hvalue.1) (isToken_assigned hkey hvalue'.1) ?_
    rw [hwhole, hwhole]
    by_cases hannounced : Announced (Str.splitWhitespace lead)
    · rw [redactAfter_of_announced hannounced, redactAfter_of_announced hannounced]
      obtain ⟨c, rest, hcons⟩ := List.exists_cons_of_ne_nil hkey.toList_ne_nil
      have htext : ∀ v : String, (key ++ "=" ++ v).toList = c :: (rest ++ '=' :: v.toList) := by
        intro v
        rw [toList_assigned, hcons, List.cons_append]
      by_cases hquote : ∃ quote : Quote, c = quote.char
      · obtain ⟨quote, rfl⟩ := hquote
        obtain rfl := hcovered hannounced quote (by rw [hcons]; rfl)
        have hclosed : ∀ {v : String}, (Quoting.word (.quoted quote)).Writes v → redactValueToken (key ++ "=" ++ v) =
            .ofList (quote.char :: "[REDACTED]".toList ++ quote.char :: []) := by
          rintro v ⟨-, inside, hv, -⟩
          have hclosed : (key ++ "=" ++ v).toList =
              quote.char :: (rest ++ '=' :: quote.char :: inside) ++ quote.char :: [] := by
            rw [htext, hv]
            simp
          exact redactValueToken_closed hclosed List.not_mem_nil
        rw [hclosed hvalue, hclosed hvalue']
      · have hplain : ∀ v : String, redactValueToken (key ++ "=" ++ v) = "[REDACTED]" := by
          intro v
          refine redactValueToken_plain fun quote hhead ↦ hquote ⟨quote, ?_⟩
          rw [htext] at hhead
          exact Option.some.inj hhead
        rw [hplain, hplain]
    · rw [redactAfter_of_not_announced hannounced, redactAfter_of_not_announced hannounced,
        redactStep_assigned hequals hsensitive value value']

end Assigned

/-! ## Every passage -/

namespace Passage

theorem endsBlank_gap (s : String) (gap : Gap) : EndsBlank (s ++ gap.text) := by
  intro c hc
  rw [String.toList_append, List.getLast?_append_of_ne_nil _ (mt String.toList_eq_nil_iff.mp gap.notEmpty)]
    at hc
  exact List.all_eq_true.mp gap.blank c (List.mem_of_mem_getLast? hc)

/-- Redaction hides the secret of a passage exactly when the passage is covered. -/
theorem hides_iff (p : Passage) : p.Hides ↔ p.Covered := by
  cases p with
  | marked before marker _ gap quoting after => exact hides_value_iff (endsBlank_gap _ gap) quoting after
  | authorized before marker _ gap scheme _ gap' quoting after =>
      exact hides_value_iff (endsBlank_gap _ gap') quoting after
  | assigned before hbefore key hkey hequals hsensitive spelling after hafter =>
      exact hides_assigned_iff hbefore hkey hequals hsensitive hafter

/-- The words of a quoted password after the first are not redacted. -/
theorem quoted_password_shows : ¬∀ p : Passage, p.Hides := by
  intro hhides
  have hwrites : ∀ value ∈ ["\"hunter two\"", "\"hunter six\""], (Quoting.phrase .double 0).Writes value := by
    intro value hvalue
    rcases List.mem_pair.mp hvalue with rfl | rfl
    · exact ⟨⟨"hunter two".toList, by decide, by decide⟩, by decide⟩
    · exact ⟨⟨"hunter six".toList, by decide, by decide⟩, by decide⟩
  have hpassword := hhides (.marked "" "--password" (by decide) ⟨" ", by decide, by decide⟩
    (.phrase .double 0) "") _ _ (hwrites _ List.mem_cons_self)
    (hwrites _ (List.mem_cons_of_mem _ List.mem_cons_self))
  revert hpassword
  decide

end Passage

end CosmicMounter

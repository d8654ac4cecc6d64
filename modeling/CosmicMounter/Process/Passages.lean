import CosmicMounter.Process.Announcement

/-!
# Secret values in plain text

A passage is a text with a place for a secret: after a marker, or after the
equals sign of a sensitive key.  Redaction hides the secret when the text is
the same for all values that are written alike.
-/

namespace CosmicMounter

open Rust

/-! ## How a value is written -/

inductive Quote
  | double
  | single
  deriving DecidableEq, Repr

def Quote.char : Quote → Char
  | .double => '"'
  | .single => '\''

/-- A value without white space: `abc`, `"abc`, `"ab"c` or `"abc"`. -/
inductive Spelling
  | plain
  | unclosed (quote : Quote)
  | trailing (quote : Quote)
  | quoted (quote : Quote)
  deriving DecidableEq, Repr

def Spelling.Writes : Spelling → List Char → Prop
  | .plain, value => ∀ quote : Quote, value.head? ≠ some quote.char
  | .unclosed quote, value => ∃ rest, value = quote.char :: rest ∧ quote.char ∉ rest
  | .trailing quote, value =>
      ∃ inside rest, value = quote.char :: inside ++ quote.char :: rest ∧ rest ≠ []
  | .quoted quote, value => ∃ inside, value = quote.char :: inside ++ [quote.char] ∧ quote.char ∉ inside

/-- One word, or a quoted string of `extra + 2` words. -/
inductive Quoting
  | word (spelling : Spelling)
  | phrase (quote : Quote) (extra : Nat)
  deriving DecidableEq, Repr

def Quoting.Writes : Quoting → String → Prop
  | .word spelling, value => Str.IsToken value ∧ spelling.Writes value.toList
  | .phrase quote extra, value => (Spelling.quoted quote).Writes value.toList ∧
      (Str.splitWhitespace value).length = extra + 2

/-! ## Passages -/

def valueMarkers : List String :=
  ["bearer", "--password", "--passwd", "--token", "--client-id", "--client-secret"]

/-- White space between two words. -/
structure Gap where
  text : String
  notEmpty : text ≠ ""
  blank : Str.isBlank text = true

/-- A text with a place for a secret value. -/
inductive Passage
  | marked (before marker : String) (hmarker : Str.toAsciiLowercase marker ∈ valueMarkers) (gap : Gap)
      (quoting : Quoting) (after : String)
  | authorized (before marker : String) (hmarker : Str.toAsciiLowercase marker = "authorization:")
      (gap : Gap) (scheme : String) (hscheme : Str.IsToken scheme) (gap' : Gap) (quoting : Quoting)
      (after : String)
  | assigned (before : String) (hbefore : EndsBlank before) (key : String) (hkey : Str.IsToken key)
      (hequals : '=' ∉ key.toList) (hsensitive : hasSensitiveKey key = true) (spelling : Spelling)
      (after : String) (hafter : StartsBlank after)

namespace Passage

/-- The text before the value, or before the word `KEY=value`. -/
def lead : Passage → String
  | marked before marker _ gap _ _ => before ++ marker ++ gap.text
  | authorized before marker _ gap scheme _ gap' _ _ => before ++ marker ++ gap.text ++ scheme ++ gap'.text
  | assigned before .. => before

def text (p : Passage) (value : String) : String :=
  match p with
  | marked _ _ _ _ _ after | authorized _ _ _ _ _ _ _ _ after => p.lead ++ value ++ after
  | assigned _ _ key _ _ _ _ after _ => p.lead ++ (key ++ "=" ++ value) ++ after

def quoting : Passage → Quoting
  | marked _ _ _ _ quoting _ | authorized _ _ _ _ _ _ _ quoting _ => quoting
  | assigned _ _ _ _ _ _ spelling _ _ => .word spelling

/-- No character of the secret shows. -/
def Hides (p : Passage) : Prop :=
  ∀ value value', p.quoting.Writes value → p.quoting.Writes value' →
    redactPlainText (p.text value) = redactPlainText (p.text value')

end Passage

/-- One announced word is hidden whole, but for the text after its last quote. -/
def Quoting.Fits (after : String) : Quoting → Prop
  | .word (.trailing quote) => quote.char ∈ headWord after
  | .word _ => True
  | .phrase _ _ => False

/-- A value after a marker is one announced word; an assigned one is not announced, or its key
opens no quote but that of a quoted value. -/
def Passage.Covered (p : Passage) : Prop :=
  match p with
  | marked _ _ _ _ quoting after | authorized _ _ _ _ _ _ _ quoting after =>
      Announced (Str.splitWhitespace p.lead) ∧ quoting.Fits after
  | assigned _ _ key _ _ _ spelling _ _ => Announced (Str.splitWhitespace p.lead) →
      ∀ quote : Quote, key.toList.head? = some quote.char → spelling = .quoted quote

/-! ## Values that are redacted as such -/

theorem char_isQuote (quote : Quote) : quote.char = '"' ∨ quote.char = '\'' := by
  cases quote
  · exact .inl rfl
  · exact .inr rfl

section ValueToken

variable {token : String} {quote : Quote} {inside rest : List Char}

/-- The text after the last quote is kept. -/
theorem redactValueToken_closed (htoken : token.toList = quote.char :: inside ++ quote.char :: rest)
    (hrest : quote.char ∉ rest) :
    redactValueToken token = .ofList (quote.char :: "[REDACTED]".toList ++ quote.char :: rest) := by
  have hkept : (inside ++ quote.char :: rest).rtakeWhile (· != quote.char) = rest := by
    have hreverse : ∀ c ∈ rest.reverse, (c != quote.char) = true := by
      intro c hc
      rw [bne_iff_ne]
      rintro rfl
      exact hrest (List.mem_reverse.mp hc)
    rw [List.rtakeWhile, List.reverse_append, List.reverse_cons, List.append_assoc,
      List.takeWhile_append_of_pos hreverse]
    simp
  unfold redactValueToken
  rw [htoken, List.cons_append]
  dsimp only
  rw [if_pos ⟨char_isQuote quote, List.mem_append_right _ List.mem_cons_self⟩, hkept]

theorem redactValueToken_unclosed (htoken : token.toList = quote.char :: rest) (hrest : quote.char ∉ rest) :
    redactValueToken token = "[REDACTED]" := by
  unfold redactValueToken
  rw [htoken]
  exact if_neg fun h ↦ hrest h.2

theorem redactValueToken_plain (h : ∀ quote : Quote, token.toList.head? ≠ some quote.char) :
    redactValueToken token = "[REDACTED]" := by
  unfold redactValueToken
  split
  · rfl
  · next c rest htoken =>
      rw [htoken] at h
      refine if_neg ?_
      rintro ⟨rfl | rfl, -⟩
      · exact h .double rfl
      · exact h .single rfl

end ValueToken

theorem toList_wholeWord (word after : String) :
    (wholeWord word after).toList = word.toList ++ headWord after := String.toList_ofList

/-- Once a quote follows, only what follows is kept. -/
theorem redactValueToken_wholeWord {value after : String} {quote : Quote} {rest : List Char}
    (hvalue : value.toList = quote.char :: rest) {inside tail : List Char}
    (hafter : headWord after = inside ++ quote.char :: tail) (htail : quote.char ∉ tail) :
    redactValueToken (wholeWord value after) =
      .ofList (quote.char :: "[REDACTED]".toList ++ quote.char :: tail) := by
  have hclosed : (wholeWord value after).toList = quote.char :: (rest ++ inside) ++ quote.char :: tail := by
    rw [toList_wholeWord, hvalue, hafter]
    simp
  exact redactValueToken_closed hclosed htail

theorem exists_last_quote {c : Char} {cs : List Char} (h : c ∈ cs) :
    ∃ inside tail, cs = inside ++ c :: tail ∧ c ∉ tail := by
  obtain ⟨inside, hinside⟩ := Str.exists_eq_append_rtakeWhile h
  refine ⟨inside, _, hinside, fun hmem ↦ ?_⟩
  simpa using List.mem_rtakeWhile_imp hmem

/-- Values that are written alike are redacted alike. -/
theorem redactValueToken_congr {spelling : Spelling} {value value' after : String}
    (hfits : (Quoting.word spelling).Fits after) (h : (Quoting.word spelling).Writes value)
    (h' : (Quoting.word spelling).Writes value') :
    redactValueToken (wholeWord value after) = redactValueToken (wholeWord value' after) := by
  obtain ⟨htoken, hwrites⟩ := h
  obtain ⟨htoken', hwrites'⟩ := h'
  have hquote : ∀ (quote : Quote) (rest rest' : List Char), value.toList = quote.char :: rest →
      value'.toList = quote.char :: rest' → quote.char ∈ headWord after →
      redactValueToken (wholeWord value after) = redactValueToken (wholeWord value' after) := by
    intro quote rest rest' hvalue hvalue' hafter
    obtain ⟨inside, tail, hsplit, htail⟩ := exists_last_quote hafter
    rw [redactValueToken_wholeWord hvalue hsplit htail, redactValueToken_wholeWord hvalue' hsplit htail]
  cases spelling with
  | plain =>
      have hhead : ∀ {v : String}, Str.IsToken v → (wholeWord v after).toList.head? = v.toList.head? := by
        intro v hv
        obtain ⟨c, cs, hcons⟩ := List.exists_cons_of_ne_nil hv.toList_ne_nil
        rw [toList_wholeWord, hcons]
        rfl
      rw [redactValueToken_plain fun quote ↦ hhead htoken ▸ hwrites quote,
        redactValueToken_plain fun quote ↦ hhead htoken' ▸ hwrites' quote]
  | unclosed quote =>
      obtain ⟨rest, hvalue, hrest⟩ := hwrites
      obtain ⟨rest', hvalue', hrest'⟩ := hwrites'
      by_cases hafter : quote.char ∈ headWord after
      · exact hquote quote rest rest' hvalue hvalue' hafter
      · have hopen : ∀ {v : String} {r : List Char}, v.toList = quote.char :: r → quote.char ∉ r →
            redactValueToken (wholeWord v after) = "[REDACTED]" := by
          intro v r hv hr
          have hopen : (wholeWord v after).toList = quote.char :: (r ++ headWord after) := by
            rw [toList_wholeWord, hv, List.cons_append]
          refine redactValueToken_unclosed hopen ?_
          rw [List.mem_append]
          exact not_or.mpr ⟨hr, hafter⟩
        rw [hopen hvalue hrest, hopen hvalue' hrest']
  | trailing quote =>
      obtain ⟨inside, rest, hvalue, -⟩ := hwrites
      obtain ⟨inside', rest', hvalue', -⟩ := hwrites'
      exact hquote quote _ _ hvalue hvalue' hfits
  | quoted quote =>
      obtain ⟨inside, hvalue, -⟩ := hwrites
      obtain ⟨inside', hvalue', -⟩ := hwrites'
      by_cases hafter : quote.char ∈ headWord after
      · exact hquote quote _ _ hvalue hvalue' hafter
      · have hclosed : ∀ {v : String} {inside : List Char}, v.toList = quote.char :: inside ++ [quote.char] →
            redactValueToken (wholeWord v after) =
              .ofList (quote.char :: "[REDACTED]".toList ++ quote.char :: headWord after) := by
          intro v inside hv
          have hwhole : (wholeWord v after).toList = quote.char :: inside ++ quote.char :: headWord after := by
            rw [toList_wholeWord, hv]
            simp
          exact redactValueToken_closed hwhole hafter
        rw [hclosed hvalue, hclosed hvalue']

end CosmicMounter

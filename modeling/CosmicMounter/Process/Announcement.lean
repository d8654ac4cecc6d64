import CosmicMounter.Process.Words

/-!
# Announced values

A marker such as `Bearer` announces the words after it as values.  A word that
is announced itself announces nothing, so what a word of a text is depends on
how the words before it group.
-/

namespace CosmicMounter

open Rust

/-! ## Groups of words -/

/-- Words that group: each is an ordinary word, or it has all it announces behind it. -/
inductive Settled : List String → Prop
  | nil : Settled []
  | group {words given : List String} {word : String} : Settled words →
      given.length = announces word → Settled (words ++ word :: given)

/-- The next word is announced by one of these, which is not announced itself. -/
def Announced (words : List String) : Prop :=
  ∃ earlier marker given, words = earlier ++ marker :: given ∧ Settled earlier ∧
    given.length < announces marker

theorem settled_or_announced (words : List String) : Settled words ∨ Announced words := by
  induction words using List.reverseRecOn with
  | nil => exact .inl .nil
  | append_singleton words word ih =>
      rcases ih with hsettled | ⟨earlier, marker, given, rfl, hsettled, hgiven⟩
      · by_cases hword : announces word = 0
        · exact .inl (hsettled.group hword.symm)
        · exact .inr ⟨words, word, [], rfl, hsettled, Nat.pos_of_ne_zero hword⟩
      · rw [List.append_assoc, List.cons_append]
        have hlength : (given ++ [word]).length = given.length + 1 := List.length_append
        rcases Nat.lt_or_eq_of_le (Nat.succ_le_of_lt hgiven) with hlt | heq
        · exact .inr ⟨earlier, marker, given ++ [word], rfl, hsettled, hlength ▸ hlt⟩
        · exact .inl (hsettled.group (hlength.trans heq))

theorem redactStep_zero_snd (word : String) : (redactStep 0 word).2 = announces word := by
  rw [redactStep, if_neg (Nat.lt_irrefl 0)]
  split_ifs with hword
  · rfl
  · exact (not_not.mp hword).symm

theorem redactStep_of_pos {remaining : Nat} (h : 0 < remaining) (word : String) :
    redactStep remaining word = (redactValueToken word, remaining - 1) := if_pos h

theorem carry_of_le {given : List String} {remaining : Nat} (h : given.length ≤ remaining) :
    carry remaining given = remaining - given.length := by
  induction given generalizing remaining with
  | nil => rfl
  | cons word given ih =>
      rw [List.length_cons] at h ⊢
      rw [carry, redactStep_of_pos (by omega), ih (by omega)]
      omega

theorem carry_group {earlier given : List String} {marker : String} (hearlier : carry 0 earlier = 0)
    (hgiven : given.length ≤ announces marker) :
    carry 0 (earlier ++ marker :: given) = announces marker - given.length := by
  rw [carry_append, hearlier, carry, redactStep_zero_snd, carry_of_le hgiven]

theorem carry_of_settled {words : List String} (h : Settled words) : carry 0 words = 0 := by
  induction h with
  | nil => rfl
  | group _ hgiven ih => rw [carry_group ih hgiven.le, hgiven, Nat.sub_self]

theorem announced_iff (words : List String) : Announced words ↔ 0 < carry 0 words := by
  constructor
  · rintro ⟨earlier, marker, given, rfl, hsettled, hgiven⟩
    rw [carry_group (carry_of_settled hsettled) hgiven.le]
    exact Nat.sub_pos_of_lt hgiven
  · intro hcarry
    refine (settled_or_announced words).resolve_left fun hsettled ↦ ?_
    rw [carry_of_settled hsettled] at hcarry
    exact Nat.lt_irrefl 0 hcarry

/-! ## A word in its text -/

theorem redactRuns_append {pieces : List String} (h : ∀ run ∈ pieces, Str.IsToken run ∨ Str.isBlank run = true)
    (remaining : Nat) (rest : List String) :
    redactRuns remaining (pieces ++ rest) = redactRuns remaining pieces ++
      redactRuns (carry remaining (pieces.filter fun run ↦ !Str.isBlank run)) rest := by
  induction pieces generalizing remaining with
  | nil => rfl
  | cons run pieces ih =>
      have ih' := ih fun r hr ↦ h r (List.mem_cons_of_mem _ hr)
      rcases h run List.mem_cons_self with htoken | hblank
      · rw [List.cons_append, redactRuns_token htoken, redactRuns_token htoken, ih',
          List.filter_cons_of_pos (by simp [htoken.isBlank]), carry, List.cons_append]
      · rw [List.cons_append, redactRuns_blank hblank, redactRuns_blank hblank, ih',
          List.filter_cons_of_neg (by simp [hblank]), List.cons_append]

/-- Nothing, or a text that white space ends. -/
def EndsBlank (s : String) : Prop := ∀ c ∈ s.toList.getLast?, Str.isWhitespace c = true

def StartsBlank (s : String) : Prop := ∀ c ∈ s.toList.head?, Str.isWhitespace c = true

/-- The characters of the word that stands at the start of a text. -/
def headWord (s : String) : List Char := s.toList.takeWhile fun c ↦ !Str.isWhitespace c

def afterWord (s : String) : String := .ofList (s.toList.dropWhile fun c ↦ !Str.isWhitespace c)

theorem headWord_of_startsBlank {s : String} (h : StartsBlank s) : headWord s = [] := by
  rw [headWord, List.takeWhile_eq_nil_iff]
  intro hpos
  have hhead := h _ (List.head?_eq_some_head (List.ne_nil_of_length_pos hpos))
  simpa [List.head_eq_getElem] using hhead

theorem isWhitespace_headWord {s : String} {c : Char} (h : c ∈ headWord s) : Str.isWhitespace c = false := by
  simpa using List.mem_takeWhile_imp h

theorem startsBlank_afterWord (s : String) : StartsBlank (afterWord s) := by
  intro c hc
  rw [afterWord, String.toList_ofList] at hc
  have hnot := List.head?_dropWhile_not (fun c ↦ !Str.isWhitespace c) s.toList
  rw [Option.mem_def.mp hc] at hnot
  simpa using hnot

/-- How a word is redacted after others. -/
def redactAfter (before word : String) : String × Nat :=
  redactStep (carry 0 (Str.splitWhitespace before)) word

theorem redactPlainText_cut {before word after : String} (hbefore : EndsBlank before)
    (hword : Str.IsToken word) (hafter : StartsBlank after) :
    redactPlainText (before ++ (word ++ after)) = redactPlainText before ++ ((redactAfter before word).1 ++
      Str.join "" (redactRuns (redactAfter before word).2 (Str.textRuns after))) := by
  have hruns : Str.textRuns (before ++ (word ++ after)) =
      Str.textRuns before ++ word :: Str.textRuns after := by
    rw [Str.textRuns_append hbefore (head_token_append hword after), Str.textRuns_token_append _ hword hafter]
  rw [redactPlainText, hruns, redactRuns_append fun run hrun ↦ Str.isToken_or_isBlank_of_mem hrun,
    redactRuns_token hword, join_append, redactPlainText, redactAfter, Str.splitWhitespace]
  congr 1
  rw [← String.toList_inj, Str.toList_join_cons, String.toList_append]

/-- A word with all that is glued to it in the text. -/
def wholeWord (word after : String) : String := .ofList (word.toList ++ headWord after)

theorem isToken_wholeWord {word : String} (h : Str.IsToken word) (after : String) :
    Str.IsToken (wholeWord word after) := by
  constructor
  · intro hempty
    have hnil := congrArg String.toList hempty
    rw [wholeWord, String.toList_ofList] at hnil
    exact h.toList_ne_nil (List.append_eq_nil_iff.mp hnil).1
  · intro c hc
    rw [wholeWord, String.toList_ofList] at hc
    rcases List.mem_append.mp hc with hc | hc
    · exact h.noSpace c hc
    · exact isWhitespace_headWord hc

theorem wholeWord_append_afterWord (word after : String) :
    wholeWord word after ++ afterWord after = word ++ after := by
  rw [← String.toList_inj]
  simp [wholeWord, headWord, afterWord]

/-- A word is redacted by what is announced before it. -/
theorem redactPlainText_word {before word : String} (hbefore : EndsBlank before) (hword : Str.IsToken word)
    (after : String) :
    redactPlainText (before ++ word ++ after) = redactPlainText before ++
      ((redactAfter before (wholeWord word after)).1 ++
        Str.join "" (redactRuns (redactAfter before (wholeWord word after)).2
          (Str.textRuns (afterWord after)))) := by
  rw [← redactPlainText_cut hbefore (isToken_wholeWord hword after) (startsBlank_afterWord after),
    wholeWord_append_afterWord, String.append_assoc]

/-- Equal redactions of two words give equal texts. -/
theorem redactPlainText_eq {before word word' after : String} (hbefore : EndsBlank before)
    (hword : Str.IsToken word) (hword' : Str.IsToken word')
    (h : redactAfter before (wholeWord word after) = redactAfter before (wholeWord word' after)) :
    redactPlainText (before ++ word ++ after) = redactPlainText (before ++ word' ++ after) := by
  rw [redactPlainText_word hbefore hword, redactPlainText_word hbefore hword', h]

/-- Redactions of two words that part at a character give different texts. -/
theorem redactPlainText_ne {before word word' after : String} (hbefore : EndsBlank before)
    (hword : Str.IsToken word) (hword' : Str.IsToken word') {common rest rest' : List Char} {c c' : Char}
    (h : (redactAfter before (wholeWord word after)).1.toList = common ++ c :: rest)
    (h' : (redactAfter before (wholeWord word' after)).1.toList = common ++ c' :: rest') (hne : c ≠ c') :
    redactPlainText (before ++ word ++ after) ≠ redactPlainText (before ++ word' ++ after) := by
  rw [redactPlainText_word hbefore hword, redactPlainText_word hbefore hword']
  intro heq
  have hlist := congrArg String.toList heq
  simp only [String.toList_append, h, h', List.append_assoc, List.append_cancel_left_eq,
    List.cons_append, List.cons.injEq] at hlist
  exact hne hlist.1

end CosmicMounter

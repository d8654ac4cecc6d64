import CosmicMounter.Process.Redaction

/-!
# Redaction of lines of words

In a text whose lines are words with single blanks between them, redaction
works word by word; only the number of words still to redact is carried on.
-/

namespace CosmicMounter

open Rust

/-! ## Runs of a line -/

def lineRuns (words : List String) : List String := words.intersperse " " ++ ["\n"]

theorem isBlank_blank : Str.isBlank " " = true ∧ Str.isBlank "\n" = true := by decide

theorem head_token_append {word : String} (h : Str.IsToken word) (rest : String) :
    ∀ c ∈ (word ++ rest).toList.head?, Str.isWhitespace c = false := by
  obtain ⟨c, tail, hword⟩ := List.exists_cons_of_ne_nil h.toList_ne_nil
  intro d hd
  rw [String.toList_append, hword] at hd
  obtain rfl : c = d := by simpa using hd
  exact h.noSpace c (by simp [hword])

theorem textRuns_words {words : List String} (hwords : ∀ word ∈ words, Str.IsToken word)
    (hne : words ≠ []) (rest : String)
    (hrest : ∀ c ∈ rest.toList.head?, Str.isWhitespace c = true) :
    Str.textRuns (Str.join " " words ++ rest) = words.intersperse " " ++ Str.textRuns rest := by
  induction words with
  | nil => exact absurd rfl hne
  | cons word words ih =>
      have hword : Str.IsToken word := hwords word (by simp)
      cases words with
      | nil =>
          rw [Str.join_singleton, Str.textRuns_token_append _ hword hrest]
          rfl
      | cons next others =>
          have hwords' : ∀ w ∈ next :: others, Str.IsToken w :=
            fun w hw ↦ hwords w (List.mem_cons_of_mem _ hw)
          have htext : Str.join " " (word :: next :: others) ++ rest =
              word ++ (" " ++ (Str.join " " (next :: others) ++ rest)) := by
            rw [← String.toList_inj]
            simp [Str.join, List.intercalate_cons_cons]
          have hhead : ∀ c ∈ (Str.join " " (next :: others) ++ rest).toList.head?,
              Str.isWhitespace c = false := by
            obtain ⟨tail, htail⟩ : ∃ tail, Str.join " " (next :: others) ++ rest = next ++ tail := by
              refine ⟨.ofList ((Str.join " " (next :: others) ++ rest).toList.drop next.toList.length), ?_⟩
              rw [← String.toList_inj]
              cases others <;> simp [Str.join, List.intercalate_cons_cons]
            rw [htail]
            exact head_token_append (hwords' next (by simp)) tail
          have hblank : ∀ c ∈ (" " ++ (Str.join " " (next :: others) ++ rest)).toList.head?,
              Str.isWhitespace c = true := by
            intro c hc
            obtain rfl : ' ' = c := by simpa using hc
            decide
          rw [htext, Str.textRuns_token_append _ hword hblank,
            Str.textRuns_blank_append _ (by decide) isBlank_blank.1 hhead, ih hwords' (by simp)]
          rfl

theorem textRuns_line {words : List String} (hwords : ∀ word ∈ words, Str.IsToken word)
    (hne : words ≠ []) (rest : String)
    (hrest : ∀ c ∈ rest.toList.head?, Str.isWhitespace c = false) :
    Str.textRuns (Str.join " " words ++ "\n" ++ rest) = lineRuns words ++ Str.textRuns rest := by
  have hnewline : ∀ c ∈ ("\n" ++ rest).toList.head?, Str.isWhitespace c = true := by
    intro c hc
    obtain rfl : '\n' = c := by simpa using hc
    decide
  rw [String.append_assoc, textRuns_words hwords hne _ hnewline,
    Str.textRuns_blank_append rest (by decide) isBlank_blank.2 hrest, lineRuns, List.append_assoc]
  rfl

/-- Words with single blanks between them are read back. -/
theorem splitWhitespace_join {words : List String} (hwords : ∀ word ∈ words, Str.IsToken word) :
    Str.splitWhitespace (Str.join " " words) = words := by
  by_cases hne : words = []
  · subst hne
    rfl
  · have hruns := textRuns_words hwords hne "" (by simp)
    rw [String.append_empty, Str.textRuns_empty, List.append_nil] at hruns
    rw [Str.splitWhitespace, hruns]
    clear hruns hne
    induction words with
    | nil => rfl
    | cons word words ih =>
        have hword : Str.isBlank word = false := (hwords word (by simp)).isBlank
        have ih' := ih fun w hw ↦ hwords w (List.mem_cons_of_mem _ hw)
        cases words with
        | nil => simp [hword]
        | cons next others =>
            rw [List.intersperse_cons_cons, List.filter_cons_of_pos (by simp [hword]),
              List.filter_cons_of_neg (by simp [isBlank_blank.1]), ih']

/-! ## Redacting words -/

def redactWords : Nat → List String → List String
  | _, [] => []
  | remaining, word :: rest =>
      (redactStep remaining word).1 :: redactWords (redactStep remaining word).2 rest

/-- The number of tokens still to redact after these words. -/
def carry : Nat → List String → Nat
  | remaining, [] => remaining
  | remaining, word :: rest => carry (redactStep remaining word).2 rest

theorem redactWords_append (remaining : Nat) (words words' : List String) :
    redactWords remaining (words ++ words') =
      redactWords remaining words ++ redactWords (carry remaining words) words' := by
  induction words generalizing remaining with
  | nil => rfl
  | cons word words ih => rw [List.cons_append, redactWords, ih, redactWords, carry, List.cons_append]

theorem carry_append (remaining : Nat) (words words' : List String) :
    carry remaining (words ++ words') = carry (carry remaining words) words' := by
  induction words generalizing remaining with
  | nil => rfl
  | cons word words ih => rw [List.cons_append, carry, ih, carry]

theorem redactRuns_line {words : List String} (hwords : ∀ word ∈ words, Str.IsToken word)
    (remaining : Nat) (rest : List String) :
    redactRuns remaining (lineRuns words ++ rest) =
      lineRuns (redactWords remaining words) ++ redactRuns (carry remaining words) rest := by
  induction words generalizing remaining with
  | nil => exact redactRuns_blank isBlank_blank.2 remaining rest
  | cons word words ih =>
      have hword : Str.IsToken word := hwords word (by simp)
      have hwords' : ∀ w ∈ words, Str.IsToken w := fun w hw ↦ hwords w (List.mem_cons_of_mem _ hw)
      have ih' := ih hwords' (redactStep remaining word).2
      cases words with
      | nil =>
          have hruns : lineRuns [word] ++ rest = word :: "\n" :: rest := rfl
          rw [hruns, redactRuns_token hword, redactRuns_blank isBlank_blank.2]
          rfl
      | cons next others =>
          have hruns : lineRuns (word :: next :: others) ++ rest =
              word :: " " :: (lineRuns (next :: others) ++ rest) := rfl
          rw [hruns, redactRuns_token hword, redactRuns_blank isBlank_blank.1, ih']
          rfl

/-- The lines of a table, with the count carried from each line to the next. -/
def redactLines : Nat → List (List String) → List (List String)
  | _, [] => []
  | remaining, words :: rest =>
      redactWords remaining words :: redactLines (carry remaining words) rest

def tableText (rows : List (List String)) : String := Str.unlines (rows.map (Str.join " "))

theorem join_lineRuns (words : List String) :
    Str.join "" (lineRuns words) = Str.join " " words ++ "\n" := by
  rw [lineRuns]
  induction words with
  | nil => rfl
  | cons word words ih =>
      cases words with
      | nil =>
          rw [List.intersperse_singleton, ← String.toList_inj, List.singleton_append,
            Str.toList_join_cons]
          simp
      | cons next others =>
          have hruns : (word :: next :: others).intersperse " " ++ ["\n"] =
              word :: " " :: ((next :: others).intersperse " " ++ ["\n"]) := rfl
          rw [hruns, ← String.toList_inj, Str.toList_join_cons, Str.toList_join_cons, ih]
          simp [Str.join, List.intercalate_cons_cons]

theorem join_append (pieces pieces' : List String) :
    Str.join "" (pieces ++ pieces') = Str.join "" pieces ++ Str.join "" pieces' := by
  rw [← String.toList_inj, String.toList_append]
  induction pieces with
  | nil => rfl
  | cons piece pieces ih =>
      rw [List.cons_append, Str.toList_join_cons, ih, Str.toList_join_cons, List.append_assoc]

/-- Redaction of a table of words is redaction of its words. -/
theorem redactPlainText_tableText {rows : List (List String)}
    (hrows : ∀ words ∈ rows, words ≠ [] ∧ ∀ word ∈ words, Str.IsToken word) :
    redactPlainText (tableText rows) = tableText (redactLines 0 rows) := by
  have hhead : ∀ rows : List (List String),
      (∀ words ∈ rows, words ≠ [] ∧ ∀ word ∈ words, Str.IsToken word) →
      ∀ c ∈ (tableText rows).toList.head?, Str.isWhitespace c = false := by
    intro rows hrows
    cases rows with
    | nil => simp [tableText]
    | cons words rows =>
        obtain ⟨hne, hwords⟩ := hrows words (by simp)
        obtain ⟨word, others, hcons⟩ := List.exists_cons_of_ne_nil hne
        obtain ⟨tail, htail⟩ : ∃ tail, tableText (words :: rows) = word ++ tail := by
          refine ⟨.ofList ((tableText (words :: rows)).toList.drop word.toList.length), ?_⟩
          rw [← String.toList_inj, hcons, tableText]
          cases others <;> simp [Str.join, List.intercalate_cons_cons]
        rw [htail]
        exact head_token_append (hwords word (by simp [hcons])) tail
  have hrun : ∀ (rows : List (List String)) (remaining : Nat),
      (∀ words ∈ rows, words ≠ [] ∧ ∀ word ∈ words, Str.IsToken word) →
      Str.join "" (redactRuns remaining (Str.textRuns (tableText rows))) =
        tableText (redactLines remaining rows) := by
    intro rows
    induction rows with
    | nil => exact fun _ _ ↦ rfl
    | cons words rows ih =>
        intro remaining hrows
        obtain ⟨hne, hwords⟩ := hrows words (by simp)
        have hrest : ∀ ws ∈ rows, ws ≠ [] ∧ ∀ word ∈ ws, Str.IsToken word :=
          fun ws hws ↦ hrows ws (List.mem_cons_of_mem _ hws)
        have htext : tableText (words :: rows) = Str.join " " words ++ "\n" ++ tableText rows := rfl
        rw [htext, textRuns_line hwords hne _ (hhead rows hrest), redactRuns_line hwords, join_append,
          join_lineRuns, ih _ hrest]
        rfl
  exact hrun rows 0 hrows

end CosmicMounter

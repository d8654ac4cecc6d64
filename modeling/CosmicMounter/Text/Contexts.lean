import CosmicMounter.Text.Marking

/-!
# Words inside a text

The words of a list are read from left to right, with the word that is not
finished yet.  Passages whose words are the same up to masking look the same
in every surrounding.
-/

namespace Text

variable {α : Type*}

/-! ## Reading words -/

/-- The runs of elements that are not all blank. -/
def words (blank : α → Bool) (l : List α) : List (List α) :=
  (runs blank l).filter fun run ↦ !run.all blank

/-- An unfinished word is a word unless it is empty. -/
def finished : List α → List (List α)
  | [] => []
  | a :: word => [a :: word]

def wordsFrom (blank : α → Bool) (current : List α) : List α → List (List α)
  | [] => finished current
  | a :: rest =>
      if blank a then finished current ++ wordsFrom blank [] rest
      else wordsFrom blank (current ++ [a]) rest

section Words

variable {blank : α → Bool} {current l rest word : List α}

theorem finished_of_ne_nil (h : word ≠ []) : finished word = [word] := by
  cases word with
  | nil => exact absurd rfl h
  | cons a word => rfl

theorem words_append_of_word (hne : word ≠ []) (hword : ∀ a ∈ word, blank a = false)
    (hrest : ∀ a ∈ rest.head?, blank a = true) : words blank (word ++ rest) = word :: words blank rest := by
  have hcut : runs blank (word ++ rest) = word :: runs blank rest := by
    apply runs_append hne hword
    intro a ha
    simp [hrest a ha]
  have hall : word.all blank = false := by
    obtain ⟨a, tail, rfl⟩ := List.exists_cons_of_ne_nil hne
    simp [hword a List.mem_cons_self]
  rw [words, hcut, List.filter_cons_of_pos (by simp [hall]), words]

theorem words_append_of_blank (hblank : ∀ a ∈ word, blank a = true)
    (hrest : ∀ a ∈ rest.head?, blank a = false) : words blank (word ++ rest) = words blank rest := by
  cases word with
  | nil => rfl
  | cons a tail =>
      have hcut : runs blank (a :: tail ++ rest) = (a :: tail) :: runs blank rest := by
        apply runs_append (List.cons_ne_nil a tail) hblank
        intro b hb
        simp [hrest b hb]
      have hall : (a :: tail).all blank = true := List.all_eq_true.mpr hblank
      rw [words, hcut, List.filter_cons_of_neg (by simp [hall]), words]

theorem head_dropWhile_not (l : List α) : ∀ a ∈ (l.dropWhile blank).head?, blank a = false := by
  intro a ha
  have hnot := List.head?_dropWhile_not blank l
  rw [ha] at hnot
  simpa using hnot

theorem words_dropWhile (l : List α) : words blank l = words blank (l.dropWhile blank) := by
  conv_lhs => rw [← List.takeWhile_append_dropWhile (p := blank) (l := l)]
  exact words_append_of_blank (fun a ha ↦ List.mem_takeWhile_imp ha) (head_dropWhile_not l)

theorem words_cons_of_blank {a : α} (ha : blank a = true) : words blank (a :: l) = words blank l := by
  rw [words_dropWhile, List.dropWhile_cons_of_pos ha, ← words_dropWhile]

/-- Reading from left to right finds the words. -/
theorem words_append_eq_wordsFrom (hcurrent : ∀ a ∈ current, blank a = false) (l : List α) :
    words blank (current ++ l) = wordsFrom blank current l := by
  induction l generalizing current with
  | nil =>
      cases current with
      | nil => rfl
      | cons a tail =>
          have hnone : ∀ b ∈ ([] : List α).head?, blank b = true := by simp
          rw [words_append_of_word (List.cons_ne_nil a tail) hcurrent hnone]
          rfl
  | cons a rest ih =>
      cases ha : blank a with
      | true =>
          have hrest : words blank (a :: rest) = wordsFrom blank [] rest := by
            rw [words_cons_of_blank ha]
            exact ih fun _ h ↦ absurd h List.not_mem_nil
          rw [wordsFrom, if_pos ha, ← hrest]
          cases current with
          | nil => rfl
          | cons b tail => exact words_append_of_word (List.cons_ne_nil b tail) hcurrent (by simpa using ha)
      | false =>
          have hnext : ∀ b ∈ current ++ [a], blank b = false := by
            intro b hb
            rcases List.mem_append.mp hb with hb | hb
            · exact hcurrent b hb
            · rw [List.mem_singleton.mp hb, ha]
          rw [wordsFrom, ha, ← ih hnext, List.append_assoc]
          rfl

theorem words_eq_wordsFrom (l : List α) : words blank l = wordsFrom blank [] l :=
  words_append_eq_wordsFrom (fun _ h ↦ absurd h List.not_mem_nil) l

theorem wordsFrom_ne_nil_of_current (hne : current ≠ []) (l : List α) : wordsFrom blank current l ≠ [] := by
  induction l generalizing current with
  | nil => simp [wordsFrom, finished_of_ne_nil hne]
  | cons a l ih =>
      rw [wordsFrom]
      split
      · simp [finished_of_ne_nil hne]
      · exact ih (by simp)

theorem wordsFrom_ne_nil (hne : l ≠ []) (hlast : ∀ a ∈ l.getLast?, blank a = false) :
    wordsFrom blank current l ≠ [] := by
  induction l generalizing current with
  | nil => exact absurd rfl hne
  | cons a l ih =>
      rw [wordsFrom]
      split
      · next ha =>
          have hl : l ≠ [] := by
            rintro rfl
            have hfalse := hlast a rfl
            rw [ha] at hfalse
            cases hfalse
          have hlast' : ∀ c ∈ l.getLast?, blank c = false := by
            intro c hc
            apply hlast
            rw [List.getLast?_cons, hc]
            rfl
          exact List.append_ne_nil_of_right_ne_nil _ (ih hl hlast')
      · exact wordsFrom_ne_nil_of_current (by simp) l

/-- Only the last word of a passage that ends in a word depends on what follows. -/
theorem wordsFrom_append (hlast : ∀ a ∈ l.getLast?, blank a = false) :
    wordsFrom blank current (l ++ rest) =
      (wordsFrom blank current l).dropLast ++
        wordsFrom blank ((wordsFrom blank current l).getLastD []) rest := by
  induction l generalizing current with
  | nil => cases current <;> rfl
  | cons a l ih =>
      rw [List.cons_append, wordsFrom, wordsFrom]
      cases ha : blank a with
      | true =>
          obtain ⟨b, l, rfl⟩ : ∃ b l', l = b :: l' := by
            cases l with
            | nil => simp [ha] at hlast
            | cons b l => exact ⟨b, l, rfl⟩
          have hlast' : ∀ c ∈ (b :: l).getLast?, blank c = false := by
            intro c hc
            exact hlast c (by simpa [List.getLast?_cons] using hc)
          have hne : wordsFrom blank [] (b :: l) ≠ [] := wordsFrom_ne_nil (List.cons_ne_nil b l) hlast'
          rw [if_pos rfl, if_pos rfl, ih hlast', List.dropLast_append_of_ne_nil hne, List.append_assoc,
            List.getLastD_eq_getLast?, List.getLastD_eq_getLast?, List.getLast?_append_of_ne_nil _ hne]
      | false =>
          have hlast' : ∀ c ∈ l.getLast?, blank c = false := by
            intro c hc
            apply hlast
            rw [List.getLast?_cons, hc]
            rfl
          rw [if_neg Bool.false_ne_true, if_neg Bool.false_ne_true, ih hlast']

/-- What is in front of an unfinished word is in front of the first word. -/
theorem wordsFrom_append_current (hne : current ≠ []) (l : List α) :
    wordsFrom blank (word ++ current) l = (wordsFrom blank current l).modifyHead (word ++ ·) := by
  induction l generalizing current with
  | nil =>
      rw [wordsFrom, wordsFrom, finished_of_ne_nil hne, finished_of_ne_nil (by simp [hne])]
      rfl
  | cons a l ih =>
      rw [wordsFrom, wordsFrom]
      split
      · rw [finished_of_ne_nil hne, finished_of_ne_nil (by simp [hne])]
        rfl
      · rw [List.append_assoc, ih (by simp)]

end Words

/-! ## Masked words -/

section Masked

variable (blank sensitive : α → Bool) (mark : List α)

def mask (word : List α) : List α := if word.any sensitive then mark else word

/-- Both words are masked, or they are the same. -/
def Alike (word word' : List α) : Prop :=
  word.any sensitive = true ∧ word'.any sensitive = true ∨ word = word'

/-- A passage that begins and ends in words. -/
structure IsPassage (l : List α) : Prop where
  ne_nil : l ≠ []
  head : ∀ a ∈ l.head?, blank a = false
  last : ∀ a ∈ l.getLast?, blank a = false

variable {blank sensitive mark} {word word' current current' l l' : List α}

theorem Alike.mask_eq (h : Alike sensitive word word') : mask sensitive mark word = mask sensitive mark word' := by
  rcases h with ⟨hword, hword'⟩ | rfl
  · rw [mask, mask, if_pos hword, if_pos hword']
  · rfl

theorem Alike.append (h : Alike sensitive word word') (before after : List α) :
    Alike sensitive (before ++ word ++ after) (before ++ word' ++ after) := by
  rcases h with ⟨hword, hword'⟩ | rfl
  · left
    simp only [List.any_append, hword, hword', Bool.or_true, Bool.true_or, and_self]
  · exact .inr rfl

theorem Alike.map_finished (h : Alike sensitive word word') :
    (finished word).map (mask sensitive mark) = (finished word').map (mask sensitive mark) := by
  rcases h with ⟨hword, hword'⟩ | rfl
  · have hne {text : List α} (htext : text.any sensitive = true) : text ≠ [] := by
      rintro rfl
      cases htext
    rw [finished_of_ne_nil (hne hword), finished_of_ne_nil (hne hword'), List.map_singleton,
      List.map_singleton, mask, mask, if_pos hword, if_pos hword']
  · rfl

/-- Words that are alike stay so whatever is added to them. -/
theorem Alike.map_wordsFrom (h : Alike sensitive current current') (rest : List α) :
    (wordsFrom blank current rest).map (mask sensitive mark) =
      (wordsFrom blank current' rest).map (mask sensitive mark) := by
  induction rest generalizing current current' with
  | nil => exact h.map_finished
  | cons a rest ih =>
      rw [wordsFrom, wordsFrom]
      split
      · rw [List.map_append, List.map_append, h.map_finished]
      · exact ih (h.append [] [a])

/-- In front of a passage an unfinished word only makes its first word longer. -/
theorem IsPassage.wordsFrom_eq (h : IsPassage blank l) (current : List α) :
    wordsFrom blank current l = (words blank l).modifyHead (current ++ ·) := by
  obtain ⟨a, rest, rfl⟩ := List.exists_cons_of_ne_nil h.ne_nil
  have ha : blank a = false := h.head a rfl
  rw [words_eq_wordsFrom, wordsFrom, wordsFrom, ha]
  exact wordsFrom_append_current (List.cons_ne_nil a []) rest

theorem IsPassage.forall₂_wordsFrom (h : IsPassage blank l) (h' : IsPassage blank l')
    (hwords : List.Forall₂ (Alike sensitive) (words blank l) (words blank l')) (current : List α) :
    List.Forall₂ (Alike sensitive) (wordsFrom blank current l) (wordsFrom blank current l') := by
  rw [h.wordsFrom_eq, h'.wordsFrom_eq]
  revert hwords
  generalize words blank l = xs
  generalize words blank l' = ys
  rintro (_ | ⟨hfirst, hothers⟩)
  · exact .nil
  · refine .cons ?_ hothers
    simpa using hfirst.append current []

theorem map_mask_of_forall₂ {xs ys : List (List α)} (h : List.Forall₂ (Alike sensitive) xs ys) :
    xs.map (mask sensitive mark) = ys.map (mask sensitive mark) := by
  induction h with
  | nil => rfl
  | cons hword _ ih => rw [List.map_cons, List.map_cons, hword.mask_eq, ih]

theorem forall₂_dropLast {R : List α → List α → Prop} {xs ys : List (List α)} (h : List.Forall₂ R xs ys)
    (hne : xs ≠ []) : List.Forall₂ R xs.dropLast ys.dropLast ∧ R (xs.getLastD []) (ys.getLastD []) := by
  induction h with
  | nil => exact absurd rfl hne
  | @cons x y xs ys hxy hrest ih =>
      cases hrest with
      | nil => exact ⟨.nil, hxy⟩
      | @cons x' y' xs ys hxy' hrest' =>
          obtain ⟨hdropped, hlast⟩ := ih (List.cons_ne_nil x' xs)
          exact ⟨.cons hxy hdropped, hlast⟩

/-- Passages with the same words up to masking look the same in every surrounding. -/
theorem IsPassage.map_mask_words (h : IsPassage blank l) (h' : IsPassage blank l')
    (hwords : List.Forall₂ (Alike sensitive) (words blank l) (words blank l')) (before after : List α) :
    (words blank (before ++ l ++ after)).map (mask sensitive mark) =
      (words blank (before ++ l' ++ after)).map (mask sensitive mark) := by
  have hcurrent (current : List α) :
      (wordsFrom blank current (l ++ after)).map (mask sensitive mark) =
        (wordsFrom blank current (l' ++ after)).map (mask sensitive mark) := by
    have hne : wordsFrom blank current l ≠ [] := wordsFrom_ne_nil h.ne_nil h.last
    obtain ⟨hdropped, hlast⟩ := forall₂_dropLast (h.forall₂_wordsFrom h' hwords current) hne
    rw [wordsFrom_append h.last, wordsFrom_append h'.last, List.map_append, List.map_append,
      map_mask_of_forall₂ hdropped, hlast.map_wordsFrom]
  have hbefore (current : List α) :
      (wordsFrom blank current (before ++ (l ++ after))).map (mask sensitive mark) =
        (wordsFrom blank current (before ++ (l' ++ after))).map (mask sensitive mark) := by
    induction before generalizing current with
    | nil => exact hcurrent current
    | cons a before ih =>
        rw [List.cons_append, List.cons_append, wordsFrom, wordsFrom]
        split
        · rw [List.map_append, List.map_append, ih]
        · exact ih _
  rw [words_eq_wordsFrom, words_eq_wordsFrom, List.append_assoc, List.append_assoc, hbefore]

end Masked

end Text

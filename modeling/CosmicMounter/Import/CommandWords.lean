import CosmicMounter.Import.Unit
import CosmicMounter.Systemd.CommandLine

/-!
# The words of a rendered command on import

The import takes quotes and backslashes from a rendered command as the service
manager does, and leaves the doubled percent signs as they are.
-/

namespace CosmicMounter.Import

open Rust Systemd

/-! ## Quoted words -/

theorem foldl_quoteChar (word prior : List Char) (tokens : List (List Char)) :
    (word.flatMap quoteChar).foldl Tokenizer.step ⟨tokens, prior, some '"', false⟩ =
      ⟨tokens, prior ++ word, some '"', false⟩ := by
  induction word generalizing prior with
  | nil => simp
  | cons c word ih =>
      have hchar : (quoteChar c).foldl Tokenizer.step ⟨tokens, prior, some '"', false⟩ =
          ⟨tokens, prior ++ [c], some '"', false⟩ := by
        by_cases hbackslash : c = '\\'
        · subst hbackslash
          rfl
        by_cases hquote : c = '"'
        · subst hquote
          rfl
        have hclose : ¬('"' = c) := fun h ↦ hquote h.symm
        simp [quoteChar, hbackslash, hquote, hclose, Tokenizer.step, Tokenizer.push]
      rw [List.flatMap_cons, List.foldl_append, hchar, ih, List.append_assoc, List.singleton_append]

theorem foldl_quote (word : List Char) (tokens : List (List Char)) :
    (quote word).foldl Tokenizer.step ⟨tokens, [], none, false⟩ = ⟨tokens, word, none, false⟩ := by
  have hopen : Tokenizer.step ⟨tokens, [], none, false⟩ '"' = ⟨tokens, [], some '"', false⟩ := rfl
  rw [quote, List.cons_append, List.foldl_cons, hopen, List.foldl_append, foldl_quoteChar]
  rfl

/-- Quoted words become tokens, all but the last, which is still open. -/
theorem foldl_spaced {word : List Char} {rest : List (List Char)} (hne : ∀ w ∈ word :: rest, w ≠ [])
    (tokens : List (List Char)) : ∃ before last, word :: rest = before ++ [last] ∧
      (spaced rest).foldl Tokenizer.step ⟨tokens, word, none, false⟩ = ⟨tokens ++ before, last, none, false⟩ := by
  induction rest generalizing tokens word with
  | nil => exact ⟨[], word, rfl, by rw [List.append_nil]; rfl⟩
  | cons next rest ih =>
      have hspace : Tokenizer.step ⟨tokens, word, none, false⟩ ' ' = ⟨tokens ++ [word], [], none, false⟩ := by
        simp [Tokenizer.step, Tokenizer.flush, hne word List.mem_cons_self, Str.isWhitespace]
      have hspaced : spaced (next :: rest) = ' ' :: (quote next ++ spaced rest) := rfl
      obtain ⟨before, last, hsplit, hrest⟩ :=
        ih (fun w hw ↦ hne w (List.mem_cons_of_mem _ hw)) (tokens ++ [word])
      refine ⟨word :: before, last, by rw [hsplit, List.cons_append], ?_⟩
      rw [hspaced, List.foldl_cons, hspace, List.foldl_append, foldl_quote, hrest, List.append_assoc,
        List.singleton_append]

theorem mem_doublePercent {c : Char} {word : List Char} (h : c ∈ doublePercent word) : c ∈ word := by
  obtain ⟨d, hd, hcd⟩ := List.mem_flatMap.mp h
  split at hcd <;> simp_all

theorem doublePercent_ne_nil {word : List Char} (h : word ≠ []) : doublePercent word ≠ [] := by
  obtain ⟨c, rest, rfl⟩ := List.exists_cons_of_ne_nil h
  rw [doublePercent, List.flatMap_cons]
  split <;> simp

/-- A rendered command is read back word by word, with its percent signs still doubled. -/
theorem tokenize_writeCommand {words : List (List Char)} {text : String} (hwords : words ≠ [])
    (hne : ∀ word ∈ words, word ≠ []) (hsafe : ∀ word ∈ words, ∀ c ∈ word, isUnsafe c = false)
    (htext : text.toList = writeCommand words) :
    tokenizeSystemdExec text = .ok ((words.map doublePercent).map .ofList) := by
  obtain ⟨word, rest, rfl⟩ := List.exists_cons_of_ne_nil hwords
  have hdoubled : ∀ w ∈ doublePercent word :: rest.map doublePercent, w ≠ [] := by
    rw [← List.map_cons]
    intro w hw
    obtain ⟨v, hv, rfl⟩ := List.mem_map.mp hw
    exact doublePercent_ne_nil (hne v hv)
  obtain ⟨before, last, hsplit, hrest⟩ := foldl_spaced hdoubled []
  have hread : text.toList.foldl Tokenizer.step {} = ⟨before, last, none, false⟩ := by
    have hstart : ({} : Tokenizer) = ⟨[], [], none, false⟩ := rfl
    rw [htext, writeCommand, List.map_cons, writeWords, List.foldl_append, hstart, foldl_quote, hrest,
      List.nil_append]
  have hlast : last ≠ [] := hdoubled last (hsplit ▸ List.mem_append_right _ List.mem_cons_self)
  have htokens : before ++ [last] = (word :: rest).map doublePercent := by
    rw [List.map_cons, hsplit]
  have hnone : ((word :: rest).map doublePercent).any (·.any isUnsafe) = false := by
    rw [List.any_eq_false]
    intro w hw
    obtain ⟨v, hv, rfl⟩ := List.mem_map.mp hw
    rw [Bool.not_eq_true, List.any_eq_false]
    intro c hc
    rw [hsafe v hv c (mem_doublePercent hc)]
    exact Bool.false_ne_true
  simp only [tokenizeSystemdExec, hread, Tokenizer.flush, hlast, if_false, htokens, hnone, ne_eq,
    not_true_eq_false, Bool.false_eq_true, or_self]

/-- Words without percent signs alone are left as they are. -/
theorem doublePercent_eq_self_iff (word : List Char) : doublePercent word = word ↔ '%' ∉ word := by
  have hlength : ∀ cs : List Char, cs.length ≤ (doublePercent cs).length := by
    intro cs
    induction cs with
    | nil => exact Nat.le_refl 0
    | cons c cs ih =>
        rw [doublePercent, List.flatMap_cons, ← doublePercent, List.length_append, List.length_cons]
        split <;> simp only [List.length_cons, List.length_nil] <;> omega
  induction word with
  | nil => simp [doublePercent]
  | cons c word ih =>
      by_cases hc : c = '%'
      · subst hc
        have hdoubled : doublePercent ('%' :: word) = '%' :: '%' :: doublePercent word := rfl
        refine iff_of_false (fun heq ↦ ?_) (fun hnot ↦ hnot List.mem_cons_self)
        have hequal := congrArg List.length heq
        have hword := hlength word
        rw [hdoubled, List.length_cons, List.length_cons, List.length_cons] at hequal
        omega
      · have hkept : doublePercent (c :: word) = c :: doublePercent word := by simp [doublePercent, hc]
        have hnot : '%' ∉ c :: word ↔ '%' ∉ word := by
          rw [List.mem_cons, not_or, and_iff_right (Ne.symm hc)]
        rw [hkept, List.cons_inj_right]
        exact ih.trans hnot.symm

end CosmicMounter.Import

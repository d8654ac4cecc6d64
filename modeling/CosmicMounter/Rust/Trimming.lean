import CosmicMounter.Rust.Str

/-!
# Trimming

What is dropped at the ends of a list, and which texts `trim` leaves as they are.
-/

namespace Rust.Str

section Trimming

variable {p : Char → Bool} {l m : List Char} {c : Char}

theorem dropWhile_of_head (hhead : l.head? = some c) (hc : p c = false) : l.dropWhile p = l := by
  cases l with
  | nil => cases hhead
  | cons d l =>
      obtain rfl := Option.some.inj hhead
      exact List.dropWhile_cons_of_neg (by rw [hc]; exact Bool.false_ne_true)

theorem rdropWhile_of_getLast (hlast : l.getLast? = some c) (hc : p c = false) : l.rdropWhile p = l := by
  rw [List.rdropWhile, dropWhile_of_head (by rw [List.head?_reverse, hlast]) hc, List.reverse_reverse]

/-- Nothing is dropped beyond an element that stays. -/
theorem rdropWhile_append (hlast : l.getLast? = some c) (hc : p c = false) :
    (l ++ m).rdropWhile p = l ++ m.rdropWhile p := by
  have hkept : l.reverse.dropWhile p = l.reverse :=
    dropWhile_of_head (by rw [List.head?_reverse, hlast]) hc
  rw [List.rdropWhile, List.reverse_append, List.dropWhile_append, List.rdropWhile]
  split
  · next hempty =>
      rw [List.isEmpty_iff.mp hempty, hkept]
      simp
  · rw [List.reverse_append, List.reverse_reverse]

theorem rdropWhile_append_of_forall (h : ∀ d ∈ m, p d = true) : (l ++ m).rdropWhile p = l.rdropWhile p := by
  have hmap : ∀ d ∈ m.reverse, p d = true := fun d hd ↦ h d (List.mem_reverse.mp hd)
  rw [List.rdropWhile, List.reverse_append, List.dropWhile_append_of_pos hmap, List.rdropWhile]

theorem exists_eq_rdropWhile_append (p : Char → Bool) (l : List Char) :
    ∃ dropped, l = l.rdropWhile p ++ dropped ∧ ∀ d ∈ dropped, p d = true := by
  refine ⟨l.rtakeWhile p, (List.rdropWhile_append_rtakeWhile ..).symm, fun d hd ↦ ?_⟩
  exact List.mem_rtakeWhile_imp hd

end Trimming

theorem trim_append_of_blank (s t : String) (ht : ∀ c ∈ t.toList, isWhitespace c = true) :
    trim (s ++ t) = trim s := by
  rw [← String.toList_inj]
  simp only [trim, trimEnd, trimStart, String.toList_ofList, String.toList_append]
  rw [List.dropWhile_append]
  split
  · next hempty =>
      have hnil : t.toList.dropWhile isWhitespace = [] := List.dropWhile_eq_nil_iff.mpr ht
      rw [hnil, List.isEmpty_iff.mp hempty]
  · exact rdropWhile_append_of_forall ht

/-- Trimming the end first changes nothing. -/
theorem trim_trimEnd (s : String) : trim (trimEnd s) = trim s := by
  obtain ⟨dropped, hsplit, hblank⟩ := exists_eq_rdropWhile_append isWhitespace s.toList
  have hs : s = trimEnd s ++ .ofList dropped := by
    rw [← String.toList_inj, String.toList_append, trimEnd, String.toList_ofList, String.toList_ofList]
    exact hsplit
  conv_rhs => rw [hs]
  rw [trim_append_of_blank _ _ (by rw [String.toList_ofList]; exact hblank)]

/-- A text that begins with a visible character is trimmed at its end alone. -/
theorem trim_of_head {s : String} {c : Char} (hhead : s.toList.head? = some c)
    (hc : isWhitespace c = false) : trim s = trimEnd s := by
  rw [trim, trimStart, dropWhile_of_head hhead hc, String.ofList_toList]

theorem trimEnd_of_getLast {s : String} {c : Char} (hlast : s.toList.getLast? = some c)
    (hc : isWhitespace c = false) : trimEnd s = s := by
  rw [trimEnd, rdropWhile_of_getLast hlast hc, String.ofList_toList]

theorem trim_of_no_whitespace {s : String} (h : ∀ c ∈ s.toList, isWhitespace c = false) : trim s = s := by
  cases hhead : s.toList.head? with
  | none =>
      rw [List.head?_eq_none_iff] at hhead
      rw [String.toList_eq_nil_iff.mp hhead]
      rfl
  | some c =>
      rw [trim_of_head hhead (h c (List.mem_of_head? hhead))]
      cases hlast : s.toList.getLast? with
      | none =>
          rw [List.getLast?_eq_none_iff.mp hlast] at hhead
          cases hhead
      | some d => exact trimEnd_of_getLast hlast (h d (List.mem_of_getLast? hlast))

end Rust.Str

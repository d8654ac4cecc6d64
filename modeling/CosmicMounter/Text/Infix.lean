import Mathlib

/-!
# Where a pattern can stand

A pattern in a list of several pieces: what lies before a piece, or between
two pieces, decides on which sides the pattern can be.
-/

namespace Text

variable {α : Type*} {p q a b : List α} {x : α}

/-! ## Separators -/

theorem prefix_of_prefix_append_cons (hx : x ∉ p) (h : p <+: a ++ x :: b) : p <+: a := by
  induction p generalizing a with
  | nil => exact List.nil_prefix
  | cons c p ih =>
      cases a with
      | nil => exact absurd (List.cons_prefix_cons.mp h).1 fun hc ↦ hx (hc ▸ List.mem_cons_self)
      | cons d a =>
          obtain ⟨rfl, hrest⟩ := List.cons_prefix_cons.mp h
          exact List.cons_prefix_cons.mpr ⟨rfl, ih (fun hmem ↦ hx (List.mem_cons_of_mem _ hmem)) hrest⟩

/-- A pattern without the separator stands on one of its sides. -/
theorem infix_append_cons_iff (hx : x ∉ p) : p <:+: a ++ x :: b ↔ p <:+: a ∨ p <:+: b := by
  constructor
  · intro h
    induction a with
    | nil =>
        rcases List.infix_cons_iff.mp h with hprefix | hinfix
        · exact .inl (prefix_of_prefix_append_cons (a := []) hx hprefix).isInfix
        · exact .inr hinfix
    | cons c a ih =>
        rcases List.infix_cons_iff.mp h with hprefix | hinfix
        · exact .inl (prefix_of_prefix_append_cons (a := c :: a) hx hprefix).isInfix
        · exact (ih hinfix).imp_left List.infix_cons
  · rintro (h | h)
    · exact h.trans (List.prefix_append _ _).isInfix
    · exact h.trans (List.suffix_append_of_suffix (List.suffix_cons x b)).isInfix

theorem prefix_snoc (hx : x ∉ q) (h : q ++ [x] <+: a ++ x :: b) : q ++ [x] <+: a ++ [x] := by
  induction q generalizing a with
  | nil =>
      cases a with
      | nil => exact List.prefix_refl [x]
      | cons d a =>
          obtain ⟨rfl, -⟩ := List.cons_prefix_cons.mp h
          exact List.cons_prefix_cons.mpr ⟨rfl, List.nil_prefix⟩
  | cons c q ih =>
      cases a with
      | nil => exact absurd (List.cons_prefix_cons.mp h).1 fun hc ↦ hx (hc ▸ List.mem_cons_self)
      | cons d a =>
          obtain ⟨rfl, hrest⟩ := List.cons_prefix_cons.mp h
          exact List.cons_prefix_cons.mpr ⟨rfl, ih (fun hmem ↦ hx (List.mem_cons_of_mem _ hmem)) hrest⟩

/-- A pattern that only ends with the separator ends at it, or stands on one side. -/
theorem infix_snoc (hx : x ∉ q) (h : q ++ [x] <:+: a ++ x :: b) :
    q ++ [x] <:+: a ++ [x] ∨ q ++ [x] <:+: b := by
  induction a with
  | nil =>
      rcases List.infix_cons_iff.mp h with hprefix | hinfix
      · exact .inl (prefix_snoc (a := []) hx hprefix).isInfix
      · exact .inr hinfix
  | cons c a ih =>
      rcases List.infix_cons_iff.mp h with hprefix | hinfix
      · exact .inl (prefix_snoc (a := c :: a) hx hprefix).isInfix
      · exact (ih hinfix).imp_left List.infix_cons

theorem not_infix_of_notMem (hmem : x ∈ p) (hnot : x ∉ a) : ¬p <:+: a := fun h ↦ hnot (h.subset hmem)

/-! ## Pieces in which the pattern does not begin -/

/-- No occurrence of the pattern can begin in the list, whatever follows it. -/
def clear [BEq α] (p : List α) : List α → Bool
  | [] => true
  | c :: a => !(c :: a).isPrefixOf p && !p.isPrefixOf (c :: a) && clear p a

theorem clear_append [BEq α] [LawfulBEq α] (ha : clear p a = true) (hb : clear p b = true) :
    clear p (a ++ b) = true := by
  induction a with
  | nil => exact hb
  | cons c a ih =>
      rw [clear, Bool.and_eq_true, Bool.and_eq_true, Bool.not_eq_true', Bool.not_eq_true'] at ha
      obtain ⟨⟨hshort, hlong⟩, hrest⟩ := ha
      rw [List.cons_append, clear, ih hrest, Bool.and_true, Bool.and_eq_true, Bool.not_eq_true',
        Bool.not_eq_true', ← Bool.not_eq_true, ← Bool.not_eq_true, List.isPrefixOf_iff_prefix,
        List.isPrefixOf_iff_prefix]
      rw [← Bool.not_eq_true, List.isPrefixOf_iff_prefix] at hshort hlong
      have hwhole : c :: a <+: c :: (a ++ b) := List.prefix_append (c :: a) b
      constructor
      · exact fun h ↦ hshort (hwhole.trans h)
      · exact fun h ↦ (List.prefix_or_prefix_of_prefix hwhole h).elim hshort hlong

theorem infix_append_iff_of_clear [BEq α] [LawfulBEq α] (h : clear p a = true) :
    p <:+: a ++ b ↔ p <:+: b := by
  induction a with
  | nil => rfl
  | cons c a ih =>
      rw [clear, Bool.and_eq_true, Bool.and_eq_true, Bool.not_eq_true', Bool.not_eq_true'] at h
      obtain ⟨⟨hshort, hlong⟩, hrest⟩ := h
      rw [List.cons_append, List.infix_cons_iff, ih hrest, or_iff_right_iff_imp]
      intro hprefix
      have hwhole : c :: a <+: c :: (a ++ b) := List.prefix_append (c :: a) b
      rcases List.prefix_or_prefix_of_prefix hwhole hprefix with hle | hle
      · rw [List.isPrefixOf_iff_prefix.mpr hle] at hshort
        cases hshort
      · rw [List.isPrefixOf_iff_prefix.mpr hle] at hlong
        cases hlong

end Text

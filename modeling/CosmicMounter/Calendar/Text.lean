import CosmicMounter.Calendar.Gregorian

/-!
# Written dates

Numbers written with leading zeros, and the texts `YYYY-MM-DD` of dates, whose
order is the order of the days.
-/

namespace Calendar

/-! ## Numbers of a fixed width -/

/-- A number in decimal, with zeros before it up to the width. -/
def padded (width n : Nat) : List Char :=
  List.replicate (width - (Nat.toDigits 10 n).length) '0' ++ Nat.toDigits 10 n

theorem padded_one {n : Nat} (h : n < 10) : padded 1 n = [n.digitChar] := by
  rw [padded, Nat.toDigits_of_lt_base h]
  rfl

theorem padded_succ {width n : Nat} (hwidth : 0 < width) :
    padded (width + 1) n = padded width (n / 10) ++ [(n % 10).digitChar] := by
  by_cases hn : n < 10
  · have hdiv : n / 10 = 0 := by omega
    have hmod : n % 10 = n := by omega
    rw [padded, padded, hdiv, hmod, Nat.toDigits_of_lt_base hn, Nat.toDigits_zero, List.length_singleton,
      List.length_singleton, Nat.add_sub_cancel]
    have hreplicate : List.replicate (width - 1) '0' ++ ['0'] = List.replicate width '0' := by
      rw [← List.replicate_succ', Nat.sub_add_cancel hwidth]
    rw [hreplicate]
  · rw [padded, padded, Nat.toDigits_of_base_le (by decide) (Nat.le_of_not_lt hn), List.length_append,
      List.length_singleton, Nat.add_sub_add_right, List.append_assoc]

theorem length_padded {width n : Nat} (hwidth : 0 < width) (h : n < 10 ^ width) :
    (padded width n).length = width := by
  have hlength : (Nat.toDigits 10 n).length ≤ width :=
    (Nat.length_toDigits_le_iff (by decide) hwidth).mpr h
  rw [padded, List.length_append, List.length_replicate, Nat.sub_add_cancel hlength]

theorem digitChar_lt_iff {m n : Nat} (hm : m < 10) (hn : n < 10) :
    m.digitChar < n.digitChar ↔ m < n := by
  rw [Char.lt_def, UInt32.lt_iff_toNat_lt]
  have hm' : m.digitChar.val.toNat = 48 + m := Nat.toNat_digitChar_of_lt_ten hm
  have hn' : n.digitChar.val.toNat = 48 + n := Nat.toNat_digitChar_of_lt_ten hn
  omega

theorem digitChar_inj {m n : Nat} (hm : m < 10) (hn : n < 10) :
    m.digitChar = n.digitChar ↔ m = n := by
  constructor
  · intro h
    have hlt := digitChar_lt_iff hm hn
    have hgt := digitChar_lt_iff hn hm
    rw [h, lt_self_iff_false, false_iff] at hlt hgt
    omega
  · exact congrArg Nat.digitChar

/-- Texts with beginnings of one length are ordered by these first. -/
theorem append_lt_append_iff {a b c d : List Char} (h : a.length = b.length) :
    a ++ c < b ++ d ↔ a < b ∨ a = b ∧ c < d := by
  induction a generalizing b with
  | nil =>
      obtain rfl := List.length_eq_zero_iff.mp h.symm
      simp
  | cons x a ih =>
      cases b with
      | nil => cases h
      | cons y b =>
          rw [List.cons_append, List.cons_append, List.cons_lt_cons_iff, List.cons_lt_cons_iff,
            ih (Nat.succ.inj h), List.cons.injEq]
          tauto

theorem singleton_lt_iff {x y : Char} : [x] < [y] ↔ x < y := by
  rw [List.cons_lt_cons_iff]
  simp

/-- Numbers of one width have different texts, in the order of the numbers. -/
theorem padded_order {width : Nat} (hwidth : 0 < width) :
    ∀ m n, m < 10 ^ width → n < 10 ^ width →
      (padded width m < padded width n ↔ m < n) ∧ (padded width m = padded width n ↔ m = n) := by
  induction width, hwidth using Nat.le_induction with
  | base =>
      intro m n hm hn
      rw [padded_one hm, padded_one hn, singleton_lt_iff, List.cons.injEq]
      exact ⟨digitChar_lt_iff hm hn, by rw [digitChar_inj hm hn]; simp⟩
  | succ width hwidth ih =>
      intro m n hm hn
      rw [pow_succ] at hm hn
      have hmod : m % 10 < 10 ∧ n % 10 < 10 := by omega
      have hdiv : m / 10 < 10 ^ width ∧ n / 10 < 10 ^ width := by omega
      obtain ⟨hlt, heq⟩ := ih (m / 10) (n / 10) hdiv.1 hdiv.2
      have hlength : (padded width (m / 10)).length = (padded width (n / 10)).length := by
        rw [length_padded hwidth hdiv.1, length_padded hwidth hdiv.2]
      rw [padded_succ hwidth, padded_succ hwidth, append_lt_append_iff hlength, hlt, heq,
        singleton_lt_iff, digitChar_lt_iff hmod.1 hmod.2]
      constructor
      · omega
      · constructor
        · intro happend
          obtain ⟨hinit, hlast⟩ := List.append_inj happend hlength
          have hdigit := (digitChar_inj hmod.1 hmod.2).mp (List.cons.inj hlast).1
          have hquotient := heq.mp hinit
          omega
        · rintro rfl
          rfl

theorem digitChar_toNat_sub {c : Char} (h : c.isDigit = true) :
    c.toNat - '0'.toNat < 10 ∧ (c.toNat - '0'.toNat).digitChar = c := by
  have hrange : 48 ≤ c.toNat ∧ c.toNat ≤ 57 := by
    simpa [Char.isDigit, UInt32.le_iff_toNat_le] using h
  have hzero : '0'.toNat = 48 := rfl
  refine ⟨by omega, ?_⟩
  apply Char.toNat_inj.mp
  rw [Nat.toNat_digitChar_of_lt_ten (by omega)]
  omega

theorem ofDigitChars_lt {digits : List Char} (h : ∀ c ∈ digits, c.isDigit = true) :
    Nat.ofDigitChars 10 digits 0 < 10 ^ digits.length := by
  induction digits using List.reverseRecOn with
  | nil => decide
  | append_singleton digits c ih =>
      have hinit := ih fun d hd ↦ h d (List.mem_append_left _ hd)
      have hlast := (digitChar_toNat_sub (h c (by simp))).1
      rw [Nat.ofDigitChars_append, Nat.ofDigitChars_cons, Nat.ofDigitChars_nil, List.length_append,
        List.length_singleton, pow_succ]
      omega

/-- Digits are the text of the number they denote. -/
theorem padded_ofDigitChars {digits : List Char} (hne : digits ≠ [])
    (h : ∀ c ∈ digits, c.isDigit = true) :
    padded digits.length (Nat.ofDigitChars 10 digits 0) = digits := by
  induction digits using List.reverseRecOn with
  | nil => exact absurd rfl hne
  | append_singleton digits c ih =>
      obtain ⟨hlast, hchar⟩ := digitChar_toNat_sub (h c (by simp))
      rw [Nat.ofDigitChars_append, Nat.ofDigitChars_cons, Nat.ofDigitChars_nil, List.length_append,
        List.length_singleton]
      by_cases hdigits : digits = []
      · subst hdigits
        rw [Nat.ofDigitChars_nil, Nat.mul_zero, Nat.zero_add, List.length_nil, Nat.zero_add,
          padded_one hlast, hchar]
        rfl
      · have hinit := ih hdigits fun d hd ↦ h d (List.mem_append_left _ hd)
        have hdiv : (10 * Nat.ofDigitChars 10 digits 0 + (c.toNat - '0'.toNat)) / 10 =
            Nat.ofDigitChars 10 digits 0 := by omega
        have hmod : (10 * Nat.ofDigitChars 10 digits 0 + (c.toNat - '0'.toNat)) % 10 =
            c.toNat - '0'.toNat := by omega
        rw [padded_succ (List.length_pos_iff.mpr hdigits), hdiv, hmod, hinit, hchar]

/-! ## Dates -/

namespace Date

/-- The date as `YYYY-MM-DD`. -/
def text (d : Date) : String :=
  .ofList (padded 4 d.year ++ '-' :: (padded 2 d.month ++ '-' :: padded 2 d.day))

/-- Up to the year 9999, the texts are ordered as the days are. -/
theorem text_lt_iff {d e : Date} (hd : d.year < 10000) (he : e.year < 10000) :
    d.text < e.text ↔ d.dayNumber < e.dayNumber := by
  have hdays (f : Date) : f.month < 10 ^ 2 ∧ f.day < 10 ^ 2 := by
    have hmonth := f.month_mem
    have hday := f.day_mem
    have hlength : daysInMonth f.year f.month ≤ 31 := by
      unfold daysInMonth
      split <;> try split_ifs
      all_goals omega
    omega
  obtain ⟨hmonth, hday⟩ := hdays d
  obtain ⟨hmonth', hday'⟩ := hdays e
  obtain ⟨hyears, hyears'⟩ := padded_order (by decide : 0 < 4) d.year e.year hd he
  obtain ⟨hmonths, hmonths'⟩ := padded_order (by decide : 0 < 2) d.month e.month hmonth hmonth'
  obtain ⟨hdays, -⟩ := padded_order (by decide : 0 < 2) d.day e.day hday hday'
  have hyear : (padded 4 d.year).length = (padded 4 e.year).length := by
    rw [length_padded (by decide) hd, length_padded (by decide) he]
  have hlength : (padded 2 d.month).length = (padded 2 e.month).length := by
    rw [length_padded (by decide) hmonth, length_padded (by decide) hmonth']
  rw [String.lt_iff, text, text, String.toList_ofList, String.toList_ofList,
    append_lt_append_iff hyear, List.cons_lt_cons_iff, append_lt_append_iff hlength,
    List.cons_lt_cons_iff, hyears, hyears', hmonths, hmonths', hdays, dayNumber_lt_iff]
  simp only [lt_self_iff_false, false_or, true_and]

end Date

end Calendar

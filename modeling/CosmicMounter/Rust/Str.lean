import Mathlib

/-!
# The standard string operations

Rust's `str` and `char` methods used by the applet, over Lean strings.  They
are computed on the list of characters, where the list library applies.
-/

namespace Rust.Str

def isControl (c : Char) : Bool := c.toNat < 0x20 || (0x7f ≤ c.toNat && c.toNat < 0xa0)

/-- The Unicode property `White_Space`. -/
def isWhitespace (c : Char) : Bool :=
  (0x09 ≤ c.toNat && c.toNat ≤ 0x0d) || (0x2000 ≤ c.toNat && c.toNat ≤ 0x200a) ||
    c.toNat ∈ [0x20, 0x85, 0xa0, 0x1680, 0x2028, 0x2029, 0x202f, 0x205f, 0x3000]

def trimStart (s : String) : String := .ofList (s.toList.dropWhile isWhitespace)

def trimEnd (s : String) : String := .ofList (s.toList.rdropWhile isWhitespace)

def trim (s : String) : String := trimEnd (trimStart s)

def trimEndMatches (c : Char) (s : String) : String := .ofList (s.toList.rdropWhile (· == c))

def startsWith (p s : String) : Bool := p.toList.isPrefixOf s.toList

def endsWith (p s : String) : Bool := p.toList.isSuffixOf s.toList

def stripPrefix (p s : String) : Option String := (s.toList.dropPrefix? p.toList).map .ofList

def stripSuffix (p s : String) : Option String :=
  (s.toList.dropSuffix? p.toList).map .ofList

def split (c : Char) (s : String) : List String := (s.toList.splitOn c).map .ofList

def join (sep : String) (parts : List String) : String :=
  .ofList (sep.toList.intercalate (parts.map String.toList))

/-- `str::split_once`: the text before and after the first occurrence. -/
def splitOnce (c : Char) (s : String) : Option (String × String) :=
  if c ∈ s.toList then
    some (.ofList (s.toList.takeWhile (· != c)), .ofList (s.toList.dropWhile (· != c)).tail)
  else none

/-- `str::replace` for a one-character pattern. -/
def replaceChar (c : Char) (by' : String) (s : String) : String :=
  .ofList (s.toList.flatMap fun d ↦ if d = c then by'.toList else [d])

def toAsciiLowercase (s : String) : String := .ofList (s.toList.map Char.toLower)

def contains (p s : String) : Bool := s.toList.tails.any p.toList.isPrefixOf

/-- `str::parse::<u64>`: decimal digits, perhaps after a plus sign, within 64 bits. -/
def parseU64 (s : String) : Option Nat :=
  let digits := if s.toList.head? = some '+' then s.toList.tail else s.toList
  let value := digits.foldl (fun n c ↦ 10 * n + (c.toNat - '0'.toNat)) 0
  if digits ≠ [] ∧ digits.all Char.isDigit ∧ value < 2 ^ 64 then some value else none

/-- The pieces of a split text do not contain the separator. -/
theorem notMem_of_mem_split {c : Char} {s part : String} (h : part ∈ split c s) :
    c ∉ part.toList := by
  have hpieces : ∀ (cs : List Char), ∀ piece ∈ cs.splitOn c, c ∉ piece := by
    intro cs
    induction cs with
    | nil => simp
    | cons d cs ih =>
        rw [List.splitOn_cons_eq_if_modifyHead]
        split_ifs with hd
        · simpa using ih
        · cases hrest : cs.splitOn c with
          | nil => simp
          | cons piece pieces =>
              have hall := hrest ▸ ih
              have hne : c ≠ d := by
                intro hcd
                exact hd (by simp [hcd])
              simpa [hne] using hall
  obtain ⟨piece, hpiece, rfl⟩ := List.mem_map.mp h
  simpa using hpieces _ piece hpiece

theorem split_join {c : Char} {parts : List String} (hparts : ∀ part ∈ parts, c ∉ part.toList)
    (hne : parts ≠ []) : split c (join c.toString parts) = parts := by
  have hsep : (c.toString).toList = [c] := by simp
  rw [split, join, String.toList_ofList, hsep, List.splitOn_intercalate]
  · simp
  · simpa using hparts
  · simpa using hne

@[simp] theorem join_singleton (sep s : String) : join sep [s] = s := by simp [join]

theorem join_append_singleton {parts : List String} (hparts : parts ≠ []) (sep s : String) :
    join sep (parts ++ [s]) = join sep parts ++ sep ++ s := by
  have hlists : ∀ xs : List (List Char), xs ≠ [] →
      sep.toList.intercalate (xs ++ [s.toList]) =
        sep.toList.intercalate xs ++ sep.toList ++ s.toList := by
    intro xs hxs
    induction xs with
    | nil => exact absurd rfl hxs
    | cons x xs ih =>
        by_cases hnil : xs = []
        · subst hnil
          simp [List.intercalate_cons_cons]
        · rw [List.cons_append, List.intercalate_cons_of_ne_nil (by simp), ih hnil,
            List.intercalate_cons_of_ne_nil hnil]
          simp
  rw [← String.toList_inj, join, join, String.toList_ofList, List.map_append, List.map_singleton,
    hlists _ (by simpa using hparts)]
  simp

theorem contains_iff {p s : String} : contains p s = true ↔ p.toList <:+: s.toList := by
  rw [contains, List.any_eq_true]
  constructor
  · rintro ⟨tail, htail, hprefix⟩
    rw [List.isPrefixOf_iff_prefix] at hprefix
    exact hprefix.isInfix.trans ((List.mem_tails _ _).mp htail).isInfix
  · rintro ⟨before, after, hsplit⟩
    refine ⟨p.toList ++ after, (List.mem_tails _ _).mpr ⟨before, ?_⟩, ?_⟩
    · rw [← hsplit, List.append_assoc]
    · rw [List.isPrefixOf_iff_prefix]
      exact List.prefix_append ..

theorem splitOnce_of_toList {c : Char} {s before rest : String}
    (hs : s.toList = before.toList ++ c :: rest.toList) (h : c ∉ before.toList) :
    splitOnce c s = some (before, rest) := by
  have hbefore : ∀ d ∈ before.toList, (d != c) = true := by
    intro d hd
    have hne : d ≠ c := fun hdc ↦ h (hdc ▸ hd)
    simpa using hne
  rw [splitOnce, hs, if_pos (by simp), List.takeWhile_append_of_pos hbefore,
    List.dropWhile_append_of_pos hbefore]
  simp

theorem stripSuffix_append (s p : String) : stripSuffix p (s ++ p) = some s := by
  have hdrop : (s ++ p).toList.dropSuffix? p.toList = some s.toList := by
    rw [List.dropSuffix?_eq_some_iff]
    exact ⟨p.toList, by simp, by simp⟩
  rw [stripSuffix, hdrop]
  simp

/-- A number reads back as it was displayed. -/
theorem parseU64_toString {n : Nat} (h : n < 2 ^ 64) : parseU64 (toString n) = some n := by
  have hdigits : (toString n).toList = Nat.toDigits 10 n := Nat.toList_repr
  have hall : ∀ c ∈ Nat.toDigits 10 n, c.isDigit = true := fun c hc ↦
    Nat.isDigit_of_mem_toDigits (by decide) (by decide) hc
  have hplus : (Nat.toDigits 10 n).head? ≠ some '+' := by
    intro hhead
    exact absurd (hall '+' (List.mem_of_head? hhead)) (by decide)
  have hvalue : (Nat.toDigits 10 n).foldl (fun m c ↦ 10 * m + (c.toNat - '0'.toNat)) 0 = n := by
    rw [← Nat.ofDigitChars_eq_foldl]
    exact Nat.ofDigitChars_ten_toDigits
  simp only [parseU64, hdigits, if_neg hplus, hvalue]
  exact if_pos ⟨Nat.toDigits_ne_nil, List.all_eq_true.mpr hall, h⟩

/-! ## Lines -/

/-- A line that ended in a newline also loses a carriage return before it. -/
def stripReturn (line : List Char) : List Char :=
  if line.getLast? = some '\r' then line.dropLast else line

/-- The lines of a text split at its newlines; what follows the last newline
is a line of its own, unless it is empty. -/
def terminated : List (List Char) → List (List Char)
  | [] => []
  | [last] => if last = [] then [] else [last]
  | line :: rest => stripReturn line :: terminated rest

def lines (s : String) : List String := (terminated (s.toList.splitOn '\n')).map .ofList

/-- Every line followed by a newline. -/
def unlines (ls : List String) : String := ls.foldr (fun line rest ↦ line ++ "\n" ++ rest) ""

@[simp] theorem unlines_nil : unlines [] = "" := rfl

@[simp] theorem unlines_cons (line : String) (rest : List String) :
    unlines (line :: rest) = line ++ "\n" ++ unlines rest := rfl

theorem toList_unlines (ls : List String) :
    (unlines ls).toList = ls.flatMap fun line ↦ line.toList ++ ['\n'] := by
  induction ls with
  | nil => rfl
  | cons line rest ih => simp [ih]

/-- A text that `lines` gives back unchanged when it stands on a line of its own. -/
def IsLine (line : String) : Prop := '\n' ∉ line.toList ∧ line.toList.getLast? ≠ some '\r'

instance (line : String) : Decidable (IsLine line) := inferInstanceAs (Decidable (_ ∧ _))

theorem terminated_splitOn_cons {line : List Char} (h : '\n' ∉ line) (rest : List Char) :
    terminated ((line ++ '\n' :: rest).splitOn '\n') =
      stripReturn line :: terminated (rest.splitOn '\n') := by
  rw [List.splitOn_append_cons_self_of_not_mem h]
  cases hrest : rest.splitOn '\n' with
  | nil => exact absurd hrest (by simp)
  | cons x xs => rfl

theorem stripReturn_of_isLine {line : String} (h : IsLine line) :
    stripReturn line.toList = line.toList := if_neg h.2

theorem lines_unlines_append {ls : List String} (h : ∀ line ∈ ls, IsLine line) (rest : String) :
    lines (unlines ls ++ rest) = ls ++ lines rest := by
  induction ls with
  | nil => simp
  | cons line ls ih =>
      have hline : IsLine line := h line (by simp)
      have ih' := ih fun l hl ↦ h l (by simp [hl])
      have htext : (unlines (line :: ls) ++ rest).toList =
          line.toList ++ '\n' :: (unlines ls ++ rest).toList := by simp
      rw [lines, htext, terminated_splitOn_cons hline.1, stripReturn_of_isLine hline,
        List.map_cons, String.ofList_toList, List.cons_append, ← ih', lines]

theorem lines_unlines {ls : List String} (h : ∀ line ∈ ls, IsLine line) :
    lines (unlines ls) = ls := by
  have := lines_unlines_append h ""
  simpa [lines, terminated] using this

/-- Lines may lose a carriage return at their end. -/
theorem lines_unlines_of_oneLine {ls : List String} (h : ∀ line ∈ ls, '\n' ∉ line.toList) :
    lines (unlines ls) = ls.map fun line ↦ .ofList (stripReturn line.toList) := by
  induction ls with
  | nil => simp [lines, terminated]
  | cons line ls ih =>
      have ih' := ih fun l hl ↦ h l (by simp [hl])
      have htext : (unlines (line :: ls)).toList = line.toList ++ '\n' :: (unlines ls).toList := by simp
      rw [lines, htext, terminated_splitOn_cons (h line (by simp)), List.map_cons, List.map_cons, ← ih', lines]

/-! ## Prefixes -/

@[simp] theorem startsWith_iff (p s : String) :
    startsWith p s = true ↔ p.toList <+: s.toList := by
  simp [startsWith, List.isPrefixOf_iff_prefix]

theorem stripPrefix_eq_some_iff {p s rest : String} :
    stripPrefix p s = some rest ↔ s = p ++ rest := by
  constructor
  · intro h
    obtain ⟨tail, htail, rfl⟩ := Option.map_eq_some_iff.mp h
    obtain ⟨p', hs, hp'⟩ := List.dropPrefix?_eq_some_iff.mp htail
    rw [← String.toList_inj, hs, eq_of_beq hp']
    simp
  · rintro rfl
    simp [stripPrefix, List.dropPrefix?_append_of_beq]

@[simp] theorem stripPrefix_append (p s : String) : stripPrefix p (p ++ s) = some s :=
  stripPrefix_eq_some_iff.mpr rfl

theorem stripPrefix_eq_none_iff {p s : String} :
    stripPrefix p s = none ↔ startsWith p s = false := by
  rw [Option.eq_none_iff_forall_ne_some, ← Bool.not_eq_true, startsWith_iff]
  constructor
  · rintro h ⟨tail, htail⟩
    refine h (.ofList tail) (stripPrefix_eq_some_iff.mpr ?_)
    rw [← String.toList_inj, ← htail]
    simp
  · rintro h rest hrest
    rw [stripPrefix_eq_some_iff] at hrest
    exact h ⟨rest.toList, by simp [hrest]⟩

end Rust.Str

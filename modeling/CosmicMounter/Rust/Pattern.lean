import CosmicMounter.Rust.Str
import CosmicMounter.Text.Marking

/-!
# Patterns and white space

The `str` methods that search for a text, and those that cut at white space.
-/

namespace Rust.Str

open Text

def trimMatches (p : Char → Bool) (s : String) : String :=
  .ofList ((s.toList.dropWhile p).rdropWhile p)

/-- The place of the first occurrence. -/
def find (p s : String) : Option Nat := s.toList.tails.findIdx? p.toList.isPrefixOf

/-! ## Tokens -/

def isBlank (run : String) : Bool := run.toList.all isWhitespace

/-- The runs of white space and the tokens between them. -/
def textRuns (s : String) : List String := (runs isWhitespace s.toList).map .ofList

def splitWhitespace (s : String) : List String := (textRuns s).filter fun run ↦ !isBlank run

/-- A token: some characters, none of them white space. -/
structure IsToken (s : String) : Prop where
  notEmpty : s ≠ ""
  noSpace : ∀ c ∈ s.toList, isWhitespace c = false

theorem isToken_iff {s : String} : IsToken s ↔ s ≠ "" ∧ s.toList.any isWhitespace = false := by
  rw [List.any_eq_false]
  constructor
  · rintro ⟨hempty, hspace⟩
    refine ⟨hempty, fun c hc ↦ ?_⟩
    rw [hspace c hc]
    exact Bool.false_ne_true
  · rintro ⟨hempty, hspace⟩
    exact ⟨hempty, fun c hc ↦ Bool.eq_false_iff.mpr (hspace c hc)⟩

instance (s : String) : Decidable (IsToken s) := decidable_of_iff _ isToken_iff.symm

theorem toNat_of_isDigit {c : Char} (h : c.isDigit = true) : 48 ≤ c.toNat ∧ c.toNat ≤ 57 := by
  simp only [Char.isDigit, Bool.and_eq_true, decide_eq_true_eq] at h
  exact ⟨UInt32.le_iff_toNat_le.mp h.1, UInt32.le_iff_toNat_le.mp h.2⟩

theorem isWhitespace_of_isDigit {c : Char} (h : c.isDigit = true) : isWhitespace c = false := by
  have hrange := toNat_of_isDigit h
  simp only [isWhitespace, List.mem_cons, List.not_mem_nil, or_false, Bool.or_eq_false_iff,
    Bool.and_eq_false_iff, decide_eq_false_iff_not]
  omega

/-- A displayed number begins with a digit. -/
theorem exists_digits (n : Nat) : ∃ c rest, (toString n).toList = c :: rest ∧
    ∀ d ∈ (toString n).toList, d.isDigit = true := by
  have hdigits : (toString n).toList = Nat.toDigits 10 n := Nat.toList_repr
  obtain ⟨c, rest, hcons⟩ := List.exists_cons_of_ne_nil (Nat.toDigits_ne_nil (n := n) (b := 10))
  refine ⟨c, rest, hdigits.trans hcons, ?_⟩
  intro d hd
  rw [hdigits] at hd
  exact Nat.isDigit_of_mem_toDigits (by decide) (by decide) hd

theorem IsToken.toList_ne_nil {s : String} (h : IsToken s) : s.toList ≠ [] :=
  fun hnil ↦ h.notEmpty (String.toList_eq_nil_iff.mp hnil)

theorem IsToken.isBlank {s : String} (h : IsToken s) : isBlank s = false := by
  obtain ⟨c, rest, hs⟩ := List.exists_cons_of_ne_nil h.toList_ne_nil
  have hc : isWhitespace c = false := h.noSpace c (by simp [hs])
  rw [Str.isBlank, hs, List.all_cons, hc, Bool.false_and]

theorem isToken_or_isBlank_of_mem {s run : String} (h : run ∈ textRuns s) :
    IsToken run ∨ isBlank run = true := by
  obtain ⟨piece, hpiece, rfl⟩ := List.mem_map.mp h
  rcases uniform_of_mem_runs hpiece with hblank | htoken
  · right
    rw [isBlank, String.toList_ofList, List.all_eq_true]
    exact hblank
  · left
    constructor
    · intro hempty
      exact ne_nil_of_mem_runs hpiece (by simpa using congrArg String.toList hempty)
    · rw [String.toList_ofList]
      exact htoken

theorem isToken_of_mem_splitWhitespace {word s : String} (h : word ∈ splitWhitespace s) :
    IsToken word := by
  obtain ⟨hrun, hblank⟩ := List.mem_filter.mp h
  rcases isToken_or_isBlank_of_mem hrun with htoken | hisBlank
  · exact htoken
  · rw [hisBlank] at hblank
    cases hblank

/-- A token is cut off before white space. -/
theorem textRuns_token_append {token : String} (rest : String) (h : IsToken token)
    (hrest : ∀ c ∈ rest.toList.head?, isWhitespace c = true) :
    textRuns (token ++ rest) = token :: textRuns rest := by
  have hcut : runs isWhitespace (token.toList ++ rest.toList) =
      token.toList :: runs isWhitespace rest.toList := by
    apply runs_append h.toList_ne_nil h.noSpace
    intro c hc
    simp [hrest c hc]
  rw [textRuns, String.toList_append, hcut, List.map_cons, String.ofList_toList, textRuns]

/-- White space is cut off before a token. -/
theorem textRuns_blank_append {blank : String} (rest : String) (hne : blank ≠ "") (h : isBlank blank = true)
    (hrest : ∀ c ∈ rest.toList.head?, isWhitespace c = false) :
    textRuns (blank ++ rest) = blank :: textRuns rest := by
  have hcut : runs isWhitespace (blank.toList ++ rest.toList) =
      blank.toList :: runs isWhitespace rest.toList := by
    refine runs_append (fun hnil ↦ hne (String.toList_eq_nil_iff.mp hnil)) (List.all_eq_true.mp h) ?_
    intro c hc
    simp [hrest c hc]
  rw [textRuns, String.toList_append, hcut, List.map_cons, String.ofList_toList, textRuns]

/-- A text is cut before a token that white space precedes. -/
theorem textRuns_append {s t : String} (hs : ∀ c ∈ s.toList.getLast?, isWhitespace c = true)
    (ht : ∀ c ∈ t.toList.head?, isWhitespace c = false) :
    textRuns (s ++ t) = textRuns s ++ textRuns t := by
  have hcut : runs isWhitespace (s.toList ++ t.toList) =
      runs isWhitespace s.toList ++ runs isWhitespace t.toList := by
    apply runs_append_runs
    intro a ha b hb
    rw [hs a ha, ht b hb]
    exact Bool.true_eq_false.mp
  rw [textRuns, String.toList_append, hcut, List.map_append, textRuns, textRuns]

@[simp] theorem textRuns_empty : textRuns "" = [] := rfl

theorem toList_join_cons (piece : String) (rest : List String) :
    (join "" (piece :: rest)).toList = piece.toList ++ (join "" rest).toList := by
  cases rest with
  | nil => simp [join]
  | cons next rest => simp [join, List.intercalate_cons_cons]

theorem join_textRuns (s : String) : join "" (textRuns s) = s := by
  have hjoin : ∀ pieces : List (List Char),
      (join "" (pieces.map String.ofList)).toList = pieces.flatten := by
    intro pieces
    induction pieces with
    | nil => rfl
    | cons piece pieces ih => rw [List.map_cons, toList_join_cons, ih, String.toList_ofList, List.flatten_cons]
  rw [← String.toList_inj, textRuns, hjoin, flatten_runs]

/-! ## Patterns -/

theorem splitOnce_eq_some {c : Char} {s before rest : String}
    (h : splitOnce c s = some (before, rest)) :
    s.toList = before.toList ++ c :: rest.toList ∧ c ∉ before.toList := by
  rw [splitOnce] at h
  split_ifs at h with hmem
  obtain ⟨rfl, rfl⟩ := Prod.mk.inj (Option.some.inj h)
  rw [String.toList_ofList, String.toList_ofList]
  have hne : s.toList.dropWhile (· != c) ≠ [] := by
    rw [ne_eq, List.dropWhile_eq_nil_iff]
    intro hall
    simpa using hall c hmem
  have hhead : (s.toList.dropWhile (· != c)).head hne = c := by
    have hnot := List.head_dropWhile_not (· != c) hne
    simpa using hnot
  have hsplit : s.toList.dropWhile (· != c) = c :: (s.toList.dropWhile (· != c)).tail := by
    conv_lhs => rw [← List.cons_head_tail hne, hhead]
  constructor
  · rw [← hsplit, List.takeWhile_append_dropWhile]
  · intro hbefore
    simpa using List.mem_takeWhile_imp hbefore

/-- Everything up to the last occurrence of a character, and what follows it. -/
theorem exists_eq_append_rtakeWhile {c : Char} {cs : List Char} (h : c ∈ cs) :
    ∃ before, cs = before ++ c :: cs.rtakeWhile (· != c) := by
  have hne : cs.rdropWhile (· != c) ≠ [] := by
    rw [ne_eq, List.rdropWhile_eq_nil_iff]
    intro hall
    simpa using hall c h
  have hlast : (cs.rdropWhile (· != c)).getLast hne = c := by
    simpa using List.rdropWhile_last_not (· != c) cs hne
  have hsplit : cs.rdropWhile (· != c) = (cs.rdropWhile (· != c)).dropLast ++ [c] := by
    conv_lhs => rw [← List.dropLast_append_getLast hne, hlast]
  refine ⟨(cs.rdropWhile (· != c)).dropLast, ?_⟩
  calc cs = cs.rdropWhile (· != c) ++ cs.rtakeWhile (· != c) := by
        rw [List.rdropWhile_append_rtakeWhile]
    _ = (cs.rdropWhile (· != c)).dropLast ++ [c] ++ cs.rtakeWhile (· != c) := by rw [← hsplit]
    _ = _ := by simp

theorem wrap_intercalate (c : Char) {pieces : List (List Char)} (h : pieces ≠ []) :
    c :: [c].intercalate pieces ++ [c] = pieces.flatMap (fun piece ↦ c :: piece) ++ [c] := by
  induction pieces with
  | nil => exact absurd rfl h
  | cons piece pieces ih =>
      by_cases hnil : pieces = []
      · simp [hnil]
      · rw [List.intercalate_cons_of_ne_nil hnil, List.flatMap_cons, List.append_assoc (c :: piece),
          ← ih hnil]
        simp

/-- The pieces of a split text are what stands between two separators. -/
theorem mem_split_iff {c : Char} {s part : String} (hpart : c ∉ part.toList) :
    part ∈ split c s ↔ c :: part.toList ++ [c] <:+: c :: s.toList ++ [c] := by
  have hmem : part ∈ split c s ↔ part.toList ∈ s.toList.splitOn c := by
    rw [split, List.mem_map]
    constructor
    · rintro ⟨piece, hpiece, rfl⟩
      rwa [String.toList_ofList]
    · intro h
      exact ⟨part.toList, h, String.ofList_toList⟩
  rw [hmem]
  constructor
  · intro h
    obtain ⟨before, behind, hsplit⟩ := List.append_of_mem h
    have hs : s.toList = [c].intercalate (before ++ part.toList :: behind) := by
      rw [← hsplit, List.intercalate_splitOn]
    rw [hs, wrap_intercalate c (by simp), List.flatMap_append, List.flatMap_cons]
    -- The next separator stands before the next piece, or at the end.
    obtain ⟨rest, hrest⟩ : ∃ rest, behind.flatMap (fun piece ↦ c :: piece) ++ [c] = c :: rest := by
      cases behind with
      | nil => exact ⟨[], rfl⟩
      | cons piece behind => exact ⟨_, rfl⟩
    refine ⟨before.flatMap (fun piece ↦ c :: piece), rest, ?_⟩
    rw [List.append_assoc _ _ [c], List.append_assoc _ _ [c], hrest]
    simp
  · rintro ⟨before, behind, hinfix⟩
    have hsplit := congrArg (List.splitOn c) hinfix
    have hleft : (before ++ (c :: part.toList ++ [c]) ++ behind).splitOn c =
        before.splitOn c ++ part.toList :: behind.splitOn c := by
      have hlist : before ++ (c :: part.toList ++ [c]) ++ behind =
          before ++ c :: (part.toList ++ c :: behind) := by simp
      rw [hlist, List.splitOn_append_cons_self, List.splitOn_append_cons_self,
        List.splitOn_eq_singleton hpart]
      rfl
    have hright : (c :: s.toList ++ [c]).splitOn c = [] :: (s.toList.splitOn c ++ [[]]) := by
      have hlist : c :: s.toList ++ [c] = [] ++ c :: (s.toList ++ c :: []) := by simp
      rw [hlist, List.splitOn_append_cons_self, List.splitOn_append_cons_self]
      rfl
    rw [hleft, hright] at hsplit
    have hbefore : before.splitOn c ≠ [] := by simp
    have hbehind : behind.splitOn c ≠ [] := by simp
    obtain ⟨first, rest, hfirst⟩ := List.exists_cons_of_ne_nil hbefore
    rw [hfirst, List.cons_append] at hsplit
    have htail := congrArg List.dropLast (List.cons.inj hsplit).2
    rw [List.dropLast_concat, List.dropLast_append_of_ne_nil (by simp),
      List.dropLast_cons_of_ne_nil hbehind] at htail
    rw [← htail]
    simp

theorem join_split (c : Char) (s : String) : join c.toString (split c s) = s := by
  have hsep : (c.toString).toList = [c] := by simp
  rw [← String.toList_inj, join, split, hsep, String.toList_ofList, List.map_map]
  have hid : (String.toList ∘ String.ofList) = id := by
    funext cs
    exact String.toList_ofList
  rw [hid, List.map_id, List.intercalate_splitOn]

def splitOnceList (p : List Char) : List Char → Option (List Char × List Char)
  | [] => if p = [] then some ([], []) else none
  | c :: rest =>
      if p.isPrefixOf (c :: rest) then some ([], (c :: rest).drop p.length)
      else (splitOnceList p rest).map fun (before, behind) ↦ (c :: before, behind)

/-- `str::split_once` for a text. -/
def splitOnceText (p s : String) : Option (String × String) :=
  (splitOnceList p.toList s.toList).map fun (before, behind) ↦ (.ofList before, .ofList behind)

/-- Left to right, with the number of characters of a match still to skip. -/
def replaceList (p by' : List Char) : List Char → Nat → List Char
  | [], _ => []
  | _ :: rest, skip + 1 => replaceList p by' rest skip
  | c :: rest, 0 =>
      if p.isPrefixOf (c :: rest) then by' ++ replaceList p by' rest (p.length - 1)
      else c :: replaceList p by' rest 0

/-- `str::replace` for a text that is not empty. -/
def replace (p by' s : String) : String := .ofList (replaceList p.toList by'.toList s.toList 0)

/-- A text at the front is dropped as often as it is there. -/
def dropPrefixes (p : List Char) : Nat → List Char → List Char
  | 0, rest => rest
  | n + 1, rest => if p.isPrefixOf rest then dropPrefixes p n (rest.drop p.length) else rest

/-- `str::trim_end_matches` for a text that is not empty. -/
def trimEndMatchesText (p s : String) : String :=
  .ofList (dropPrefixes p.toList.reverse s.length s.toList.reverse).reverse

end Rust.Str

import CosmicMounter.Rust.Str

/-!
# Filter files of rclone

The rules of a filter file are tried in order and the first match decides.
`*` stays within one path component and `**` does not, a leading slash anchors
a pattern at the root of the transfer, and a trailing slash makes it match a
directory and everything below it.  Character classes, alternatives and
regular expressions are not modelled.
-/

namespace Rclone

open Rust

inductive Token
  | char (c : Char)
  | oneChar
  | withinName
  | anything
  deriving DecidableEq, Repr

def tokens : List Char → List Token
  | '*' :: '*' :: rest => .anything :: tokens rest
  | '*' :: rest => .withinName :: tokens rest
  | '?' :: rest => .oneChar :: tokens rest
  | c :: rest => .char c :: tokens rest
  | [] => []

/-- The tails of a text that can be reached without passing a slash. -/
def tailsInName : List Char → List (List Char)
  | [] => [[]]
  | c :: rest => (c :: rest) :: if c = '/' then [] else tailsInName rest

/-- Whether a pattern matches a whole text. -/
def glob : List Token → List Char → Bool
  | [], s => s.isEmpty
  | .char c :: ts, d :: s => c == d && glob ts s
  | .oneChar :: ts, d :: s => d != '/' && glob ts s
  | .char _ :: _, [] | .oneChar :: _, [] => false
  | .withinName :: ts, s => (tailsInName s).any (glob ts)
  | .anything :: ts, s => s.tails.any (glob ts)

def literal (s : String) : List Token := s.toList.map .char

theorem glob_literal_append (cs : List Char) (ts : List Token) (s : List Char) :
    glob (cs.map .char ++ ts) (cs ++ s) = glob ts s := by
  induction cs with
  | nil => rfl
  | cons c cs ih => simpa [glob] using ih

theorem glob_literal {cs s : List Char} : glob (cs.map .char) s = true ↔ s = cs := by
  induction cs generalizing s with
  | nil => simp [glob]
  | cons c cs ih =>
      cases s with
      | nil => simp [glob]
      | cons d s =>
          rw [List.map_cons, glob, Bool.and_eq_true, beq_iff_eq, ih, List.cons.injEq]
          exact and_congr_left' eq_comm

@[simp] theorem glob_anything (s : List Char) : glob [.anything] s = true := by
  rw [glob, List.any_eq_true]
  exact ⟨[], by simp, rfl⟩

/-- A pattern of `**` and a literal matches the texts that end in the literal. -/
theorem glob_anything_literal {cs s : List Char} :
    glob (.anything :: cs.map .char) s = true ↔ cs <:+ s := by
  rw [glob, List.any_eq_true]
  constructor
  · intro ⟨t, htail, hglob⟩
    rw [← glob_literal.mp hglob]
    exact (List.mem_tails _ _).mp htail
  · intro hsuffix
    exact ⟨cs, (List.mem_tails _ _).mpr hsuffix, glob_literal.mpr rfl⟩

/-! ## Rules -/

structure Pattern where
  anchored : Bool
  directory : Bool
  body : List Token
  deriving DecidableEq, Repr

structure Rule where
  includes : Bool
  pattern : Pattern
  deriving DecidableEq, Repr

/-- The places of a path where an unanchored pattern may begin. -/
def beginnings (path : List Char) : List (List Char) := path :: afterSlash path
where
  afterSlash : List Char → List (List Char)
    | [] => []
    | c :: rest => (if c = '/' then [rest] else []) ++ afterSlash rest

theorem suffix_of_mem_afterSlash {path t : List Char} (h : t ∈ beginnings.afterSlash path) :
    t <:+ path := by
  induction path with
  | nil => simp [beginnings.afterSlash] at h
  | cons c rest ih =>
      rw [beginnings.afterSlash, List.mem_append] at h
      rcases h with h | h
      · split_ifs at h
        · rw [List.mem_singleton] at h
          exact ⟨[c], by rw [h]; rfl⟩
        · simp at h
      · exact (ih h).trans (List.suffix_cons c rest)

theorem suffix_of_mem_beginnings {path t : List Char} (h : t ∈ beginnings path) : t <:+ path := by
  rcases List.mem_cons.mp h with rfl | h
  · exact List.suffix_refl _
  · exact suffix_of_mem_afterSlash h

/-- Whether a pattern matches the directory with this path: a directory
pattern looks at the path with a slash behind it, and at all that may follow. -/
def Pattern.matches (pattern : Pattern) (path : List Char) : Bool :=
  let text := if pattern.directory then path ++ ['/'] else path
  let body := if pattern.directory then pattern.body ++ [.anything] else pattern.body
  if pattern.anchored then glob body text else (beginnings text).any (glob body)

/-- What the rules say about a path: the verdict of the first that matches. -/
def verdict (rules : List Rule) (path : List Char) : Option Bool :=
  (rules.find? (·.pattern.matches path)).map Rule.includes

@[simp] theorem verdict_nil (path : List Char) : verdict [] path = none := rfl

theorem verdict_cons (rule : Rule) (rules : List Rule) (path : List Char) :
    verdict (rule :: rules) path =
      if rule.pattern.matches path then some rule.includes else verdict rules path := by
  cases hmatch : rule.pattern.matches path <;> simp [verdict, hmatch]

/-- Rules that do not match have no say. -/
theorem verdict_append {rules : List Rule} {path : List Char}
    (h : ∀ rule ∈ rules, rule.pattern.matches path = false) (rules' : List Rule) :
    verdict (rules ++ rules') path = verdict rules' path := by
  induction rules with
  | nil => rfl
  | cons rule rules ih =>
      have hrest := ih fun r hr ↦ h r (List.mem_cons_of_mem _ hr)
      rw [List.cons_append, verdict_cons, h rule (by simp)]
      exact hrest

/-- The pattern `**`. -/
def everything : Pattern := ⟨false, false, [.anything]⟩

@[simp] theorem everything_matches (path : List Char) : everything.matches path = true := by
  simp [everything, Pattern.matches, beginnings]

/-- The pattern `**` before a literal. -/
def endingIn (suffix : List Char) : Pattern := ⟨false, false, .anything :: suffix.map .char⟩

theorem endingIn_matches {suffix path : List Char} (h : (endingIn suffix).matches path = true) :
    suffix <:+ path := by
  simp only [endingIn, Pattern.matches, Bool.false_eq_true, if_false, List.any_eq_true] at h
  obtain ⟨t, ht, hglob⟩ := h
  exact (glob_anything_literal.mp hglob).trans (suffix_of_mem_beginnings ht)

/-- A directory at the root, and all below it. -/
def topDirectory (name : List Char) : Pattern := ⟨true, true, (name ++ ['/']).map .char⟩

theorem topDirectory_matches_below (name rest : List Char) :
    (topDirectory name).matches (name ++ '/' :: rest) = true := by
  have htext : name ++ '/' :: rest ++ ['/'] = (name ++ ['/']) ++ (rest ++ ['/']) := by simp
  simp only [topDirectory, Pattern.matches, if_true]
  rw [htext, glob_literal_append, glob_anything]

/-! ## Reading a filter file -/

def parsePattern (text : List Char) : Pattern :=
  let body := if text.head? = some '/' then text.tail else text
  { anchored := text.head? = some '/'
    directory := text.getLast? = some '/'
    body := tokens body }

/-- A line of a filter file: nothing for a comment or an empty line. -/
def parseLine (line : List Char) : Option Rule :=
  match line with
  | '+' :: ' ' :: text => some ⟨true, parsePattern text⟩
  | '-' :: ' ' :: text => some ⟨false, parsePattern text⟩
  | _ => none

def parse (text : String) : List Rule :=
  (Str.lines text).filterMap fun line ↦ parseLine line.toList

theorem parse_unlines {ls : List String} (h : ∀ line ∈ ls, Str.IsLine line) :
    parse (Str.unlines ls) = ls.filterMap fun line ↦ parseLine line.toList := by
  rw [parse, Str.lines_unlines h]

end Rclone

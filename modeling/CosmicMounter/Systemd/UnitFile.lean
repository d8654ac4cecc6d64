import CosmicMounter.Systemd.CommandLine

/-!
# Unit files

How the service manager takes a unit file apart into section headers and
assignments.  A newline or a carriage return ends a line.
-/

namespace Systemd

inductive Item
  | header (name : List Char)
  | assignment (key value : List Char)
  deriving DecidableEq, Repr

def isEndOfLine (c : Char) : Bool := c == '\n' || c == '\r'

def physicalLines (text : List Char) : List (List Char) := text.splitOnP isEndOfLine

/-- Empty lines, comments and lines without a key mean nothing. -/
def parseLine (line : List Char) : Option Item :=
  match line with
  | [] => none
  | c :: rest =>
      if c = '#' ∨ c = ';' then none
      else if c = '[' then some (.header (rest.takeWhile (· ≠ ']')))
      else if '=' ∈ line then
        some (.assignment (line.takeWhile (· ≠ '=')) (line.dropWhile (· ≠ '=')).tail)
      else none

def items (text : List Char) : List Item := (physicalLines text).filterMap parseLine

/-- What an item is, without its value. -/
def Item.label : Item → List Char
  | .header name => '[' :: name
  | .assignment key _ => key

/-- The value an item assigns to the key. -/
def Item.valueOf (key : List Char) : Item → Option (List Char)
  | .assignment key' value => if key' = key then some value else none
  | .header _ => none

/-- The values assigned to a key, in order. -/
def values (key : List Char) (text : List Char) : List (List Char) :=
  (items text).filterMap (Item.valueOf key)

theorem physicalLines_append (line rest : List Char) :
    physicalLines (line ++ '\n' :: rest) = physicalLines line ++ physicalLines rest :=
  List.splitOnP_append_cons line rest rfl

theorem items_append (line rest : List Char) :
    items (line ++ '\n' :: rest) = items line ++ items rest := by
  rw [items, physicalLines_append, List.filterMap_append, items, items]

theorem items_nil : items [] = [] := by
  simp [items, physicalLines, List.splitOnP_nil, parseLine]

theorem items_lines (lines : List (List Char)) :
    items (lines.flatMap (· ++ ['\n'])) = lines.flatMap items := by
  induction lines with
  | nil => exact items_nil
  | cons line lines ih =>
      have hcons : (line :: lines).flatMap (· ++ ['\n']) =
          line ++ '\n' :: lines.flatMap (· ++ ['\n']) := by simp
      rw [hcons, items_append, ih, List.flatMap_cons]

/-- A text with no end of line in it is one line. -/
theorem items_line {line : List Char} (h : ∀ c ∈ line, isEndOfLine c = false) :
    items line = (parseLine line).toList := by
  rw [items, physicalLines, List.splitOnP_eq_singleton h]
  cases hline : parseLine line <;> simp [hline]

theorem isEndOfLine_eq_false {text : List Char} (h : '\n' ∉ text ∧ '\r' ∉ text) :
    ∀ c ∈ text, isEndOfLine c = false := by
  intro c hc
  have hnewline : c ≠ '\n' := fun heq ↦ h.1 (heq ▸ hc)
  have hreturn : c ≠ '\r' := fun heq ↦ h.2 (heq ▸ hc)
  simp [isEndOfLine, hnewline, hreturn]

/-- A key as it may stand before an equals sign. -/
structure IsKey (key : List Char) : Prop where
  notEmpty : key ≠ []
  noEquals : '=' ∉ key
  noHeader : key.head? ≠ some '#' ∧ key.head? ≠ some ';' ∧ key.head? ≠ some '['

theorem parseLine_assignment {key : List Char} (h : IsKey key) (value : List Char) :
    parseLine (key ++ '=' :: value) = some (.assignment key value) := by
  obtain ⟨c, rest, rfl⟩ := List.exists_cons_of_ne_nil h.notEmpty
  have hhead := h.noHeader
  simp only [List.head?_cons, ne_eq, Option.some.injEq] at hhead
  have htake : (c :: rest ++ '=' :: value).takeWhile (· ≠ '=') = c :: rest := by
    rw [List.takeWhile_append_of_pos]
    · simp
    · intro d hd
      have hne : d ≠ '=' := fun hd' ↦ h.noEquals (hd' ▸ hd)
      simpa using hne
  have hdrop : (c :: rest ++ '=' :: value).dropWhile (· ≠ '=') = '=' :: value := by
    rw [List.dropWhile_append_of_pos]
    · simp
    · intro d hd
      have hne : d ≠ '=' := fun hd' ↦ h.noEquals (hd' ▸ hd)
      simpa using hne
  rw [List.cons_append] at htake hdrop ⊢
  rw [parseLine, htake, hdrop]
  simp [hhead]

theorem exists_first {α : Type} {p : α → Prop} {xs : List α} (h : ∃ x ∈ xs, p x) :
    ∃ before x after, xs = before ++ x :: after ∧ p x ∧ ∀ y ∈ before, ¬p y := by
  induction xs with
  | nil => simp at h
  | cons x xs ih =>
      by_cases hx : p x
      · exact ⟨[], x, xs, rfl, hx, by simp⟩
      · have hxs : ∃ y ∈ xs, p y := by simpa [hx] using h
        obtain ⟨before, y, after, rfl, hy, hbefore⟩ := ih hxs
        exact ⟨x :: before, y, after, rfl, hy, by simpa [hx] using hbefore⟩

/-- A carriage return in a word ends the line inside the word's quotes. -/
theorem writeCommand_cut {words : List (List Char)} (hreturn : ∃ word ∈ words, '\r' ∈ word)
    (hnewline : ∀ word ∈ words, '\n' ∉ word) :
    ∃ cut tail, writeCommand words = cut ++ '\r' :: tail ∧ ('\n' ∉ cut ∧ '\r' ∉ cut) ∧
      decodeWords cut = none := by
  obtain ⟨before, word, after, rfl, hword, hbefore⟩ := exists_first hreturn
  obtain ⟨pre, post, rfl, hpre⟩ := List.eq_append_cons_of_mem hword
  have hcut : ∀ c : Char, c ∉ ['"', '\\', ' '] → c ∉ pre → (∀ word ∈ before, c ∉ word) →
      c ∉ (before.map doublePercent).flatMap (fun word ↦ quote word ++ [' ']) ++
        '"' :: (doublePercent pre).flatMap quoteChar := by
    intro c hplain hpre hbefore hc
    rcases List.mem_append.mp hc with hc | hc
    · obtain ⟨word', hword', hc⟩ := List.mem_flatMap.mp hc
      obtain ⟨word, hword, rfl⟩ := List.mem_map.mp hword'
      rcases List.mem_append.mp hc with hc | hc
      · rcases mem_quote hc with hc | hc | hc
        · exact hbefore word hword hc
        · simp [hc] at hplain
        · simp [hc] at hplain
      · simp [List.mem_singleton.mp hc] at hplain
    · rcases mem_quote (List.mem_append_left ['"'] hc) with hc | hc | hc
      · exact hpre hc
      · simp [hc] at hplain
      · simp [hc] at hplain
  have hnewlines := hnewline (pre ++ '\r' :: post) (by simp)
  refine ⟨(before.map doublePercent).flatMap (fun word ↦ quote word ++ [' ']) ++
      '"' :: (doublePercent pre).flatMap quoteChar,
    (doublePercent post).flatMap quoteChar ++ ['"'] ++ spaced (after.map doublePercent),
    ?_, ⟨?_, ?_⟩, decodeWords_cut _ _⟩
  · have hdouble : doublePercent (pre ++ '\r' :: post) =
        doublePercent pre ++ '\r' :: doublePercent post := by
      simp [doublePercent]
    rw [writeCommand, List.map_append, List.map_cons, writeWords_append, hdouble]
    simp [quote, quoteChar]
  · exact hcut '\n' (by decide) (fun h ↦ hnewlines (List.mem_append_left _ h))
      fun word hword ↦ hnewline word (by simp [hword])
  · exact hcut '\r' (by decide) hpre hbefore

end Systemd

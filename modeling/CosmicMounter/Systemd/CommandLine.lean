import Mathlib

/-!
# Command lines of systemd units

How the service manager reads the value of an `Exec` setting: words are split
at unquoted blanks with quotes and backslash escapes resolved, then specifiers
are expanded in each word, then environment variables are substituted.
-/

namespace Systemd

/-! ## Words -/

inductive Quote
  | bare
  | single
  | double
  deriving DecidableEq, Repr

/-- Where the reader stands in an escape sequence. -/
inductive Escape
  | plain
  | backslash
  | digits (base left value : Nat)
  deriving DecidableEq, Repr

structure Reader where
  quote : Quote := .bare
  escape : Escape := .plain
  current : Option (List Char) := none
  words : List (List Char) := []
  deriving DecidableEq, Repr

def isSeparator (c : Char) : Bool := c ∈ [' ', '\t', '\n', '\r']

def simpleEscape : Char → Option Char
  | 'a' => some '\x07'
  | 'b' => some '\x08'
  | 'f' => some '\x0c'
  | 'n' => some '\n'
  | 'r' => some '\r'
  | 't' => some '\t'
  | 'v' => some '\x0b'
  | 's' => some ' '
  | '\\' => some '\\'
  | '"' => some '"'
  | '\'' => some '\''
  | _ => none

def digit (base : Nat) (c : Char) : Option Nat :=
  let value :=
    if c.isDigit then c.toNat - '0'.toNat
    else if 'a' ≤ c ∧ c ≤ 'f' then c.toNat - 'a'.toNat + 10
    else if 'A' ≤ c ∧ c ≤ 'F' then c.toNat - 'A'.toNat + 10
    else base
  if value < base then some value else none

/-- The digits a numeric escape is waiting for, after its first character. -/
def numericEscape (c : Char) : Option Escape :=
  match c with
  | 'x' => some (.digits 16 2 0)
  | 'u' => some (.digits 16 4 0)
  | 'U' => some (.digits 16 8 0)
  | _ => (digit 8 c).map (.digits 8 2)

namespace Reader

def push (r : Reader) (c : Char) : Reader :=
  { r with escape := .plain, current := some (r.current.getD [] ++ [c]) }

def open' (r : Reader) (quote : Quote) : Reader :=
  { r with quote := quote, current := some (r.current.getD []) }

def flush (r : Reader) : Reader :=
  { r with current := none, words := r.words ++ r.current.toList }

def escaped (r : Reader) (c : Char) : Option Reader :=
  match simpleEscape c with
  | some d => some (r.push d)
  | none => (numericEscape c).map fun escape ↦ { r with escape := escape }

def numeric (r : Reader) (base left value : Nat) (c : Char) : Option Reader := do
  let value := value * base + (← digit base c)
  if left ≠ 1 then return { r with escape := .digits base (left - 1) value }
  -- No escape may stand for the null character.
  else if value = 0 then none
  else return r.push (Char.ofNat value)

def unescaped (r : Reader) (c : Char) : Reader :=
  match r.quote with
  | .bare =>
      if isSeparator c then r.flush
      else if c = '"' then r.open' .double
      else if c = '\'' then r.open' .single
      else r.push c
  | .single => if c = '\'' then { r with quote := .bare } else r.push c
  | .double => if c = '"' then { r with quote := .bare } else r.push c

def step (r : Reader) (c : Char) : Option Reader :=
  match r.escape with
  | .plain => if c = '\\' then some { r with escape := .backslash } else some (r.unescaped c)
  | .backslash => r.escaped c
  | .digits base left value => r.numeric base left value c

/-- A line may not end inside a quotation or an escape. -/
def finish (r : Reader) : Option (List (List Char)) :=
  if r.quote = .bare ∧ r.escape = .plain then some r.flush.words else none

end Reader

def decodeWords (line : List Char) : Option (List (List Char)) :=
  (line.foldlM Reader.step {}).bind Reader.finish

/-! ## Quoting -/

def quoteChar (c : Char) : List Char := if c = '\\' ∨ c = '"' then ['\\', c] else [c]

/-- The word in double quotes. -/
def quote (word : List Char) : List Char := '"' :: word.flatMap quoteChar ++ ['"']

theorem foldlM_quoteChar (word prior : List Char) (words : List (List Char)) :
    (word.flatMap quoteChar).foldlM Reader.step ⟨.double, .plain, some prior, words⟩ =
      some ⟨.double, .plain, some (prior ++ word), words⟩ := by
  induction word generalizing prior with
  | nil => simp
  | cons c word ih =>
      have hchar : (quoteChar c).foldlM Reader.step ⟨.double, .plain, some prior, words⟩ =
          some ⟨.double, .plain, some (prior ++ [c]), words⟩ := by
        by_cases hbackslash : c = '\\'
        · subst hbackslash
          rfl
        by_cases hquote : c = '"'
        · subst hquote
          rfl
        simp [quoteChar, hbackslash, hquote, Reader.step, Reader.unescaped, Reader.push]
      rw [List.flatMap_cons, List.foldlM_append, hchar]
      simpa using ih (prior ++ [c])

/-- A quoted word is read whole, whatever comes before it on the line. -/
theorem foldlM_quote (word : List Char) (words : List (List Char)) :
    (quote word).foldlM Reader.step ⟨.bare, .plain, none, words⟩ =
      some ⟨.bare, .plain, some word, words⟩ := by
  have hopen : Reader.step ⟨.bare, .plain, none, words⟩ '"' =
      some ⟨.double, .plain, some [], words⟩ := rfl
  rw [quote, List.cons_append, List.foldlM_cons, hopen]
  simp only [Option.bind_eq_bind, Option.bind_some, List.foldlM_append, foldlM_quoteChar]
  rfl

/-- Quoted words, with a space before each. -/
def spaced (words : List (List Char)) : List Char := words.flatMap fun word ↦ ' ' :: quote word

theorem foldlM_spaced (rest : List (List Char)) (word : List Char) (words : List (List Char)) :
    ((spaced rest).foldlM Reader.step ⟨.bare, .plain, some word, words⟩).bind Reader.finish =
      some (words ++ word :: rest) := by
  induction rest generalizing word words with
  | nil => rfl
  | cons next rest ih =>
      have hspace : Reader.step ⟨.bare, .plain, some word, words⟩ ' ' =
          some ⟨.bare, .plain, none, words ++ [word]⟩ := rfl
      rw [spaced, List.flatMap_cons, List.cons_append, List.foldlM_cons, hspace]
      simp only [Option.bind_eq_bind, Option.bind_some, List.foldlM_append, foldlM_quote]
      simpa [spaced] using ih next (words ++ [word])

theorem decodeWords_quoted (word : List Char) (rest : List (List Char)) :
    decodeWords (quote word ++ spaced rest) = some (word :: rest) := by
  have h := foldlM_spaced rest word []
  simpa [decodeWords, List.foldlM_append, foldlM_quote] using h

/-- A line that ends inside a quoted word cannot be read. -/
theorem decodeWords_cut (before : List (List Char)) (cut : List Char) :
    decodeWords (before.flatMap (fun word ↦ quote word ++ [' ']) ++ '"' :: cut.flatMap quoteChar) =
      none := by
  have hbefore : ∀ words, (before.flatMap fun word ↦ quote word ++ [' ']).foldlM Reader.step
      ⟨.bare, .plain, none, words⟩ = some ⟨.bare, .plain, none, words ++ before⟩ := by
    induction before with
    | nil => simp
    | cons word before ih =>
        intro words
        have hspace : Reader.step ⟨.bare, .plain, some word, words⟩ ' ' =
            some ⟨.bare, .plain, none, words ++ [word]⟩ := rfl
        simp [List.foldlM_append, foldlM_quote, hspace, ih]
  have hopen : Reader.step ⟨.bare, .plain, none, before⟩ '"' =
      some ⟨.double, .plain, some [], before⟩ := rfl
  have hstart := hbefore []
  simp only [List.nil_append] at hstart
  have hempty : (({} : Reader)) = ⟨.bare, .plain, none, []⟩ := rfl
  rw [decodeWords, List.foldlM_append, hempty, hstart]
  simp only [Option.bind_eq_bind, Option.bind_some, List.foldlM_cons, hopen, foldlM_quoteChar]
  rfl

/-! ## Specifiers -/

/-- Expand specifiers; an unknown one stays as it is. -/
def expand (specifier : Char → Option (List Char)) : List Char → List Char
  | [] => []
  | ['%'] => ['%']
  | '%' :: c :: rest =>
      (if c = '%' then ['%'] else (specifier c).getD ['%', c]) ++ expand specifier rest
  | c :: rest => c :: expand specifier rest

def doublePercent (word : List Char) : List Char :=
  word.flatMap fun c ↦ if c = '%' then ['%', '%'] else [c]

theorem expand_doublePercent (specifier : Char → Option (List Char)) (word : List Char) :
    expand specifier (doublePercent word) = word := by
  induction word with
  | nil => rfl
  | cons c word ih =>
      by_cases hc : c = '%'
      · subst hc
        have hstep : doublePercent ('%' :: word) = '%' :: '%' :: doublePercent word := rfl
        rw [hstep, expand, ih]
        rfl
      · have hstep : doublePercent (c :: word) = c :: doublePercent word := by
          simp [doublePercent, hc]
        rw [hstep, expand, ih]
        · exact fun h _ ↦ hc h
        · exact fun _ _ h _ ↦ hc h

/-! ## Environment variables -/

/-- Substitute the references inside a word.  The first argument is the name
read so far when a brace is open; a reference that is never closed is text. -/
def substituteIn (value : List Char → List Char) : Option (List Char) → List Char → List Char
  | none, [] => []
  | some name, [] => '$' :: '{' :: name
  | none, '$' :: '$' :: rest => '$' :: substituteIn value none rest
  | none, '$' :: '{' :: rest => substituteIn value (some []) rest
  | none, c :: rest => c :: substituteIn value none rest
  | some name, '}' :: rest => value name ++ substituteIn value none rest
  | some name, c :: rest => substituteIn value (some (name ++ [c])) rest

/-- The word is nothing but a variable, whose value is split into words. -/
def isVariable (word : List Char) : Bool :=
  word.head? == some '$' && word.tail.head? != some '{' && word.tail.head? != some '$'

def substitute (value : List Char → List Char) (word : List Char) : List (List Char) :=
  if isVariable word then
    ((value word.tail).splitOnP isSeparator).filter (· ≠ [])
  else [substituteIn value none word]

/-- The word holds a doubled dollar sign or a closed reference. -/
def hasReference : List Char → Bool
  | [] => false
  | '$' :: '$' :: _ => true
  | '$' :: '{' :: rest => '}' ∈ rest
  | _ :: rest => hasReference rest

/-- Substitution leaves the word alone, whatever the environment. -/
def Inert (word : List Char) : Prop := isVariable word = false ∧ hasReference word = false

instance (word : List Char) : Decidable (Inert word) := inferInstanceAs (Decidable (_ ∧ _))

section

variable {c : Char} {rest : List Char} (hdollar : ∀ tail, c = '$' → rest = '$' :: tail → False)
  (hbrace : ∀ tail, c = '$' → rest = '{' :: tail → False)

include hdollar hbrace

theorem hasReference_cons : hasReference (c :: rest) = hasReference rest := by
  rw [hasReference]
  · exact hdollar
  · exact hbrace

theorem substituteIn_cons (value : List Char → List Char) :
    substituteIn value none (c :: rest) = c :: substituteIn value none rest := by
  rw [substituteIn]
  · exact hdollar
  · exact hbrace

end

theorem substituteIn_open {value : List Char → List Char} {rest : List Char} (h : '}' ∉ rest)
    (name : List Char) : substituteIn value (some name) rest = '$' :: '{' :: name ++ rest := by
  induction rest generalizing name with
  | nil => simp [substituteIn]
  | cons c rest ih =>
      have hc : c ≠ '}' := fun hc ↦ h (by simp [hc])
      have hrest : '}' ∉ rest := fun hrest ↦ h (by simp [hrest])
      rw [substituteIn, ih hrest]
      · simp
      · exact hc

theorem substituteIn_inert {value : List Char → List Char} {word : List Char}
    (h : hasReference word = false) : substituteIn value none word = word := by
  induction word using hasReference.induct with
  | case1 => rfl
  | case2 rest => simp [hasReference] at h
  | case3 rest =>
      have hrest : '}' ∉ rest := by simpa [hasReference] using h
      rw [substituteIn, substituteIn_open hrest]
      rfl
  | case4 c rest hdollar hbrace ih =>
      rw [hasReference_cons hdollar hbrace] at h
      rw [substituteIn_cons hdollar hbrace, ih h]

theorem substitute_inert {value : List Char → List Char} {word : List Char} (h : Inert word) :
    substitute value word = [word] := by
  simp [substitute, h.1, substituteIn_inert h.2]

/-! ## With every variable unset -/

def unset : List Char → List Char := fun _ ↦ []

/-- The longest text that is left of an open reference and what follows it. -/
def bound (name : Option (List Char)) (rest : List Char) : Nat :=
  match name with
  | none => rest.length
  | some name => if '}' ∈ rest then rest.length else name.length + 2 + rest.length

theorem length_substituteIn_le (name : Option (List Char)) (rest : List Char) :
    (substituteIn unset name rest).length ≤ bound name rest := by
  fun_induction substituteIn unset name rest with
  | case1 => simp [bound]
  | case2 name => simp [bound]
  | case3 rest ih =>
      simp only [bound, List.length_cons] at ih ⊢
      omega
  | case4 rest ih =>
      simp only [bound, List.length_cons, List.length_nil] at ih ⊢
      split at ih <;> omega
  | case5 c rest hdollar hbrace ih =>
      simp only [bound, List.length_cons] at ih ⊢
      omega
  | case6 name rest ih =>
      simp only [bound, unset, List.nil_append, List.mem_cons, true_or, if_true,
        List.length_cons] at ih ⊢
      omega
  | case7 name c rest hc ih =>
      have hmem : '}' ∈ c :: rest ↔ '}' ∈ rest := by simp [Ne.symm hc]
      simp only [bound, hmem, List.length_append, List.length_cons, List.length_nil] at ih ⊢
      split at ih <;> simp_all <;> omega

theorem length_substituteIn_lt {word : List Char} (h : hasReference word = true) :
    (substituteIn unset none word).length < word.length := by
  induction word using hasReference.induct with
  | case1 => simp [hasReference] at h
  | case2 rest =>
      have hrest := length_substituteIn_le none rest
      simp only [substituteIn, bound, List.length_cons] at hrest ⊢
      omega
  | case3 rest =>
      have hmem : '}' ∈ rest := by simpa [hasReference] using h
      have hrest := length_substituteIn_le (some []) rest
      simp only [substituteIn, bound, hmem, if_true, List.length_cons] at hrest ⊢
      omega
  | case4 c rest hdollar hbrace ih =>
      rw [hasReference_cons hdollar hbrace] at h
      have hrest := ih h
      simp only [substituteIn_cons hdollar hbrace, List.length_cons]
      omega

/-- The characters and the number of the words together. -/
def weight (words : List (List Char)) : Nat := (words.map fun word ↦ word.length + 1).sum

theorem weight_append (words words' : List (List Char)) :
    weight (words ++ words') = weight words + weight words' := by
  simp [weight]

theorem weight_substitute_le (word : List Char) :
    weight (substitute unset word) ≤ word.length + 1 := by
  by_cases hvariable : isVariable word = true
  · simp [substitute, hvariable, unset, weight]
  · have hlength := length_substituteIn_le none word
    simpa [substitute, hvariable, weight, bound] using hlength

theorem weight_substitute_lt {word : List Char} (h : ¬Inert word) :
    weight (substitute unset word) < word.length + 1 := by
  by_cases hvariable : isVariable word = true
  · simp [substitute, hvariable, unset, weight]
  · have hreference : hasReference word = true := by
      by_contra hreference
      exact h ⟨by simpa using hvariable, by simpa using hreference⟩
    have hlength := length_substituteIn_lt hreference
    simpa [substitute, hvariable, weight] using hlength

/-- Words that come through substitution in the empty environment are inert. -/
theorem inert_of_substitute {words : List (List Char)}
    (h : words.flatMap (substitute unset) = words) : ∀ word ∈ words, Inert word := by
  have hle : ∀ words : List (List Char), weight (words.flatMap (substitute unset)) ≤ weight words := by
    intro words
    induction words with
    | nil => simp [weight]
    | cons word words ih =>
        have hword := weight_substitute_le word
        rw [List.flatMap_cons, weight_append]
        simp only [weight, List.map_cons, List.sum_cons] at ih hword ⊢
        omega
  intro word hword
  by_contra hinert
  obtain ⟨before, after, rfl⟩ := List.append_of_mem hword
  have hweight := congrArg weight h
  have hlt := weight_substitute_lt hinert
  have hbefore := hle before
  have hafter := hle after
  simp only [List.flatMap_append, List.flatMap_cons, weight_append] at hweight
  simp only [weight, List.map_cons, List.sum_cons] at hweight hlt hbefore hafter
  omega

/-! ## Reading a command -/

/-- The command a setting's value stands for, under the specifiers and the
environment of the manager; an unreadable value stands for none. -/
def readCommand (specifier : Char → Option (List Char)) (value : List Char → List Char)
    (line : List Char) : Option (List (List Char)) :=
  (decodeWords line).map fun words ↦
    (words.map (expand specifier)).flatMap (substitute value)

/-- Words written with quotes around each and a space between them. -/
def writeWords : List (List Char) → List Char
  | [] => []
  | word :: rest => quote word ++ spaced rest

theorem writeWords_append (before : List (List Char)) (word : List Char)
    (after : List (List Char)) :
    writeWords (before ++ word :: after) =
      before.flatMap (fun word ↦ quote word ++ [' ']) ++ (quote word ++ spaced after) := by
  induction before with
  | nil => rfl
  | cons first before ih =>
      have hspaced : spaced (before ++ word :: after) = ' ' :: writeWords (before ++ word :: after) := by
        cases before <;> rfl
      rw [List.cons_append, writeWords, hspaced, ih]
      simp

/-- A command written as quoted words with doubled percent signs. -/
def writeCommand (words : List (List Char)) : List Char := writeWords (words.map doublePercent)

variable {specifier : Char → Option (List Char)} {value : List Char → List Char}
  {words : List (List Char)}

theorem readCommand_writeCommand (hwords : words ≠ []) :
    readCommand specifier value (writeCommand words) = some (words.flatMap (substitute value)) := by
  obtain ⟨word, rest, rfl⟩ := List.exists_cons_of_ne_nil hwords
  have hexpand : ((word :: rest).map doublePercent).map (expand specifier) = word :: rest := by
    rw [List.map_map]
    exact (List.map_congr_left fun _ _ ↦ expand_doublePercent specifier _).trans (List.map_id _)
  rw [readCommand, writeCommand, List.map_cons, writeWords, decodeWords_quoted, Option.map_some,
    ← List.map_cons, hexpand]

theorem flatMap_substitute (h : ∀ word ∈ words, Inert word) :
    words.flatMap (substitute value) = words := by
  induction words with
  | nil => rfl
  | cons word words ih =>
      have hword : substitute value word = [word] := substitute_inert (h word (by simp))
      have hwords := ih fun word' hword' ↦ h word' (by simp [hword'])
      rw [List.flatMap_cons, hword, hwords]
      rfl

/-! ## Characters of a written command -/

theorem mem_quote {c : Char} {word : List Char} (h : c ∈ quote (doublePercent word)) :
    c ∈ word ∨ c = '"' ∨ c = '\\' := by
  have hpercent : ∀ d ∈ doublePercent word, d ∈ word := by
    intro d hd
    obtain ⟨e, he, hde⟩ := List.mem_flatMap.mp hd
    split at hde <;> simp_all
  simp only [quote, List.cons_append, List.mem_cons, List.mem_append, List.not_mem_nil,
    or_false] at h
  rcases h with h | h | h
  · exact .inr (.inl h)
  · obtain ⟨d, hd, hcd⟩ := List.mem_flatMap.mp h
    unfold quoteChar at hcd
    split at hcd
    · rcases List.mem_cons.mp hcd with h | h
      · exact .inr (.inr h)
      · exact .inl (by simp_all)
    · exact .inl (by simp_all)
  · exact .inr (.inl h)

theorem mem_writeCommand {c : Char} (h : c ∈ writeCommand words) :
    (∃ word ∈ words, c ∈ word) ∨ c = '"' ∨ c = '\\' ∨ c = ' ' := by
  have hspaced : ∀ words : List (List Char), c ∈ spaced (words.map doublePercent) →
      (∃ word ∈ words, c ∈ word) ∨ c = '"' ∨ c = '\\' ∨ c = ' ' := by
    intro words hc
    obtain ⟨word', hword', hc⟩ := List.mem_flatMap.mp hc
    obtain ⟨word, hword, rfl⟩ := List.mem_map.mp hword'
    rcases List.mem_cons.mp hc with hc | hc
    · exact .inr (.inr (.inr hc))
    · rcases mem_quote hc with hc | hc | hc
      · exact .inl ⟨word, hword, hc⟩
      · exact .inr (.inl hc)
      · exact .inr (.inr (.inl hc))
  cases words with
  | nil => simp [writeCommand, writeWords] at h
  | cons word rest =>
      apply hspaced (word :: rest)
      have hcons : spaced ((word :: rest).map doublePercent) =
          ' ' :: writeCommand (word :: rest) := rfl
      rw [hcons]
      exact List.mem_cons_of_mem _ h

end Systemd

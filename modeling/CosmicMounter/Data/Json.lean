import Mathlib

/-!
# JSON texts

The compact JSON writer, on lists of characters.  Strings are quoted with the
short escapes, and with four hexadecimal digits for the other control
characters.  A written value can be told apart from whatever follows it, so
two values with the same text are equal.
-/

namespace Json

mutual

inductive Value
  | null
  | string (s : String)
  | object (fields : Fields)

inductive Fields
  | nil
  | cons (key : String) (value : Value) (rest : Fields)

end

/-! ## Strings -/

def hexDigit (n : Nat) : Char := if n < 10 then .ofNat (48 + n) else .ofNat (87 + n)

def escapeChar (c : Char) : List Char :=
  if c = '"' then ['\\', '"']
  else if c = '\\' then ['\\', '\\']
  else if c = '\x08' then ['\\', 'b']
  else if c = '\x0c' then ['\\', 'f']
  else if c = '\n' then ['\\', 'n']
  else if c = '\r' then ['\\', 'r']
  else if c = '\t' then ['\\', 't']
  else if c.toNat < 0x20 then ['\\', 'u', '0', '0', hexDigit (c.toNat / 16), hexDigit (c.toNat % 16)]
  else [c]

/-- The first character of an escaped text, and what follows it. -/
def readChar : List Char → Option (Char × List Char)
  | '\\' :: '"' :: rest => some ('"', rest)
  | '\\' :: '\\' :: rest => some ('\\', rest)
  | '\\' :: 'b' :: rest => some ('\x08', rest)
  | '\\' :: 'f' :: rest => some ('\x0c', rest)
  | '\\' :: 'n' :: rest => some ('\n', rest)
  | '\\' :: 'r' :: rest => some ('\r', rest)
  | '\\' :: 't' :: rest => some ('\t', rest)
  | '\\' :: 'u' :: '0' :: '0' :: a :: b :: rest => some (.ofNat (16 * value a + value b), rest)
  | '"' :: _ => none
  | c :: rest => some (c, rest)
  | [] => none
where
  value (c : Char) : Nat := if c.isDigit then c.toNat - 48 else c.toNat - 87

theorem readChar_hex {n : Nat} (hn : n < 0x20) (rest : List Char) :
    readChar ('\\' :: 'u' :: '0' :: '0' :: hexDigit (n / 16) :: hexDigit (n % 16) :: rest) =
      some (.ofNat n, rest) := by
  interval_cases n <;> rfl

theorem readChar_plain {c : Char} (hquote : c ≠ '"') (hbackslash : c ≠ '\\') (rest : List Char) :
    readChar (c :: rest) = some (c, rest) := by
  unfold readChar
  split <;> simp_all

/-- Escaping a character can be undone, whatever stands behind it. -/
theorem readChar_escapeChar (c : Char) (rest : List Char) :
    readChar (escapeChar c ++ rest) = some (c, rest) := by
  unfold escapeChar
  split_ifs with h₁ h₂ h₃ h₄ h₅ h₆ h₇ hcontrol
  · rw [h₁]; rfl
  · rw [h₂]; rfl
  · rw [h₃]; rfl
  · rw [h₄]; rfl
  · rw [h₅]; rfl
  · rw [h₆]; rfl
  · rw [h₇]; rfl
  · have hread := readChar_hex hcontrol rest
    rwa [Char.ofNat_toNat] at hread
  · exact readChar_plain h₁ h₂ rest

theorem readChar_quote (rest : List Char) : readChar ('"' :: rest) = none := rfl

/-- The characters of a string and its closing quote. -/
def writeTail (cs : List Char) : List Char := cs.flatMap escapeChar ++ ['"']

def writeString (s : String) : List Char := '"' :: writeTail s.toList

theorem writeTail_cons (c : Char) (cs : List Char) :
    writeTail (c :: cs) = escapeChar c ++ writeTail cs := by
  simp [writeTail]

theorem writeTail_append_inj {cs ds s t : List Char}
    (h : writeTail cs ++ s = writeTail ds ++ t) : cs = ds ∧ s = t := by
  induction cs generalizing ds with
  | nil =>
      have hread := congrArg readChar h
      cases ds with
      | nil => exact ⟨rfl, by simpa [writeTail] using h⟩
      | cons d ds =>
          rw [writeTail_cons, List.append_assoc, readChar_escapeChar] at hread
          simp [writeTail, readChar_quote] at hread
  | cons c cs ih =>
      have hread := congrArg readChar h
      rw [writeTail_cons, List.append_assoc, readChar_escapeChar] at hread
      cases ds with
      | nil => simp [writeTail, readChar_quote] at hread
      | cons d ds =>
          rw [writeTail_cons, List.append_assoc, readChar_escapeChar] at hread
          obtain ⟨hc, hrest⟩ := Prod.mk.inj (Option.some.inj hread)
          obtain ⟨hcs, hst⟩ := ih hrest
          exact ⟨by rw [hc, hcs], hst⟩

theorem writeString_append_inj {a b : String} {s t : List Char}
    (h : writeString a ++ s = writeString b ++ t) : a = b ∧ s = t := by
  obtain ⟨hcs, hst⟩ := writeTail_append_inj (List.cons.inj h).2
  exact ⟨String.toList_inj.mp hcs, hst⟩

/-! ## Values -/

mutual

def write : Value → List Char
  | .null => ['n', 'u', 'l', 'l']
  | .string s => writeString s
  | .object .nil => ['{', '}']
  | .object (.cons key value rest) =>
      '{' :: (writeString key ++ ':' :: (write value ++ writeFields rest))

/-- The remaining fields of an object and its closing brace. -/
def writeFields : Fields → List Char
  | .nil => ['}']
  | .cons key value rest =>
      ',' :: (writeString key ++ ':' :: (write value ++ writeFields rest))

end

/-- One field and what follows it: the common part of `write` and `writeFields`. -/
theorem writeField_inj {key key' : String} {s t : List Char}
    (h : writeString key ++ ':' :: s = writeString key' ++ ':' :: t) : key = key' ∧ s = t := by
  obtain ⟨hkey, hrest⟩ := writeString_append_inj h
  exact ⟨hkey, (List.cons.inj hrest).2⟩

mutual

/-- A value can be told apart from what follows its text. -/
theorem write_append_inj : ∀ {v w : Value} {s t : List Char},
    write v ++ s = write w ++ t → v = w ∧ s = t
  | .null, .null, _, _, h => ⟨rfl, List.append_cancel_left h⟩
  | .string _, .string _, _, _, h => by
      obtain ⟨rfl, hst⟩ := writeString_append_inj h
      exact ⟨rfl, hst⟩
  | .object .nil, .object .nil, _, _, h => ⟨rfl, List.append_cancel_left h⟩
  | .object (.cons key value rest), .object (.cons key' value' rest'), s, t, h => by
      simp only [write, List.cons_append, List.append_assoc] at h
      obtain ⟨hkey, htail⟩ := writeField_inj (List.cons.inj h).2
      obtain ⟨hvalue, hrest⟩ := write_append_inj htail
      obtain ⟨hfields, hst⟩ := writeFields_append_inj hrest
      exact ⟨by rw [hkey, hvalue, hfields], hst⟩
  | .null, .string _, _, _, h => by simp [write, writeString] at h
  | .null, .object .nil, _, _, h => by simp [write] at h
  | .null, .object (.cons ..), _, _, h => by simp [write] at h
  | .string _, .null, _, _, h => by simp [write, writeString] at h
  | .string _, .object .nil, _, _, h => by simp [write, writeString] at h
  | .string _, .object (.cons ..), _, _, h => by simp [write, writeString] at h
  | .object .nil, .null, _, _, h => by simp [write] at h
  | .object .nil, .string _, _, _, h => by simp [write, writeString] at h
  | .object .nil, .object (.cons ..), _, _, h => by simp [write, writeString] at h
  | .object (.cons ..), .null, _, _, h => by simp [write] at h
  | .object (.cons ..), .string _, _, _, h => by simp [write, writeString] at h
  | .object (.cons ..), .object .nil, _, _, h => by simp [write, writeString] at h

theorem writeFields_append_inj : ∀ {fs gs : Fields} {s t : List Char},
    writeFields fs ++ s = writeFields gs ++ t → fs = gs ∧ s = t
  | .nil, .nil, _, _, h => ⟨rfl, List.append_cancel_left h⟩
  | .nil, .cons .., _, _, h => by simp [writeFields] at h
  | .cons .., .nil, _, _, h => by simp [writeFields] at h
  | .cons key value rest, .cons key' value' rest', s, t, h => by
      simp only [writeFields, List.cons_append, List.append_assoc] at h
      obtain ⟨hkey, htail⟩ := writeField_inj (List.cons.inj h).2
      obtain ⟨hvalue, hrest⟩ := write_append_inj htail
      obtain ⟨hfields, hst⟩ := writeFields_append_inj hrest
      exact ⟨by rw [hkey, hvalue, hfields], hst⟩

end

/-- The text of a value, as `serde_json` writes it. -/
def Value.text (v : Value) : String := .ofList (write v)

theorem Value.text_injective : Function.Injective Value.text := by
  intro v w h
  have hchars : write v = write w := String.ofList_injective h
  exact (write_append_inj (congrArg (· ++ []) hchars)).1

/-- An object from its fields, in order. -/
def object (fields : List (String × Value)) : Value :=
  .object (fields.foldr (fun field rest ↦ .cons field.1 field.2 rest) .nil)

def optional : Option String → Value
  | none => .null
  | some s => .string s

end Json

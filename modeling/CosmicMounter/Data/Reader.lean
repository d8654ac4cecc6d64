import CosmicMounter.Data.Decode
import CosmicMounter.Rust.Trimming

/-!
# Reading JSON texts

A reader for the texts that the compact writer produces: it returns the value
that was written and whatever follows it.
-/

namespace Json

/-- The characters of a string, and what follows its closing quote. -/
def readString : Nat → List Char → Option (List Char × List Char)
  | 0, _ => none
  | n + 1, cs =>
      match readChar cs with
      | some (c, rest) => (readString n rest).map fun read ↦ (c :: read.1, read.2)
      | none => if cs.head? = some '"' then some ([], cs.tail) else none

mutual

def read : Nat → List Char → Option (Value × List Char)
  | 0, _ => none
  | n + 1, cs =>
      match cs with
      | 'n' :: 'u' :: 'l' :: 'l' :: rest => some (.null, rest)
      | '"' :: rest => (readString n rest).map fun read ↦ (.string (.ofList read.1), read.2)
      | '{' :: '}' :: rest => some (.object .nil, rest)
      | '{' :: rest => (readFields n (',' :: rest)).map fun read ↦ (.object read.1, read.2)
      | _ => none

def readFields : Nat → List Char → Option (Fields × List Char)
  | 0, _ => none
  | n + 1, cs =>
      match cs with
      | '}' :: rest => some (.nil, rest)
      | ',' :: '"' :: rest =>
          (readString n rest).bind fun key ↦
            (read n key.2.tail).bind fun value ↦
              (readFields n value.2).map fun fields ↦
                (.cons (.ofList key.1) value.1 fields.1, fields.2)
      | _ => none

end

theorem readString_writeTail {cs : List Char} {n : Nat} (h : cs.length < n) (rest : List Char) :
    readString n (writeTail cs ++ rest) = some (cs, rest) := by
  induction cs generalizing n with
  | nil =>
      obtain ⟨n, rfl⟩ := Nat.exists_eq_succ_of_ne_zero (Nat.ne_of_gt h)
      rfl
  | cons c cs ih =>
      obtain ⟨n, rfl⟩ := Nat.exists_eq_succ_of_ne_zero (Nat.ne_zero_of_lt h)
      rw [writeTail_cons, List.append_assoc, readString, readChar_escapeChar]
      dsimp only
      rw [ih (Nat.lt_of_succ_lt_succ h), Option.map_some]

theorem length_escapeChar_pos (c : Char) : 0 < (escapeChar c).length := by
  unfold escapeChar
  split_ifs <;> exact Nat.succ_pos _

theorem length_writeTail (cs : List Char) : cs.length < (writeTail cs).length := by
  induction cs with
  | nil => exact Nat.zero_lt_succ _
  | cons c cs ih =>
      have hpos := length_escapeChar_pos c
      rw [writeTail_cons, List.length_append, List.length_cons]
      omega

theorem length_writeString (s : String) : s.toList.length + 1 < (writeString s).length := by
  have htail := length_writeTail s.toList
  rw [writeString, List.length_cons]
  omega

theorem readString_writeString {s : String} {n : Nat} (h : (writeString s).length ≤ n + 1)
    (rest : List Char) : readString n (writeTail s.toList ++ rest) = some (s.toList, rest) := by
  have hlength := length_writeString s
  exact readString_writeTail (by omega) rest

mutual

theorem read_write : ∀ (v : Value) {n : Nat} (_ : (write v).length < n) (rest : List Char),
    read n (write v ++ rest) = some (v, rest)
  | .null, n + 1, _, rest => rfl
  | .string s, n + 1, h, rest => by
      have hread := readString_writeString (Nat.le_of_lt h) rest
      change (readString n (writeTail s.toList ++ rest)).map _ = _
      rw [hread, Option.map_some, String.ofList_toList]
  | .object .nil, n + 1, _, rest => rfl
  | .object (.cons key value fields), n + 1, h, rest => by
      have hfields := readFields_writeFields (.cons key value fields) (n := n) (by
        rw [writeFields]
        rw [write] at h
        simp only [List.length_cons] at h ⊢
        omega) rest
      change (readFields n (',' :: (writeString key ++ ':' :: (write value ++ writeFields fields)) ++
        rest)).map _ = _
      rw [writeFields] at hfields
      rw [hfields, Option.map_some]

theorem readFields_writeFields : ∀ (fields : Fields) {n : Nat} (_ : (writeFields fields).length ≤ n)
    (rest : List Char), readFields n (writeFields fields ++ rest) = some (fields, rest)
  | .nil, n + 1, _, rest => rfl
  | .cons key value fields, n + 1, h, rest => by
      rw [writeFields] at h ⊢
      simp only [List.length_cons, List.length_append] at h
      have hkey := readString_writeString (s := key) (n := n) (by omega)
        (':' :: (write value ++ writeFields fields) ++ rest)
      have hvalue := read_write value (n := n) (by omega) (writeFields fields ++ rest)
      have hfields := readFields_writeFields fields (n := n) (by omega) rest
      have happend : writeTail key.toList ++ (':' :: (write value ++ writeFields fields) ++ rest) =
          writeTail key.toList ++ ':' :: (write value ++ writeFields fields) ++ rest := by simp
      change (readString n (writeTail key.toList ++ ':' :: (write value ++ writeFields fields) ++ rest)).bind
        _ = _
      rw [← happend, hkey, Option.bind_some, List.cons_append, List.tail_cons, List.append_assoc, hvalue,
        Option.bind_some, hfields, Option.map_some, String.ofList_toList]

end

def parse (s : String) : Except String Serde.Value :=
  match read (s.toList.length + 1) s.toList with
  | some (value, []) => .ok value.parsed
  | _ => .error "expected value"

theorem parse_text (value : Value) : parse value.text = .ok value.parsed := by
  have hread := read_write value (Nat.lt_succ_self _) []
  rw [List.append_nil] at hread
  rw [parse, Value.text, String.toList_ofList, hread]

theorem readsBack_parse : ReadsBack parse := fun value _ ↦ parse_text value

/-! ## Documents -/

def spaces : List Char := [' ', '\t', '\n', '\r']

/-- A value as the compact writer writes it, and white space behind it. -/
def parseDocument (s : String) : Except String Serde.Value :=
  let text := s.toList.rdropWhile (· ∈ spaces)
  match read (text.length + 1) text with
  | some (value, _) => if write value = text then .ok value.parsed else .error "expected value"
  | none => .error "expected value"

theorem exists_write_of_parseDocument {s : String} {parsed : Serde.Value}
    (h : parseDocument s = .ok parsed) : ∃ value : Value, value.parsed = parsed ∧
      ∃ w, s.toList = write value ++ w ∧ ∀ c ∈ w, c ∈ spaces := by
  rw [parseDocument] at h
  split at h
  · next value _ _ =>
      split_ifs at h with htext
      refine ⟨value, Except.ok.inj h, s.toList.rtakeWhile (· ∈ spaces), ?_, ?_⟩
      · rw [htext, List.rdropWhile_append_rtakeWhile]
      · intro c hc
        simpa using List.mem_rtakeWhile_imp hc
  · cases h

theorem parseDocument_append {s w : List Char} (h : ∀ c ∈ w, c ∈ spaces) :
    parseDocument (.ofList (s ++ w)) = parseDocument (.ofList s) := by
  have htext : (s ++ w).rdropWhile (· ∈ spaces) = s.rdropWhile (· ∈ spaces) :=
    Rust.Str.rdropWhile_append_of_forall (by simpa using h)
  rw [parseDocument, parseDocument, String.toList_ofList, String.toList_ofList, htext]

/-- A document that begins with another one adds white space to it. -/
theorem spaces_of_parseDocument {s w : List Char} {shorter longer : Serde.Value}
    (hlong : parseDocument (.ofList (s ++ w)) = .ok longer)
    (hshort : parseDocument (.ofList s) = .ok shorter) : ∀ c ∈ w, c ∈ spaces := by
  obtain ⟨value, -, behind, hvalue, -⟩ := exists_write_of_parseDocument hshort
  obtain ⟨value', -, behind', hvalue', hspaces⟩ := exists_write_of_parseDocument hlong
  rw [String.toList_ofList] at hvalue hvalue'
  rw [hvalue, List.append_assoc] at hvalue'
  obtain ⟨-, hbehind⟩ := write_append_inj hvalue'
  intro c hc
  apply hspaces
  rw [← hbehind]
  exact List.mem_append_right behind hc

end Json

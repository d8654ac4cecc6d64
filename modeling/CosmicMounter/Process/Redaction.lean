import CosmicMounter.Data.Serde
import CosmicMounter.Rust.Pattern

/-!
# Redaction of captured output

`redact_text` of `process.rs`: a JSON document loses the values of its
sensitive fields, any other text the tokens that look like a credential.
-/

namespace CosmicMounter

open Rust Serde Text

/-! ## Tokens -/

def redactValueToken (token : String) : String :=
  match token.toList with
  | [] => "[REDACTED]"
  | quote :: rest =>
      if (quote = '"' ∨ quote = '\'') ∧ quote ∈ rest then
        .ofList (quote :: "[REDACTED]".toList ++ quote :: rest.rtakeWhile (· != quote))
      else "[REDACTED]"

def sensitiveKeys : List String :=
  ["password", "passwd", "token", "secret", "credential", "authorization", "client_id",
    "client_secret", "refresh_token", "access_token"]

def hasSensitiveKey (key : String) : Bool :=
  sensitiveKeys.any fun sensitive ↦ Str.contains sensitive (Str.toAsciiLowercase key)

def redactToken (token : String) : String :=
  let lower := Str.toAsciiLowercase token
  if Str.startsWith "http://" lower || Str.startsWith "https://" lower then "[REDACTED_URL]"
  else if Str.startsWith "bearer" lower then "[REDACTED]"
  else match Str.splitOnce '=' token with
    | some (key, _) => if hasSensitiveKey key then key ++ "=[REDACTED]" else token
    | none => token

def isKeyPunctuation (c : Char) : Bool := c ∈ ['"', '\'', ':', ',', '{', '}']

/-- The number of tokens to redact after this one, when it is not redacted itself. -/
def announces (token : String) : Nat :=
  let lower := Str.toAsciiLowercase token
  let normalizedKey := Str.trimMatches isKeyPunctuation lower
  if lower = "authorization:" then 2
  else if lower ∈ ["bearer", "--password", "--passwd", "--token", "--client-id", "--client-secret"] ∨
      normalizedKey ∈ ["client_id", "client_secret"] then 1
  else 0

/-- One token, and the number of tokens still to redact. -/
def redactStep (remaining : Nat) (token : String) : String × Nat :=
  if 0 < remaining then (redactValueToken token, remaining - 1)
  else if announces token ≠ 0 then (token, announces token)
  else (redactToken token, 0)

/-! ## Plain text -/

def redactRuns : Nat → List String → List String
  | _, [] => []
  | remaining, run :: rest =>
      if Str.isBlank run then run :: redactRuns remaining rest
      else (redactStep remaining run).1 :: redactRuns (redactStep remaining run).2 rest

theorem redactRuns_blank {run : String} (h : Str.isBlank run = true) (remaining : Nat)
    (rest : List String) : redactRuns remaining (run :: rest) = run :: redactRuns remaining rest := by
  rw [redactRuns, if_pos h]

theorem redactRuns_token {run : String} (h : Str.IsToken run) (remaining : Nat)
    (rest : List String) : redactRuns remaining (run :: rest) =
      (redactStep remaining run).1 :: redactRuns (redactStep remaining run).2 rest := by
  rw [redactRuns, h.isBlank]
  rfl

def redactPlainText (value : String) : String := Str.join "" (redactRuns 0 (Str.textRuns value))

/-! ## What plain text keeps -/

def redactionMarks : List (List Char) := ["[REDACTED]".toList, "[REDACTED_URL]".toList]

/-- Only characters that are not white space were replaced, by marks. -/
def Redacts (value redacted : String) : Prop :=
  Marked (fun c ↦ !Str.isWhitespace c) redactionMarks value.toList redacted.toList

theorem redacts_mark {token : String} (h : Str.IsToken token) {mark : String}
    (hmark : mark.toList ∈ redactionMarks) : Redacts token mark := by
  refine Marked.of_mark ?_ hmark
  intro c hc
  rw [h.noSpace c hc, Bool.not_false]

theorem redacted_mem_marks : "[REDACTED]".toList ∈ redactionMarks := List.mem_cons_self

theorem redacts_valueToken {token : String} (h : Str.IsToken token) :
    Redacts token (redactValueToken token) := by
  unfold redactValueToken
  split
  · exact redacts_mark h redacted_mem_marks
  · next quote rest htoken =>
      split_ifs with hquote
      · obtain ⟨inside, hinside⟩ := Str.exists_eq_append_rtakeWhile hquote.2
        have hmark : Marked (fun c ↦ !Str.isWhitespace c) redactionMarks inside "[REDACTED]".toList := by
          refine Marked.of_mark ?_ redacted_mem_marks
          intro c hc
          have hmem : c ∈ token.toList := by
            rw [htoken, hinside]
            simp [hc]
          rw [h.noSpace c hmem, Bool.not_false]
        rw [Redacts, htoken, String.toList_ofList]
        nth_rewrite 1 [hinside]
        exact Marked.keep quote (hmark.append (Marked.refl _))
      · exact redacts_mark h redacted_mem_marks

theorem redacts_token {token : String} (h : Str.IsToken token) :
    Redacts token (redactToken token) := by
  dsimp only [redactToken]
  split_ifs
  · exact redacts_mark h (List.mem_cons_of_mem _ List.mem_cons_self)
  · exact redacts_mark h redacted_mem_marks
  · split
    · next key rest hsplit =>
        split_ifs
        · obtain ⟨htoken, -⟩ := Str.splitOnce_eq_some hsplit
          have hmark : Marked (fun c ↦ !Str.isWhitespace c) redactionMarks rest.toList
              "[REDACTED]".toList := by
            refine Marked.of_mark ?_ redacted_mem_marks
            intro c hc
            rw [h.noSpace c (by simp [htoken, hc]), Bool.not_false]
          have hkept := (Marked.refl (key.toList ++ ['='])).append hmark
          rw [Redacts, htoken]
          simpa using hkept
        · exact Marked.refl _
    · exact Marked.refl _

theorem redacts_step {token : String} (h : Str.IsToken token) (remaining : Nat) :
    Redacts token (redactStep remaining token).1 := by
  unfold redactStep
  split_ifs
  · exact redacts_valueToken h
  · exact Marked.refl _
  · exact redacts_token h

theorem redacts_plainText (value : String) : Redacts value (redactPlainText value) := by
  have hrun : ∀ (pieces : List String) (remaining : Nat),
      (∀ run ∈ pieces, Str.IsToken run ∨ Str.isBlank run = true) →
      Redacts (Str.join "" pieces) (Str.join "" (redactRuns remaining pieces)) := by
    intro pieces
    induction pieces with
    | nil => exact fun _ _ ↦ Marked.refl _
    | cons run rest ih =>
        intro remaining hpieces
        have hrest := fun n ↦ ih n fun r hr ↦ hpieces r (List.mem_cons_of_mem _ hr)
        rw [redactRuns]
        split_ifs with hblank
        · rw [Redacts, Str.toList_join_cons, Str.toList_join_cons]
          exact (Marked.refl _).append (hrest remaining)
        · have htoken := (hpieces run List.mem_cons_self).resolve_right hblank
          rw [Redacts, Str.toList_join_cons, Str.toList_join_cons]
          exact (redacts_step htoken remaining).append (hrest _)
  have hvalue := hrun (Str.textRuns value) 0 fun run hmem ↦ Str.isToken_or_isBlank_of_mem hmem
  rwa [Str.join_textRuns] at hvalue

namespace Redacts

variable {value redacted word : String}

/-- No character of the word is used by a mark. -/
def Unmarked (word : String) : Prop :=
  (word.toList.any fun c ↦ "[REDACTED_URL]".toList.contains c) = false

instance (word : String) : Decidable (Unmarked word) := inferInstanceAs (Decidable (_ = _))

theorem Unmarked.fresh (h : Unmarked word) : Marked.Fresh redactionMarks word.toList := by
  have hletters : ∀ mark ∈ redactionMarks, ∀ c ∈ mark, c ∈ "[REDACTED_URL]".toList := by
    simp [redactionMarks]
  constructor
  · simp [redactionMarks]
  · intro mark hmark c hc hmem
    have hnot := List.any_eq_false.mp h c hc
    simp only [List.contains_iff_mem, hletters mark hmark c hmem, not_true_eq_false] at hnot

/-- White space stays as it is. -/
theorem filter_isWhitespace (h : Redacts value redacted) :
    redacted.toList.filter Str.isWhitespace = value.toList.filter Str.isWhitespace := by
  apply Marked.filter_eq h
  · intro c hc
    simpa using hc
  · simp [redactionMarks, Str.isWhitespace]

theorem eq_of_unmarked (h : Redacts value redacted) (hfresh : Unmarked redacted) :
    redacted = value := String.toList_inj.mp (Marked.eq_of_fresh hfresh.fresh h)

theorem infix_of_infix (h : Redacts value redacted) (hfresh : Unmarked word)
    (hword : word.toList <:+: redacted.toList) : word.toList <:+: value.toList :=
  Marked.infix_of_infix hfresh.fresh h hword

theorem isToken (h : Redacts value redacted) (hvalue : Str.IsToken value) : Str.IsToken redacted := by
  constructor
  · rintro rfl
    exact hvalue.notEmpty (h.eq_of_unmarked (by decide)).symm
  · have hfilter : redacted.toList.filter Str.isWhitespace = [] := by
      rw [h.filter_isWhitespace, List.filter_eq_nil_iff]
      intro c hc
      simp [hvalue.noSpace c hc]
    intro c hc
    simpa using List.filter_eq_nil_iff.mp hfilter c hc

/-- A component that shows after marking was there before. -/
theorem mem_split_of_marked {droppable : Char → Bool} {part : String}
    (h : Marked droppable redactionMarks value.toList redacted.toList) (hslash : '/' ∉ part.toList)
    (hfresh : Unmarked part) (hpart : part ∈ Str.split '/' redacted) :
    part ∈ Str.split '/' value := by
  rw [Str.mem_split_iff hslash] at hpart ⊢
  have hword : '/' :: part.toList ++ ['/'] = ("/" ++ part ++ "/").toList := by simp
  have hfresh' : Unmarked ("/" ++ part ++ "/") := by
    have hslash : "[REDACTED_URL]".toList.contains '/' = false := by decide
    rw [Unmarked] at hfresh ⊢
    rw [← hword, List.any_append, List.any_cons, hfresh, hslash]
    simp
  rw [hword] at hpart ⊢
  have hwrapped : Marked droppable redactionMarks
      ('/' :: value.toList ++ ['/']) ('/' :: redacted.toList ++ ['/']) :=
    Marked.append (Marked.keep '/' h) (Marked.refl _)
  exact Marked.infix_of_infix hfresh'.fresh hwrapped hpart

theorem eq_iff_of_unmarked (hword : Unmarked word) (hkept : redactPlainText word = word) :
    redactPlainText value = word ↔ value = word := by
  constructor
  · intro heq
    have hredacts := redacts_plainText value
    rw [heq] at hredacts
    exact (hredacts.eq_of_unmarked hword).symm
  · rintro rfl
    exact hkept

theorem startsWith_of_startsWith (h : Redacts value redacted) (hfresh : Unmarked word)
    (hstart : Str.startsWith word redacted = true) : Str.startsWith word value = true := by
  rw [Str.startsWith_iff] at hstart ⊢
  exact Marked.prefix_of_prefix hfresh.fresh h hstart

end Redacts

/-! ## Tokens that redaction passes by -/

/-- No token that announces a credential, and no address, begins like this. -/
def IsQuiet (c : Char) : Prop :=
  c.toLower ∉ ['a', 'b', 'c', 'h', '-'] ∧ isKeyPunctuation c.toLower = false

instance (c : Char) : Decidable (IsQuiet c) := inferInstanceAs (Decidable (_ ∧ _))

theorem isQuiet_of_isDigit {c : Char} (h : c.isDigit = true) : IsQuiet c := by
  have hrange := Str.toNat_of_isDigit h
  have hdigits : ∀ n, 48 ≤ n → n ≤ 57 → IsQuiet (Char.ofNat n) := by decide
  have hc := hdigits c.toNat hrange.1 hrange.2
  rwa [Char.ofNat_toNat] at hc

theorem toList_toAsciiLowercase (s : String) :
    (Str.toAsciiLowercase s).toList = s.toList.map Char.toLower := by
  rw [Str.toAsciiLowercase, String.toList_ofList]

section Quiet

variable {token : String} {c : Char} {rest : List Char}

theorem lower_ne_of_quiet (htoken : token.toList = c :: rest) {word : String} {d : Char}
    {tail : List Char} (hword : word.toList = d :: tail) (hd : c.toLower ≠ d) :
    Str.toAsciiLowercase token ≠ word := by
  intro heq
  have hlist := congrArg String.toList heq
  rw [toList_toAsciiLowercase, htoken, hword, List.map_cons] at hlist
  exact hd (List.cons.inj hlist).1

theorem normalizedKey_ne_of_quiet {opening : List Char} (htoken : token.toList = opening ++ c :: rest)
    (hopening : ∀ b ∈ opening, isKeyPunctuation b.toLower = true)
    (hpunctuation : isKeyPunctuation c.toLower = false) {word : String} {d : Char}
    {tail : List Char} (hword : word.toList = d :: tail) (hd : c.toLower ≠ d) :
    Str.trimMatches isKeyPunctuation (Str.toAsciiLowercase token) ≠ word := by
  have hmap : ∀ b ∈ opening.map Char.toLower, isKeyPunctuation b = true := by simpa using hopening
  intro heq
  have hlist := congrArg String.toList heq
  rw [Str.trimMatches, String.toList_ofList, toList_toAsciiLowercase, htoken, hword, List.map_append,
    List.map_cons, List.dropWhile_append_of_pos hmap, List.dropWhile_cons_of_neg (by simp [hpunctuation])]
    at hlist
  have hprefix := List.rdropWhile_prefix isKeyPunctuation (c.toLower :: rest.map Char.toLower)
  rw [hlist, List.cons_prefix_cons] at hprefix
  exact hd hprefix.1.symm

/-- After quotes and a quiet character no marker can begin. -/
theorem exists_head_of_quiet {opening : List Char} (htoken : token.toList = opening ++ c :: rest)
    (hopening : ∀ b ∈ opening, b = '"' ∨ b = '\'') (hc : IsQuiet c) :
    ∃ b tail, token.toList = b :: tail ∧ b.toLower ∉ ['a', 'b', 'h', '-'] := by
  cases opening with
  | nil =>
      refine ⟨c, rest, htoken, fun hmem ↦ hc.1 (List.Sublist.subset ?_ hmem)⟩
      decide
  | cons b opening =>
      refine ⟨b, _, htoken, ?_⟩
      rcases hopening b List.mem_cons_self with rfl | rfl <;> decide

theorem announces_of_opening {opening : List Char} (htoken : token.toList = opening ++ c :: rest)
    (hopening : ∀ b ∈ opening, b = '"' ∨ b = '\'') (hc : IsQuiet c) : announces token = 0 := by
  obtain ⟨b, tail, hhead, hb⟩ := exists_head_of_quiet htoken hopening hc
  simp only [List.mem_cons, List.not_mem_nil, or_false, not_or] at hb
  have hclient : c.toLower ≠ 'c' := fun h ↦ hc.1 (by simp [h])
  have hpunctuation : ∀ b ∈ opening, isKeyPunctuation b.toLower = true := by
    intro b hmem
    rcases hopening b hmem with rfl | rfl <;> decide
  have hlower : Str.toAsciiLowercase token ≠ "authorization:" := lower_ne_of_quiet hhead rfl hb.1
  have hword : Str.toAsciiLowercase token ∉
      ["bearer", "--password", "--passwd", "--token", "--client-id", "--client-secret"] := by
    simp only [List.mem_cons, List.not_mem_nil, or_false, not_or]
    refine ⟨lower_ne_of_quiet hhead rfl hb.2.1, ?_, ?_, ?_, ?_, ?_⟩
    all_goals exact lower_ne_of_quiet hhead rfl hb.2.2.2
  have hkey : Str.trimMatches isKeyPunctuation (Str.toAsciiLowercase token) ∉
      ["client_id", "client_secret"] := by
    simp only [List.mem_cons, List.not_mem_nil, or_false, not_or]
    exact ⟨normalizedKey_ne_of_quiet htoken hpunctuation hc.2 rfl hclient,
      normalizedKey_ne_of_quiet htoken hpunctuation hc.2 rfl hclient⟩
  simp only [announces, hlower, hword, hkey, if_false, or_self]

theorem announces_of_quiet (htoken : token.toList = c :: rest) (hc : IsQuiet c) :
    announces token = 0 := @announces_of_opening token c rest [] htoken nofun hc

/-- Such a token loses at most the value of a sensitive key. -/
theorem redactToken_of_opening {opening : List Char} (htoken : token.toList = opening ++ c :: rest)
    (hopening : ∀ b ∈ opening, b = '"' ∨ b = '\'') (hc : IsQuiet c) :
    redactToken token = match Str.splitOnce '=' token with
      | some (key, _) => if hasSensitiveKey key then key ++ "=[REDACTED]" else token
      | none => token := by
  obtain ⟨b, tail, hhead, hb⟩ := exists_head_of_quiet htoken hopening hc
  simp only [List.mem_cons, List.not_mem_nil, or_false, not_or] at hb
  have hstart : ∀ (word : String) {d : Char} {tail : List Char}, word.toList = d :: tail →
      b.toLower ≠ d → Str.startsWith word (Str.toAsciiLowercase token) = false := by
    intro word d tail hword hd
    rw [← Bool.not_eq_true, Str.startsWith_iff, hword, toList_toAsciiLowercase, hhead, List.map_cons,
      List.cons_prefix_cons]
    exact fun h ↦ hd h.1.symm
  dsimp only [redactToken]
  rw [hstart "http://" rfl hb.2.2.1, hstart "https://" rfl hb.2.2.1, hstart "bearer" rfl hb.2.1]
  rfl

theorem redactToken_of_quiet (htoken : token.toList = c :: rest) (hc : IsQuiet c) :
    redactToken token = match Str.splitOnce '=' token with
      | some (key, _) => if hasSensitiveKey key then key ++ "=[REDACTED]" else token
      | none => token := @redactToken_of_opening token c rest [] htoken nofun hc

theorem redactStep_of_quiet (htoken : token.toList = c :: rest) (hc : IsQuiet c) :
    redactStep 0 token = (redactToken token, 0) := by
  rw [redactStep, if_neg (Nat.lt_irrefl 0), announces_of_quiet htoken hc]
  rfl

theorem redactPlainText_of_isToken (h : Str.IsToken token) :
    redactPlainText token = (redactStep 0 token).1 := by
  have hruns : Str.textRuns token = [token] := by
    have hcut := Str.textRuns_token_append "" h (by simp)
    simpa using hcut
  rw [redactPlainText, hruns, redactRuns, h.isBlank]
  simp [redactRuns]

/-- A single quiet token without an equals sign stays as it is. -/
theorem redactPlainText_of_quiet (h : Str.IsToken token) (htoken : token.toList = c :: rest)
    (hc : IsQuiet c) (hequals : '=' ∉ token.toList) : redactPlainText token = token := by
  rw [redactPlainText_of_isToken h, redactStep_of_quiet htoken hc, redactToken_of_quiet htoken hc,
    Str.splitOnce, if_neg hequals]

end Quiet

/-! ## Documents -/

def isSensitiveField (key : String) : Bool :=
  let key := Str.toAsciiLowercase key
  decide (key ∈ ["pass", "password", "passwd", "token", "secret", "credential", "credentials",
    "authorization", "client_id", "client_secret", "key_pem", "key_file_pass", "private_key"]) ||
  Str.endsWith "_token" key || Str.endsWith "_password" key || Str.endsWith "_secret" key ||
  Str.endsWith "_credentials" key

mutual

def redactJsonValue : Value → Value
  | .object fields => .object (redactFields fields)
  | .array items => .array (redactItems items)
  | .string text => .string (redactPlainText text)
  | .null => .null
  | .bool b => .bool b
  | .number n => .number n

def redactItems : Items → Items
  | .nil => .nil
  | .cons value rest => .cons (redactJsonValue value) (redactItems rest)

def redactFields : Fields → Fields
  | .nil => .nil
  | .cons key value rest =>
      .cons key (if isSensitiveField key then .string "[REDACTED]" else redactJsonValue value)
        (redactFields rest)

end

@[simp] theorem get_redactFields (name : String) (fields : Fields) :
    (redactFields fields).get name = (fields.get name).map fun value ↦
      if isSensitiveField name then .string "[REDACTED]" else redactJsonValue value := by
  cases fields with
  | nil => rfl
  | cons key value rest =>
      rw [redactFields, Fields.get, Fields.get, get_redactFields name rest]
      by_cases hkey : key = name
      · rw [if_pos hkey, if_pos hkey, hkey, Option.map_some]
      · rw [if_neg hkey, if_neg hkey]

@[simp] theorem toList_redactItems (items : Items) :
    (redactItems items).toList = items.toList.map redactJsonValue := by
  cases items with
  | nil => rfl
  | cons value rest =>
      rw [redactItems, Items.toList, Items.toList, toList_redactItems rest, List.map_cons]

section Values

variable (value : Value)

theorem get_redactJsonValue (name : String) :
    (redactJsonValue value).get name = (value.get name).map fun field ↦
      if isSensitiveField name then .string "[REDACTED]" else redactJsonValue field := by
  cases value with
  | object fields => exact get_redactFields name fields
  | null | bool | number | string | array => rfl

@[simp] theorem asU64_redactJsonValue : (redactJsonValue value).asU64 = value.asU64 := by
  cases value <;> rfl

@[simp] theorem asBool_redactJsonValue : (redactJsonValue value).asBool = value.asBool := by
  cases value <;> rfl

@[simp] theorem asStr_redactJsonValue :
    (redactJsonValue value).asStr = value.asStr.map redactPlainText := by
  cases value <;> rfl

end Values

/-- `serde_json` at the type of all values: the parser and the compact writer. -/
structure SerdeJson where
  fromStr : String → Except String Value
  toString : Value → String

def redactText (json : SerdeJson) (value : String) : String :=
  match json.fromStr value with
  | .ok structured => json.toString (redactJsonValue structured)
  | .error _ => redactPlainText value

end CosmicMounter

import CosmicMounter.Process.Redaction

/-!
# What redaction keeps of a document

A redacted document has the shape of the original.  Below a sensitive key only
the mark is left, everywhere else only strings change.
-/

namespace CosmicMounter.Redaction

open Rust Serde

/-! ## Places in a document -/

inductive Step
  | field (name : String)
  | item (index : Nat)
  deriving DecidableEq, Repr

def child : Step → Value → Option Value
  | .field name, value => value.get name
  | .item index, .array items => items.toList[index]?
  | .item _, _ => none

def at? : List Step → Value → Option Value
  | [], value => some value
  | step :: path, value => (child step value).bind (at? path)

/-- What a value is, its parts aside. -/
inductive Head
  | null
  | bool (b : Bool)
  | number (n : Number)
  | string (s : String)
  | array (length : Nat)
  | object (keys : List String)
  deriving DecidableEq, Repr

def head : Value → Head
  | .null => .null
  | .bool b => .bool b
  | .number n => .number n
  | .string s => .string s
  | .array items => .array items.toList.length
  | .object fields => .object (fields.toList.map (·.1))

/-- The path leads through no sensitive field. -/
def IsPublic (path : List Step) : Prop :=
  ∀ name, .field name ∈ path → isSensitiveField name = false

/-- A float may be written in another way than it was read. -/
def rereadNumber (f : String → String) : Number → Number
  | .float text => .float (f text)
  | .unsigned n => .unsigned n
  | .negative i => .negative i

def redactHead (f : String → String) : Head → Head
  | .string s => .string (redactPlainText s)
  | .number n => .number (rereadNumber f n)
  | .null => .null
  | .bool b => .bool b
  | .array length => .array length
  | .object keys => .object keys

/-- The document of the same shape, without the values of its sensitive fields. -/
structure IsRedacted (f : String → String) (value redacted : Value) : Prop where
  hidden : ∀ path name field, isSensitiveField name = true →
    at? (path ++ [.field name]) redacted = some field → field = .string "[REDACTED]"
  kept : ∀ path, IsPublic path →
    (at? path redacted).map head = (at? path value).map fun field ↦ redactHead f (head field)

/-! ## Redaction along a path -/

section Paths

variable (f : String → String)

/-- What is read back of a value that was redacted. -/
def reread (value : Value) : Value := (redactJsonValue value).rereadFloats f

theorem child_field_reread (name : String) (value : Value) : child (.field name) (reread f value) =
    (child (.field name) value).map fun field ↦
      if isSensitiveField name then .string "[REDACTED]" else reread f field := by
  rw [child, child, reread, Value.get_rereadFloats, get_redactJsonValue, Option.map_map]
  congr 1
  funext field
  by_cases hname : isSensitiveField name = true
  · simp only [Function.comp_apply, hname, if_true]
    rfl
  · simp only [Function.comp_apply, hname]
    rfl

theorem child_item_reread (index : Nat) (value : Value) :
    child (.item index) (reread f value) = (child (.item index) value).map (reread f) := by
  cases value with
  | array items =>
      have hitems : reread f (.array items) = .array ((redactItems items).rereadFloats f) := rfl
      rw [hitems, child, child, Items.toList_rereadFloats, toList_redactItems, List.map_map,
        List.getElem?_map]
      rfl
  | number n => cases n <;> rfl
  | null | bool | string | object => rfl

theorem at?_reread {path : List Step} (hpublic : IsPublic path) (value : Value) :
    at? path (reread f value) = (at? path value).map (reread f) := by
  induction path generalizing value with
  | nil => rfl
  | cons step path ih =>
      have hrest : IsPublic path := fun name hmem ↦ hpublic name (List.mem_cons_of_mem _ hmem)
      have hchild : child step (reread f value) = (child step value).map (reread f) := by
        cases step with
        | field name =>
            have hname := hpublic name List.mem_cons_self
            simp only [child_field_reread, hname]
            rfl
        | item index => exact child_item_reread f index value
      rw [at?, at?, hchild]
      cases child step value with
      | none => rfl
      | some field => exact ih hrest field

theorem keys_redactFields (fields : Fields) :
    (redactFields fields).toList.map (·.1) = fields.toList.map (·.1) := by
  cases fields with
  | nil => rfl
  | cons key value rest =>
      rw [redactFields, Fields.toList, Fields.toList, List.map_cons, List.map_cons, keys_redactFields rest]

theorem keys_rereadFloats (fields : Fields) :
    (fields.rereadFloats f).toList.map (·.1) = fields.toList.map (·.1) := by
  cases fields with
  | nil => rfl
  | cons key value rest =>
      rw [Fields.rereadFloats, Fields.toList, Fields.toList, List.map_cons, List.map_cons,
        keys_rereadFloats rest]

theorem head_reread (value : Value) : head (reread f value) = redactHead f (head value) := by
  cases value with
  | number n => cases n <;> rfl
  | array items =>
      have hitems : reread f (.array items) = .array ((redactItems items).rereadFloats f) := rfl
      rw [hitems, head, head, Items.toList_rereadFloats, toList_redactItems, List.length_map,
        List.length_map, redactHead]
  | object fields =>
      have hfields : reread f (.object fields) = .object ((redactFields fields).rereadFloats f) := rfl
      rw [hfields, head, head, keys_rereadFloats, keys_redactFields, redactHead]
  | null | bool | string => rfl

/-- Nothing is below the mark, and the mark is all that is below a sensitive key. -/
theorem eq_mark_of_at? {name : String} (hname : isSensitiveField name = true) (path : List Step)
    {value field : Value} (h : at? (path ++ [.field name]) (reread f value) = some field) :
    field = .string "[REDACTED]" := by
  induction path generalizing value with
  | nil =>
      rw [List.nil_append, at?, child_field_reread, hname] at h
      cases hchild : child (.field name) value with
      | none =>
          rw [hchild] at h
          cases h
      | some inner =>
          rw [hchild] at h
          exact (Option.some.inj h).symm
  | cons step path ih =>
      rw [List.cons_append, at?] at h
      obtain ⟨inner, hinner, hbelow⟩ := Option.bind_eq_some_iff.mp h
      cases step with
      | item index =>
          rw [child_item_reread] at hinner
          obtain ⟨original, -, rfl⟩ := Option.map_eq_some_iff.mp hinner
          exact ih hbelow
      | field outer =>
          rw [child_field_reread] at hinner
          obtain ⟨original, -, hfield⟩ := Option.map_eq_some_iff.mp hinner
          cases houter : isSensitiveField outer with
          | false =>
              rw [houter] at hfield
              subst hfield
              exact ih hbelow
          | true =>
              rw [houter] at hfield
              subst hfield
              -- the mark is a string, which has no fields and no elements
              cases path with
              | nil => cases hbelow
              | cons step path => cases step <;> cases hbelow

theorem isRedacted_reread (value : Value) : IsRedacted f value (reread f value) := by
  constructor
  · intro path name field hname h
    exact eq_mark_of_at? f hname path h
  · intro path hpublic
    rw [at?_reread f hpublic, Option.map_map]
    congr 1
    funext field
    exact head_reread f field

end Paths

/-! ## Documents that differ in their secrets only -/

mutual

inductive SameOutside : Value → Value → Prop
  | refl (value : Value) : SameOutside value value
  | array {items items' : Items} : SameItems items items' → SameOutside (.array items) (.array items')
  | object {fields fields' : Fields} :
      SameFields fields fields' → SameOutside (.object fields) (.object fields')

inductive SameItems : Items → Items → Prop
  | nil : SameItems .nil .nil
  | cons {value value' : Value} {rest rest' : Items} :
      SameOutside value value' → SameItems rest rest' → SameItems (.cons value rest) (.cons value' rest')

inductive SameFields : Fields → Fields → Prop
  | nil : SameFields .nil .nil
  | hidden {key : String} {value value' : Value} {rest rest' : Fields} : isSensitiveField key = true →
      SameFields rest rest' → SameFields (.cons key value rest) (.cons key value' rest')
  | field {key : String} {value value' : Value} {rest rest' : Fields} : SameOutside value value' →
      SameFields rest rest' → SameFields (.cons key value rest) (.cons key value' rest')

end

mutual

theorem SameOutside.redact {value value' : Value} :
    SameOutside value value' → redactJsonValue value = redactJsonValue value'
  | .refl _ => rfl
  | .array h => congrArg Value.array h.redact
  | .object h => congrArg Value.object h.redact

theorem SameItems.redact {items items' : Items} :
    SameItems items items' → redactItems items = redactItems items'
  | .nil => rfl
  | .cons hvalue hrest => by rw [redactItems, redactItems, hvalue.redact, hrest.redact]

theorem SameFields.redact {fields fields' : Fields} :
    SameFields fields fields' → redactFields fields = redactFields fields'
  | .nil => rfl
  | .hidden hkey hrest => by
      rw [redactFields, redactFields, if_pos hkey, if_pos hkey, hrest.redact]
  | .field hvalue hrest => by rw [redactFields, redactFields, hvalue.redact, hrest.redact]

end

/-! ## Redacted texts -/

/-- `serde_json` reads what it has written of a redacted document, up to its floats. -/
def ReadsBack (json : SerdeJson) : Prop :=
  ∀ s value, json.fromStr s = .ok value → ∃ f, json.fromStr (json.toString (redactJsonValue value)) =
    .ok ((redactJsonValue value).rereadFloats f)

theorem redactText_of_fromStr {json : SerdeJson} {s : String} {value : Value}
    (h : json.fromStr s = .ok value) : redactText json s = json.toString (redactJsonValue value) := by
  rw [redactText, h]

/-- Redacted JSON is JSON of the same shape, and tells nothing of the secrets. -/
theorem redactText_isRedacted {json : SerdeJson} (hjson : ReadsBack json) {s : String} {value : Value}
    (h : json.fromStr s = .ok value) :
    (∃ f redacted, json.fromStr (redactText json s) = .ok redacted ∧ IsRedacted f value redacted) ∧
      ∀ s' value', json.fromStr s' = .ok value' → SameOutside value value' →
        redactText json s' = redactText json s := by
  rw [redactText_of_fromStr h]
  constructor
  · obtain ⟨f, hread⟩ := hjson s value h
    exact ⟨f, _, hread, isRedacted_reread f value⟩
  · intro s' value' h' hsame
    rw [redactText_of_fromStr h', hsame.redact]

/-! ## A float that is written and read -/

mutual

/-- The compact writer, for strings without escapes. -/
def written : Value → String
  | .null => "null"
  | .bool b => toString b
  | .number (.unsigned n) => toString n
  | .number (.negative i) => toString i
  | .number (.float text) => text
  | .string s => "\"" ++ s ++ "\""
  | .array items => "[" ++ Str.join "," (writtenItems items) ++ "]"
  | .object fields => "\x7b" ++ Str.join "," (writtenFields fields) ++ "\x7d"

def writtenItems : Items → List String
  | .nil => []
  | .cons value rest => written value :: writtenItems rest

def writtenFields : Fields → List String
  | .nil => []
  | .cons key value rest => ("\"" ++ key ++ "\":" ++ written value) :: writtenFields rest

end

def sampleDocument (token note : String) : Value :=
  .ofFields [("access_token", .string token), ("size", .number (.unsigned 3)), ("note", .string note)]

def sampleFloat (text : String) : Value := .number (.float text)

def sampleText : String :=
  "\x7b\"access_token\":\"abc\",\"size\":3,\"note\":\"password=x\"\x7d"

def sampleRedactedText : String :=
  "\x7b\"access_token\":\"[REDACTED]\",\"size\":3,\"note\":\"password=[REDACTED]\"\x7d"

/-- A few texts, with floats that are read in the fast way. -/
def sampleTexts : List (String × Value) :=
  [(sampleText, sampleDocument "abc" "password=x"),
    (sampleRedactedText, sampleDocument "[REDACTED]" "password=[REDACTED]"),
    ("31.2452701914394380", sampleFloat "31.245270191439438"),
    ("31.245270191439438", sampleFloat "31.24527019143944"),
    ("31.24527019143944", sampleFloat "31.24527019143944")]

def sampleJson : SerdeJson where
  fromStr s := match sampleTexts.lookup s with
    | some value => .ok value
    | none => .error "expected value at line 1 column 1"
  toString := written

theorem fromStr_sampleTexts : ∀ entry ∈ sampleTexts, sampleJson.fromStr entry.1 = .ok entry.2 := by
  simp only [sampleTexts, List.forall_mem_cons, List.not_mem_nil]
  refine ⟨rfl, rfl, rfl, rfl, rfl, ?_⟩
  exact nofun

theorem mem_sampleTexts {s : String} {value : Value} (h : sampleJson.fromStr s = .ok value) :
    (s, value) ∈ sampleTexts := by
  unfold sampleJson at h
  dsimp only at h
  split at h
  · next hlookup =>
      obtain rfl := Except.ok.inj h
      obtain ⟨before, after, htexts, -⟩ := List.lookup_eq_some_iff.mp hlookup
      rw [htexts]
      exact List.mem_append_right _ List.mem_cons_self
  · cases h

theorem redact_sampleDocument (token note : String) : redactJsonValue (sampleDocument token note) =
    sampleDocument "[REDACTED]" (redactPlainText note) := by
  have hkeys : isSensitiveField "access_token" = true ∧ isSensitiveField "size" = false ∧
      isSensitiveField "note" = false := by decide
  simp [sampleDocument, Value.ofFields, redactJsonValue, redactFields, hkeys]

/-- Plain text that was redacted stays as it is. -/
theorem redactPlainText_samples : redactPlainText "password=x" = "password=[REDACTED]" ∧
    redactPlainText "password=[REDACTED]" = "password=[REDACTED]" := by
  decide +kernel

theorem written_sampleDocument :
    sampleJson.toString (sampleDocument "[REDACTED]" "password=[REDACTED]") = sampleRedactedText := by
  decide +kernel

theorem readsBack_sampleJson : ReadsBack sampleJson := by
  have hread := fromStr_sampleTexts
  simp only [sampleTexts, List.forall_mem_cons] at hread
  obtain ⟨-, hdocument, -, hfloat, hfixed, -⟩ := hread
  intro s value h
  have hmem := mem_sampleTexts h
  simp only [sampleTexts, List.mem_cons, Prod.mk.injEq, List.not_mem_nil, or_false] at hmem
  rcases hmem with ⟨-, rfl⟩ | ⟨-, rfl⟩ | ⟨-, rfl⟩ | ⟨-, rfl⟩ | ⟨-, rfl⟩
  · rw [redact_sampleDocument, redactPlainText_samples.1]
    rw [written_sampleDocument]
    exact ⟨id, hdocument⟩
  · rw [redact_sampleDocument, redactPlainText_samples.2]
    rw [written_sampleDocument]
    exact ⟨id, hdocument⟩
  · exact ⟨fun _ ↦ "31.24527019143944", hfloat⟩
  · exact ⟨fun _ ↦ "31.24527019143944", hfixed⟩
  · exact ⟨fun _ ↦ "31.24527019143944", hfixed⟩

theorem redactText_isRedacted_sample :
    ∃ f redacted, sampleJson.fromStr (redactText sampleJson sampleText) = .ok redacted ∧
      IsRedacted f (sampleDocument "abc" "password=x") redacted :=
  (redactText_isRedacted readsBack_sampleJson rfl).1

theorem float_changes : ¬∀ s value, sampleJson.fromStr s = .ok value →
    ∃ redacted, sampleJson.fromStr (redactText sampleJson s) = .ok redacted ∧
      IsRedacted id value redacted := by
  intro hall
  obtain ⟨redacted, hread, hredacted⟩ := hall "31.2452701914394380" (sampleFloat "31.245270191439438") rfl
  have hredacts : redactText sampleJson "31.2452701914394380" = "31.245270191439438" := rfl
  have hagain : sampleJson.fromStr "31.245270191439438" = .ok (sampleFloat "31.24527019143944") := rfl
  rw [hredacts, hagain] at hread
  obtain rfl := Except.ok.inj hread
  have hhead := hredacted.kept [] nofun
  simp [at?, head, sampleFloat, redactHead, rereadNumber] at hhead

end CosmicMounter.Redaction

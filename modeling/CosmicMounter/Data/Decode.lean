import CosmicMounter.Data.Json
import CosmicMounter.Data.Serde

/-!
# Records

What a derived deserializer makes of a parsed value: an object or, in the
order of declaration, an array.  A written value is read back as it was.
-/

namespace Serde

def Fields.keys (fields : Fields) : List String := fields.toList.map Prod.fst

/-- The value of each field of a record with these fields, if there is one. -/
def Value.record (denyUnknown : Bool) (names : List String) : Value → Option (String → Option Value)
  | .object fields =>
      if (fields.keys.filter (· ∈ names)).Nodup ∧
          (denyUnknown = true → ∀ key ∈ fields.keys, key ∈ names) then
        some fun name ↦ fields.get name
      else none
  | .array items =>
      if items.toList.length = names.length then
        some fun name ↦ (names.zip items.toList).lookup name
      else none
  | _ => none

/-- A field without which there is no record. -/
def required {α : Type} (record : String → Option Value) (decode : Value → Option α) (name : String) :
    Option α := (record name).bind decode

/-- `Option<T>`: `null` stands for nothing. -/
def Value.orNull {α : Type} (decode : Value → Option α) : Value → Option (Option α)
  | .null => some none
  | value => (decode value).map some

/-- A field of an optional type may be missing. -/
def optional {α : Type} (record : String → Option Value) (decode : Value → Option α) (name : String) :
    Option (Option α) :=
  match record name with
  | none => some none
  | some value => value.orNull decode

end Serde

/-! ## Written values -/

namespace Json

mutual

def Value.parsed : Value → Serde.Value
  | .null => .null
  | .string s => .string s
  | .object fields => .object fields.parsed

def Fields.parsed : Fields → Serde.Fields
  | .nil => .nil
  | .cons key value rest => .cons key value.parsed rest.parsed

end

mutual

def Value.depth : Value → Nat
  | .null => 0
  | .string _ => 0
  | .object fields => fields.depth + 1

def Fields.depth : Fields → Nat
  | .nil => 0
  | .cons _ value rest => max value.depth rest.depth

end

/-- `serde_json` reads back what it has written, up to its recursion limit. -/
def ReadsBack (fromStr : String → Except String Serde.Value) : Prop :=
  ∀ value : Value, value.depth < 128 → fromStr value.text = .ok value.parsed

theorem orNull_optional (s : Option String) : (optional s).parsed.orNull Serde.Value.asStr = some s := by
  cases s <;> rfl

theorem depth_optional (s : Option String) : (optional s).depth = 0 := by
  cases s <;> rfl

theorem keys_object (fields : List (String × Value)) :
    Serde.Fields.keys (fields.foldr (fun field rest ↦ .cons field.1 field.2 rest) .nil : Fields).parsed =
      fields.map Prod.fst := by
  induction fields with
  | nil => rfl
  | cons field fields ih =>
      rw [List.foldr_cons, Fields.parsed, Serde.Fields.keys, Serde.Fields.toList, List.map_cons]
      exact congrArg _ ih

/-- An object that was written with exactly the fields of a record. -/
theorem record_object {fields : List (String × Value)} (hnodup : (fields.map Prod.fst).Nodup)
    (denyUnknown : Bool) :
    (object fields).parsed.record denyUnknown (fields.map Prod.fst) =
      some fun name ↦ (object fields).parsed.get name := by
  rw [object, Value.parsed, Serde.Value.record, keys_object, if_pos]
  · rfl
  · exact ⟨hnodup.filter _, fun _ key hkey ↦ hkey⟩

theorem get_object {fields : List (String × Value)} (hnodup : (fields.map Prod.fst).Nodup)
    {name : String} {value : Value} (hmem : (name, value) ∈ fields) :
    (object fields).parsed.get name = some value.parsed := by
  induction fields with
  | nil => cases hmem
  | cons field fields ih =>
      obtain ⟨hnot, hnodup⟩ := List.nodup_cons.mp hnodup
      show (Serde.Fields.cons field.1 field.2.parsed _).get name = _
      rw [Serde.Fields.get]
      rcases List.mem_cons.mp hmem with rfl | hmem
      · exact if_pos rfl
      · have hne : field.1 ≠ name := by
          rintro rfl
          exact hnot (List.mem_map.mpr ⟨_, hmem, rfl⟩)
        rw [if_neg hne]
        exact ih hnodup hmem

section Object

variable {fields : List (String × Value)} (hnodup : (fields.map Prod.fst).Nodup)
include hnodup

theorem required_object {α : Type} {decode : Serde.Value → Option α} {name : String} {value : Value}
    {a : α} (hmem : (name, value) ∈ fields) (hdecode : decode value.parsed = some a) :
    Serde.required (fun name ↦ (object fields).parsed.get name) decode name = some a := by
  rw [Serde.required, get_object hnodup hmem, Option.bind_some, hdecode]

theorem optional_object {name : String} {s : Option String} (hmem : (name, optional s) ∈ fields) :
    Serde.optional (fun name ↦ (object fields).parsed.get name) Serde.Value.asStr name = some s := by
  rw [Serde.optional, get_object hnodup hmem]
  exact orNull_optional s

end Object

end Json

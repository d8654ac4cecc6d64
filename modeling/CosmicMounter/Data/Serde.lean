import CosmicMounter.Rust.Str

/-!
# Parsed JSON

`serde_json::Value`, with the fields of an object in the order of the text.
-/

namespace Serde

/-- A number: unsigned or negative in 64 bits, or the text of a float. -/
inductive Number
  | unsigned (n : Nat)
  | negative (i : Int)
  | float (text : String)
  deriving DecidableEq, Repr

def Number.asU64 : Number → Option Nat
  | .unsigned n => some n
  | _ => none

mutual

inductive Value
  | null
  | bool (b : Bool)
  | number (n : Number)
  | string (s : String)
  | array (items : Items)
  | object (fields : Fields)

inductive Items
  | nil
  | cons (value : Value) (rest : Items)

inductive Fields
  | nil
  | cons (key : String) (value : Value) (rest : Fields)

end

def Items.toList : Items → List Value
  | .nil => []
  | .cons value rest => value :: rest.toList

def Fields.toList : Fields → List (String × Value)
  | .nil => []
  | .cons key value rest => (key, value) :: rest.toList

def Fields.get (name : String) : Fields → Option Value
  | .nil => none
  | .cons key value rest => if key = name then some value else rest.get name

namespace Value

def get (name : String) : Value → Option Value
  | .object fields => fields.get name
  | _ => none

def asU64 : Value → Option Nat
  | .number n => n.asU64
  | _ => none

def asBool : Value → Option Bool
  | .bool b => some b
  | _ => none

def asStr : Value → Option String
  | .string s => some s
  | _ => none

def isNull : Value → Bool
  | .null => true
  | _ => false

def ofFields (fields : List (String × Value)) : Value :=
  .object (fields.foldr (fun (key, value) rest ↦ .cons key value rest) .nil)

end Value

/-! ## Rereading -/

mutual

/-- A written float may be read back as another float. -/
def Value.rereadFloats (f : String → String) : Value → Value
  | .number (.float text) => .number (.float (f text))
  | .number (.unsigned n) => .number (.unsigned n)
  | .number (.negative i) => .number (.negative i)
  | .array items => .array (items.rereadFloats f)
  | .object fields => .object (fields.rereadFloats f)
  | .null => .null
  | .bool b => .bool b
  | .string s => .string s

def Items.rereadFloats (f : String → String) : Items → Items
  | .nil => .nil
  | .cons value rest => .cons (value.rereadFloats f) (rest.rereadFloats f)

def Fields.rereadFloats (f : String → String) : Fields → Fields
  | .nil => .nil
  | .cons key value rest => .cons key (value.rereadFloats f) (rest.rereadFloats f)

end

@[simp] theorem Fields.get_rereadFloats (f : String → String) (name : String) :
    ∀ fields : Fields, (fields.rereadFloats f).get name = (fields.get name).map (·.rereadFloats f)
  | .nil => rfl
  | .cons key value rest => by
      rw [Fields.rereadFloats, Fields.get, Fields.get, get_rereadFloats f name rest]
      split_ifs <;> rfl

@[simp] theorem Items.toList_rereadFloats (f : String → String) :
    ∀ items : Items, (items.rereadFloats f).toList = items.toList.map (·.rereadFloats f)
  | .nil => rfl
  | .cons value rest => by
      rw [Items.rereadFloats, Items.toList, Items.toList, toList_rereadFloats f rest, List.map_cons]

namespace Value

variable (f : String → String) (value : Value)

@[simp] theorem asU64_rereadFloats : (value.rereadFloats f).asU64 = value.asU64 := by
  cases value with
  | number n => cases n <;> rfl
  | null | bool | string | array | object => rfl

@[simp] theorem asBool_rereadFloats : (value.rereadFloats f).asBool = value.asBool := by
  cases value with
  | number n => cases n <;> rfl
  | null | bool | string | array | object => rfl

@[simp] theorem asStr_rereadFloats : (value.rereadFloats f).asStr = value.asStr := by
  cases value with
  | number n => cases n <;> rfl
  | null | bool | string | array | object => rfl

@[simp] theorem get_rereadFloats (name : String) :
    (value.rereadFloats f).get name = (value.get name).map (·.rereadFloats f) := by
  cases value with
  | number n => cases n <;> rfl
  | object fields => exact Fields.get_rereadFloats f name fields
  | null | bool | string | array => rfl

end Value

/-! ## Fields -/

theorem Fields.mem_toList_of_get {name : String} {value : Value} :
    ∀ {fields : Fields}, fields.get name = some value → (name, value) ∈ fields.toList
  | .cons key value' rest, h => by
      rw [Fields.get] at h
      split_ifs at h with hkey
      · obtain rfl := Option.some.inj h
        subst hkey
        exact List.mem_cons_self
      · exact List.mem_cons_of_mem _ (mem_toList_of_get h)

theorem Value.exists_fields_of_get {value field : Value} {name : String}
    (h : value.get name = some field) :
    ∃ fields, value = .object fields ∧ (name, field) ∈ fields.toList := by
  cases value with
  | object fields => exact ⟨fields, rfl, Fields.mem_toList_of_get h⟩
  | null | bool | number | string | array => cases h

end Serde

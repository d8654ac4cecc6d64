import CosmicMounter.Data.Json
import CosmicMounter.Data.Serde

/-!
# Written documents

The texts that `serde_json` writes for a document, compact or indented.  Each
character is marked when it belongs to an ASCII string under a secret key, and
such strings can be filled with one character without a change of the layout.
-/

namespace Serde

/-! ## Layouts -/

inductive Layout
  | compact
  | pretty (indent : String)
  deriving DecidableEq, Repr

namespace Layout

def newline : Layout → Nat → List Char
  | .compact, _ => []
  | .pretty indent, depth => '\n' :: (List.replicate depth indent.toList).flatten

def colon : Layout → List Char
  | .compact => [':']
  | .pretty _ => [':', ' ']

variable (layout : Layout)

/-- What stands before an entry of a container. -/
def beginEntry (first : Bool) (depth : Nat) : List Char :=
  (if first then [] else [',']) ++ layout.newline (depth + 1)

def endContainer (first : Bool) (depth : Nat) (bracket : Char) : List Char :=
  (if first then [] else layout.newline depth) ++ [bracket]

end Layout

def writeNumber : Number → String
  | .unsigned n => toString n
  | .negative i => toString i
  | .float text => text

def escaped (s : String) : List Char := s.toList.flatMap Json.escapeChar

def isAscii (s : String) : Bool := s.toList.all fun c ↦ decide (c.toNat < 128)

/-! ## MarkedText texts -/

/-- A text with a mark at each character of a secret. -/
abbrev MarkedText := List (Char × Bool)

def unmarked (text : List Char) : MarkedText := text.map (·, false)

section Writer

variable (isSecret : String → Bool) (layout : Layout)

mutual

/-- The text of a value; `hidden` says whether it stands under a secret key. -/
def Value.marked (hidden : Bool) (depth : Nat) : Value → MarkedText
  | .null => unmarked "null".toList
  | .bool b => unmarked (toString b).toList
  | .number n => unmarked (writeNumber n).toList
  | .string s => unmarked ['"'] ++ (escaped s).map (·, hidden && isAscii s) ++ unmarked ['"']
  | .array items => unmarked ['['] ++ items.marked true depth
  | .object fields => unmarked ['\x7b'] ++ fields.marked true depth

def Items.marked (first : Bool) (depth : Nat) : Items → MarkedText
  | .nil => unmarked (layout.endContainer first depth ']')
  | .cons value rest =>
      unmarked (layout.beginEntry first depth) ++ value.marked false (depth + 1) ++
        rest.marked false depth

def Fields.marked (first : Bool) (depth : Nat) : Fields → MarkedText
  | .nil => unmarked (layout.endContainer first depth '\x7d')
  | .cons key value rest =>
      unmarked (layout.beginEntry first depth ++ Json.writeString key ++ layout.colon) ++
        value.marked (isSecret key) (depth + 1) ++ rest.marked false depth

end

end Writer

/-! ## Masks -/

section Mask

variable (isSecret : String → Bool) (fill : Char)

def maskString (hidden : Bool) (s : String) : String :=
  if hidden && isAscii s then .ofList (List.replicate (escaped s).length fill) else s

mutual

/-- Every secret is replaced by one character, as often as its written text is long. -/
def Value.mask (hidden : Bool) : Value → Value
  | .null => .null
  | .bool b => .bool b
  | .number n => .number n
  | .string s => .string (maskString fill hidden s)
  | .array items => .array items.mask
  | .object fields => .object fields.mask

def Items.mask : Items → Items
  | .nil => .nil
  | .cons value rest => .cons (value.mask false) rest.mask

def Fields.mask : Fields → Fields
  | .nil => .nil
  | .cons key value rest => .cons key (value.mask (isSecret key)) rest.mask

end

end Mask

/-- An ASCII character that is written as it is. -/
structure IsPlain (c : Char) : Prop where
  escape : Json.escapeChar c = [c]
  ascii : c.toNat < 128

def fillMark (fill : Char) (mark : Char × Bool) : Char × Bool :=
  if mark.2 then (fill, true) else mark

@[simp] theorem map_fillMark_unmarked (fill : Char) (text : List Char) :
    (unmarked text).map (fillMark fill) = unmarked text := by
  simp [unmarked, fillMark]

section Plain

variable {fill : Char} (hfill : IsPlain fill)
include hfill

theorem escaped_replicate (n : Nat) :
    escaped (.ofList (List.replicate n fill)) = List.replicate n fill := by
  rw [escaped, String.toList_ofList]
  induction n with
  | zero => rfl
  | succ n ih => rw [List.replicate_succ, List.flatMap_cons, ih, hfill.escape, List.singleton_append]

theorem isAscii_replicate (n : Nat) : isAscii (.ofList (List.replicate n fill)) = true := by
  rw [isAscii, String.toList_ofList, List.all_eq_true]
  intro c hc
  rw [List.eq_of_mem_replicate hc]
  exact decide_eq_true hfill.ascii

theorem marked_maskString (hidden : Bool) (s : String) :
    (escaped (maskString fill hidden s)).map (·, hidden && isAscii (maskString fill hidden s)) =
      ((escaped s).map (·, hidden && isAscii s)).map (fillMark fill) := by
  cases hmark : hidden && isAscii s with
  | false =>
      rw [maskString, hmark]
      simp [hmark, fillMark]
  | true =>
      have hhidden : hidden = true := (Bool.and_eq_true_iff.mp hmark).1
      rw [maskString, hmark, if_pos rfl, escaped_replicate hfill, isAscii_replicate hfill, hhidden,
        List.map_map]
      simp [fillMark, Function.comp_def]

theorem maskString_maskString (other : Char) (hidden : Bool) (s : String) :
    maskString other hidden (maskString fill hidden s) = maskString other hidden s := by
  cases hmark : hidden && isAscii s with
  | false =>
      have hsame : maskString fill hidden s = s := by
        rw [maskString, hmark]
        rfl
      rw [hsame]
  | true =>
      have hhidden : hidden = true := (Bool.and_eq_true_iff.mp hmark).1
      have hfilled : maskString fill hidden s =
          .ofList (List.replicate (escaped s).length fill) := by
        rw [maskString, hmark]
        rfl
      rw [hfilled, maskString, maskString, hmark, hhidden, isAscii_replicate hfill,
        escaped_replicate hfill, List.length_replicate]
      rfl

end Plain

section MaskedTexts

variable {fill : Char} (isSecret : String → Bool)

mutual

/-- Filling the secrets of a document fills the marked characters of its text. -/
theorem Value.marked_mask (hfill : IsPlain fill) (layout : Layout) (hidden : Bool) (depth : Nat) : ∀ value : Value,
    (value.mask isSecret fill hidden).marked isSecret layout hidden depth =
      (value.marked isSecret layout hidden depth).map (fillMark fill)
  | .null | .bool _ | .number _ => (map_fillMark_unmarked fill _).symm
  | .string s => by
      rw [Value.mask, Value.marked, Value.marked, marked_maskString hfill, List.map_append,
        List.map_append, map_fillMark_unmarked]
  | .array items => by
      rw [Value.mask, Value.marked, Value.marked, Items.marked_mask hfill layout true depth items,
        List.map_append, map_fillMark_unmarked]
  | .object fields => by
      rw [Value.mask, Value.marked, Value.marked, Fields.marked_mask hfill layout true depth fields,
        List.map_append, map_fillMark_unmarked]

theorem Items.marked_mask (hfill : IsPlain fill) (layout : Layout) (first : Bool) (depth : Nat) : ∀ items : Items,
    (items.mask isSecret fill).marked isSecret layout first depth =
      (items.marked isSecret layout first depth).map (fillMark fill)
  | .nil => (map_fillMark_unmarked fill _).symm
  | .cons value rest => by
      rw [Items.mask, Items.marked, Items.marked, Value.marked_mask hfill layout false (depth + 1) value,
        Items.marked_mask hfill layout false depth rest, List.map_append, List.map_append,
        map_fillMark_unmarked]

theorem Fields.marked_mask (hfill : IsPlain fill) (layout : Layout) (first : Bool) (depth : Nat) : ∀ fields : Fields,
    (fields.mask isSecret fill).marked isSecret layout first depth =
      (fields.marked isSecret layout first depth).map (fillMark fill)
  | .nil => (map_fillMark_unmarked fill _).symm
  | .cons key value rest => by
      rw [Fields.mask, Fields.marked, Fields.marked,
        Value.marked_mask hfill layout (isSecret key) (depth + 1) value,
        Fields.marked_mask hfill layout false depth rest, List.map_append, List.map_append,
        map_fillMark_unmarked]

end

mutual

theorem Value.mask_mask (hfill : IsPlain fill) (other : Char) (hidden : Bool) : ∀ value : Value,
    (value.mask isSecret fill hidden).mask isSecret other hidden = value.mask isSecret other hidden
  | .null | .bool _ | .number _ => rfl
  | .string s => by rw [Value.mask, Value.mask, Value.mask, maskString_maskString hfill]
  | .array items => by rw [Value.mask, Value.mask, Value.mask, Items.mask_mask hfill other items]
  | .object fields => by rw [Value.mask, Value.mask, Value.mask, Fields.mask_mask hfill other fields]

theorem Items.mask_mask (hfill : IsPlain fill) (other : Char) : ∀ items : Items,
    (items.mask isSecret fill).mask isSecret other = items.mask isSecret other
  | .nil => rfl
  | .cons value rest => by
      rw [Items.mask, Items.mask, Items.mask, Value.mask_mask hfill other false value,
        Items.mask_mask hfill other rest]

theorem Fields.mask_mask (hfill : IsPlain fill) (other : Char) : ∀ fields : Fields,
    (fields.mask isSecret fill).mask isSecret other = fields.mask isSecret other
  | .nil => rfl
  | .cons key value rest => by
      rw [Fields.mask, Fields.mask, Fields.mask, Value.mask_mask hfill other (isSecret key) value,
        Fields.mask_mask hfill other rest]

end

end MaskedTexts

/-! ## Marked characters -/

theorem escapeChar_ascii {c : Char} (h : c.toNat < 128) :
    ∀ d ∈ Json.escapeChar c, d.toNat < 128 := by
  have hall : ∀ n < 128, (Json.escapeChar (Char.ofNat n)).all (fun d ↦ decide (d.toNat < 128)) = true := by
    decide
  intro d hd
  have hc := hall c.toNat h
  rw [Char.ofNat_toNat, List.all_eq_true] at hc
  exact of_decide_eq_true (hc d hd)

/-- A mark at a character that takes more than one byte does not occur. -/
def MarksAscii (text : MarkedText) : Prop := ∀ mark ∈ text, mark.2 = true → mark.1.toNat < 128

theorem marksAscii_unmarked (text : List Char) : MarksAscii (unmarked text) := by
  intro mark hmark htrue
  obtain ⟨c, -, rfl⟩ := List.mem_map.mp hmark
  cases htrue

theorem MarksAscii.append {text text' : MarkedText} (h : MarksAscii text) (h' : MarksAscii text') :
    MarksAscii (text ++ text') := by
  intro mark hmark
  rcases List.mem_append.mp hmark with hleft | hright
  · exact h mark hleft
  · exact h' mark hright

theorem marksAscii_escaped (hidden : Bool) (s : String) :
    MarksAscii ((escaped s).map (·, hidden && isAscii s)) := by
  intro mark hmark htrue
  obtain ⟨d, hd, rfl⟩ := List.mem_map.mp hmark
  obtain ⟨c, hc, hescape⟩ := List.mem_flatMap.mp hd
  have hascii := List.all_eq_true.mp (Bool.and_eq_true_iff.mp htrue).2 c hc
  exact escapeChar_ascii (of_decide_eq_true hascii) d hescape

section Marks

variable (isSecret : String → Bool) (layout : Layout)

mutual

theorem Value.marksAscii (hidden : Bool) (depth : Nat) : ∀ value : Value,
    MarksAscii (value.marked isSecret layout hidden depth)
  | .null | .bool _ | .number _ => marksAscii_unmarked _
  | .string s =>
      ((marksAscii_unmarked _).append (marksAscii_escaped hidden s)).append (marksAscii_unmarked _)
  | .array items => (marksAscii_unmarked _).append (Items.marksAscii true depth items)
  | .object fields => (marksAscii_unmarked _).append (Fields.marksAscii true depth fields)

theorem Items.marksAscii (first : Bool) (depth : Nat) : ∀ items : Items,
    MarksAscii (items.marked isSecret layout first depth)
  | .nil => marksAscii_unmarked _
  | .cons value rest =>
      ((marksAscii_unmarked _).append (Value.marksAscii false (depth + 1) value)).append
        (Items.marksAscii false depth rest)

theorem Fields.marksAscii (first : Bool) (depth : Nat) : ∀ fields : Fields,
    MarksAscii (fields.marked isSecret layout first depth)
  | .nil => marksAscii_unmarked _
  | .cons key value rest =>
      ((marksAscii_unmarked _).append (Value.marksAscii (isSecret key) (depth + 1) value)).append
        (Fields.marksAscii false depth rest)

end

end Marks

/-! ## Reading back -/

mutual

/-- The number of containers around the innermost entry. -/
def Value.depth : Value → Nat
  | .array items => items.depth + 1
  | .object fields => fields.depth + 1
  | _ => 0

def Items.depth : Items → Nat
  | .nil => 0
  | .cons value rest => max value.depth rest.depth

def Fields.depth : Fields → Nat
  | .nil => 0
  | .cons _ value rest => max value.depth rest.depth

end

def Fields.mapValues (f : String → Value → Value) : Fields → Fields
  | .nil => .nil
  | .cons key value rest => .cons key (f key value) (rest.mapValues f)

/-- How a parser builds its values: the float that it reads, and the map that it makes of the
fields of an object, in which the keys decide about the order and the duplicates. -/
structure Builder where
  float : String → String
  map : Fields → Fields
  map_mapValues : ∀ f fields, map (fields.mapValues f) = (map fields).mapValues f

section Build

variable (builder : Builder)

mutual

def Value.built : Value → Value
  | .number (.float text) => .number (.float (builder.float text))
  | .array items => .array items.built
  | .object fields => .object (builder.map fields.built)
  | value => value

def Items.built : Items → Items
  | .nil => .nil
  | .cons value rest => .cons value.built rest.built

def Fields.built : Fields → Fields
  | .nil => .nil
  | .cons key value rest => .cons key value.built rest.built

end

end Build

section Depth

variable (isSecret : String → Bool) (fill : Char)

mutual

@[simp] theorem Value.depth_mask (hidden : Bool) : ∀ value : Value,
    (value.mask isSecret fill hidden).depth = value.depth
  | .null | .bool _ | .number _ | .string _ => rfl
  | .array items => by rw [Value.mask, Value.depth, Value.depth, Items.depth_mask items]
  | .object fields => by rw [Value.mask, Value.depth, Value.depth, Fields.depth_mask fields]

@[simp] theorem Items.depth_mask : ∀ items : Items, (items.mask isSecret fill).depth = items.depth
  | .nil => rfl
  | .cons value rest => by
      rw [Items.mask, Items.depth, Items.depth, Value.depth_mask false value, Items.depth_mask rest]

@[simp] theorem Fields.depth_mask : ∀ fields : Fields,
    (fields.mask isSecret fill).depth = fields.depth
  | .nil => rfl
  | .cons key value rest => by
      rw [Fields.mask, Fields.depth, Fields.depth, Value.depth_mask (isSecret key) value,
        Fields.depth_mask rest]

end

end Depth

end Serde

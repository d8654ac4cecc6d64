import CosmicMounter.Data.Writer
import CosmicMounter.Host.Request
import CosmicMounter.Process.Redaction
import CosmicMounter.Text.Utf8

/-!
# Captured documents

`read_bounded` of `process.rs` on the written text of a document, and what a
cut and redaction leave of documents that differ in their secrets.
-/

namespace CosmicMounter

open Rust Serde

/-! ## The reader -/

inductive CapturePolicy
  | redacted
  | privateConfig
  deriving DecidableEq, Repr

/-- One answer of the stream: some bytes, none at its end, or a failure. -/
abbrev Read := Option (List UInt8)

def usizeMax : Nat := 2 ^ 64 - 1

/-- The retained bytes and the number of all bytes, after the remaining reads. -/
def retain (limit : Nat) : List Read → List UInt8 → Nat → List UInt8 × Nat
  | some (byte :: bytes) :: rest, retained, total =>
      retain limit rest (retained ++ (byte :: bytes).take (limit - retained.length))
        (min (total + (byte :: bytes).length) usizeMax)
  | _, retained, total => (retained, total)

def readBounded (json : SerdeJson) (reads : List Read) (limit : Nat) (capture : CapturePolicy) :
    CapturedOutput :=
  let (retained, total) := retain limit reads [] 0
  let text := String.ofList (Utf8.decode retained)
  { text := if capture = .redacted then redactText json text else text
    truncated := decide (retained.length < total)
    invalidUtf8 := !(ByteArray.mk retained.toArray).validateUTF8 }

/-- The bytes that are read before the stream ends or fails. -/
def streamOf : List Read → List UInt8
  | some (byte :: bytes) :: rest => byte :: bytes ++ streamOf rest
  | _ => []

theorem retain_eq (limit : Nat) (reads : List Read) (retained : List UInt8) (total : Nat) :
    (retain limit reads retained total).1 =
      retained ++ (streamOf reads).take (limit - retained.length) := by
  induction reads generalizing retained total with
  | nil => simp [retain, streamOf]
  | cons read rest ih =>
      match read with
      | none => simp [retain, streamOf]
      | some [] => simp [retain, streamOf]
      | some (byte :: bytes) =>
          rw [retain, ih, streamOf, List.append_assoc, List.take_append, List.length_append,
            List.length_take]
          congr 3
          omega

theorem text_readBounded (json : SerdeJson) {reads : List Read} {text : List Char}
    (h : streamOf reads = Utf8.encode text) (limit : Nat) :
    (readBounded json reads limit .redacted).text =
      redactText json (.ofList (Utf8.cut Char.utf8Size Utf8.replacement limit text)) := by
  have hretained := retain_eq limit reads [] 0
  rw [List.nil_append, List.length_nil, Nat.sub_zero, h] at hretained
  rw [← Utf8.decode_take_encode, ← hretained]
  rfl

theorem streamOf_singleton (bytes : List UInt8) : streamOf [some bytes] = bytes := by
  cases bytes with
  | nil => rfl
  | cons byte bytes => exact List.append_nil _

/-! ## Documents that differ in their secrets -/

/-- The same document, but for the ASCII strings under sensitive keys, which are written in the
same length. -/
def SameButSecrets (document other : Value) : Prop :=
  other.mask isSensitiveField 'x' false = document.mask isSensitiveField 'x' false

/-- The written text, with the characters of secrets marked. -/
def markedText (layout : Layout) (document : Value) : MarkedText :=
  document.marked isSensitiveField layout false 0

def documentText (layout : Layout) (document : Value) : List Char :=
  (markedText layout document).map Prod.fst

/-- What remains of the marked text behind a cut. -/
def keptText (layout : Layout) (limit : Nat) (document : Value) : MarkedText :=
  Utf8.cut (·.1.utf8Size) (Utf8.replacement, false) limit (markedText layout document)

/-- A character of a secret stands before the cut. -/
def showsSecret (layout : Layout) (limit : Nat) (document : Value) : Bool :=
  (keptText layout limit document).any Prod.snd

def fits (layout : Layout) (limit : Nat) (document : Value) : Prop :=
  (Utf8.encode (documentText layout document)).length ≤ limit

def isContainer : Value → Bool
  | .array _ | .object _ => true
  | _ => false

def recursionLimit : Nat := 128

/-- How the parser reads the written text of a document, whole and cut. -/
structure ReadsDocument (json : SerdeJson) (builder : Builder) (layout : Layout) (document : Value) :
    Prop where
  complete : document.depth < recursionLimit →
    json.fromStr (.ofList (documentText layout document)) = .ok (document.built builder)
  nested : recursionLimit ≤ document.depth →
    ∀ value, json.fromStr (.ofList (documentText layout document)) ≠ .ok value
  cut : isContainer document = true →
    ∀ limit < (Utf8.encode (documentText layout document)).length, ∀ value,
      json.fromStr (.ofList (Utf8.cut Char.utf8Size Utf8.replacement limit
        (documentText layout document))) ≠ .ok value

/-! ## Cut texts of masked documents -/

theorem isPlain_x : IsPlain 'x' := ⟨by decide, by decide⟩

theorem isPlain_space : IsPlain ' ' := ⟨by decide, by decide⟩

theorem utf8Size_of_ascii {c : Char} (h : c.toNat < 128) : c.utf8Size = 1 := by
  rw [Char.utf8Size_eq_one_iff, UInt32.le_iff_toNat_le]
  exact Nat.le_of_lt_succ h

section Masks

variable {layout : Layout} {limit : Nat} {document other : Value} {fill : Char}

theorem sameButSecrets_mask (hfill : IsPlain fill) (document : Value) :
    SameButSecrets document (document.mask isSensitiveField fill false) :=
  Value.mask_mask isSensitiveField hfill 'x' false document

theorem markedText_mask (hfill : IsPlain fill) (layout : Layout) (document : Value) :
    markedText layout (document.mask isSensitiveField fill false) =
      (markedText layout document).map (fillMark fill) :=
  Value.marked_mask isSensitiveField hfill layout false 0 document

theorem utf8Size_fillMark (hfill : IsPlain fill) :
    ∀ mark ∈ markedText layout document, (fillMark fill mark).1.utf8Size = mark.1.utf8Size := by
  intro mark hmark
  rw [fillMark]
  split_ifs with hsecret
  · have hascii := Value.marksAscii isSensitiveField layout false 0 document mark hmark hsecret
    rw [utf8Size_of_ascii hascii, utf8Size_of_ascii hfill.ascii]
  · rfl

theorem keptText_mask (hfill : IsPlain fill) (layout : Layout) (limit : Nat) (document : Value) :
    keptText layout limit (document.mask isSensitiveField fill false) =
      (keptText layout limit document).map (fillMark fill) := by
  rw [keptText, markedText_mask hfill]
  exact Utf8.cut_map (·.1.utf8Size) (fillMark fill) (Utf8.replacement, false)
    (utf8Size_fillMark hfill) limit

theorem cut_documentText (layout : Layout) (limit : Nat) (document : Value) :
    Utf8.cut Char.utf8Size Utf8.replacement limit (documentText layout document) =
      (keptText layout limit document).map Prod.fst :=
  Utf8.cut_map Char.utf8Size Prod.fst (Utf8.replacement, false) (fun _ _ ↦ rfl) limit

theorem length_encode_mask (hfill : IsPlain fill) (layout : Layout) (document : Value) :
    (Utf8.encode (documentText layout (document.mask isSensitiveField fill false))).length =
      (Utf8.encode (documentText layout document)).length := by
  rw [Utf8.length_encode, Utf8.length_encode, documentText, documentText, markedText_mask hfill,
    List.map_map, List.map_map, List.map_map]
  congr 1
  exact List.map_congr_left (utf8Size_fillMark hfill)

theorem SameButSecrets.fits_iff (h : SameButSecrets document other) :
    fits layout limit other ↔ fits layout limit document := by
  have hlength := length_encode_mask isPlain_x layout other
  rw [h, length_encode_mask isPlain_x] at hlength
  rw [fits, fits, hlength]

theorem SameButSecrets.depth_eq (h : SameButSecrets document other) :
    other.depth = document.depth := by
  have hdepth := congrArg Value.depth h
  rwa [Value.depth_mask, Value.depth_mask] at hdepth

theorem map_fillMark_of_none {text : MarkedText} (h : text.any Prod.snd = false) :
    text.map (fillMark fill) = text := by
  conv_rhs => rw [← List.map_id text]
  apply List.map_congr_left
  intro mark hmark
  rw [fillMark, if_neg (List.any_eq_false.mp h mark hmark), id]

@[simp] theorem any_map_fillMark (text : MarkedText) :
    (text.map (fillMark fill)).any Prod.snd = text.any Prod.snd := by
  rw [List.any_map]
  congr 1
  funext mark
  cases hmark : mark.2 <;> simp [fillMark, hmark]

/-- Where no secret shows, the kept texts are the same. -/
theorem SameButSecrets.keptText_eq (h : SameButSecrets document other)
    (hshows : showsSecret layout limit document = false) :
    keptText layout limit other = keptText layout limit document := by
  have hkept := congrArg (keptText layout limit) h
  rw [keptText_mask isPlain_x, keptText_mask isPlain_x] at hkept
  have hother : showsSecret layout limit other = false := by
    have hany := congrArg (fun text : MarkedText ↦ text.any Prod.snd) hkept
    rwa [any_map_fillMark, any_map_fillMark, ← showsSecret, ← showsSecret, hshows] at hany
  rwa [map_fillMark_of_none hother, map_fillMark_of_none hshows] at hkept

/-- A scalar has no secrets. -/
theorem isContainer_of_showsSecret (h : showsSecret layout limit document = true) :
    isContainer document = true := by
  obtain ⟨mark, hmark, hsecret⟩ := List.any_eq_true.mp h
  have hmarked := Utf8.mem_of_mem_cut hmark
  have hscalar : ∀ text, mark ∉ unmarked text := by
    intro text hmem
    obtain ⟨c, -, rfl⟩ := List.mem_map.mp hmem
    cases hsecret
  rcases hmarked with hmarked | rfl
  · cases document with
    | array items => rfl
    | object fields => rfl
    | null => exact absurd hmarked (hscalar _)
    | bool b => exact absurd hmarked (hscalar _)
    | number n => exact absurd hmarked (hscalar _)
    | string s =>
        rw [markedText, Value.marked, List.mem_append, List.mem_append] at hmarked
        rcases hmarked with (hmarked | hmarked) | hmarked
        · exact absurd hmarked (hscalar _)
        · exact absurd hmarked (hscalar _)
        · exact absurd hmarked (hscalar _)
  · cases hsecret

end Masks

/-! ## Redacted documents -/

def redactField (key : String) (value : Value) : Value :=
  if isSensitiveField key then .string "[REDACTED]" else redactJsonValue value

theorem redactFields_eq (fields : Fields) : redactFields fields = fields.mapValues redactField := by
  cases fields with
  | nil => rfl
  | cons key value rest => rw [redactFields, Fields.mapValues, redactFields_eq rest, redactField]

section Built

variable (builder : Builder) (fill : Char)

mutual

/-- Redaction takes the differences of two documents away. -/
theorem redact_built_mask : ∀ value : Value,
    redactJsonValue ((value.mask isSensitiveField fill false).built builder) =
      redactJsonValue (value.built builder)
  | .null | .bool _ | .number _ | .string _ => rfl
  | .array items => by
      rw [Value.mask, Value.built, Value.built, redactJsonValue, redactJsonValue,
        redactItems_built_mask items]
  | .object fields => by
      rw [Value.mask, Value.built, Value.built, redactJsonValue, redactJsonValue, redactFields_eq,
        redactFields_eq, ← builder.map_mapValues, ← builder.map_mapValues,
        redactFields_built_mask fields]

theorem redactItems_built_mask : ∀ items : Items,
    redactItems ((items.mask isSensitiveField fill).built builder) =
      redactItems (items.built builder)
  | .nil => rfl
  | .cons value rest => by
      rw [Items.mask, Items.built, Items.built, redactItems, redactItems, redact_built_mask value,
        redactItems_built_mask rest]

theorem redactFields_built_mask : ∀ fields : Fields,
    ((fields.mask isSensitiveField fill).built builder).mapValues redactField =
      (fields.built builder).mapValues redactField
  | .nil => rfl
  | .cons key value rest => by
      rw [Fields.mask, Fields.built, Fields.built, Fields.mapValues, Fields.mapValues,
        redactFields_built_mask rest, redactField, redactField]
      cases hkey : isSensitiveField key with
      | true => rfl
      | false => rw [redact_built_mask value]

end

theorem SameButSecrets.redact_built {document other : Value} (h : SameButSecrets document other) :
    redactJsonValue (other.built builder) = redactJsonValue (document.built builder) := by
  rw [← redact_built_mask builder 'x' other, h, redact_built_mask]

end Built

end CosmicMounter

import CosmicMounter.Text.Utf8

/-!
# Percent-encoding

A text is written with the letters, the digits and the marks that stand for
themselves; the bytes of every other character are written as a percent sign
and two hexadecimal digits.  Decoding gives the bytes of the text back.
-/

namespace Percent

def marks : List Char := ['-', '.', '_', '~']

def isUnreserved (c : Char) : Bool := c.isAlphanum || c ∈ marks

theorem toNat_of_isUnreserved {c : Char} (h : isUnreserved c = true) :
    45 ≤ c.toNat ∧ c.toNat ≤ 126 ∧ c.toNat ≠ 47 := by
  simp only [isUnreserved, Char.isAlphanum, Char.isAlpha, Char.isUpper, Char.isLower, Char.isDigit,
    Bool.or_eq_true, Bool.and_eq_true, decide_eq_true_eq, UInt32.le_iff_toNat_le, marks, List.mem_cons,
    List.not_mem_nil, or_false] at h
  rcases h with ((⟨hlow, hhigh⟩ | ⟨hlow, hhigh⟩) | ⟨hlow, hhigh⟩) | rfl | rfl | rfl | rfl
  · have hlow : 65 ≤ c.toNat := hlow
    have hhigh : c.toNat ≤ 90 := hhigh
    omega
  · have hlow : 97 ≤ c.toNat := hlow
    have hhigh : c.toNat ≤ 122 := hhigh
    omega
  · have hlow : 48 ≤ c.toNat := hlow
    have hhigh : c.toNat ≤ 57 := hhigh
    omega
  all_goals decide

def hexDigit (n : Nat) : Char := if n < 10 then .ofNat (48 + n) else .ofNat (55 + n)

def hexValue (c : Char) : Nat :=
  if c.isDigit then c.toNat - 48 else if c.toNat < 97 then c.toNat - 55 else c.toNat - 87

def encodeByte (byte : UInt8) : List Char :=
  ['%', hexDigit (byte.toNat / 16), hexDigit (byte.toNat % 16)]

def encodeChar (c : Char) : List Char :=
  if isUnreserved c then [c] else (String.utf8EncodeChar c).flatMap encodeByte

def encode (text : List Char) : List Char := text.flatMap encodeChar

def decodeBytes : List Char → List UInt8
  | [] => []
  | '%' :: a :: b :: rest => .ofNat (16 * hexValue a + hexValue b) :: decodeBytes rest
  | c :: rest => String.utf8EncodeChar c ++ decodeBytes rest

/-- The text whose bytes are encoded, if they are those of a text. -/
def decode (text : List Char) : Option (List Char) := Utf8.strict (decodeBytes text)

theorem encode_cons (c : Char) (text : List Char) : encode (c :: text) = encodeChar c ++ encode text :=
  List.flatMap_cons

theorem hexValue_hexDigit {n : Nat} (h : n < 16) : hexValue (hexDigit n) = n := by
  interval_cases n <;> rfl

theorem decodeBytes_encodeByte (byte : UInt8) (rest : List Char) :
    decodeBytes (encodeByte byte ++ rest) = byte :: decodeBytes rest := by
  have hbyte := byte.toNat_lt
  have hvalue : 16 * (byte.toNat / 16) + byte.toNat % 16 = byte.toNat := by omega
  rw [encodeByte, List.cons_append, List.cons_append, List.cons_append, List.nil_append, decodeBytes,
    hexValue_hexDigit (by omega), hexValue_hexDigit (by omega), hvalue, UInt8.ofNat_toNat]

theorem decodeBytes_plain {c : Char} (h : c ≠ '%') (rest : List Char) :
    decodeBytes (c :: rest) = String.utf8EncodeChar c ++ decodeBytes rest := by
  rw [decodeBytes]
  rintro a b rest' rfl
  exact absurd rfl h

theorem decodeBytes_encode (text : List Char) : decodeBytes (encode text) = Utf8.encode text := by
  induction text with
  | nil => rfl
  | cons c text ih =>
      rw [encode_cons, Utf8.encode_cons, encodeChar]
      split_ifs with hunreserved
      · have hpercent : c ≠ '%' := by
          rintro rfl
          revert hunreserved
          decide
        rw [List.singleton_append, decodeBytes_plain hpercent, ih]
      · generalize String.utf8EncodeChar c = bytes
        induction bytes with
        | nil => exact ih
        | cons byte bytes ihbytes =>
            rw [List.flatMap_cons, List.append_assoc, decodeBytes_encodeByte, ihbytes, List.cons_append]

theorem decode_encode (text : List Char) : decode (encode text) = some text := by
  rw [decode, decodeBytes_encode, Utf8.strict_encode]

/-- Every character of an encoded text stands for itself or is part of an encoded byte. -/
theorem mem_encode {text : List Char} {c : Char} (h : c ∈ encode text) :
    isUnreserved c = true ∨ c = '%' := by
  have hdigit : ∀ n < 16, isUnreserved (hexDigit n) = true := by decide
  obtain ⟨d, -, hc⟩ := List.mem_flatMap.mp h
  rw [encodeChar] at hc
  split_ifs at hc with hunreserved
  · rw [List.mem_singleton.mp hc]
    exact .inl hunreserved
  · obtain ⟨byte, -, hc⟩ := List.mem_flatMap.mp hc
    have hbyte := byte.toNat_lt
    simp only [encodeByte, List.mem_cons, List.not_mem_nil, or_false] at hc
    rcases hc with rfl | rfl | rfl
    · exact .inr rfl
    · exact .inl (hdigit _ (by omega))
    · exact .inl (hdigit _ (by omega))

end Percent

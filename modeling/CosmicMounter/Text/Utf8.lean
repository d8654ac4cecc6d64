import Mathlib

/-!
# UTF-8 with replacement

Bytes are decoded as UTF-8, with one replacement character for each maximal
sequence of bytes that does not encode a character.  An encoded text that is
cut after some bytes loses the characters behind the cut, and shows the
replacement character for one that is split.
-/

namespace Utf8

def replacement : Char := '\uFFFD'

/-- The length of the encoding that a first byte announces. -/
def width (first : UInt8) : Nat :=
  if first.toNat < 0x80 then 1
  else if 0xC2 ≤ first.toNat ∧ first.toNat ≤ 0xDF then 2
  else if 0xE0 ≤ first.toNat ∧ first.toNat ≤ 0xEF then 3
  else if 0xF0 ≤ first.toNat ∧ first.toNat ≤ 0xF4 then 4
  else 0

def isContinuation (byte : UInt8) : Bool := decide (0x80 ≤ byte.toNat ∧ byte.toNat ≤ 0xBF)

/-- A second byte, which must not make the encoding overlong, a surrogate or too large. -/
def isSecond (first byte : UInt8) : Bool :=
  if first.toNat = 0xE0 then decide (0xA0 ≤ byte.toNat ∧ byte.toNat ≤ 0xBF)
  else if first.toNat = 0xED then decide (0x80 ≤ byte.toNat ∧ byte.toNat ≤ 0x9F)
  else if first.toNat = 0xF0 then decide (0x90 ≤ byte.toNat ∧ byte.toNat ≤ 0xBF)
  else if first.toNat = 0xF4 then decide (0x80 ≤ byte.toNat ∧ byte.toNat ≤ 0x8F)
  else isContinuation byte

/-- The number of bytes, from the first one on, that may belong to one character. -/
def extent (first : UInt8) : List UInt8 → Nat
  | [] => 1
  | second :: rest =>
      if 2 ≤ width first ∧ isSecond first second = true then
        2 + ((rest.take (width first - 2)).takeWhile isContinuation).length
      else 1

def decodeChar : List UInt8 → Char
  | [a] => .ofNat a.toNat
  | [a, b] => .ofNat ((a.toNat - 0xC0) * 64 + (b.toNat - 0x80))
  | [a, b, c] => .ofNat (((a.toNat - 0xE0) * 64 + (b.toNat - 0x80)) * 64 + (c.toNat - 0x80))
  | [a, b, c, d] =>
      .ofNat ((((a.toNat - 0xF0) * 64 + (b.toNat - 0x80)) * 64 + (c.toNat - 0x80)) * 64 +
        (d.toNat - 0x80))
  | _ => replacement

/-- Decoding, after the bytes that were already used. -/
def decodeFrom : Nat → List UInt8 → List Char
  | _, [] => []
  | skip + 1, _ :: rest => decodeFrom skip rest
  | 0, first :: rest =>
      (if extent first rest = width first then decodeChar ((first :: rest).take (width first))
        else replacement) :: decodeFrom (extent first rest - 1) rest

def decode (bytes : List UInt8) : List Char := decodeFrom 0 bytes

def encode (text : List Char) : List UInt8 := text.flatMap String.utf8EncodeChar

theorem decodeFrom_eq (skip : Nat) (bytes : List UInt8) :
    decodeFrom skip bytes = decode (bytes.drop skip) := by
  induction skip generalizing bytes with
  | zero => rfl
  | succ skip ih =>
      cases bytes with
      | nil => rfl
      | cons first rest => exact ih rest

/-! ## The bytes of one character -/

section Characters

variable {c : Char}

theorem toNat_range (c : Char) : c.toNat < 0xD800 ∨ 0xDFFF < c.toNat ∧ c.toNat < 0x110000 := c.valid

theorem encodeChar_one (h : c.toNat < 0x80) :
    ∃ a, String.utf8EncodeChar c = [a] ∧ a.toNat = c.toNat := by
  have hone : c.val.toNat ≤ 0x7f := Nat.le_of_lt_succ h
  refine ⟨_, by rw [String.utf8EncodeChar, if_pos hone], ?_⟩
  rw [UInt8.toNat_ofNat', Char.toNat]
  omega

theorem encodeChar_two (hlow : 0x80 ≤ c.toNat) (hhigh : c.toNat < 0x800) :
    ∃ a b, String.utf8EncodeChar c = [a, b] ∧
      a.toNat = 0xC0 + c.toNat / 64 ∧ b.toNat = 0x80 + c.toNat % 64 := by
  rw [Char.toNat] at *
  have hone : ¬c.val.toNat ≤ 0x7f := by omega
  have htwo : c.val.toNat ≤ 0x7ff := by omega
  refine ⟨_, _, by rw [String.utf8EncodeChar, if_neg hone, if_pos htwo], ?_, ?_⟩
  all_goals
    rw [UInt8.toNat_ofNat']
    omega

theorem encodeChar_three (hlow : 0x800 ≤ c.toNat) (hhigh : c.toNat < 0x10000) :
    ∃ a b d, String.utf8EncodeChar c = [a, b, d] ∧ a.toNat = 0xE0 + c.toNat / 4096 ∧
      b.toNat = 0x80 + c.toNat / 64 % 64 ∧ d.toNat = 0x80 + c.toNat % 64 := by
  rw [Char.toNat] at *
  have hone : ¬c.val.toNat ≤ 0x7f := by omega
  have htwo : ¬c.val.toNat ≤ 0x7ff := by omega
  have hthree : c.val.toNat ≤ 0xffff := by omega
  refine ⟨_, _, _, by rw [String.utf8EncodeChar, if_neg hone, if_neg htwo, if_pos hthree], ?_, ?_, ?_⟩
  all_goals
    rw [UInt8.toNat_ofNat']
    omega

theorem encodeChar_four (hlow : 0x10000 ≤ c.toNat) :
    ∃ a b d e, String.utf8EncodeChar c = [a, b, d, e] ∧ a.toNat = 0xF0 + c.toNat / 262144 ∧
      b.toNat = 0x80 + c.toNat / 4096 % 64 ∧ d.toNat = 0x80 + c.toNat / 64 % 64 ∧
      e.toNat = 0x80 + c.toNat % 64 := by
  have hrange := toNat_range c
  rw [Char.toNat] at *
  have hone : ¬c.val.toNat ≤ 0x7f := by omega
  have htwo : ¬c.val.toNat ≤ 0x7ff := by omega
  have hthree : ¬c.val.toNat ≤ 0xffff := by omega
  refine ⟨_, _, _, _, by rw [String.utf8EncodeChar, if_neg hone, if_neg htwo, if_neg hthree],
    ?_, ?_, ?_, ?_⟩
  all_goals
    rw [UInt8.toNat_ofNat']
    omega

end Characters

/-- The bytes of one character, as decoding reads them. -/
structure IsEncoding (c : Char) (first : UInt8) (tail : List UInt8) : Prop where
  encode : String.utf8EncodeChar c = first :: tail
  width : width first = tail.length + 1
  second : ∀ b, tail.head? = some b → isSecond first b = true
  continuation : ∀ b ∈ tail, isContinuation b = true
  decode : decodeChar (first :: tail) = c

theorem isContinuation_of {b : UInt8} {n : Nat} (h : b.toNat = 0x80 + n) (hn : n < 64) :
    isContinuation b = true := decide_eq_true ⟨by omega, by omega⟩

theorem ofNat_eq {c : Char} {n : Nat} (h : n = c.toNat) : Char.ofNat n = c := by
  rw [h, Char.ofNat_toNat]

theorem exists_isEncoding (c : Char) : ∃ first tail, IsEncoding c first tail := by
  have hrange := toNat_range c
  by_cases hone : c.toNat < 0x80
  · obtain ⟨a, hencode, ha⟩ := encodeChar_one hone
    refine ⟨a, [], hencode, ?_, by simp, by simp, ofNat_eq ha⟩
    rw [width, if_pos (by omega)]
    rfl
  by_cases htwo : c.toNat < 0x800
  · obtain ⟨a, b, hencode, ha, hb⟩ := encodeChar_two (by omega) htwo
    have hcontinuation := isContinuation_of hb (by omega)
    refine ⟨a, [b], hencode, ?_, ?_, by simpa using hcontinuation, ofNat_eq (by omega)⟩
    · rw [width, if_neg (by omega), if_pos (by omega)]
      rfl
    · intro b' hb'
      obtain rfl := Option.some.inj hb'
      rw [isSecond, if_neg (by omega), if_neg (by omega), if_neg (by omega), if_neg (by omega)]
      exact hcontinuation
  by_cases hthree : c.toNat < 0x10000
  · obtain ⟨a, b, d, hencode, ha, hb, hd⟩ := encodeChar_three (by omega) hthree
    have hcontinuation : ∀ x ∈ [b, d], isContinuation x = true := by
      simpa using ⟨isContinuation_of hb (by omega), isContinuation_of hd (by omega)⟩
    refine ⟨a, [b, d], hencode, ?_, ?_, hcontinuation, ofNat_eq (by omega)⟩
    · rw [width, if_neg (by omega), if_neg (by omega), if_pos (by omega)]
      rfl
    · intro b' hb'
      obtain rfl := Option.some.inj hb'
      unfold isSecond
      split_ifs
      · exact decide_eq_true (by omega)
      · exact decide_eq_true (by omega)
      · omega
      · omega
      · exact hcontinuation b (by simp)
  · obtain ⟨a, b, d, e, hencode, ha, hb, hd, he⟩ := encodeChar_four (by omega : 0x10000 ≤ c.toNat)
    have hcontinuation : ∀ x ∈ [b, d, e], isContinuation x = true := by
      simpa using ⟨isContinuation_of hb (by omega), isContinuation_of hd (by omega),
        isContinuation_of he (by omega)⟩
    refine ⟨a, [b, d, e], hencode, ?_, ?_, hcontinuation, ofNat_eq (by omega)⟩
    · rw [width, if_neg (by omega), if_neg (by omega), if_neg (by omega), if_pos (by omega)]
      rfl
    · intro b' hb'
      obtain rfl := Option.some.inj hb'
      unfold isSecond
      split_ifs
      · omega
      · omega
      · exact decide_eq_true (by omega)
      · exact decide_eq_true (by omega)
      · exact hcontinuation b (by simp)

namespace IsEncoding

variable {c : Char} {first : UInt8} {tail : List UInt8}

theorem length (h : IsEncoding c first tail) : tail.length + 1 = c.utf8Size := by
  rw [← String.length_utf8EncodeChar, h.encode, List.length_cons]

/-- Decoding takes the bytes of a character that are there, and no others. -/
theorem extent_take (h : IsEncoding c first tail) {n : Nat} (rest : List UInt8)
    (hrest : n < tail.length → rest = []) :
    extent first (tail.take n ++ rest) = min n tail.length + 1 := by
  cases htail : tail with
  | nil =>
      have hwidth := h.width
      rw [htail, List.length_nil] at hwidth
      cases rest with
      | nil => simp [extent]
      | cons byte rest => simp [extent, hwidth]
  | cons second more =>
      have hwidth := h.width
      rw [htail] at h hrest hwidth
      cases n with
      | zero =>
          rw [hrest (by simp)]
          rfl
      | succ n =>
          have hsecond := h.second second rfl
          have hmore : ∀ b ∈ more.take n, isContinuation b = true := by
            intro b hb
            exact h.continuation b (List.mem_cons_of_mem _ (List.mem_of_mem_take hb))
          have htake : (more.take n ++ rest).take (Utf8.width first - 2) = more.take n := by
            have hlength : Utf8.width first - 2 = more.length := by
              rw [hwidth, List.length_cons]
              omega
            rw [hlength]
            by_cases hn : n < more.length
            · rw [hrest (by simpa using hn), List.append_nil, List.take_take, Nat.min_eq_right hn.le]
            · rw [List.take_of_length_le (Nat.le_of_not_lt hn), List.take_left]
          rw [List.take_succ_cons, List.cons_append, extent,
            if_pos ⟨by rw [hwidth, List.length_cons]; omega, hsecond⟩, htake,
            List.takeWhile_eq_self_iff.mpr hmore, List.length_take, List.length_cons]
          omega

theorem decode_append (h : IsEncoding c first tail) (rest : List UInt8) :
    Utf8.decode (first :: tail ++ rest) = c :: Utf8.decode rest := by
  have hextent := h.extent_take (n := tail.length) rest (fun hlt ↦ absurd hlt (Nat.lt_irrefl _))
  rw [List.take_length, Nat.min_self] at hextent
  rw [Utf8.decode, List.cons_append, decodeFrom, hextent, if_pos h.width.symm, h.width,
    List.take_succ_cons, List.take_left, h.decode, decodeFrom_eq, Nat.add_sub_cancel, List.drop_left]

/-- A character that is split shows as one replacement. -/
theorem decode_take (h : IsEncoding c first tail) {n : Nat} (hn : n < tail.length) :
    Utf8.decode (first :: tail.take n) = [replacement] := by
  have hextent := h.extent_take (n := n) [] (fun _ ↦ rfl)
  rw [List.append_nil, Nat.min_eq_left hn.le] at hextent
  rw [Utf8.decode, decodeFrom, hextent, if_neg (by rw [h.width]; omega), decodeFrom_eq,
    Nat.add_sub_cancel, List.drop_eq_nil_of_le (by rw [List.length_take]; omega)]
  rfl

end IsEncoding

/-! ## Cutting -/

/-- The elements that fit into a number of bytes, and `lost` for one that is split. -/
def cut {α : Type*} (size : α → Nat) (lost : α) : Nat → List α → List α
  | _, [] => []
  | 0, _ :: _ => []
  | n + 1, a :: rest =>
      if size a ≤ n + 1 then a :: cut size lost (n + 1 - size a) rest else [lost]

theorem decode_take_encode (n : Nat) (text : List Char) :
    decode ((encode text).take n) = cut Char.utf8Size replacement n text := by
  induction text generalizing n with
  | nil => simp [encode, cut, decode, decodeFrom]
  | cons c text ih =>
      obtain ⟨first, tail, h⟩ := exists_isEncoding c
      have hsize := h.length
      cases n with
      | zero => rfl
      | succ n =>
          rw [cut, encode, List.flatMap_cons, h.encode]
          split_ifs with hfits
          · have htail : (first :: tail).length = c.utf8Size := by rw [List.length_cons, hsize]
            rw [List.take_append, htail, List.take_of_length_le (htail.trans_le hfits),
              h.decode_append, ← encode, ih]
          · have hn : n < tail.length := by omega
            rw [List.cons_append, List.take_succ_cons, List.take_append_of_le_length hn.le,
              h.decode_take hn]

theorem length_encode (text : List Char) : (encode text).length = (text.map Char.utf8Size).sum := by
  simp [encode, List.length_flatMap]

section Cut

variable {α β : Type*} {size : α → Nat}

theorem cut_map (size' : β → Nat) (f : α → β) (lost : α) {l : List α}
    (hsize : ∀ a ∈ l, size' (f a) = size a) (n : Nat) :
    cut size' (f lost) n (l.map f) = (cut size lost n l).map f := by
  induction l generalizing n with
  | nil => rfl
  | cons a l ih =>
      cases n with
      | zero => rfl
      | succ n =>
          have hrest := fun m ↦ ih (fun b hb ↦ hsize b (List.mem_cons_of_mem a hb)) m
          rw [List.map_cons, cut, cut, hsize a List.mem_cons_self, hrest, apply_ite (List.map f)]
          rfl

variable {lost : α}

theorem cut_of_le {l : List α} {n : Nat} (h : (l.map size).sum ≤ n) (hpos : ∀ a ∈ l, 0 < size a) :
    cut size lost n l = l := by
  induction l generalizing n with
  | nil => rw [cut]
  | cons a l ih =>
      rw [List.map_cons, List.sum_cons] at h
      have ha := hpos a List.mem_cons_self
      obtain ⟨n, rfl⟩ : ∃ m, n = m + 1 := ⟨n - 1, by omega⟩
      rw [cut, if_pos (by omega), ih (by omega) fun b hb ↦ hpos b (List.mem_cons_of_mem a hb)]

theorem cut_eq_take {l : List α} (n : Nat) (h : ∀ a ∈ l, size a = 1) :
    cut size lost n l = l.take n := by
  induction l generalizing n with
  | nil => rw [cut, List.take_nil]
  | cons a l ih =>
      cases n with
      | zero => rfl
      | succ n =>
          have ha := h a List.mem_cons_self
          rw [cut, if_pos (by omega), ha, Nat.add_sub_cancel, List.take_succ_cons,
            ih n fun b hb ↦ h b (List.mem_cons_of_mem a hb)]

theorem mem_of_mem_cut {l : List α} {n : Nat} {a : α} (h : a ∈ cut size lost n l) :
    a ∈ l ∨ a = lost := by
  induction l generalizing n with
  | nil =>
      rw [cut] at h
      cases h
  | cons b l ih =>
      cases n with
      | zero => cases h
      | succ n =>
          rw [cut] at h
          split_ifs at h with hfits
          · rcases List.mem_cons.mp h with rfl | hrest
            · exact .inl List.mem_cons_self
            · exact (ih hrest).imp_left (List.mem_cons_of_mem b)
          · exact .inr (List.mem_singleton.mp h)

end Cut

/-! ## Texts that are encoded correctly -/

/-- The text that the bytes encode, if they encode one. -/
def strict (bytes : List UInt8) : Option (List Char) :=
  if encode (decode bytes) = bytes then some (decode bytes) else none

theorem encode_append (s t : List Char) : encode (s ++ t) = encode s ++ encode t :=
  List.flatMap_append

theorem encode_cons (c : Char) (text : List Char) :
    encode (c :: text) = String.utf8EncodeChar c ++ encode text := List.flatMap_cons

theorem decode_encode (text : List Char) : decode (encode text) = text := by
  have hcut := decode_take_encode (encode text).length text
  rw [List.take_length] at hcut
  rw [hcut]
  exact cut_of_le (length_encode text).ge fun c _ ↦ Char.utf8Size_pos c

theorem strict_eq_some_iff {bytes : List UInt8} {text : List Char} :
    strict bytes = some text ↔ encode text = bytes := by
  unfold strict
  constructor
  · intro h
    split_ifs at h with hvalid
    rw [← Option.some.inj h]
    exact hvalid
  · rintro rfl
    rw [decode_encode, if_pos rfl]

theorem strict_encode (text : List Char) : strict (encode text) = some text :=
  strict_eq_some_iff.mpr rfl

/-- A text whose bytes begin those of another begins the other. -/
theorem exists_append_of_encode {s full : List Char} {bytes : List UInt8}
    (h : encode s ++ bytes = encode full) : ∃ t, full = s ++ t ∧ encode t = bytes := by
  induction s generalizing full with
  | nil => exact ⟨full, rfl, h.symm⟩
  | cons c s ih =>
      obtain ⟨first, tail, hc⟩ := exists_isEncoding c
      rw [encode_cons, hc.encode] at h
      cases full with
      | nil => cases h
      | cons d full =>
          obtain ⟨first', tail', hd⟩ := exists_isEncoding d
          rw [encode_cons, hd.encode] at h
          have hdecode := congrArg decode h
          rw [List.append_assoc, hc.decode_append, hd.decode_append] at hdecode
          obtain rfl : c = d := (List.cons.inj hdecode).1
          have hsame : first :: tail = first' :: tail' := hc.encode.symm.trans hd.encode
          rw [hsame, List.append_assoc] at h
          obtain ⟨t, rfl, ht⟩ := ih (List.append_cancel_left h)
          exact ⟨t, rfl, ht⟩

theorem take_encode_of_narrow {text : List Char} (h : ∀ c ∈ text, c.utf8Size = 1) (n : Nat) :
    (encode text).take n = encode (text.take n) := by
  induction text generalizing n with
  | nil => simp [encode]
  | cons c text ih =>
      cases n with
      | zero => rfl
      | succ n =>
          obtain ⟨first, tail, hc⟩ := exists_isEncoding c
          have hlength := hc.length
          rw [h c List.mem_cons_self] at hlength
          obtain rfl : tail = [] := List.length_eq_zero_iff.mp (Nat.succ.inj hlength)
          have hrest := ih (fun d hd ↦ h d (List.mem_cons_of_mem c hd)) n
          rw [encode_cons, hc.encode, List.cons_append, List.take_succ_cons, List.nil_append, hrest,
            List.take_succ_cons, encode_cons, hc.encode, List.cons_append, List.nil_append]

end Utf8

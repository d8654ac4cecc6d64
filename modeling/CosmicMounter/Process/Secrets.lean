import CosmicMounter.Process.Capture

/-!
# Secrets of captured documents

What of the secrets of a document its captured text depends on, whole or cut.
-/

namespace CosmicMounter

open Rust Serde

/-! ## What the captured text depends on -/

/-- A secret shows in the number of blanks, when it is filled with blanks or not. -/
theorem filter_fillMark_ne {text : MarkedText} (h : text.any Prod.snd = true) :
    ((text.map (fillMark ' ')).map Prod.fst).filter Str.isWhitespace ≠
      ((text.map (fillMark 'x')).map Prod.fst).filter Str.isWhitespace := by
  have hle : ∀ marks : MarkedText,
      (((marks.map (fillMark 'x')).map Prod.fst).filter Str.isWhitespace).length +
          (marks.filter Prod.snd).length =
        (((marks.map (fillMark ' ')).map Prod.fst).filter Str.isWhitespace).length := by
    intro marks
    induction marks with
    | nil => rfl
    | cons mark rest ih =>
        have hspace : Str.isWhitespace ' ' = true := by decide
        have hx : Str.isWhitespace 'x' = false := by decide
        cases hmark : mark.2 with
        | true =>
            have hfill : ∀ fill, fillMark fill mark = (fill, true) := by simp [fillMark, hmark]
            simp only [List.map_cons, List.filter_cons, hfill, hmark, hspace, hx, if_true,
              Bool.false_eq_true, if_false, List.length_cons]
            omega
        | false =>
            have hfill : ∀ fill, fillMark fill mark = mark := by simp [fillMark, hmark]
            simp only [List.map_cons, List.filter_cons, hfill, hmark, Bool.false_eq_true, if_false]
            split_ifs
            · rw [List.length_cons, List.length_cons]
              omega
            · exact ih
  intro heq
  have hlength := hle text
  rw [heq] at hlength
  obtain ⟨mark, hmark, hsecret⟩ := List.any_eq_true.mp h
  have hpos := List.length_pos_of_mem (List.mem_filter.mpr ⟨hmark, hsecret⟩)
  omega

section Captured

variable {json : SerdeJson} {builder : Builder} {layout : Layout} {limit : Nat}
  {document other : Value}

theorem redactText_of_fits (hother : ReadsDocument json builder layout other)
    (hfits : fits layout limit other) (hdepth : other.depth < recursionLimit) :
    redactText json (.ofList (Utf8.cut Char.utf8Size Utf8.replacement limit
        (documentText layout other))) =
      json.toString (redactJsonValue (other.built builder)) := by
  have hwhole : Utf8.cut Char.utf8Size Utf8.replacement limit (documentText layout other) =
      documentText layout other := by
    rw [fits, Utf8.length_encode] at hfits
    exact Utf8.cut_of_le hfits fun c _ ↦ c.utf8Size_pos
  rw [hwhole, redactText, hother.complete hdepth]

/-- A text that is cut or nested too deeply is redacted by its tokens. -/
theorem redactText_of_not_fits (hother : ReadsDocument json builder layout other)
    (hcontainer : isContainer other = true)
    (hbroken : ¬(fits layout limit other ∧ other.depth < recursionLimit)) :
    redactText json (.ofList (Utf8.cut Char.utf8Size Utf8.replacement limit
        (documentText layout other))) =
      redactPlainText (.ofList ((keptText layout limit other).map Prod.fst)) := by
  have herror : ∀ value, json.fromStr (.ofList (Utf8.cut Char.utf8Size Utf8.replacement limit
      (documentText layout other))) ≠ .ok value := by
    by_cases hfits : fits layout limit other
    · have hwhole : Utf8.cut Char.utf8Size Utf8.replacement limit (documentText layout other) =
          documentText layout other := by
        rw [fits, Utf8.length_encode] at hfits
        exact Utf8.cut_of_le hfits fun c _ ↦ c.utf8Size_pos
      rw [hwhole]
      exact hother.nested (Nat.le_of_not_lt fun hdepth ↦ hbroken ⟨hfits, hdepth⟩)
    · exact hother.cut hcontainer limit (Nat.lt_of_not_le hfits)
  rw [redactText, ← cut_documentText]
  split
  · next value hvalue => exact absurd hvalue (herror value)
  · rfl

/-- The captured text is the same for all documents that differ in their secrets. -/
def HidesSecrets (json : SerdeJson) (layout : Layout) (limit : Nat) (document : Value) : Prop :=
  ∀ other, SameButSecrets document other → ∀ reads reads',
    streamOf reads = Utf8.encode (documentText layout document) →
    streamOf reads' = Utf8.encode (documentText layout other) →
    (readBounded json reads limit .redacted).text = (readBounded json reads' limit .redacted).text

theorem hidesSecrets_iff
    (hjson : ∀ other, SameButSecrets document other → ReadsDocument json builder layout other) :
    HidesSecrets json layout limit document ↔
      showsSecret layout limit document = false ∨
        fits layout limit document ∧ document.depth < recursionLimit := by
  constructor
  · intro hhides
    by_contra hneither
    obtain ⟨hshows, hbroken⟩ := not_or.mp hneither
    rw [Bool.not_eq_false] at hshows
    -- the texts with the secrets filled with blanks and with letters
    have hfilled : ∀ fill, IsPlain fill →
        (readBounded json [some (Utf8.encode (documentText layout document))] limit .redacted).text =
          redactPlainText (.ofList (((keptText layout limit document).map (fillMark fill)).map
            Prod.fst)) := by
      intro fill hfill
      have hsame := sameButSecrets_mask hfill document
      have hshows' : showsSecret layout limit (document.mask isSensitiveField fill false) = true := by
        rw [showsSecret, keptText_mask hfill, any_map_fillMark, ← showsSecret, hshows]
      rw [hhides _ hsame _ _ (streamOf_singleton _) (streamOf_singleton _),
        text_readBounded json (streamOf_singleton _),
        redactText_of_not_fits (hjson _ hsame) (isContainer_of_showsSecret hshows')
          (by rwa [hsame.fits_iff, hsame.depth_eq]), keptText_mask hfill]
    have hequal := (hfilled ' ' isPlain_space).symm.trans (hfilled 'x' isPlain_x)
    have hfilter := congrArg (fun text : String ↦ text.toList.filter Str.isWhitespace) hequal
    rw [(redacts_plainText _).filter_isWhitespace, (redacts_plainText _).filter_isWhitespace,
      String.toList_ofList, String.toList_ofList] at hfilter
    exact filter_fillMark_ne hshows hfilter
  · intro hcondition other hsame reads reads' hreads hreads'
    rw [text_readBounded json hreads, text_readBounded json hreads']
    rcases hcondition with hshows | ⟨hfits, hdepth⟩
    · rw [cut_documentText, cut_documentText, hsame.keptText_eq hshows]
    · rw [redactText_of_fits (hjson document rfl) hfits hdepth,
        redactText_of_fits (hjson other hsame) (hsame.fits_iff.mpr hfits)
          (by rwa [hsame.depth_eq]), hsame.redact_built]

end Captured

/-! ## Samples -/

def passwordDocument (password : String) : Value :=
  .object (.cons "password" (.string password) .nil)

def passwordStart : List Char := "\x7b\"password\":\"".toList

/-- The characters of a string without escapes, which ends the document. -/
def readPassword : List Char → Option (List Char)
  | ['"', '\x7d'] => some []
  | c :: rest =>
      if c = '"' ∨ c = '\\' ∨ c.toNat < 32 then none else (readPassword rest).map (c :: ·)
  | [] => none

/-- A parser and a writer that know documents of one password. -/
def passwordJson : SerdeJson where
  fromStr text :=
    if text.toList.take 13 = passwordStart then
      match readPassword (text.toList.drop 13) with
      | some password => .ok (passwordDocument (.ofList password))
      | none => .error "EOF while parsing a string"
    else .error "expected value"
  toString value := .ofList (documentText .compact value)

def plainBuilder : Builder := ⟨id, id, fun _ _ ↦ rfl⟩

theorem escapeChar_ne_nil (c : Char) : Json.escapeChar c ≠ [] := by
  unfold Json.escapeChar
  split_ifs <;> simp

theorem plain_of_length_escapeChar {c : Char} (h : (Json.escapeChar c).length = 1) :
    Json.escapeChar c = [c] ∧ c ≠ '"' ∧ c ≠ '\\' ∧ ¬c.toNat < 32 := by
  unfold Json.escapeChar at h ⊢
  split_ifs at h ⊢
  all_goals first | cases h; done | exact ⟨rfl, by assumption, by assumption, by assumption⟩

theorem exists_singleton_of_escaped {s : String} (h : (escaped s).length = 1) :
    ∃ c, s = .singleton c ∧ Json.escapeChar c = [c] ∧ c ≠ '"' ∧ c ≠ '\\' ∧ ¬c.toNat < 32 := by
  rw [escaped] at h
  cases hs : s.toList with
  | nil =>
      rw [hs] at h
      cases h
  | cons c rest =>
      rw [hs, List.flatMap_cons, List.length_append] at h
      have hpos := List.length_pos_of_ne_nil (escapeChar_ne_nil c)
      cases rest with
      | nil =>
          refine ⟨c, ?_, plain_of_length_escapeChar (by simpa using h)⟩
          apply String.toList_inj.mp
          rw [hs, String.toList_singleton]
      | cons d rest =>
          have hpos' := List.length_pos_of_ne_nil (escapeChar_ne_nil d)
          rw [List.flatMap_cons, List.length_append] at h
          omega

theorem mask_passwordDocument (password : String) :
    (passwordDocument password).mask isSensitiveField 'x' false =
      passwordDocument (maskString 'x' true password) := by
  have hkey : isSensitiveField "password" = true := by decide
  rw [passwordDocument, Value.mask, Fields.mask, hkey, Value.mask, Fields.mask, passwordDocument]

/-- The documents that differ from the sample in the secret alone. -/
theorem exists_password {other : Value} (h : SameButSecrets (passwordDocument "x") other) :
    ∃ c, other = passwordDocument (.singleton c) ∧ c.toNat < 128 ∧
      Json.escapeChar c = [c] ∧ c ≠ '"' ∧ c ≠ '\\' ∧ ¬c.toNat < 32 := by
  have hx : maskString 'x' true "x" = "x" := by decide
  rw [SameButSecrets, mask_passwordDocument, hx, passwordDocument] at h
  cases other with
  | null | bool | number | string | array => cases h
  | object fields =>
      cases fields with
      | nil => cases h
      | cons key value rest =>
          rw [Value.mask, Fields.mask] at h
          obtain ⟨hkey, hvalue, hrest⟩ := Fields.cons.inj (Value.object.inj h)
          subst hkey
          cases rest with
          | cons key' value' rest' => cases hrest
          | nil =>
              cases value with
              | null | bool | number | array | object => cases hvalue
              | string s =>
                  have hs : maskString 'x' true s = "x" := Value.string.inj hvalue
                  rw [maskString, Bool.true_and] at hs
                  split_ifs at hs with hascii
                  · have hlength := congrArg (fun text : String ↦ text.toList.length) hs
                    rw [String.toList_ofList, List.length_replicate] at hlength
                    obtain ⟨c, hc, hplain⟩ := exists_singleton_of_escaped hlength
                    rw [hc, isAscii, String.toList_singleton] at hascii
                    exact ⟨c, by rw [hc, passwordDocument], by simpa using hascii, hplain⟩
                  · rw [hs] at hascii
                    exact absurd (by decide) hascii

theorem documentText_password {c : Char} (h : Json.escapeChar c = [c]) :
    documentText .compact (passwordDocument (.singleton c)) = passwordStart ++ [c, '"', '\x7d'] := by
  have hescaped : escaped (.singleton c) = [c] := by
    rw [escaped, String.toList_singleton, List.flatMap_cons, h]
    rfl
  rw [documentText, markedText, passwordDocument, Value.marked, Fields.marked, Value.marked, hescaped]
  rfl

theorem length_passwordStart : passwordStart.length = 13 := by decide

theorem fromStr_passwordStart (tail : List Char) :
    passwordJson.fromStr (.ofList (passwordStart ++ tail)) =
      match readPassword tail with
      | some password => .ok (passwordDocument (.ofList password))
      | none => .error "EOF while parsing a string" := by
  rw [passwordJson]
  dsimp only
  rw [String.toList_ofList, List.take_left' length_passwordStart,
    List.drop_left' length_passwordStart, if_pos rfl]

theorem fromStr_short {text : List Char} (h : text.length < 13) :
    passwordJson.fromStr (.ofList text) = .error "expected value" := by
  rw [passwordJson]
  dsimp only
  rw [String.toList_ofList, if_neg]
  intro heq
  have hlength := congrArg List.length heq
  rw [List.length_take, length_passwordStart] at hlength
  omega

theorem utf8Size_password {c : Char} (h : c.toNat < 128) :
    ∀ d ∈ passwordStart ++ [c, '"', '\x7d'], d.utf8Size = 1 := by
  intro d hd
  apply utf8Size_of_ascii
  have hfixed : ((passwordStart ++ ['"', '\x7d']).all fun d ↦ decide (d.toNat < 128)) = true := by
    decide
  by_cases hdc : d = c
  · rwa [hdc]
  · have hmem : d ∈ passwordStart ++ ['"', '\x7d'] := by simpa [hdc] using hd
    exact of_decide_eq_true (List.all_eq_true.mp hfixed d hmem)

theorem readsDocument_password (other : Value) (h : SameButSecrets (passwordDocument "x") other) :
    ReadsDocument passwordJson plainBuilder .compact other := by
  obtain ⟨c, rfl, hascii, hescape, hquote, hbackslash, hcontrol⟩ := exists_password h
  have htext := documentText_password hescape
  constructor
  · intro _
    have hread : readPassword [c, '"', '\x7d'] = some [c] := by
      simp [readPassword, hquote, hbackslash, hcontrol]
    rw [htext, fromStr_passwordStart, hread]
    rfl
  · intro hdepth
    have hshallow : (passwordDocument (.singleton c)).depth = 1 := rfl
    rw [hshallow] at hdepth
    exact absurd hdepth (by decide)
  · intro _ limit hlimit value hvalue
    have hsize := utf8Size_password hascii
    rw [htext, Utf8.length_encode, List.map_congr_left hsize] at hlimit
    have hbound : limit < 16 := by simpa [length_passwordStart] using hlimit
    rw [htext, Utf8.cut_eq_take limit hsize] at hvalue
    by_cases hshort : limit < 13
    · rw [fromStr_short (by rw [List.length_take]; omega)] at hvalue
      cases hvalue
    · obtain ⟨k, rfl⟩ : ∃ k, limit = passwordStart.length + k :=
        ⟨limit - 13, by rw [length_passwordStart]; omega⟩
      rw [length_passwordStart] at hbound
      have hread : readPassword ([c, '"', '\x7d'].take k) = none := by
        have hk : k = 0 ∨ k = 1 ∨ k = 2 := by omega
        rcases hk with rfl | rfl | rfl <;> simp [readPassword, hquote, hbackslash]
      rw [List.take_length_add_append, fromStr_passwordStart, hread] at hvalue
      cases hvalue

/-- The sample loses its secret only to a cut behind the first character of it. -/
theorem hidesSecrets_sample :
    HidesSecrets passwordJson .compact 13 (passwordDocument "x") ∧
      ¬HidesSecrets passwordJson .compact 14 (passwordDocument "x") ∧
      HidesSecrets passwordJson .compact 16 (passwordDocument "x") := by
  have hjson := readsDocument_password
  refine ⟨(hidesSecrets_iff hjson).mpr (.inl (by decide)), ?_,
    (hidesSecrets_iff hjson).mpr (.inr ⟨by rw [fits]; decide, by decide⟩)⟩
  intro hhides
  have hcut := (hidesSecrets_iff hjson).mp hhides
  rw [fits] at hcut
  exact absurd hcut (by decide)

/-- Of a document that is cut, redaction keeps the password. -/
theorem cut_document_shows_password :
    SameButSecrets (passwordDocument "hunter2") (passwordDocument "letmein") ∧
      (readBounded passwordJson
        [some (Utf8.encode (documentText .compact (passwordDocument "hunter2")))] 20 .redacted).text =
        "\x7b\"password\":\"hunter2" ∧
      (readBounded passwordJson
        [some (Utf8.encode (documentText .compact (passwordDocument "letmein")))] 20 .redacted).text =
        "\x7b\"password\":\"letmein" := by
  have hmask : maskString 'x' true "letmein" = maskString 'x' true "hunter2" := by decide
  refine ⟨by rw [SameButSecrets, mask_passwordDocument, mask_passwordDocument, hmask], ?_, ?_⟩
  · rw [text_readBounded _ (streamOf_singleton _)]
    decide
  · rw [text_readBounded _ (streamOf_singleton _)]
    decide

end CosmicMounter

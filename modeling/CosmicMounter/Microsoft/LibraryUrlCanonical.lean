import CosmicMounter.Microsoft.LibraryUrl
import CosmicMounter.Rust.Result
import CosmicMounter.Rust.Trimming

/-!
# The canonical address of a library

What the crates document of addresses, and when the address that
`parse_library_url` puts together stands for the host and the segments that
it was given.
-/

namespace CosmicMounter.Library

open Rust

/-! ## The crates -/

/-- An address of a host, with nothing in it but the segments of its path. -/
def siteUrl (host : String) (path : List String) : Url where
  scheme := "https"
  username := ""
  password := none
  host := some host
  port := none
  path := some path
  query := none
  fragment := none
  text := "https://" ++ Str.join "/" (host :: path)

def isDropped (c : Char) : Bool := c == '\t' || c == '\n' || c == '\r'

/-- What of a segment is encoded: all but tabs and newlines. -/
def kept (segment : String) : String := .ofList (segment.toList.filter (!isDropped ·))

/-- The path after a segment is appended; what is left of it may be a dot segment. -/
def pushPath (encode : String → String) (path : List String) (segment : String) : List String :=
  if segment = "." ∨ segment = ".." then path
  else if kept segment = ".." then path.dropLast ++ [""]
  else
    let base := if path = [""] then [] else path
    if kept segment = "." then base ++ [""] else base ++ [encode (kept segment)]

variable (crate : UrlCrate)

/-- A host in a parsed address. -/
def IsHost (host : String) : Prop :=
  ∃ input url, crate.parse input = some url ∧ url.host = some host ∧ IsSharePoint url host

def IsEncoded (segment : String) : Prop :=
  ∃ decoded, segment = crate.encodeSegment decoded ∧ decoded ≠ "." ∧ decoded ≠ ".."

/-- What the crates document: a written address is read as it was written, segments are encoded
without loss, and appended as the standard of addresses says. -/
structure Documented : Prop where
  hostAgain : ∀ host, IsHost crate host → crate.parse ("https://" ++ host) = some (siteUrl host [""])
  hostPlain : ∀ host, IsHost crate host → ∀ c ∈ host.toList, c ≠ '/' ∧ Str.isWhitespace c = false
  extendSite : ∀ host path segments, IsHost crate host → path ≠ [] → (∀ s ∈ path, IsEncoded crate s) →
    crate.extend (siteUrl host path) segments =
      some (siteUrl host (segments.foldl (pushPath crate.encodeSegment) path))
  parseSite : ∀ host path, IsHost crate host → path ≠ [] → (∀ s ∈ path, IsEncoded crate s) →
    crate.parse (siteUrl host path).text = some (siteUrl host path)
  encodeEmpty : crate.encodeSegment "" = ""
  encodePlain : ∀ decoded, ∀ c ∈ (crate.encodeSegment decoded).toList,
    c ≠ '/' ∧ Str.isWhitespace c = false
  encodeEscapes : ∀ decoded, isWellEscaped (crate.encodeSegment decoded).toList = true
  decodeEncode : ∀ decoded, crate.percentDecode (crate.encodeSegment decoded) = some decoded

/-! ## Paths -/

section Path

variable {encode : String → String}

theorem kept_kept (segment : String) : kept (kept segment) = kept segment := by
  rw [kept, kept, String.toList_ofList, List.filter_filter]
  simp

theorem length_pushPath (path : List String) (segment : String) :
    (pushPath encode path segment).length ≤ path.length + 1 := by
  have hdrop : path.dropLast.length ≤ path.length := by
    rw [List.length_dropLast]
    omega
  have hbase : (if path = [""] then [] else path).length ≤ path.length := by
    split_ifs
    · exact Nat.zero_le _
    · exact Nat.le_refl _
  rw [pushPath]
  split_ifs <;> simp_all

/-- A segment that is still a name when it is pushed. -/
def Survives (segment : String) : Prop := kept segment ∉ ["", ".", ".."]

instance (segment : String) : Decidable (Survives segment) := inferInstanceAs (Decidable (¬_))

theorem pushPath_of_survives {path : List String} {segment : String} (h : Survives segment)
    (hpath : path ≠ [""]) : pushPath encode path segment = path ++ [encode (kept segment)] := by
  simp only [Survives, List.mem_cons, List.not_mem_nil, or_false, not_or] at h
  obtain ⟨-, hdot, hdots⟩ := h
  have hsegment : ¬(segment = "." ∨ segment = "..") := by
    rintro (rfl | rfl)
    · exact hdot rfl
    · exact hdots rfl
  rw [pushPath, if_neg hsegment, if_neg hdots]
  dsimp only
  rw [if_neg hpath, if_neg hdot]

theorem pushPath_root {segment : String} (h : Survives segment) :
    pushPath encode [""] segment = [encode (kept segment)] := by
  simp only [Survives, List.mem_cons, List.not_mem_nil, or_false, not_or] at h
  obtain ⟨-, hdot, hdots⟩ := h
  have hsegment : ¬(segment = "." ∨ segment = "..") := by
    rintro (rfl | rfl)
    · exact hdot rfl
    · exact hdots rfl
  rw [pushPath, if_neg hsegment, if_neg hdots]
  dsimp only
  rw [if_pos rfl, if_neg hdot, List.nil_append]

/-- A segment that does not survive leaves an empty one. -/
theorem getLast?_pushPath (hempty : encode "" = "") (path : List String) {segment : String}
    (h : ¬Survives segment) (hdot : segment ≠ ".") (hdots : segment ≠ "..") :
    (pushPath encode path segment).getLast? = some "" := by
  simp only [Survives, List.mem_cons, List.not_mem_nil, or_false, not_not] at h
  rw [pushPath, if_neg (not_or.mpr ⟨hdot, hdots⟩)]
  rcases h with hkept | hkept | hkept
  · rw [hkept]
    simp [hempty]
  · rw [hkept]
    simp
  · rw [hkept]
    simp

end Path

/-! ## Segments and their encoding -/

section Encoded

variable {crate} (hcrate : Documented crate)
include hcrate

theorem isEncoded_empty : IsEncoded crate "" :=
  ⟨"", hcrate.encodeEmpty.symm, by decide, by decide⟩

theorem encode_injective : Function.Injective crate.encodeSegment := by
  intro s t h
  have hdecode := congrArg crate.percentDecode h
  rw [hcrate.decodeEncode, hcrate.decodeEncode] at hdecode
  exact Option.some.inj hdecode

theorem encode_eq_empty_iff {s : String} : crate.encodeSegment s = "" ↔ s = "" := by
  rw [← hcrate.encodeEmpty]
  rw [(encode_injective hcrate).eq_iff, hcrate.encodeEmpty]

theorem slash_notMem_of_isEncoded {s : String} (h : IsEncoded crate s) : '/' ∉ s.toList := by
  obtain ⟨decoded, rfl, -, -⟩ := h
  intro hmem
  exact (hcrate.encodePlain decoded '/' hmem).1 rfl

theorem decodedSegment_encode (s : String) : decodedSegment crate (crate.encodeSegment s) =
    if isUnsafeSegment s then
      .error ⟨"ui-teams-sharepoint-url-contains-an-unsafe-path-segment", []⟩
    else .ok s := by
  rw [decodedSegment, hcrate.encodeEscapes, hcrate.decodeEncode]
  rfl

theorem isEncoded_pushPath {path : List String} {segment : String} (h : ∀ s ∈ path, IsEncoded crate s) :
    ∀ s ∈ pushPath crate.encodeSegment path segment, IsEncoded crate s := by
  have hempty := isEncoded_empty hcrate
  rw [pushPath]
  split_ifs with hsegment hdots hpath hdot hdot
  · exact h
  · intro s hs
    rcases List.mem_append.mp hs with hs | hs
    · exact h s (List.mem_of_mem_dropLast hs)
    · rwa [List.mem_singleton.mp hs]
  · intro s hs
    rwa [List.mem_singleton.mp hs]
  · intro s hs
    exact ⟨kept segment, List.mem_singleton.mp hs, hdot, hdots⟩
  · intro s hs
    rcases List.mem_append.mp hs with hs | hs
    · exact h s hs
    · rwa [List.mem_singleton.mp hs]
  · intro s hs
    rcases List.mem_append.mp hs with hs | hs
    · exact h s hs
    · exact ⟨kept segment, List.mem_singleton.mp hs, hdot, hdots⟩

end Encoded

theorem pushPath_ne_nil {encode : String → String} {path : List String} (h : path ≠ []) (segment : String) :
    pushPath encode path segment ≠ [] := by
  rw [pushPath]
  split_ifs <;> simp [h]

/-! ## Written addresses -/

def libraryText (host : String) (path : List String) : String :=
  "https://" ++ Str.join "/" (host :: path)

def isEmptySegment (segment : String) : Bool := segment == ""

theorem trimEndMatches_append_self (c : Char) (s : String) :
    Str.trimEndMatches c (s ++ .ofList [c]) = Str.trimEndMatches c s := by
  rw [Str.trimEndMatches, String.toList_append, String.toList_ofList, List.rdropWhile_concat_pos]
  · rfl
  · simp

theorem trimEndMatches_of_getLast? {c : Char} {s : String} (h : s.toList.getLast? ≠ some c) :
    Str.trimEndMatches c s = s := by
  have hself : s.toList.rdropWhile (· == c) = s.toList := by
    rw [List.rdropWhile_eq_self_iff]
    intro hne heq
    apply h
    rw [List.getLast?_eq_some_getLast hne]
    exact congrArg some (eq_of_beq heq)
  rw [Str.trimEndMatches, hself, String.ofList_toList]

/-- The slashes at the end of an address stand for its empty segments. -/
theorem trim_libraryText {host : String} (hhost : host ≠ "") (hslash : '/' ∉ host.toList)
    {path : List String} (hpath : ∀ s ∈ path, '/' ∉ s.toList) :
    Str.trimEndMatches '/' (libraryText host path) = libraryText host (path.rdropWhile isEmptySegment) := by
  induction path using List.reverseRecOn with
  | nil =>
      rw [List.rdropWhile_nil, libraryText, Str.join_singleton]
      apply trimEndMatches_of_getLast?
      rw [String.toList_append, List.getLast?_append_of_ne_nil]
      · exact fun hlast ↦ hslash (List.mem_of_getLast? hlast)
      · exact fun hnil ↦ hhost (String.toList_eq_nil_iff.mp hnil)
  | append_singleton path segment ih =>
      have htext : libraryText host (path ++ [segment]) = libraryText host path ++ "/" ++ segment := by
        rw [libraryText, ← List.cons_append, Str.join_append_singleton (List.cons_ne_nil _ _),
          ← String.append_assoc, ← String.append_assoc, ← libraryText]
      by_cases hsegment : segment = ""
      · subst hsegment
        rw [htext, String.append_empty, List.rdropWhile_concat_pos isEmptySegment path "" rfl,
          ← ih fun s hs ↦ hpath s (List.mem_append_left _ hs)]
        exact trimEndMatches_append_self '/' _
      · rw [List.rdropWhile_concat_neg isEmptySegment path segment (by simpa [isEmptySegment] using hsegment)]
        apply trimEndMatches_of_getLast?
        rw [htext, String.toList_append, List.getLast?_append_of_ne_nil]
        · exact fun hlast ↦ hpath segment (by simp) (List.mem_of_getLast? hlast)
        · exact fun hnil ↦ hsegment (String.toList_eq_nil_iff.mp hnil)

theorem libraryText_injective {host host' : String} {path path' : List String}
    (hslash : ∀ s ∈ host :: path, '/' ∉ s.toList) (hslash' : ∀ s ∈ host' :: path', '/' ∉ s.toList)
    (h : libraryText host path = libraryText host' path') : host = host' ∧ path = path' := by
  have hjoin : Str.join "/" (host :: path) = Str.join "/" (host' :: path') := by
    have hlists := congrArg String.toList h
    rw [libraryText, libraryText, String.toList_append, String.toList_append] at hlists
    exact String.toList_inj.mp (List.append_cancel_left hlists)
  have hsplit := Str.split_join hslash (List.cons_ne_nil _ _)
  have hsplit' := Str.split_join hslash' (List.cons_ne_nil _ _)
  rw [show ('/').toString = "/" from rfl] at hsplit hsplit'
  rw [hjoin, hsplit'] at hsplit
  obtain ⟨hhost, hpath⟩ := List.cons.inj hsplit
  exact ⟨hhost.symm, hpath.symm⟩

/-! ## Accepted addresses -/

section Accepted

variable {crate} {host : String}

theorem IsHost.ne_empty (h : IsHost crate host) : host ≠ "" := by
  obtain ⟨-, url, -, -, hurl⟩ := h
  rintro rfl
  rcases hurl.host with hends | hsame
  · revert hends
    decide
  · revert hsame
    decide

theorem IsHost.siteUrl (h : IsHost crate host) (path : List String) : IsSharePoint (siteUrl host path) host := by
  obtain ⟨-, url, -, -, hurl⟩ := h
  exact ⟨rfl, hurl.host, rfl, rfl, rfl⟩

theorem isUnsafeSegment_of_decoded {raw decoded : String} (h : decodedSegment crate raw = .ok decoded) :
    isUnsafeSegment decoded = false := by
  unfold decodedSegment at h
  split_ifs at h
  split at h
  · cases h
  · split_ifs at h with hunsafe
    rw [← Except.ok.inj h]
    exact Bool.eq_false_iff.mpr hunsafe

/-- What is known of an address whose parts are accepted. -/
structure Parts (crate : UrlCrate) (host : String) (segments : List String) : Prop where
  isHost : IsHost crate host
  isPath : IsLibraryPath segments
  isSafe : ∀ s ∈ segments, isUnsafeSegment s = false

theorem parts_of_libraryParts {input : String} {segments : List String}
    (h : libraryParts crate input = .ok (host, segments)) : Parts crate host segments := by
  unfold libraryParts at h
  split at h
  · cases h
  next url hparse =>
    split at h
    · cases h
    next found hfound =>
      split_ifs at h with hurl
      split at h
      · cases h
      next path hpath =>
        split at h
        · cases h
        next decoded hdecoded =>
          split_ifs at h with hlibrary
          obtain ⟨rfl, rfl⟩ := Prod.mk.inj (Except.ok.inj h)
          refine ⟨⟨_, url, hparse, hfound, hurl⟩, hlibrary, ?_⟩
          intro s hs
          have hpairs : List.Forall₂ (fun s raw ↦ decodedSegment crate raw = .ok s) decoded _ :=
            (Result.mapM_eq_ok hdecoded).flip
          obtain ⟨raw, -, hraw⟩ := Result.exists_of_forall₂ hpairs s hs
          exact isUnsafeSegment_of_decoded hraw

variable (hcrate : Documented crate)
include hcrate

theorem slash_notMem (hhost : IsHost crate host) {path : List String} (hpath : ∀ s ∈ path, IsEncoded crate s) :
    ∀ s ∈ host :: path, '/' ∉ s.toList := by
  intro s hs
  rcases List.mem_cons.mp hs with rfl | hs
  · exact fun hmem ↦ (hcrate.hostPlain s hhost '/' hmem).1 rfl
  · exact slash_notMem_of_isEncoded hcrate (hpath s hs)

theorem isWhitespace_libraryText (hhost : IsHost crate host) {path : List String}
    (hpath : ∀ s ∈ path, IsEncoded crate s) :
    ∀ c ∈ (libraryText host path).toList, Str.isWhitespace c = false := by
  have hscheme : "https://".toList.all (!Str.isWhitespace ·) = true := by rfl
  induction path using List.reverseRecOn with
  | nil =>
      intro c hc
      rw [libraryText, Str.join_singleton, String.toList_append] at hc
      rcases List.mem_append.mp hc with hc | hc
      · simpa using List.all_eq_true.mp hscheme c hc
      · exact (hcrate.hostPlain host hhost c hc).2
  | append_singleton path segment ih =>
      intro c hc
      rw [libraryText, ← List.cons_append, Str.join_append_singleton (List.cons_ne_nil _ _),
        ← String.append_assoc, ← String.append_assoc, ← libraryText, String.toList_append,
        String.toList_append] at hc
      rcases List.mem_append.mp hc with hc | hc
      · rcases List.mem_append.mp hc with hc | hc
        · exact ih (fun s hs ↦ hpath s (List.mem_append_left _ hs)) c hc
        · rw [List.mem_singleton.mp hc]
          decide
      · obtain ⟨decoded, rfl, -, -⟩ := hpath segment (by simp)
        exact (hcrate.encodePlain decoded c hc).2

/-- A written address is taken apart into the segments it was written with. -/
theorem libraryParts_libraryText (hhost : IsHost crate host) {path : List String}
    (hpath : ∀ s ∈ path, IsEncoded crate s) (hlast : path.getLast? ≠ some "") :
    libraryParts crate (libraryText host path) =
      match path.mapM (decodedSegment crate) with
      | .error message => .error message
      | .ok segments =>
          if ¬IsLibraryPath segments then .error ⟨"ui-teams-enter-a-library-url-under-sites-site", []⟩
          else .ok (host, segments) := by
  have htrim := Str.trim_of_no_whitespace (isWhitespace_libraryText hcrate hhost hpath)
  have hparse : ∃ path', crate.parse (libraryText host path) = some (siteUrl host path') ∧
      rawSegments path' = path := by
    by_cases hnil : path = []
    · subst hnil
      refine ⟨[""], ?_, rfl⟩
      rw [libraryText, Str.join_singleton]
      exact hcrate.hostAgain host hhost
    · exact ⟨path, hcrate.parseSite host path hhost hnil hpath, if_neg hlast⟩
  obtain ⟨path', hparse, hraw⟩ := hparse
  rw [libraryParts, htrim, hparse]
  change (if ¬IsSharePoint (siteUrl host path') host then _ else _) = _
  rw [if_neg (not_not.mpr (hhost.siteUrl path'))]
  change (match (rawSegments path').mapM (decodedSegment crate) with
    | .error message => _
    | .ok segments => _) = _
  rw [hraw]

/-- The path that the canonical address is given. -/
def canonicalPath (crate : UrlCrate) (segments : List String) : List String :=
  segments.foldl (pushPath crate.encodeSegment) [""]

theorem isEncoded_canonicalPath (segments : List String) :
    canonicalPath crate segments ≠ [] ∧ ∀ s ∈ canonicalPath crate segments, IsEncoded crate s := by
  induction segments using List.reverseRecOn with
  | nil =>
      refine ⟨List.cons_ne_nil _ _, fun s hs ↦ ?_⟩
      rw [List.mem_singleton.mp hs]
      exact isEncoded_empty hcrate
  | append_singleton segments segment ih =>
      rw [canonicalPath, List.foldl_append]
      exact ⟨pushPath_ne_nil ih.1 segment, isEncoded_pushPath hcrate ih.2⟩

/-- The text of a canonical address, without the slashes at its end. -/
def canonicalText (crate : UrlCrate) (host : String) (segments : List String) : String :=
  libraryText host ((canonicalPath crate segments).rdropWhile isEmptySegment)

theorem canonicalLibrary_eq (hhost : IsHost crate host) (segments : List String) :
    canonicalLibrary crate host segments =
      .ok ⟨canonicalText crate host (segments.take 2), canonicalText crate host segments, ""⟩ := by
  have hsite := isEncoded_canonicalPath hcrate (segments.take 2)
  have hlibrary := isEncoded_canonicalPath hcrate segments
  have hroot := isEncoded_canonicalPath hcrate []
  have hfold : (segments.drop 2).foldl (pushPath crate.encodeSegment)
      (canonicalPath crate (segments.take 2)) = canonicalPath crate segments := by
    rw [canonicalPath, ← List.foldl_append, List.take_append_drop, canonicalPath]
  have htrim : ∀ path, (∀ s ∈ path, IsEncoded crate s) → Str.trimEndMatches '/' (siteUrl host path).text =
      libraryText host (path.rdropWhile isEmptySegment) := by
    intro path hpath
    have hslash := slash_notMem hcrate hhost hpath
    exact trim_libraryText hhost.ne_empty (hslash host List.mem_cons_self)
      fun s hs ↦ hslash s (List.mem_cons_of_mem host hs)
  rw [canonicalLibrary, hcrate.hostAgain host hhost]
  dsimp only
  rw [hcrate.extendSite host [""] _ hhost hroot.1 hroot.2, ← canonicalPath]
  dsimp only
  rw [hcrate.extendSite host _ _ hhost hsite.1 hsite.2, hfold]
  dsimp only
  rw [htrim _ hsite.2, htrim _ hlibrary.2]
  rfl

/-- What an accepted address is turned into, and from which parts. -/
theorem exists_parts {input : String} {identity : SharePointLibraryIdentity}
    (h : parseLibraryUrl crate input = .ok identity) : ∃ host segments,
      libraryParts crate input = .ok (host, segments) ∧ Parts crate host segments ∧
      identity = ⟨canonicalText crate host (segments.take 2), canonicalText crate host segments, ""⟩ := by
  unfold parseLibraryUrl at h
  split at h
  · cases h
  next host segments hparts =>
    have hknown := parts_of_libraryParts hparts
    rw [canonicalLibrary_eq hcrate hknown.isHost] at h
    exact ⟨host, segments, hparts, hknown, (Except.ok.inj h).symm⟩

end Accepted

/-! ## Segments that survive -/

theorem isUnsafeSegment_kept {segment : String} (h : isUnsafeSegment segment = false) :
    isUnsafeSegment (kept segment) = false ↔ Survives segment := by
  rw [isUnsafeSegment, Bool.or_eq_false_iff] at h
  have hchars : (kept segment).toList.any (fun c ↦ c == '/' || c == '\\' || c == '\x00') = false := by
    rw [kept, String.toList_ofList, List.any_filter, List.any_eq_false]
    intro c hc hbad
    rw [Bool.and_eq_true] at hbad
    exact List.any_eq_false.mp h.2 c hc hbad.2
  rw [isUnsafeSegment, hchars, Bool.or_false, Survives]
  simp [and_assoc]

/-- The kind of a library path is a plain word. -/
theorem kept_of_lowercase {segment : String} (h : Str.toAsciiLowercase segment = "sites" ∨
    Str.toAsciiLowercase segment = "teams") : kept segment = segment := by
  rw [← String.toList_inj, kept, String.toList_ofList, List.filter_eq_self]
  intro c hc
  have hlower : ∀ word, Str.toAsciiLowercase segment = word → c.toLower ∈ word.toList := by
    rintro word rfl
    rw [Str.toAsciiLowercase, String.toList_ofList]
    exact List.mem_map_of_mem hc
  have hword : c.toLower ∈ "sites".toList ++ "teams".toList :=
    List.mem_append.mpr (h.imp (hlower "sites") (hlower "teams"))
  rw [Bool.not_eq_true', ← Bool.not_eq_true]
  intro hdropped
  have hcases : c = '\t' ∨ c = '\n' ∨ c = '\r' := by
    simpa [isDropped, or_assoc] using hdropped
  revert hword
  rcases hcases with rfl | rfl | rfl <;> decide

/-- An accepted path: its kind, its site and its library. -/
theorem exists_segments {segments : List String} (h : IsLibraryPath segments) :
    ∃ kind site library, segments = [kind, site, library] ∧ kept kind = kind ∧ kind ≠ "" := by
  obtain ⟨hlength, hkind⟩ := h
  obtain ⟨kind, site, library, rfl⟩ := List.length_eq_three.mp hlength
  simp only [List.head?_cons, Option.map_some, Option.some.injEq] at hkind
  refine ⟨kind, site, library, rfl, kept_of_lowercase hkind, ?_⟩
  rintro rfl
  revert hkind
  decide

theorem survives_kept {segment : String} : Survives (kept segment) ↔ Survives segment := by
  rw [Survives, kept_kept, Survives]

theorem ne_dots_of_safe {segment : String} (h : isUnsafeSegment segment = false) :
    segment ≠ "." ∧ segment ≠ ".." := by
  constructor
  · rintro rfl
    revert h
    decide
  · rintro rfl
    revert h
    decide

/-! ## The canonical path -/

section CanonicalPath

variable {crate} (hcrate : Documented crate)
include hcrate

theorem encode_kept_ne_empty {segment : String} (h : Survives segment) :
    crate.encodeSegment (kept segment) ≠ "" := by
  intro hempty
  rw [encode_eq_empty_iff hcrate] at hempty
  apply h
  rw [hempty]
  exact List.mem_cons_self

theorem canonicalPath_of_survives {segments : List String} (h : ∀ s ∈ segments, Survives s)
    (hne : segments ≠ []) :
    canonicalPath crate segments = segments.map fun s ↦ crate.encodeSegment (kept s) := by
  induction segments using List.reverseRecOn with
  | nil => exact absurd rfl hne
  | append_singleton segments segment ih =>
      have hsegment : Survives segment := h segment (by simp)
      have hinit : ∀ s ∈ segments, Survives s := fun s hs ↦ h s (List.mem_append_left _ hs)
      rw [canonicalPath, List.foldl_append, List.map_append]
      by_cases hnil : segments = []
      · subst hnil
        exact pushPath_root hsegment
      · have hpath := ih hinit hnil
        rw [canonicalPath] at hpath
        rw [hpath]
        refine pushPath_of_survives hsegment ?_
        intro hroot
        obtain ⟨s, hs, hempty⟩ := List.mem_map.mp (hroot ▸ List.mem_singleton_self "" :
          "" ∈ segments.map fun s ↦ crate.encodeSegment (kept s))
        exact encode_kept_ne_empty hcrate (hinit s hs) hempty

theorem canonicalText_of_survives (host : String) {segments : List String} (h : ∀ s ∈ segments, Survives s)
    (hne : segments ≠ []) : canonicalText crate host segments =
      libraryText host (segments.map fun s ↦ crate.encodeSegment (kept s)) := by
  rw [canonicalText, canonicalPath_of_survives hcrate h hne, List.rdropWhile_eq_self_iff.mpr]
  intro hmap hlast
  obtain ⟨s, hs, hsame⟩ := List.mem_map.mp (List.getLast_mem hmap)
  rw [← hsame] at hlast
  exact encode_kept_ne_empty hcrate (h s hs) (eq_of_beq hlast)

theorem mapM_decodedSegment {segments : List String} (h : ∀ s ∈ segments, isUnsafeSegment s = false) :
    (segments.map crate.encodeSegment).mapM (decodedSegment crate) = .ok segments := by
  induction segments with
  | nil => rfl
  | cons s segments ih =>
      have hs := decodedSegment_encode hcrate s
      rw [h s List.mem_cons_self, if_neg Bool.false_ne_true] at hs
      rw [List.map_cons, List.mapM_cons, hs, ih fun t ht ↦ h t (List.mem_cons_of_mem s ht)]
      rfl

/-- An address whose segments survive is read back from its canonical form. -/
theorem parseLibraryUrl_canonicalText {host : String} {segments : List String}
    (hparts : Parts crate host segments) (h : ∀ s ∈ segments, Survives s) :
    parseLibraryUrl crate (canonicalText crate host segments) =
      .ok ⟨canonicalText crate host (segments.take 2), canonicalText crate host segments, ""⟩ := by
  obtain ⟨kind, site, library, rfl, hkind, -⟩ := exists_segments hparts.isPath
  have hkept : ∀ s ∈ [kind, site, library].map kept, Survives s := by
    intro s hs
    obtain ⟨t, ht, rfl⟩ := List.mem_map.mp hs
    exact survives_kept.mpr (h t ht)
  have hsafe : ∀ s ∈ [kind, site, library].map kept, isUnsafeSegment s = false := by
    intro s hs
    obtain ⟨t, ht, rfl⟩ := List.mem_map.mp hs
    exact (isUnsafeSegment_kept (hparts.isSafe t ht)).mpr (h t ht)
  have hpath : ∀ segments : List String, (segments.map fun s ↦ crate.encodeSegment (kept s)) =
      (segments.map kept).map crate.encodeSegment := fun segments ↦ by rw [List.map_map]; rfl
  have hread : libraryParts crate (canonicalText crate host [kind, site, library]) =
      .ok (host, [kind, site, library].map kept) := by
    have hencoded : ∀ s ∈ ([kind, site, library].map kept).map crate.encodeSegment, IsEncoded crate s := by
      intro s hs
      obtain ⟨t, ht, rfl⟩ := List.mem_map.mp hs
      have hdots := ne_dots_of_safe (hsafe t ht)
      exact ⟨t, rfl, hdots.1, hdots.2⟩
    have hlast : (([kind, site, library].map kept).map crate.encodeSegment).getLast? ≠ some "" := by
      intro hempty
      exact encode_kept_ne_empty hcrate (h library (by simp)) (Option.some.inj hempty)
    have hlibrary : IsLibraryPath ([kind, site, library].map kept) := by
      refine ⟨rfl, ?_⟩
      rw [List.map_cons, hkind]
      exact hparts.isPath.2
    rw [canonicalText_of_survives hcrate host h (List.cons_ne_nil _ _), hpath,
      libraryParts_libraryText hcrate hparts.isHost hencoded hlast, mapM_decodedSegment hcrate hsafe]
    exact if_neg (not_not.mpr hlibrary)
  have htake : ∀ s ∈ [kind, site, library].take 2, Survives s := fun s hs ↦ h s (List.mem_of_mem_take hs)
  have htake' : ∀ s ∈ ([kind, site, library].map kept).take 2, Survives s :=
    fun s hs ↦ hkept s (List.mem_of_mem_take hs)
  rw [parseLibraryUrl, hread]
  dsimp only
  rw [canonicalLibrary_eq hcrate hparts.isHost,
    canonicalText_of_survives hcrate host htake' (List.cons_ne_nil _ _),
    canonicalText_of_survives hcrate host hkept (List.cons_ne_nil _ _),
    canonicalText_of_survives hcrate host htake (List.cons_ne_nil _ _),
    canonicalText_of_survives hcrate host h (List.cons_ne_nil _ _)]
  simp only [List.map_cons, List.map_nil, List.take_succ_cons, List.take_zero, kept_kept]

theorem mapM_ne_ok_of_empty {path segments : List String} (h : "" ∈ path) :
    path.mapM (decodedSegment crate) ≠ .ok segments := by
  intro hread
  obtain ⟨decoded, -, hempty⟩ := Result.exists_of_forall₂ (Result.mapM_eq_ok hread) "" h
  have herror := decodedSegment_encode hcrate ""
  rw [hcrate.encodeEmpty, hempty] at herror
  cases herror

/-- A segment that is lost makes the path shorter, or leaves an empty segment in it. -/
theorem canonicalPath_of_lost {segments : List String} (hpath : IsLibraryPath segments)
    (hsafe : ∀ s ∈ segments, isUnsafeSegment s = false) (h : ¬∀ s ∈ segments, Survives s) :
    (canonicalPath crate segments).length ≤ 3 ∧
      ((canonicalPath crate segments).length = 3 → "" ∈ canonicalPath crate segments) := by
  obtain ⟨kind, site, library, rfl, hkind, hne⟩ := exists_segments hpath
  have hfirst : Survives kind := by
    rw [← isUnsafeSegment_kept (hsafe kind (by simp)), hkind]
    exact hsafe kind (by simp)
  have hroot : canonicalPath crate [kind] = [crate.encodeSegment (kept kind)] := pushPath_root hfirst
  have hsite : (pushPath crate.encodeSegment (canonicalPath crate [kind]) site).length ≤ 2 := by
    have hlength := @length_pushPath crate.encodeSegment (canonicalPath crate [kind]) site
    rwa [hroot] at hlength ⊢
  have hlibrary := @length_pushPath crate.encodeSegment
    (pushPath crate.encodeSegment (canonicalPath crate [kind]) site) library
  change (canonicalPath crate [kind, site, library]).length ≤ _ at hlibrary
  refine ⟨by omega, fun hthree ↦ ?_⟩
  change "" ∈ pushPath crate.encodeSegment (pushPath crate.encodeSegment (canonicalPath crate [kind]) site) library
  have hlost : ∀ (path : List String) {s : String}, s ∈ [kind, site, library] → ¬Survives s →
      (pushPath crate.encodeSegment path s).getLast? = some "" := by
    intro path s hs hlost
    obtain ⟨hdot, hdots⟩ := ne_dots_of_safe (hsafe s hs)
    exact getLast?_pushPath hcrate.encodeEmpty path hlost hdot hdots
  by_cases hsurvives : Survives library
  · have hsiteLost : ¬Survives site := by
      intro hsite
      apply h
      simpa using ⟨hfirst, hsite, hsurvives⟩
    have hlast := hlost (canonicalPath crate [kind]) (by simp) hsiteLost
    have hnotRoot : pushPath crate.encodeSegment (canonicalPath crate [kind]) site ≠ [""] := by
      intro hroot'
      have hshort : (canonicalPath crate [kind, site, library]).length = 1 := by
        change (pushPath crate.encodeSegment (pushPath crate.encodeSegment (canonicalPath crate [kind]) site)
          library).length = 1
        rw [hroot', pushPath_root hsurvives]
        rfl
      omega
    rw [pushPath_of_survives hsurvives hnotRoot]
    exact List.mem_append_left _ (List.mem_of_getLast? hlast)
  · exact List.mem_of_getLast? (hlost _ (by simp) hsurvives)

/-- An address with a segment that is lost has a canonical form that is refused. -/
theorem parseLibraryUrl_ne_ok {host : String} {segments : List String} (hparts : Parts crate host segments)
    (h : ¬∀ s ∈ segments, Survives s) (identity : SharePointLibraryIdentity) :
    parseLibraryUrl crate (canonicalText crate host segments) ≠ .ok identity := by
  intro hread
  obtain ⟨hlength, hempty⟩ := canonicalPath_of_lost hcrate hparts.isPath hparts.isSafe h
  obtain ⟨-, hencoded⟩ := isEncoded_canonicalPath hcrate segments
  have htrimmed := List.rdropWhile_prefix isEmptySegment (canonicalPath crate segments)
  have hlast : ((canonicalPath crate segments).rdropWhile isEmptySegment).getLast? ≠ some "" := by
    intro hlast
    have hne : (canonicalPath crate segments).rdropWhile isEmptySegment ≠ [] := by
      intro hnil
      rw [hnil] at hlast
      cases hlast
    apply List.rdropWhile_last_not isEmptySegment _ hne
    rw [List.getLast?_eq_some_getLast hne] at hlast
    rw [Option.some.inj hlast]
    rfl
  obtain ⟨host', segments', hread, -, -⟩ := exists_parts hcrate hread
  rw [canonicalText, libraryParts_libraryText hcrate hparts.isHost
    (fun s hs ↦ hencoded s (htrimmed.subset hs)) hlast] at hread
  split at hread
  · cases hread
  next decoded hdecoded =>
    split_ifs at hread with hlibrary
    have hthree := (Result.mapM_eq_ok hdecoded).length_eq.trans hlibrary.1
    have hle := htrimmed.length_le
    have hsame := htrimmed.eq_of_length_le (by omega)
    rw [hsame] at hthree hdecoded
    exact mapM_ne_ok_of_empty hcrate (hempty hthree) hdecoded

theorem canonicalText_inj {host host' : String} {segments segments' : List String}
    (hparts : Parts crate host segments) (hparts' : Parts crate host' segments')
    (h : ∀ s ∈ segments, Survives s) (h' : ∀ s ∈ segments', Survives s) :
    canonicalText crate host segments = canonicalText crate host' segments' ↔
      host = host' ∧ segments.map kept = segments'.map kept := by
  have hnonempty : ∀ {segments : List String}, IsLibraryPath segments → segments ≠ [] := by
    rintro segments hpath rfl
    exact absurd hpath.1 (by decide)
  have hencoded := (isEncoded_canonicalPath hcrate segments).2
  have hencoded' := (isEncoded_canonicalPath hcrate segments').2
  rw [canonicalPath_of_survives hcrate h (hnonempty hparts.isPath)] at hencoded
  rw [canonicalPath_of_survives hcrate h' (hnonempty hparts'.isPath)] at hencoded'
  rw [canonicalText_of_survives hcrate host h (hnonempty hparts.isPath),
    canonicalText_of_survives hcrate host' h' (hnonempty hparts'.isPath)]
  have hmap : ∀ segments : List String, (segments.map fun s ↦ crate.encodeSegment (kept s)) =
      (segments.map kept).map crate.encodeSegment := fun segments ↦ by rw [List.map_map]; rfl
  constructor
  · intro htext
    obtain ⟨hhost, hpath⟩ := libraryText_injective (slash_notMem hcrate hparts.isHost hencoded)
      (slash_notMem hcrate hparts'.isHost hencoded') htext
    rw [hmap, hmap] at hpath
    exact ⟨hhost, (encode_injective hcrate).list_map hpath⟩
  · rintro ⟨rfl, hkept⟩
    rw [hmap, hmap, hkept]

end CanonicalPath

end CosmicMounter.Library

import CosmicMounter.Microsoft.LibraryUrlCanonical
import CosmicMounter.Microsoft.SharePoint
import CosmicMounter.Text.Percent

/-!
# The identity of a library

When the canonical address of a library identifies it, and that two addresses
name the same library is an equivalence.
-/

namespace CosmicMounter.Library

open Rust

variable (crate : UrlCrate)

/-! ## Identity of libraries -/

/-- Two addresses that are the same but for their query, their fragment and a slash at the end. -/
structure SameResource (url url' : Url) : Prop where
  scheme : url'.scheme = url.scheme
  username : url'.username = url.username
  password : url'.password = url.password
  host : url'.host = url.host
  port : url'.port = url.port
  path : url'.path.map rawSegments = url.path.map rawSegments

theorem rawSegments_append {path : List String} (h : path.getLast? ≠ some "") :
    rawSegments (path ++ [""]) = rawSegments path := by
  rw [rawSegments, rawSegments, if_neg h, if_pos (by simp), List.dropLast_concat]

theorem isSharePoint_congr {url url' : Url} (h : SameResource url url') (host : String) :
    IsSharePoint url' host ↔ IsSharePoint url host := by
  rw [isSharePoint_iff, isSharePoint_iff, h.scheme, h.username, h.password, h.port]

theorem libraryParts_congr {input input' : String} {url url' : Url}
    (hparse : crate.parse (Str.trim input) = some url) (hparse' : crate.parse (Str.trim input') = some url')
    (h : SameResource url url') : libraryParts crate input' = libraryParts crate input := by
  have hpath := h.path
  rw [libraryParts, libraryParts, hparse, hparse']
  dsimp only
  rw [h.host]
  cases url.host with
  | none => rfl
  | some host =>
      dsimp only
      simp only [isSharePoint_congr h]
      cases hfound : url.path with
      | none =>
          rw [hfound, Option.map_none, Option.map_eq_none_iff] at hpath
          rw [hpath]
      | some path =>
          rw [hfound, Option.map_some, Option.map_eq_some_iff] at hpath
          obtain ⟨path', hpath', hraw⟩ := hpath
          rw [hpath']
          dsimp only
          rw [hraw]

section Same

variable {crate} (ext : Externals)

/-- `same_library_url` with these crates. -/
def sameLibraryUrl (crate : UrlCrate) (left right : String) : Bool :=
  Microsoft.sameLibraryUrl (withCrate crate ext) left right

theorem sameLibraryUrl_iff {left right : String} : sameLibraryUrl ext crate left right = true ↔
    ∃ first second, parseLibraryUrl crate left = .ok first ∧ parseLibraryUrl crate right = .ok second ∧
      Str.toAsciiLowercase first.libraryUrl = Str.toAsciiLowercase second.libraryUrl := by
  rw [sameLibraryUrl, Microsoft.sameLibraryUrl, withCrate]
  dsimp only
  cases hleft : parseLibraryUrl crate left with
  | error _ => simp
  | ok first =>
      cases hright : parseLibraryUrl crate right with
      | error _ => simp
      | ok second => simp

/-- A canonical address stands for its library exactly where no segment is lost, and no two paths
differ in dropped characters alone; whether two addresses name one library is an equivalence, and
does not depend on a query, a fragment or a slash at the end. -/
theorem canonical_iff (crate : UrlCrate) (hcrate : Documented crate) (ext : Externals) :
    (∀ a b i j, parseLibraryUrl crate a = .ok i → parseLibraryUrl crate b = .ok j →
      ∃ host segments host' segments', libraryParts crate a = .ok (host, segments) ∧
        libraryParts crate b = .ok (host', segments') ∧
        ((parseLibraryUrl crate i.libraryUrl = .ok i ∧ parseLibraryUrl crate j.libraryUrl = .ok j ∧
            (i.libraryUrl = j.libraryUrl ↔ host = host' ∧ segments = segments')) ↔
          (∀ s ∈ segments ++ segments', Survives s) ∧
            (host = host' → segments.map kept = segments'.map kept → segments = segments'))) ∧
    (∀ a i, parseLibraryUrl crate a = .ok i → sameLibraryUrl ext crate a a = true) ∧
    (∀ a b, sameLibraryUrl ext crate a b = true → sameLibraryUrl ext crate b a = true) ∧
    (∀ a b c, sameLibraryUrl ext crate a b = true → sameLibraryUrl ext crate b c = true →
      sameLibraryUrl ext crate a c = true) ∧
    ∀ a a' url url', crate.parse (Str.trim a) = some url → crate.parse (Str.trim a') = some url' →
      SameResource url url' → ∀ b, sameLibraryUrl ext crate a' b = sameLibraryUrl ext crate a b := by
  refine ⟨?_, ?_, ?_, ?_, ?_⟩
  · intro a b i j ha hb
    obtain ⟨host, segments, hread, hparts, rfl⟩ := exists_parts hcrate ha
    obtain ⟨host', segments', hread', hparts', rfl⟩ := exists_parts hcrate hb
    refine ⟨host, segments, host', segments', hread, hread', ?_⟩
    by_cases hsurvive : (∀ s ∈ segments, Survives s) ∧ ∀ s ∈ segments', Survives s
    · obtain ⟨h, h'⟩ := hsurvive
      rw [parseLibraryUrl_canonicalText hcrate hparts h, parseLibraryUrl_canonicalText hcrate hparts' h',
        canonicalText_inj hcrate hparts hparts' h h']
      simp only [true_and, List.forall_mem_append, and_iff_right h, and_iff_right h']
      constructor
      · intro hsame hhost hkept
        exact (hsame.mp ⟨hhost, hkept⟩).2
      · intro hsame
        constructor
        · rintro ⟨hhost, hkept⟩
          exact ⟨hhost, hsame hhost hkept⟩
        · rintro ⟨hhost, hsegments⟩
          exact ⟨hhost, by rw [hsegments]⟩
    · refine iff_of_false ?_ ?_
      · rintro ⟨hagain, hagain', -⟩
        rcases not_and_or.mp hsurvive with hlost | hlost
        · exact parseLibraryUrl_ne_ok hcrate hparts hlost _ hagain
        · exact parseLibraryUrl_ne_ok hcrate hparts' hlost _ hagain'
      · rintro ⟨hall, -⟩
        exact hsurvive (List.forall_mem_append.mp hall)
  · intro a i ha
    exact (sameLibraryUrl_iff ext).mpr ⟨i, i, ha, ha, rfl⟩
  · intro a b h
    obtain ⟨i, j, ha, hb, hsame⟩ := (sameLibraryUrl_iff ext).mp h
    exact (sameLibraryUrl_iff ext).mpr ⟨j, i, hb, ha, hsame.symm⟩
  · intro a b c hab hbc
    obtain ⟨i, j, ha, hb, hsame⟩ := (sameLibraryUrl_iff ext).mp hab
    obtain ⟨j', k, hb', hc, hsame'⟩ := (sameLibraryUrl_iff ext).mp hbc
    rw [hb] at hb'
    obtain rfl := Except.ok.inj hb'
    exact (sameLibraryUrl_iff ext).mpr ⟨i, k, ha, hc, hsame.trans hsame'⟩
  · intro a a' url url' hparse hparse' hsame b
    have hcongr : parseLibraryUrl crate a' = parseLibraryUrl crate a := by
      rw [parseLibraryUrl, parseLibraryUrl, libraryParts_congr crate hparse hparse' hsame]
    rw [Bool.eq_iff_iff, sameLibraryUrl_iff, sameLibraryUrl_iff, hcongr]

end Same

/-! ## Addresses of one host -/

def plainHost : String := "example.sharepoint.com"

def isPlainSegment (segment : String) : Bool :=
  segment != "." && segment != ".." && segment.toList.all fun c ↦ Percent.isUnreserved c || c == '%'

def plainParse (s : String) : Option Url :=
  match Str.split '/' s with
  | "https:" :: "" :: host :: path =>
      if host = plainHost ∧ path.all isPlainSegment = true then
        some (siteUrl host (if path = [] then [""] else path))
      else none
  | _ => none

/-- The crates on the addresses of one host that are written as they are stored. -/
def plainCrate : UrlCrate where
  parse := plainParse
  extend url segments :=
    match url.host, url.path with
    | some host, some path =>
        some (siteUrl host (segments.foldl (pushPath fun s ↦ .ofList (Percent.encode s.toList)) path))
    | _, _ => none
  encodeSegment s := .ofList (Percent.encode s.toList)
  percentDecode s := (Percent.decode s.toList).map .ofList

theorem isHost_plainCrate {host : String} (h : IsHost plainCrate host) : host = plainHost := by
  obtain ⟨input, url, hparse, hhost, -⟩ := h
  change plainParse input = some url at hparse
  unfold plainParse at hparse
  split at hparse
  · next found path _ =>
      rcases ite_eq_iff.mp hparse with ⟨hplain, hurl⟩ | ⟨-, hurl⟩
      · rw [← Option.some.inj hurl] at hhost
        rw [← Option.some.inj hhost]
        exact hplain.1
      · cases hurl
  · cases hparse

theorem plain_char {c : Char} (h : Percent.isUnreserved c = true ∨ c = '%') :
    c ≠ '/' ∧ Str.isWhitespace c = false := by
  rcases h with hunreserved | rfl
  · obtain ⟨hlow, hhigh, hslash⟩ := Percent.toNat_of_isUnreserved hunreserved
    constructor
    · rintro rfl
      exact hslash rfl
    · simp only [Str.isWhitespace, List.mem_cons, List.not_mem_nil, or_false, Bool.or_eq_false_iff,
        Bool.and_eq_false_iff, decide_eq_false_iff_not]
      omega
  · decide

theorem isWellEscaped_encode (text : List Char) : isWellEscaped (Percent.encode text) = true := by
  have hdigit : ∀ n < 16, isAsciiHexdigit (Percent.hexDigit n) = true ∧ Percent.hexDigit n ≠ '%' := by
    decide
  induction text with
  | nil => rfl
  | cons c text ih =>
      rw [Percent.encode_cons, Percent.encodeChar]
      split_ifs with hunreserved
      · have hpercent : c ≠ '%' := by
          rintro rfl
          revert hunreserved
          decide
        rw [List.singleton_append, isWellEscaped, ih, bne_iff_ne.mpr hpercent]
        rfl
      · generalize String.utf8EncodeChar c = bytes
        induction bytes with
        | nil => exact ih
        | cons byte bytes ihbytes =>
            have hbyte := byte.toNat_lt
            obtain ⟨hhigh, hhigh'⟩ := hdigit (byte.toNat / 16) (by omega)
            obtain ⟨hlow, hlow'⟩ := hdigit (byte.toNat % 16) (by omega)
            rw [List.flatMap_cons, List.append_assoc, Percent.encodeByte]
            simp [isWellEscaped, hhigh, hlow, hhigh', hlow', ihbytes]

theorem split_libraryText {host : String} {path : List String} (hhost : '/' ∉ host.toList)
    (hpath : ∀ s ∈ path, '/' ∉ s.toList) :
    Str.split '/' (libraryText host path) = "https:" :: "" :: host :: path := by
  have hparts : ∀ s ∈ "https:" :: "" :: host :: path, '/' ∉ s.toList := by
    simp only [List.forall_mem_cons]
    exact ⟨by decide, by decide, hhost, hpath⟩
  have hsplit := Str.split_join hparts (List.cons_ne_nil _ _)
  have htext : libraryText host path = Str.join ('/').toString ("https:" :: "" :: host :: path) := by
    rw [← String.toList_inj, libraryText, Str.join, Str.join]
    simp
  rw [htext, hsplit]

theorem isPlainSegment_of_isEncoded {segment : String} (h : IsEncoded plainCrate segment) :
    isPlainSegment segment = true ∧ '/' ∉ segment.toList := by
  obtain ⟨decoded, rfl, hdot, hdots⟩ := h
  have hinj : ∀ s : String, plainCrate.encodeSegment decoded = plainCrate.encodeSegment s → decoded = s := by
    intro s hsame
    have hlists := congrArg String.toList hsame
    change (String.ofList (Percent.encode _)).toList = (String.ofList (Percent.encode _)).toList at hlists
    rw [String.toList_ofList, String.toList_ofList] at hlists
    have hdecode := congrArg Percent.decode hlists
    rw [Percent.decode_encode, Percent.decode_encode] at hdecode
    exact String.toList_inj.mp (Option.some.inj hdecode)
  have hchars : ∀ c ∈ (plainCrate.encodeSegment decoded).toList, Percent.isUnreserved c = true ∨ c = '%' := by
    intro c hc
    change c ∈ (String.ofList (Percent.encode _)).toList at hc
    rw [String.toList_ofList] at hc
    exact Percent.mem_encode hc
  constructor
  · simp only [isPlainSegment, Bool.and_eq_true, bne_iff_ne, List.all_eq_true, Bool.or_eq_true, beq_iff_eq]
    exact ⟨⟨fun hsame ↦ hdot (hinj "." hsame), fun hsame ↦ hdots (hinj ".." hsame)⟩, hchars⟩
  · exact fun hmem ↦ (plain_char (hchars _ hmem)).1 rfl

theorem plainHost_plain : ∀ c ∈ plainHost.toList, c ≠ '/' ∧ Str.isWhitespace c = false := by
  have hall : plainHost.toList.all (fun c ↦ c != '/' && !Str.isWhitespace c) = true := by rfl
  simpa using List.all_eq_true.mp hall

theorem plainParse_libraryText {path : List String} (hpath : ∀ s ∈ path, IsEncoded plainCrate s) :
    plainParse (libraryText plainHost path) =
      some (siteUrl plainHost (if path = [] then [""] else path)) := by
  have hslash : '/' ∉ plainHost.toList := fun hmem ↦ (plainHost_plain _ hmem).1 rfl
  rw [plainParse, split_libraryText hslash fun s hs ↦ (isPlainSegment_of_isEncoded (hpath s hs)).2]
  refine if_pos ⟨rfl, ?_⟩
  rw [List.all_eq_true]
  exact fun s hs ↦ (isPlainSegment_of_isEncoded (hpath s hs)).1

theorem documented_plainCrate : Documented plainCrate where
  hostAgain host hhost := by
    rw [isHost_plainCrate hhost]
    have hparse := @plainParse_libraryText [] fun s hs ↦ absurd hs List.not_mem_nil
    rwa [libraryText, Str.join_singleton] at hparse
  hostPlain host hhost := by
    rw [isHost_plainCrate hhost]
    exact plainHost_plain
  extendSite _ _ _ _ _ _ := rfl
  parseSite host path hhost hne hpath := by
    rw [isHost_plainCrate hhost]
    have hparse := plainParse_libraryText hpath
    rwa [if_neg hne] at hparse
  encodeEmpty := rfl
  encodePlain decoded c hc := by
    change c ∈ (String.ofList (Percent.encode _)).toList at hc
    rw [String.toList_ofList] at hc
    exact plain_char (Percent.mem_encode hc)
  encodeEscapes decoded := by
    change isWellEscaped (String.ofList (Percent.encode _)).toList = true
    rw [String.toList_ofList]
    exact isWellEscaped_encode _
  decodeEncode decoded := by
    simp only [plainCrate, String.toList_ofList, Percent.decode_encode, Option.map_some, String.ofList_toList]

def sampleAddress (library : String) : String := "https://example.sharepoint.com/sites/A/" ++ library

def sampleIdentity : SharePointLibraryIdentity :=
  ⟨"https://example.sharepoint.com/sites/A", sampleAddress "Lx", ""⟩

theorem sample_accepted : parseLibraryUrl plainCrate (sampleAddress "Lx") = .ok sampleIdentity ∧
    plainCrate.parse (Str.trim (sampleAddress "Lx")) = some (siteUrl plainHost ["sites", "A", "Lx"]) ∧
    plainCrate.parse (Str.trim (sampleAddress "Lx/")) = some (siteUrl plainHost ["sites", "A", "Lx", ""]) := by
  decide +kernel

/-- A plain library is read back, and found again behind a slash. -/
theorem canonical_iff_sample :
    parseLibraryUrl plainCrate sampleIdentity.libraryUrl = .ok sampleIdentity ∧
      sameLibraryUrl sampleExternals plainCrate (sampleAddress "Lx/") (sampleAddress "Lx") = true := by
  obtain ⟨hparse, hurl, hslash⟩ := sample_accepted
  obtain ⟨hcanonical, hrefl, -, -, hinvariant⟩ := canonical_iff plainCrate documented_plainCrate sampleExternals
  constructor
  · obtain ⟨host, segments, host', segments', hread, hread', hiff⟩ := hcanonical _ _ _ _ hparse hparse
    have hsame : (host, segments) = (host', segments') := Except.ok.inj (hread.symm.trans hread')
    have hparts : libraryParts plainCrate (sampleAddress "Lx") = .ok (plainHost, ["sites", "A", "Lx"]) := by
      decide +kernel
    obtain ⟨rfl, rfl⟩ := Prod.mk.inj (Except.ok.inj (hparts.symm.trans hread))
    obtain ⟨rfl, rfl⟩ := Prod.mk.inj hsame
    exact (hiff.mpr ⟨by decide +kernel, fun _ _ ↦ rfl⟩).1
  · rw [hinvariant _ _ _ _ hurl hslash ⟨rfl, rfl, rfl, rfl, rfl, congrArg some (@rawSegments_append ["sites", "A", "Lx"] (by decide))⟩]
    exact hrefl _ _ hparse

/-- A library with a tab in its name is taken for another one, and one whose name is a newline
cannot be read back. -/
theorem tab_is_dropped :
    (parseLibraryUrl plainCrate (sampleAddress "L%09x") = .ok sampleIdentity ∧
      parseLibraryUrl plainCrate (sampleAddress "Lx") = .ok sampleIdentity ∧
      libraryParts plainCrate (sampleAddress "L%09x") = .ok (plainHost, ["sites", "A", "L\tx"]) ∧
      libraryParts plainCrate (sampleAddress "Lx") = .ok (plainHost, ["sites", "A", "Lx"])) ∧
    parseLibraryUrl plainCrate (sampleAddress "%0A") = .ok
      ⟨"https://example.sharepoint.com/sites/A", "https://example.sharepoint.com/sites/A", ""⟩ ∧
    parseLibraryUrl plainCrate "https://example.sharepoint.com/sites/A" =
      .error ⟨"ui-teams-enter-a-library-url-under-sites-site", []⟩ := by
  decide +kernel

end CosmicMounter.Library

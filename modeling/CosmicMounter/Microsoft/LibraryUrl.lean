import CosmicMounter.Sync.Binding

/-!
# Library addresses

`parse_library_url` of `sharepoint.rs`: the address of a document library is
taken apart by the `url` crate, and put together again from its host and its
decoded segments.
-/

namespace CosmicMounter.Library

open Rust

/-- A parsed address; `path` holds its segments, where it has some. -/
structure Url where
  scheme : String
  username : String
  password : Option String
  host : Option String
  port : Option Nat
  path : Option (List String)
  query : Option String
  fragment : Option String
  text : String
  deriving DecidableEq, Repr

/-- The crates `url` and `percent-encoding`. -/
structure UrlCrate where
  parse : String → Option Url
  /-- `path_segments_mut` and then `extend`, of which `push` is a special case. -/
  extend : Url → List String → Option Url
  encodeSegment : String → String
  /-- `percent_decode_str` and then `decode_utf8`. -/
  percentDecode : String → Option String

variable (crate : UrlCrate)

/-! ## Segments -/

def isAsciiHexdigit (c : Char) : Bool :=
  c.isDigit || ('a' ≤ c && c ≤ 'f') || ('A' ≤ c && c ≤ 'F')

/-- After every percent sign stand two hexadecimal digits. -/
def isWellEscaped : List Char → Bool
  | [] => true
  | c :: rest =>
      (c != '%' || ((rest.take 2).length == 2 && (rest.take 2).all isAsciiHexdigit)) && isWellEscaped rest

def isUnsafeSegment (decoded : String) : Bool :=
  decoded == "" || decoded == "." || decoded == ".." ||
    decoded.toList.any fun c ↦ c == '/' || c == '\\' || c == '\x00'

def decodedSegment (segment : String) : Except Message String :=
  if !isWellEscaped segment.toList then
    .error ⟨"ui-teams-sharepoint-url-has-invalid-percent-encoding", []⟩
  else match crate.percentDecode segment with
    | none => .error ⟨"ui-teams-sharepoint-url-has-invalid-percent-encoding", []⟩
    | some decoded =>
        if isUnsafeSegment decoded then
          .error ⟨"ui-teams-sharepoint-url-contains-an-unsafe-path-segment", []⟩
        else .ok decoded

/-! ## Addresses -/

/-- The addresses that may name a library, by everything but their path. -/
structure IsSharePoint (url : Url) (host : String) : Prop where
  scheme : url.scheme = "https"
  host : Str.endsWith ".sharepoint.com" host = true ∨ host = "sharepoint.com"
  username : url.username = ""
  password : url.password = none
  port : url.port = none

theorem isSharePoint_iff {url : Url} {host : String} : IsSharePoint url host ↔
    url.scheme = "https" ∧ (Str.endsWith ".sharepoint.com" host = true ∨ host = "sharepoint.com") ∧
      url.username = "" ∧ url.password = none ∧ url.port = none :=
  ⟨fun ⟨hscheme, hhost, huser, hpassword, hport⟩ ↦ ⟨hscheme, hhost, huser, hpassword, hport⟩,
    fun ⟨hscheme, hhost, huser, hpassword, hport⟩ ↦ ⟨hscheme, hhost, huser, hpassword, hport⟩⟩

instance (url : Url) (host : String) : Decidable (IsSharePoint url host) :=
  decidable_of_iff _ isSharePoint_iff.symm

/-- The segments, without the empty one after a slash at the end. -/
def rawSegments (path : List String) : List String :=
  if path.getLast? = some "" then path.dropLast else path

/-- A site or a team, and a library in it. -/
def IsLibraryPath (segments : List String) : Prop :=
  segments.length = 3 ∧ (segments.head?.map Str.toAsciiLowercase = some "sites" ∨
    segments.head?.map Str.toAsciiLowercase = some "teams")

instance (segments : List String) : Decidable (IsLibraryPath segments) := instDecidableAnd

/-- The host and the decoded segments of an address that is accepted. -/
def libraryParts (input : String) : Except Message (String × List String) :=
  match crate.parse (Str.trim input) with
  | none => .error ⟨"ui-teams-enter-a-sharepoint-library-url", []⟩
  | some url =>
      match url.host with
      | none => .error ⟨"ui-teams-sharepoint-url-needs-a-hostname", []⟩
      | some host =>
          if ¬IsSharePoint url host then
            .error ⟨"ui-teams-use-an-https-sharepoint-library-url-without", []⟩
          else match url.path with
            | none => .error ⟨"ui-teams-sharepoint-url-needs-a-site-and-library", []⟩
            | some path =>
                match (rawSegments path).mapM (decodedSegment crate) with
                | .error message => .error message
                | .ok segments =>
                    if ¬IsLibraryPath segments then
                      .error ⟨"ui-teams-enter-a-library-url-under-sites-site", []⟩
                    else .ok (host, segments)

def canonicalLibrary (host : String) (segments : List String) :
    Except Message SharePointLibraryIdentity :=
  match crate.parse ("https://" ++ host) with
  | none => .error ⟨"ui-teams-sharepoint-url-has-an-invalid-host", []⟩
  | some canonical =>
      match crate.extend canonical (segments.take 2) with
      | none => .error ⟨"ui-teams-sharepoint-url-has-an-invalid-path", []⟩
      | some site =>
          match crate.extend site (segments.drop 2) with
          | none => .error ⟨"ui-teams-sharepoint-url-has-an-invalid-path", []⟩
          | some library =>
              .ok
                { siteUrl := Str.trimEndMatches '/' site.text
                  libraryUrl := Str.trimEndMatches '/' library.text
                  driveId := "" }

def parseLibraryUrl (input : String) : Except Message SharePointLibraryIdentity :=
  match libraryParts crate input with
  | .error message => .error message
  | .ok (host, segments) => canonicalLibrary crate host segments

/-- The program with this reading of library addresses. -/
def withCrate (ext : Externals) : Externals := { ext with parseLibraryUrl := parseLibraryUrl crate }

end CosmicMounter.Library

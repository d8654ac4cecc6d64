import CosmicMounter.Services.Unit

/-!
# The structural unit validator

`StructuralUnitValidator` accepts exactly the shape of unit the applet writes.
A validated unit is recognised as owned by the connection in its name.
-/

namespace CosmicMounter

open Rust

namespace StructuralUnitValidator

/-- What the loop over the lines has seen: the current section, every section
opened so far and every directive, in order. -/
structure Scan where
  current : Option String := none
  sections : List String := []
  directives : List ((String × String) × String) := []
  deriving Repr

def Scan.values (scan : Scan) (inSection key : String) : List String :=
  (scan.directives.filter (·.1 == (inSection, key))).map (·.2)

def allowedSections : UnitKind → List String
  | .service => ["Unit", "Service", "Install"]
  | .timer => ["Unit", "Timer", "Install"]

def allowedKeys (inSection : String) : List String :=
  match inSection with
  | "Unit" => ["Description"]
  | "Service" => ["Type", "RuntimeDirectory", "SuccessExitStatus", "ExecCondition", "ExecStart",
      "Restart", "RestartSec"]
  | "Timer" => ["OnActiveSec", "OnUnitInactiveSec", "Persistent", "Unit"]
  | "Install" => ["WantedBy"]
  | _ => []

def reject (key : String) (arguments : List (String × String)) {α : Type} :
    Except ServiceError α := .error (.validation ⟨key, arguments⟩)

def require (key : String) (arguments : List (String × String)) (holds : Bool) :
    Except ServiceError Unit := if holds then .ok () else reject key arguments

/-- The name in `[name]`. -/
def sectionHeader (line : String) : Option String :=
  (Str.stripPrefix "[" line).bind (Str.stripSuffix "]")

def openSection (kind : UnitKind) (scan : Scan) (name : String) : Except ServiceError Scan := do
  require "ui-services-generated-unit-contains-unsupported-name-section" [("name", name)]
    (name ∈ allowedSections kind)
  require "ui-services-generated-unit-repeats-name-section" [("name", name)]
    (name ∉ scan.sections)
  return { scan with current := some name, sections := scan.sections ++ [name] }

def addDirective (scan : Scan) (line : String) : Except ServiceError Scan :=
  match scan.current, Str.splitOnce '=' line with
  | none, _ => reject "ui-services-unit-directive-appears-outside-a-section" []
  | some _, none => reject "ui-services-generated-unit-contains-a-malformed-directive" []
  | some current, some (key, value) => do
      require "ui-services-generated-unit-contains-unsupported-or-empty-current"
        [("current", current), ("key", key)] (key ∈ allowedKeys current && value != "")
      return { scan with directives := scan.directives ++ [((current, key), value)] }

def scanLine (kind : UnitKind) (scan : Scan) (line : String) : Except ServiceError Scan := do
  require "ui-services-generated-unit-repeats-ownership-markers" []
    (line != managedMarker && !Str.startsWith uuidMarker line)
  if line = "" ∨ Str.startsWith "#" line then
    return scan
  else
    match sectionHeader line with
    | some name => openSection kind scan name
    | none => addDirective scan line

/-- The value of a directive that must occur exactly once. -/
def one (scan : Scan) (inSection key : String) : Except ServiceError String :=
  match scan.values inSection key with
  | [value] => .ok value
  | _ => reject "ui-services-generated-unit-requires-exactly-one-section-key"
      [("section", inSection), ("key", key)]

def checkSections (kind : UnitKind) (scan : Scan) : Except ServiceError Unit :=
  (allowedSections kind).forM fun expected ↦
    require "ui-services-generated-unit-lacks-expected-section" [("expected", expected)]
      (expected ∈ scan.sections)

def checkService (scan : Scan) : Except ServiceError Unit := do
  let fixed := require "ui-services-generated-service-has-invalid-fixed-directives" []
  fixed ((← one scan "Service" "Type") == "simple")
  fixed ((← one scan "Service" "RuntimeDirectory") == "cosmic-ext-applet-mounter")
  fixed ((← one scan "Service" "SuccessExitStatus") == "130 143")
  fixed (Str.startsWith "\"/" (← one scan "Service" "ExecStart"))
  fixed ((← one scan "Install" "WantedBy") == "default.target")
  let restart := (scan.values "Service" "Restart", scan.values "Service" "RestartSec")
  require "ui-services-generated-service-has-inconsistent-restart-policy" []
    (restart == ([], []) || restart == (["on-failure"], ["5s"]))

def checkInterval (scan : Scan) (key : String) : Except ServiceError Unit := do
  let value ← one scan "Timer" key
  require "ui-services-generated-timer-has-invalid-key" [("key", key)]
    (((Str.stripSuffix "s" value).bind Str.parseU64).any (0 < ·))

def checkTimer (id : ConnectionId) (scan : Scan) : Except ServiceError Unit := do
  checkInterval scan "OnActiveSec"
  checkInterval scan "OnUnitInactiveSec"
  let fixed := require "ui-services-generated-timer-has-invalid-fixed-directives" []
  fixed ((← one scan "Timer" "Unit") == UnitName.fileName ⟨id, .service⟩)
  fixed ((← one scan "Timer" "Persistent") ∈ ["true", "false"])
  fixed ((← one scan "Install" "WantedBy") == "timers.target")

/-- The ownership markers must be the first two lines. -/
def checkMarkers (document : UnitDocument) : Except ServiceError (List String) :=
  match Str.lines document.content with
  | first :: second :: rest =>
      if first = managedMarker ∧ second = uuidMarker ++ document.name.connectionId.text then
        .ok rest
      else reject "ui-services-generated-unit-has-invalid-ownership-markers" []
  | _ => reject "ui-services-generated-unit-has-invalid-ownership-markers" []

def checkBody (name : UnitName) (scan : Scan) : Except ServiceError Unit := do
  checkSections name.kind scan
  let description ← one scan "Unit" "Description"
  require "ui-services-generated-unit-description-contains-control-characters" []
    (!description.toList.any Str.isControl)
  match name.kind with
  | .service => checkService scan
  | .timer => checkTimer name.connectionId scan

def validate (document : UnitDocument) : Except ServiceError Unit := do
  let lines ← checkMarkers document
  require "ui-services-generated-unit-contains-unsafe-control-characters" []
    (!document.content.toList.any fun c ↦ c == '\x00' || c == '\r')
  let scan ← lines.foldlM (scanLine document.name.kind) {}
  checkBody document.name scan

theorem lines_of_checkMarkers {document : UnitDocument} {rest : List String}
    (h : checkMarkers document = .ok rest) :
    Str.lines document.content =
      managedMarker :: (uuidMarker ++ document.name.connectionId.text) :: rest := by
  unfold checkMarkers at h
  split at h
  · rename_i first second rest' hlines
    split_ifs at h with hmarkers
    · obtain ⟨rfl, rfl⟩ := hmarkers
      cases h
      exact hlines
    · cases h
  · cases h

/-- Only the two leading markers matter to the ownership scan. -/
theorem parseOwnedConnection_of_lines (uuid : UuidParser) {content : String} {id : ConnectionId}
    {rest : List String}
    (h : Str.lines content = managedMarker :: (uuidMarker ++ id.text) :: rest) :
    parseOwnedConnection uuid content = some id := by
  have hmarker : Str.stripPrefix uuidMarker managedMarker = none := by decide
  simp [parseOwnedConnection, h, hmarker, uuid.parse_text]

theorem owned_of_validate (uuid : UuidParser) {document : UnitDocument}
    (h : validate document = .ok ()) :
    parseOwnedConnection uuid document.content = some document.name.connectionId := by
  unfold validate at h
  cases hmarkers : checkMarkers document with
  | error e => simp [hmarkers, bind, Except.bind] at h
  | ok rest => exact parseOwnedConnection_of_lines uuid (lines_of_checkMarkers hmarkers)

theorem validate_eq_ok {document : UnitDocument} {rest : List String}
    (hlines : Str.lines document.content =
      managedMarker :: (uuidMarker ++ document.name.connectionId.text) :: rest)
    (hcharacters : (document.content.toList.any fun c ↦ c == '\x00' || c == '\r') = false)
    (hbody : (rest.foldlM (scanLine document.name.kind) {}).bind (checkBody document.name) =
      .ok ()) : validate document = .ok () := by
  have hmarkers : checkMarkers document = .ok rest := by
    rw [checkMarkers, hlines]
    exact if_pos ⟨rfl, rfl⟩
  simpa [validate, hmarkers, hcharacters, require, bind, Except.bind] using hbody

/-- A timer as the applet renders it, after its markers. -/
def sampleTimerLines : List String :=
  ["", "[Unit]", "Description=Mirror", "", "[Timer]", "OnActiveSec=900s", "OnUnitInactiveSec=900s",
    "Persistent=true", "Unit=cosmic-mounter-6f1c2d3e-0a1b-4c2d-8e3f-0123456789ab.service", "",
    "[Install]", "WantedBy=timers.target"]

def sampleTimer : UnitDocument where
  name := ⟨sampleId, .timer⟩
  content := Str.unlines (managedMarker :: (uuidMarker ++ sampleId.text) :: sampleTimerLines)

theorem validate_sampleTimer : validate sampleTimer = .ok () := by
  refine validate_eq_ok (Str.lines_unlines (by decide +kernel)) ?_ ?_
  · rw [sampleTimer, Str.toList_unlines]
    decide +kernel
  · decide +kernel

end StructuralUnitValidator
end CosmicMounter

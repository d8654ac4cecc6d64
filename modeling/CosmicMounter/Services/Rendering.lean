import CosmicMounter.Services.CommandLine
import CosmicMounter.Services.Validator

/-!
# Rendered documents under the validator

A rendered document is a list of sections, and the scan of the validator reads
back the sections and the directives that were written.  What the validator
then refuses is a carriage return in a command, and an interval under a second.
-/

namespace CosmicMounter

open Rust Systemd

namespace StructuralUnitValidator

/-! ## Scanning sections -/

/-- A section of a unit: its name and its directives, in order. -/
structure UnitSection where
  name : String
  directives : List (String × String)

namespace UnitSection

def lines (part : UnitSection) : List String :=
  "" :: ("[" ++ part.name ++ "]") :: part.directives.map fun (key, value) ↦ key ++ "=" ++ value

def scanned (part : UnitSection) : List ((String × String) × String) :=
  part.directives.map fun (key, value) ↦ ((part.name, key), value)

/-- The section and its keys are known, and every key has a value of one line. -/
structure Fits (kind : UnitKind) (part : UnitSection) : Prop where
  allowed : part.name ∈ allowedSections kind
  directives : ∀ directive ∈ part.directives,
    directive.1 ∈ allowedKeys part.name ∧ directive.2 ≠ ""
  isLine : ∀ directive ∈ part.directives, Str.IsLine directive.2

end UnitSection

theorem isKey_of_allowed {inSection key : String} (h : key ∈ allowedKeys inSection) :
    IsKey key.toList ∧ ∀ c ∈ key.toList, Str.isControl c = false := by
  have hkeys : ∀ key ∈ ["Description", "Type", "RuntimeDirectory", "SuccessExitStatus",
      "ExecCondition", "ExecStart", "Restart", "RestartSec", "OnActiveSec", "OnUnitInactiveSec",
      "Persistent", "Unit", "WantedBy"],
      (key.toList ≠ [] ∧ '=' ∉ key.toList ∧ key.toList.head? ≠ some '#' ∧
        key.toList.head? ≠ some ';' ∧ key.toList.head? ≠ some '[') ∧
        key.toList.any Str.isControl = false := by
    decide
  have hmem : key ∈ ["Description", "Type", "RuntimeDirectory", "SuccessExitStatus",
      "ExecCondition", "ExecStart", "Restart", "RestartSec", "OnActiveSec", "OnUnitInactiveSec",
      "Persistent", "Unit", "WantedBy"] := by
    unfold allowedKeys at h
    split at h
    all_goals simp only [List.mem_cons, List.not_mem_nil, or_false] at h ⊢
    all_goals tauto
  obtain ⟨⟨hempty, hequals, hheader⟩, hcontrol⟩ := hkeys key hmem
  exact ⟨⟨hempty, hequals, hheader⟩, by simpa using hcontrol⟩

theorem isName_of_allowed {kind : UnitKind} {name : String} (h : name ∈ allowedSections kind) :
    sectionHeader ("[" ++ name ++ "]") = some name ∧ Str.IsLine ("[" ++ name ++ "]") ∧
      ∀ c ∈ ("[" ++ name ++ "]").toList, Str.isControl c = false := by
  have hnames : ∀ name ∈ ["Unit", "Service", "Timer", "Install"],
      sectionHeader ("[" ++ name ++ "]") = some name ∧ Str.IsLine ("[" ++ name ++ "]") ∧
        ("[" ++ name ++ "]").toList.any Str.isControl = false := by
    decide +kernel
  have hmem : name ∈ ["Unit", "Service", "Timer", "Install"] := by
    cases kind
    all_goals simp only [allowedSections, List.mem_cons, List.not_mem_nil, or_false] at h ⊢
    all_goals tauto
  obtain ⟨hheader, hline, hcontrol⟩ := hnames name hmem
  exact ⟨hheader, hline, by simpa only [List.any_eq_false, Bool.not_eq_true] using hcontrol⟩

variable {kind : UnitKind} {scan : Scan}

theorem scanLine_empty : scanLine kind scan "" = .ok scan := by
  have hmarker : ("" != managedMarker && !Str.startsWith uuidMarker "") = true := by
    decide +kernel
  simp [scanLine, require, hmarker, bind, Except.bind, pure, Except.pure]

theorem startsWith_of_head {p s : String} {c d : Char} (hp : p.toList.head? = some c)
    (hs : s.toList.head? = some d) (hne : c ≠ d) : Str.startsWith p s = false := by
  rw [← Bool.not_eq_true, Str.startsWith_iff]
  rintro ⟨rest, hrest⟩
  have hhead : s.toList.head? = some c := by simp [← hrest, hp]
  simp [hs] at hhead
  exact hne hhead.symm

/-- A line that opens with neither of the two markers nor as a comment. -/
theorem scanLine_of_head {line : String} {c : Char} (hhead : line.toList.head? = some c)
    (hc : c ≠ '#') :
    scanLine kind scan line = match sectionHeader line with
      | some name => openSection kind scan name
      | none => addDirective scan line := by
  have hmarker : line ≠ managedMarker := by
    rintro rfl
    rw [show managedMarker.toList.head? = some '#' by decide +kernel] at hhead
    exact hc (Option.some.inj hhead).symm
  have huuid : Str.startsWith uuidMarker line = false :=
    startsWith_of_head (by decide +kernel) hhead hc.symm
  have hcomment : Str.startsWith "#" line = false :=
    startsWith_of_head (by decide +kernel) hhead hc.symm
  have hempty : line ≠ "" := by
    rintro rfl
    simp at hhead
  have hrequire : require "ui-services-generated-unit-repeats-ownership-markers" []
      (line != managedMarker && !Str.startsWith uuidMarker line) = .ok () :=
    if_pos (by simp [hmarker, huuid])
  rewrite [scanLine, hrequire, Rust.Result.ok_bind, if_neg (by simp [hempty, hcomment])]
  rfl

theorem scanLine_header {name : String} (hallowed : name ∈ allowedSections kind)
    (hnew : name ∉ scan.sections) :
    scanLine kind scan ("[" ++ name ++ "]") =
      .ok { scan with current := some name, sections := scan.sections ++ [name] } := by
  have hhead : ("[" ++ name ++ "]").toList.head? = some '[' := by simp
  rw [scanLine_of_head hhead (by decide), (isName_of_allowed hallowed).1]
  simp [openSection, require, hallowed, hnew, bind, Except.bind, pure, Except.pure]

theorem scanLine_assignment {inSection key value : String} (hcurrent : scan.current = some inSection)
    (hkey : key ∈ allowedKeys inSection) (hvalue : value ≠ "") :
    scanLine kind scan (key ++ "=" ++ value) =
      .ok { scan with directives := scan.directives ++ [((inSection, key), value)] } := by
  have hkey' := (isKey_of_allowed hkey).1
  obtain ⟨c, rest, hchars⟩ := List.exists_cons_of_ne_nil hkey'.notEmpty
  have hheader := hkey'.noHeader
  rw [hchars] at hheader
  simp only [List.head?_cons, ne_eq, Option.some.injEq] at hheader
  have hhead : (key ++ "=" ++ value).toList.head? = some c := by simp [hchars]
  have hopen : sectionHeader (key ++ "=" ++ value) = none := by
    have hbracket : "[".toList.head? = some '[' := rfl
    have hstrip : Str.stripPrefix "[" (key ++ "=" ++ value) = none :=
      Str.stripPrefix_eq_none_iff.mpr
        (startsWith_of_head hbracket hhead (Ne.symm hheader.2.2))
    simp [sectionHeader, hstrip]
  have hsplit : Str.splitOnce '=' (key ++ "=" ++ value) = some (key, value) :=
    Str.splitOnce_of_toList (by simp) hkey'.noEquals
  rw [scanLine_of_head hhead hheader.1, hopen]
  simp [addDirective, hcurrent, hsplit, require, hkey, hvalue, bind, Except.bind, pure, Except.pure]

theorem foldlM_assignments (kind : UnitKind) (scan : Scan) {inSection : String}
    {directives : List (String × String)}
    (hcurrent : scan.current = some inSection)
    (hfits : ∀ directive ∈ directives, directive.1 ∈ allowedKeys inSection ∧ directive.2 ≠ "") :
    (directives.map fun (key, value) ↦ key ++ "=" ++ value).foldlM (scanLine kind) scan =
      .ok { scan with directives := scan.directives ++
        directives.map fun (key, value) ↦ ((inSection, key), value) } := by
  induction directives generalizing scan with
  | nil => simp [pure, Except.pure]
  | cons directive directives ih =>
      obtain ⟨key, value⟩ := directive
      obtain ⟨hkey, hvalue⟩ := hfits _ List.mem_cons_self
      rw [List.map_cons, List.foldlM_cons, scanLine_assignment hcurrent hkey hvalue]
      have hrest := ih
        { scan with directives := scan.directives ++ [((inSection, key), value)] } hcurrent
        fun directive hdirective ↦ hfits directive (List.mem_cons_of_mem _ hdirective)
      simpa [bind, Except.bind] using hrest

/-- Sections that fit, each new to the scan, are read back as they were written. -/
theorem foldlM_sections (scan : Scan) {parts : List UnitSection} (hfits : ∀ part ∈ parts, part.Fits kind)
    (hnew : (scan.sections ++ parts.map (·.name)).Nodup) :
    ∃ current, (parts.flatMap UnitSection.lines).foldlM (scanLine kind) scan =
      .ok ⟨current, scan.sections ++ parts.map (·.name),
        scan.directives ++ parts.flatMap UnitSection.scanned⟩ := by
  induction parts generalizing scan with
  | nil => exact ⟨scan.current, by simp [pure, Except.pure]⟩
  | cons part parts ih =>
      have hpart := hfits part List.mem_cons_self
      have hname : part.name ∉ scan.sections := by
        intro hmem
        rw [List.nodup_append] at hnew
        exact hnew.2.2 _ hmem part.name (by simp) rfl
      have hnew' : ((scan.sections ++ [part.name]) ++ parts.map (·.name)).Nodup := by
        simpa using hnew
      obtain ⟨current, hrest⟩ := ih ⟨some part.name, scan.sections ++ [part.name],
        scan.directives ++ part.scanned⟩
        (fun part' hpart' ↦ hfits part' (List.mem_cons_of_mem _ hpart')) hnew'
      refine ⟨current, ?_⟩
      have hassignments := foldlM_assignments kind
        { scan with current := some part.name, sections := scan.sections ++ [part.name] }
        rfl hpart.directives
      rw [List.flatMap_cons, UnitSection.lines, List.cons_append, List.cons_append,
        List.foldlM_cons, scanLine_empty, Rust.Result.ok_bind, List.foldlM_cons,
        scanLine_header hpart.allowed hname, Rust.Result.ok_bind, List.foldlM_append,
        hassignments, Rust.Result.ok_bind]
      simpa [UnitSection.scanned] using hrest

/-! ## The decision on sections -/

/-- A document made of its markers and sections. -/
def sectionLines (id : ConnectionId) (parts : List UnitSection) : List String :=
  managedMarker :: (uuidMarker ++ id.text) :: parts.flatMap UnitSection.lines

theorem isLine_append {before rest : String} (hbefore : '\n' ∉ before.toList)
    (hrest : Str.IsLine rest) (hne : rest ≠ "") : Str.IsLine (before ++ rest) := by
  obtain ⟨hnewline, hlast⟩ := hrest
  constructor
  · simp [hbefore, hnewline]
  · have hne' : rest.toList ≠ [] := by simpa using hne
    rwa [String.toList_append, List.getLast?_append_of_ne_nil _ hne']

theorem isLine_sectionLines (id : ConnectionId) {parts : List UnitSection}
    (hfits : ∀ part ∈ parts, part.Fits kind) :
    ∀ line ∈ sectionLines id parts, Str.IsLine line := by
  intro line hline
  rcases List.mem_cons.mp hline with rfl | hline
  · decide +kernel
  rcases List.mem_cons.mp hline with rfl | hline
  · apply isLine_append (by decide +kernel)
    · constructor
      · exact Uuid.notMem_text (by decide) (by decide)
      · intro hlast
        exact Uuid.notMem_text (by decide) (by decide) (List.mem_of_getLast? hlast)
    · exact Uuid.text_ne_of_length (by decide)
  obtain ⟨part, hpart, hline⟩ := List.mem_flatMap.mp hline
  have hfit := hfits part hpart
  rcases List.mem_cons.mp hline with rfl | hline
  · decide
  rcases List.mem_cons.mp hline with rfl | hline
  · exact (isName_of_allowed hfit.allowed).2.1
  obtain ⟨directive, hdirective, rfl⟩ := List.mem_map.mp hline
  obtain ⟨hkey, hvalue⟩ := hfit.directives directive hdirective
  have hnewline : '\n' ∉ directive.1.toList := fun hmem ↦
    absurd ((isKey_of_allowed hkey).2 _ hmem) (by decide)
  exact isLine_append (by simp [hnewline]) (hfit.isLine directive hdirective) hvalue

/-- Of the characters the validator refuses, only those in values can occur. -/
theorem mem_sectionLines {id : ConnectionId} {parts : List UnitSection} {c : Char}
    (hfits : ∀ part ∈ parts, part.Fits kind) (hc : c = '\x00' ∨ c = '\r') :
    c ∈ (Str.unlines (sectionLines id parts)).toList ↔
      ∃ part ∈ parts, ∃ directive ∈ part.directives, c ∈ directive.2.toList := by
  have hcontrol : Str.isControl c = true := by
    rcases hc with rfl | rfl <;> decide
  have hnewline : c ≠ '\n' := by
    rcases hc with rfl | rfl <;> decide
  rw [Str.toList_unlines, List.mem_flatMap]
  constructor
  · rintro ⟨line, hline, hmem⟩
    have hmem : c ∈ line.toList := by simpa [hnewline] using hmem
    rcases List.mem_cons.mp hline with rfl | hline
    · rcases hc with rfl | rfl <;> exact absurd hmem (by decide +kernel)
    rcases List.mem_cons.mp hline with rfl | hline
    · rw [String.toList_append, List.mem_append] at hmem
      rcases hmem with hmem | hmem
      · rcases hc with rfl | rfl <;> exact absurd hmem (by decide +kernel)
      · rcases hc with rfl | rfl
        all_goals exact absurd hmem (Uuid.notMem_text (by decide) (by decide))
    obtain ⟨part, hpart, hline⟩ := List.mem_flatMap.mp hline
    have hfit := hfits part hpart
    rcases List.mem_cons.mp hline with rfl | hline
    · simp at hmem
    rcases List.mem_cons.mp hline with rfl | hline
    · rw [(isName_of_allowed hfit.allowed).2.2 c hmem] at hcontrol
      cases hcontrol
    obtain ⟨directive, hdirective, rfl⟩ := List.mem_map.mp hline
    refine ⟨part, hpart, directive, hdirective, ?_⟩
    have hkey := (isKey_of_allowed (hfit.directives directive hdirective).1).2 c
    have hequals : c ≠ '=' := by
      rintro rfl
      exact absurd hcontrol (by decide)
    have hmem' : c ∈ directive.1.toList ∨ c ∈ directive.2.toList := by simpa [hequals] using hmem
    apply hmem'.resolve_left
    intro hmemKey
    rw [hkey hmemKey] at hcontrol
    cases hcontrol
  · rintro ⟨part, hpart, directive, hdirective, hmem⟩
    refine ⟨directive.1 ++ "=" ++ directive.2, ?_, by simp [hmem]⟩
    apply List.mem_cons_of_mem
    apply List.mem_cons_of_mem
    apply List.mem_flatMap_of_mem hpart
    apply List.mem_cons_of_mem
    apply List.mem_cons_of_mem
    exact List.mem_map_of_mem hdirective

/-- The text holds neither of the characters the validator refuses. -/
def SafeValue (value : String) : Prop := '\x00' ∉ value.toList ∧ '\r' ∉ value.toList

instance (value : String) : Decidable (SafeValue value) := inferInstanceAs (Decidable (_ ∧ _))

def NoUnsafeValue (parts : List UnitSection) : Prop :=
  ∀ part ∈ parts, ∀ directive ∈ part.directives, SafeValue directive.2

theorem validate_sections (name : UnitName) {parts : List UnitSection}
    (hfits : ∀ part ∈ parts, part.Fits name.kind) (hdistinct : (parts.map (·.name)).Nodup) :
    validate ⟨name, Str.unlines (sectionLines name.connectionId parts)⟩ = .ok () ↔
      NoUnsafeValue parts ∧
        checkBody name ⟨none, parts.map (·.name), parts.flatMap UnitSection.scanned⟩ = .ok () := by
  have hlines := Str.lines_unlines (isLine_sectionLines name.connectionId hfits)
  have hmarkers : checkMarkers ⟨name, Str.unlines (sectionLines name.connectionId parts)⟩ =
      .ok (parts.flatMap UnitSection.lines) := by
    rw [checkMarkers, hlines, sectionLines]
    exact if_pos ⟨rfl, rfl⟩
  obtain ⟨current, hscan⟩ := foldlM_sections {} hfits (by simpa using hdistinct)
  have hbody (current : Option String) :
      checkBody name ⟨current, parts.map (·.name), parts.flatMap UnitSection.scanned⟩ =
        checkBody name ⟨none, parts.map (·.name), parts.flatMap UnitSection.scanned⟩ := rfl
  rw [validate, hmarkers, Rust.Result.ok_bind]
  by_cases hrefused : NoUnsafeValue parts
  · have hcharacters : (!(Str.unlines (sectionLines name.connectionId parts)).toList.any
        fun c ↦ c == '\x00' || c == '\r') = true := by
      rw [Bool.not_eq_true', List.any_eq_false]
      intro c hmem hc
      have hc : c = '\x00' ∨ c = '\r' := by simpa using hc
      obtain ⟨part, hpart, directive, hdirective, hvalue⟩ := (mem_sectionLines hfits hc).mp hmem
      have hsafe := hrefused part hpart directive hdirective
      rcases hc with rfl | rfl
      · exact hsafe.1 hvalue
      · exact hsafe.2 hvalue
    rw [require, if_pos hcharacters, Rust.Result.ok_bind, hscan, Rust.Result.ok_bind]
    simp [hrefused, hbody current]
  · have hcharacters : ¬(!(Str.unlines (sectionLines name.connectionId parts)).toList.any
        fun c ↦ c == '\x00' || c == '\r') = true := by
      intro hall
      rw [Bool.not_eq_true', List.any_eq_false] at hall
      apply hrefused
      intro part hpart directive hdirective
      constructor
      · intro hvalue
        exact hall '\x00'
          ((mem_sectionLines hfits (.inl rfl)).mpr ⟨part, hpart, directive, hdirective, hvalue⟩)
          (by decide)
      · intro hvalue
        exact hall '\r'
          ((mem_sectionLines hfits (.inr rfl)).mpr ⟨part, hpart, directive, hdirective, hvalue⟩)
          (by decide)
    rw [require, if_neg hcharacters]
    simp [hrefused, reject, bind, Except.bind]

end StructuralUnitValidator
end CosmicMounter

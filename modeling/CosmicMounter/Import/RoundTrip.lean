import CosmicMounter.Import.CommandWords
import CosmicMounter.Rust.Trimming
import CosmicMounter.Services.Acceptance

/-!
# Importing a rendered service

A rendered service, read again as a unit found for import.  Its command and its
description come back when no word of the command has a percent sign and the
description does not end in a backslash, which would continue its line.
-/

namespace CosmicMounter.Import

open Rust Systemd StructuralUnitValidator

/-! ## Joining lines -/

/-- A line that ends in a visible character other than a backslash. -/
def Solid (raw : String) : Prop :=
  ∃ c, raw.toList.getLast? = some c ∧ Str.isWhitespace c = false ∧ c ≠ '\\'

theorem endsWith_backslash_iff (s : String) : Str.endsWith "\\" s = true ↔ s.toList.getLast? = some '\\' := by
  rw [Str.endsWith, List.isSuffixOf_iff_suffix]
  constructor
  · rintro ⟨front, hfront⟩
    rw [← hfront]
    exact List.getLast?_concat
  · intro hlast
    exact ⟨s.toList.dropLast, List.dropLast_append_getLast? _ hlast⟩

theorem Solid.joinLine {raw : String} (h : Solid raw) (lines : List String) :
    joinLine (lines, "") raw = (lines ++ [raw], "") := by
  obtain ⟨c, hlast, hspace, hbackslash⟩ := h
  have htrimmed : Str.trimEnd raw = raw := Str.trimEnd_of_getLast hlast hspace
  have hkept : Str.trimEndMatches '\\' raw = raw := by
    rw [Str.trimEndMatches, Str.rdropWhile_of_getLast (p := (· == '\\')) hlast (beq_false_of_ne hbackslash),
      String.ofList_toList]
  have hends : Str.endsWith "\\" raw = false := by
    rw [← Bool.not_eq_true, endsWith_backslash_iff, hlast]
    exact fun heq ↦ hbackslash (Option.some.inj heq)
  simp only [Import.joinLine, htrimmed, hkept, hends, if_true, String.empty_append, Bool.false_eq_true, if_false]

theorem joinLine_empty (lines : List String) : joinLine (lines, "") "" = (lines ++ [""], "") := rfl

/-- Lines that neither continue nor are continued stay as they are. -/
theorem foldl_joinLine {raws : List String} (h : ∀ raw ∈ raws, raw = "" ∨ Solid raw) (lines : List String) :
    raws.foldl joinLine (lines, "") = (lines ++ raws, "") := by
  induction raws generalizing lines with
  | nil => rw [List.foldl_nil, List.append_nil]
  | cons raw raws ih =>
      have hrest := ih (fun r hr ↦ h r (List.mem_cons_of_mem _ hr)) (lines ++ [raw])
      rw [List.append_assoc, List.singleton_append] at hrest
      rcases h raw List.mem_cons_self with rfl | hsolid
      · rw [List.foldl_cons, joinLine_empty, hrest]
      · rw [List.foldl_cons, hsolid.joinLine, hrest]

/-! ## The description -/

/-- The part of a description that its own line gives. -/
def descriptionPart (description : String) : String :=
  Str.trimEnd (Str.trimEndMatches '\\' (Str.trimEnd description))

theorem trimEnd_assignment (key value : String) :
    Str.trimEnd (key ++ "=" ++ value) = key ++ "=" ++ Str.trimEnd value := by
  have hlast : (key ++ "=").toList.getLast? = some '=' := by
    rw [String.toList_append]
    exact List.getLast?_concat
  rw [← String.toList_inj, Str.trimEnd, String.toList_ofList, String.toList_append,
    Str.rdropWhile_append hlast (by decide)]
  simp [Str.trimEnd]

theorem trimEndMatches_assignment (key value : String) :
    Str.trimEndMatches '\\' (key ++ "=" ++ value) = key ++ "=" ++ Str.trimEndMatches '\\' value := by
  have hlast : (key ++ "=").toList.getLast? = some '=' := by
    rw [String.toList_append]
    exact List.getLast?_concat
  rw [← String.toList_inj, Str.trimEndMatches, String.toList_ofList, String.toList_append,
    Str.rdropWhile_append hlast (by decide)]
  simp [Str.trimEndMatches]

theorem trimEnd_trimEnd (s : String) : Str.trimEnd (Str.trimEnd s) = Str.trimEnd s := by
  rw [Str.trimEnd, Str.trimEnd, String.toList_ofList, List.rdropWhile_idempotent]

theorem trimEndMatches_of_not_endsWith {s : String} (h : Str.endsWith "\\" s = false) :
    Str.trimEndMatches '\\' s = s := by
  rw [← Bool.not_eq_true, endsWith_backslash_iff] at h
  rw [Str.trimEndMatches]
  cases hlast : s.toList.getLast? with
  | none =>
      rw [List.getLast?_eq_none_iff.mp hlast, ← String.toList_inj, List.getLast?_eq_none_iff.mp hlast]
      rfl
  | some c =>
      have hc : c ≠ '\\' := fun heq ↦ h (heq ▸ hlast)
      rw [Str.rdropWhile_of_getLast (p := (· == '\\')) hlast (beq_false_of_ne hc), String.ofList_toList]

theorem assignment_ne_empty (key value : String) : key ++ "=" ++ value ≠ "" := by
  intro hempty
  simpa using congrArg String.toList hempty

/-- A description that does not continue its line is the value on it. -/
theorem foldl_joinLine_description {description : String} (lines : List String) :
    ["Description=" ++ description, ""].foldl joinLine (lines, "") =
      (lines ++ if Str.endsWith "\\" (Str.trimEnd description) = true then
        ["Description=" ++ descriptionPart description ++ " "]
      else ["Description=" ++ Str.trimEnd description, ""], "") := by
  have hkey : ∀ value : String, "Description=" ++ value = "Description" ++ "=" ++ value := fun _ ↦ rfl
  have hends : Str.endsWith "\\" ("Description=" ++ Str.trimEnd description) =
      Str.endsWith "\\" (Str.trimEnd description) := by
    rw [Bool.eq_iff_iff, endsWith_backslash_iff, endsWith_backslash_iff, String.toList_append]
    by_cases hnil : (Str.trimEnd description).toList = []
    · rw [hnil]
      decide
    · rw [List.getLast?_append_of_ne_nil _ hnil]
  have hpart : Str.trimEnd (Str.trimEndMatches '\\' ("Description=" ++ Str.trimEnd description)) =
      "Description=" ++ descriptionPart description := by
    rw [hkey, trimEndMatches_assignment, trimEnd_assignment, hkey, descriptionPart]
  have hfirst : joinLine (lines, "") ("Description=" ++ description) =
      if Str.endsWith "\\" (Str.trimEnd description) = true then
        (lines, "Description=" ++ descriptionPart description)
      else (lines ++ ["Description=" ++ descriptionPart description], "") := by
    rw [hkey description]
    simp only [joinLine, trimEnd_assignment]
    rw [← hkey, hends, hpart]
    simp only [if_true, String.empty_append]
  rw [List.foldl_cons, hfirst]
  split_ifs with hcontinued
  · have hne : "Description=" ++ descriptionPart description ≠ "" := assignment_ne_empty "Description" _
    have hblank : Str.trimEnd (Str.trimEndMatches '\\' (Str.trimEnd "")) = "" := by decide
    have hopen : Str.endsWith "\\" (Str.trimEnd "") = false := by decide
    simp only [List.foldl_cons, List.foldl_nil, joinLine, hne, hblank, hopen, if_false, String.append_empty,
      Bool.false_eq_true]
  · have hkept : descriptionPart description = Str.trimEnd description := by
      rw [descriptionPart, trimEndMatches_of_not_endsWith (Bool.eq_false_iff.mpr hcontinued), trimEnd_trimEnd]
    rw [hkept, List.foldl_cons, joinLine_empty, List.foldl_nil, List.append_assoc]
    rfl

/-! ## Directives -/

section Directives

variable {d : Directives}

theorem addLine_empty : d.addLine "" = .ok d := rfl

theorem addLine_comment {line : String} (hsolid : Solid line) (hcomment : Str.startsWith "#" line = true) :
    d.addLine line = .ok d := by
  obtain ⟨c, hlast, hspace, -⟩ := hsolid
  obtain ⟨rest, hrest⟩ := (Str.startsWith_iff _ _).mp hcomment
  have hhead : line.toList.head? = some '#' := by rw [← hrest]; rfl
  have htrim : Str.trim line = line := by rw [Str.trim_of_head hhead (by decide), Str.trimEnd_of_getLast hlast hspace]
  simp only [Directives.addLine, htrim, hcomment, true_or, or_true, if_true]

theorem addLine_header {kind : UnitKind} {name : String} (h : name ∈ allowedSections kind) :
    d.addLine ("[" ++ name ++ "]") = .ok { d with inSection := name } := by
  have hnames : ∀ name ∈ ["Unit", "Service", "Timer", "Install"],
      (Str.trim ("[" ++ name ++ "]") = "[" ++ name ++ "]" ∧ "[" ++ name ++ "]" ≠ "") ∧
        Str.startsWith "#" ("[" ++ name ++ "]") = false ∧ Str.startsWith ";" ("[" ++ name ++ "]") = false ∧
        (Str.startsWith "[" ("[" ++ name ++ "]") = true ∧ Str.endsWith "]" ("[" ++ name ++ "]") = true) ∧
        Str.trimMatches Directives.isBracket ("[" ++ name ++ "]") = name := by
    decide +kernel
  have hmem : name ∈ ["Unit", "Service", "Timer", "Install"] := by
    cases kind
    all_goals simp only [allowedSections, List.mem_cons, List.not_mem_nil, or_false] at h ⊢
    all_goals tauto
  obtain ⟨⟨htrim, hne⟩, hhash, hsemicolon, hbrackets, hname⟩ := hnames name hmem
  simp only [Directives.addLine, htrim, hne, hhash, hsemicolon, hbrackets, hname, Bool.false_eq_true,
    or_self, if_false, and_self, if_true]

theorem isWhitespace_of_allowed {inSection key : String} (h : key ∈ allowedKeys inSection) {c : Char}
    (hc : c ∈ key.toList) : Str.isWhitespace c = false := by
  have hkeys : ∀ key ∈ ["Description", "Type", "RuntimeDirectory", "SuccessExitStatus",
      "ExecCondition", "ExecStart", "Restart", "RestartSec", "OnActiveSec", "OnUnitInactiveSec",
      "Persistent", "Unit", "WantedBy"], key.toList.any Str.isWhitespace = false := by
    decide
  have hmem : key ∈ ["Description", "Type", "RuntimeDirectory", "SuccessExitStatus",
      "ExecCondition", "ExecStart", "Restart", "RestartSec", "OnActiveSec", "OnUnitInactiveSec",
      "Persistent", "Unit", "WantedBy"] := by
    unfold allowedKeys at h
    split at h
    all_goals simp only [List.mem_cons, List.not_mem_nil, or_false] at h ⊢
    all_goals tauto
  simpa using List.any_eq_false.mp (hkeys key hmem) c hc

/-- A directive is added under its section, with its value trimmed. -/
theorem addLine_assignment {inSection key : String} (h : key ∈ allowedKeys inSection) (value : String) :
    d.addLine (key ++ "=" ++ value) =
      .ok { d with values := d.values ++ [(d.inSection ++ "." ++ key, Str.trim value)] } := by
  have hkey := (isKey_of_allowed h).1
  obtain ⟨c, rest, hcons⟩ := List.exists_cons_of_ne_nil hkey.notEmpty
  have hspace : Str.isWhitespace c = false := isWhitespace_of_allowed h (by rw [hcons]; exact List.mem_cons_self)
  have hheader := hkey.noHeader
  rw [hcons, List.head?_cons] at hheader
  have hhead : ∀ v : String, (key ++ "=" ++ v).toList.head? = some c := by
    intro v
    simp [hcons]
  have htrim : Str.trim (key ++ "=" ++ value) = key ++ "=" ++ Str.trimEnd value := by
    rw [Str.trim_of_head (hhead value) hspace, trimEnd_assignment]
  have hstart : ∀ (m : Char) (mark : String), mark.toList.head? = some m → some c ≠ some m →
      Str.startsWith mark (key ++ "=" ++ Str.trimEnd value) = false :=
    fun m mark hmark hne ↦ startsWith_of_head hmark (hhead _) fun heq ↦ hne (congrArg some heq.symm)
  have hne := assignment_ne_empty key (Str.trimEnd value)
  have hsplit : Str.splitOnce '=' (key ++ "=" ++ Str.trimEnd value) = some (key, Str.trimEnd value) :=
    Str.splitOnce_of_toList (by simp) hkey.noEquals
  have hhash := hstart '#' "#" rfl hheader.1
  have hsemicolon := hstart ';' ";" rfl hheader.2.1
  have hbracket := hstart '[' "[" rfl hheader.2.2
  simp only [Directives.addLine, htrim, hne, hhash, hsemicolon, hbracket, hsplit, Str.trim_trimEnd,
    Bool.false_eq_true, or_self, if_false, false_and]

theorem foldlM_directives {inSection : String} {directives : List (String × String)}
    (hkeys : ∀ directive ∈ directives, directive.1 ∈ allowedKeys inSection) (hopen : d.inSection = inSection) :
    (directives.map fun (key, value) ↦ key ++ "=" ++ value).foldlM Directives.addLine d =
      .ok { d with values := d.values ++
        directives.map fun (key, value) ↦ (inSection ++ "." ++ key, Str.trim value) } := by
  induction directives generalizing d with
  | nil => simp [pure, Except.pure]
  | cons directive directives ih =>
      obtain ⟨key, value⟩ := directive
      have hrest := @ih { d with values := d.values ++ [(d.inSection ++ "." ++ key, Str.trim value)] }
        (fun directive hdirective ↦ hkeys directive (List.mem_cons_of_mem _ hdirective)) hopen
      rw [List.map_cons, List.foldlM_cons, addLine_assignment (hkeys _ List.mem_cons_self),
        Rust.Result.ok_bind, hrest, hopen]
      simp

end Directives

/-! ## A whole service -/

section Service

variable {kind : UnitKind} {d : Directives}

/-- The values that a section gives. -/
def sectionValues (part : UnitSection) : List (String × String) :=
  part.directives.map fun (key, value) ↦ (part.name ++ "." ++ key, Str.trim value)

theorem foldlM_part {part : UnitSection} (h : part.Fits kind) :
    part.lines.foldlM Directives.addLine d =
      .ok { inSection := part.name, values := d.values ++ sectionValues part } := by
  rw [UnitSection.lines, List.foldlM_cons, addLine_empty, Rust.Result.ok_bind, List.foldlM_cons,
    addLine_header h.allowed, Rust.Result.ok_bind,
    foldlM_directives (fun directive hdirective ↦ (h.directives directive hdirective).1) rfl]
  rfl

theorem foldlM_parts {parts : List UnitSection} (h : ∀ part ∈ parts, part.Fits kind) :
    ∃ inSection, (parts.flatMap UnitSection.lines).foldlM Directives.addLine d =
      .ok { inSection, values := d.values ++ parts.flatMap sectionValues } := by
  induction parts generalizing d with
  | nil => exact ⟨d.inSection, by simp [pure, Except.pure]⟩
  | cons part parts ih =>
      obtain ⟨inSection, hrest⟩ := @ih { inSection := part.name, values := d.values ++ sectionValues part }
        fun p hp ↦ h p (List.mem_cons_of_mem _ hp)
      refine ⟨inSection, ?_⟩
      rw [List.flatMap_cons, List.foldlM_append, foldlM_part (h part List.mem_cons_self),
        Rust.Result.ok_bind, hrest, List.flatMap_cons, List.append_assoc]

/-- Every value of the section ends its line in a visible character. -/
def SolidValues (part : UnitSection) : Prop := ∀ directive ∈ part.directives, Solid directive.2

theorem Solid.append {s : String} (h : Solid s) (front : String) : Solid (front ++ s) := by
  obtain ⟨c, hlast, hc⟩ := h
  refine ⟨c, ?_, hc⟩
  have hne : s.toList ≠ [] := by
    intro hnil
    rw [hnil] at hlast
    cases hlast
  rw [String.toList_append, List.getLast?_append_of_ne_nil _ hne, hlast]

theorem solid_lines {part : UnitSection} (h : SolidValues part) :
    ∀ line ∈ part.lines, line = "" ∨ Solid line := by
  intro line hline
  rcases List.mem_cons.mp hline with rfl | hline
  · exact .inl rfl
  rcases List.mem_cons.mp hline with rfl | hline
  · exact .inr (Solid.append ⟨']', rfl, by decide, by decide⟩ _)
  obtain ⟨directive, hdirective, rfl⟩ := List.mem_map.mp hline
  exact .inr ((h directive hdirective).append _)

end Service

/-- The word of a command is written in full on import. -/
def readBack (spec : ServiceSpec) : List String :=
  (spec.start.words.map doublePercent).map .ofList

/-- What the import reads as the description. -/
def readDescription (description : String) : String :=
  if Str.endsWith "\\" (Str.trimEnd description) = true then Str.trim (descriptionPart description)
  else Str.trim description

theorem solid_of_renders {rendered : String} {command : ServiceCommand} (h : Renders rendered command) :
    Solid rendered := by
  refine ⟨'"', ?_, by decide, by decide⟩
  rw [h.1]
  exact getLast?_writeCommand _ _

theorem trim_of_renders {rendered : String} {command : ServiceCommand} (h : Renders rendered command) :
    Str.trim rendered = rendered := by
  obtain ⟨c, hlast, hspace, -⟩ := solid_of_renders h
  have hhead : rendered.toList.head? = some '"' := by
    rw [h.1]
    rfl
  rw [Str.trim_of_head hhead (by decide), Str.trimEnd_of_getLast hlast hspace]

section Content

variable {mode : CommandExecutionMode} {spec : ServiceSpec} {document : UnitDocument}

/-- The sections after the first, in which every line stands by itself. -/
theorem solidValues_service {conditions : List String} {exec : String} (hexec : Renders exec spec.start)
    (hconditions : List.Forall₂ Renders conditions (spec.conditions mode)) :
    ∀ part ∈ (serviceParts spec conditions exec).tail, SolidValues part := by
  have hfixed : ∀ value ∈ ["simple", "cosmic-ext-applet-mounter", "130 143", "on-failure", "5s",
      "default.target"], Solid value := by
    simp only [List.forall_mem_cons]
    exact ⟨⟨'e', by decide, by decide, by decide⟩, ⟨'r', by decide, by decide, by decide⟩,
      ⟨'3', by decide, by decide, by decide⟩, ⟨'e', by decide, by decide, by decide⟩,
      ⟨'s', by decide, by decide, by decide⟩, ⟨'t', by decide, by decide, by decide⟩, nofun⟩
  intro part hpart directive hdirective
  simp only [serviceParts, List.tail_cons, List.mem_cons, List.not_mem_nil, or_false] at hpart
  rcases hpart with rfl | rfl
  · simp only [List.mem_append, List.mem_map, List.mem_cons, List.not_mem_nil, or_false] at hdirective
    rcases hdirective with (((rfl | rfl | rfl) | ⟨line, hline, rfl⟩) | rfl) | hrestart
    · exact hfixed _ (by simp)
    · exact hfixed _ (by simp)
    · exact hfixed _ (by simp)
    · obtain ⟨command, -, hrendered⟩ := Result.exists_of_forall₂ hconditions line hline
      exact solid_of_renders hrendered
    · exact solid_of_renders hexec
    · split_ifs at hrestart
      · rcases List.mem_pair.mp hrestart with rfl | rfl
        · exact hfixed _ (by simp)
        · exact hfixed _ (by simp)
      · cases hrestart
  · obtain rfl := List.mem_singleton.mp hdirective
    exact hfixed _ (by simp)

theorem solid_managedMarker : Solid managedMarker := ⟨'e', by decide, by decide, by decide⟩

theorem isWhitespace_of_isLowerHex {c : Char} (h : isLowerHex c = true) : Str.isWhitespace c = false := by
  have hrange : 48 ≤ c.toNat ∧ c.toNat ≤ 102 := range_of_isLowerHex h
  cases hspace : Str.isWhitespace c with
  | false => rfl
  | true =>
      have hspaces := hspace
      simp only [Str.isWhitespace, Bool.or_eq_true, Bool.and_eq_true, decide_eq_true_eq, List.mem_cons,
        List.not_mem_nil, or_false] at hspaces
      omega

theorem solid_uuidMarker (id : ConnectionId) : Solid (uuidMarker ++ id.text) := by
  refine Solid.append ?_ _
  cases hlast : id.text.toList.getLast? with
  | none =>
      have hempty : id.text = "" := String.toList_eq_nil_iff.mp (List.getLast?_eq_none_iff.mp hlast)
      exact absurd hempty (Uuid.text_ne_of_length (by decide))
  | some c =>
      have hmem := List.mem_of_getLast? hlast
      refine ⟨c, hlast, ?_, ?_⟩
      · rcases Uuid.mem_text hmem with rfl | hhex
        · decide
        · exact isWhitespace_of_isLowerHex hhex
      · rintro rfl
        exact Uuid.notMem_text (by decide) (by decide) hmem

/-- The lines of a service, joined: only the description may take in the line after it. -/
theorem logicalLines_service {conditions : List String} {exec : String} (id : ConnectionId)
    (hfits : ∀ part ∈ serviceParts spec conditions exec, part.Fits .service)
    (hsolid : ∀ part ∈ (serviceParts spec conditions exec).tail, SolidValues part) :
    ∃ rest, (serviceParts spec conditions exec).tail.flatMap UnitSection.lines = "" :: rest ∧
      logicalLines (Str.unlines (sectionLines id (serviceParts spec conditions exec))) =
        [managedMarker, uuidMarker ++ id.text, "", "[Unit]"] ++
          (if Str.endsWith "\\" (Str.trimEnd spec.description) = true then
            ["Description=" ++ descriptionPart spec.description ++ " "]
          else ["Description=" ++ Str.trimEnd spec.description, ""]) ++ rest := by
  obtain ⟨rest, hrest⟩ : ∃ rest, (serviceParts spec conditions exec).tail.flatMap UnitSection.lines =
      "" :: rest := ⟨_, rfl⟩
  refine ⟨rest, hrest, ?_⟩
  have hlines : sectionLines id (serviceParts spec conditions exec) =
      [managedMarker, uuidMarker ++ id.text, "", "[Unit]"] ++
        ["Description=" ++ spec.description, ""] ++ rest := by
    have hsplit : (serviceParts spec conditions exec).flatMap UnitSection.lines =
        ["", "[Unit]", "Description=" ++ spec.description] ++
          (serviceParts spec conditions exec).tail.flatMap UnitSection.lines := rfl
    rw [sectionLines, hsplit, hrest]
    rfl
  have hhead : ∀ raw ∈ [managedMarker, uuidMarker ++ id.text, "", "[Unit]"], raw = "" ∨ Solid raw := by
    simp only [List.forall_mem_cons]
    exact ⟨.inr solid_managedMarker, .inr (solid_uuidMarker id), .inl trivial,
      .inr ⟨']', by decide, by decide, by decide⟩, fun _ hmem ↦ absurd hmem List.not_mem_nil⟩
  have htail : ∀ raw ∈ rest, raw = "" ∨ Solid raw := by
    intro raw hraw
    have hmem : raw ∈ (serviceParts spec conditions exec).tail.flatMap UnitSection.lines :=
      hrest ▸ List.mem_cons_of_mem _ hraw
    obtain ⟨part, hpart, hline⟩ := List.mem_flatMap.mp hmem
    exact solid_lines (hsolid part hpart) raw hline
  rw [logicalLines, Str.lines_unlines (isLine_sectionLines id hfits), hlines, List.foldl_append,
    List.foldl_append, foldl_joinLine hhead, List.nil_append, foldl_joinLine_description,
    foldl_joinLine htail]
  rfl

theorem get_head? {front : List (String × String)} {key value inSection : String}
    (back : List (String × String)) (hfront : ∀ entry ∈ front, entry.1 ≠ key) :
    (Directives.get ⟨inSection, front ++ (key, value) :: back⟩ key).head? = some value := by
  have hnone : front.filter (·.1 == key) = [] :=
    List.filter_eq_nil_iff.mpr fun entry hentry ↦ by simpa using hfront entry hentry
  simp [Directives.get, List.filter_append, hnone]

/-- The directives of a service, and its description as the import reads it. -/
theorem foldlM_service {conditions : List String} {exec : String} (id : ConnectionId)
    (hfits : ∀ part ∈ serviceParts spec conditions exec, part.Fits .service)
    (hsolid : ∀ part ∈ (serviceParts spec conditions exec).tail, SolidValues part) :
    ∃ inSection, (logicalLines (Str.unlines (sectionLines id (serviceParts spec conditions exec)))).foldlM
      Directives.addLine {} = .ok ⟨inSection, ("Unit.Description", readDescription spec.description) ::
        (serviceParts spec conditions exec).tail.flatMap sectionValues⟩ := by
  obtain ⟨rest, hrest, hlines⟩ := logicalLines_service id hfits hsolid
  have hhead : [managedMarker, uuidMarker ++ id.text, "", "[Unit]"].foldlM Directives.addLine {} =
      .ok ⟨"Unit", []⟩ := by
    have hmarker : Str.startsWith "#" managedMarker = true := by decide
    have huuid : Str.startsWith "#" (uuidMarker ++ id.text) = true := by
      rw [Str.startsWith_iff, String.toList_append]
      exact ((Str.startsWith_iff _ _).mp (by decide)).trans (List.prefix_append ..)
    have hunit : "[Unit]" = "[" ++ "Unit" ++ "]" := by decide
    have hheader : Directives.addLine {} ("[" ++ "Unit" ++ "]") = .ok ⟨"Unit", []⟩ :=
      @addLine_header {} .service "Unit" (by decide)
    rw [List.foldlM_cons, addLine_comment solid_managedMarker hmarker, Rust.Result.ok_bind,
      List.foldlM_cons, addLine_comment (solid_uuidMarker id) huuid, Rust.Result.ok_bind,
      List.foldlM_cons, addLine_empty, Rust.Result.ok_bind, List.foldlM_cons, hunit, hheader,
      Rust.Result.ok_bind, List.foldlM_nil]
    rfl
  have htail (d : Directives) : ∃ inSection, rest.foldlM Directives.addLine d =
      .ok ⟨inSection, d.values ++ (serviceParts spec conditions exec).tail.flatMap sectionValues⟩ := by
    obtain ⟨inSection, hparts⟩ := @foldlM_parts .service d (serviceParts spec conditions exec).tail
      fun part hpart ↦ hfits part (List.mem_of_mem_tail hpart)
    rw [hrest, List.foldlM_cons, addLine_empty, Rust.Result.ok_bind] at hparts
    exact ⟨inSection, hparts⟩
  have hdescription (value : String) : Directives.addLine ⟨"Unit", []⟩ ("Description=" ++ value) =
      .ok ⟨"Unit", [("Unit.Description", Str.trim value)]⟩ := by
    have hsplit : "Description=" ++ value = "Description" ++ "=" ++ value := rfl
    have hname : "Unit" ++ "." ++ "Description" = "Unit.Description" := by decide
    have hadd := @addLine_assignment ⟨"Unit", []⟩ "Unit" "Description" (by decide) value
    rw [hname, List.nil_append] at hadd
    rw [hsplit, hadd]
  rw [hlines, List.foldlM_append, List.foldlM_append, hhead, Rust.Result.ok_bind]
  obtain ⟨inSection, hdone⟩ := htail ⟨"Unit", [("Unit.Description", readDescription spec.description)]⟩
  refine ⟨inSection, ?_⟩
  have hread : (if Str.endsWith "\\" (Str.trimEnd spec.description) = true then
        ["Description=" ++ descriptionPart spec.description ++ " "]
      else ["Description=" ++ Str.trimEnd spec.description, ""]).foldlM Directives.addLine ⟨"Unit", []⟩ =
        .ok ⟨"Unit", [("Unit.Description", readDescription spec.description)]⟩ := by
    rw [readDescription]
    split_ifs
    · have hblank : ∀ c ∈ " ".toList, Str.isWhitespace c = true := by
        intro c hc
        obtain rfl := List.mem_singleton.mp hc
        decide
      rw [String.append_assoc, List.foldlM_cons, hdescription, Str.trim_append_of_blank _ _ hblank]
      rfl
    · rw [List.foldlM_cons, hdescription, Str.trim_trimEnd]
      rfl
  rw [hread, Rust.Result.ok_bind, hdone]
  rfl

theorem get_execStart {exec : String} (conditions : List String) (inSection : String) :
    (Directives.get ⟨inSection, ("Unit.Description", readDescription spec.description) ::
      (serviceParts spec conditions exec).tail.flatMap sectionValues⟩ "Service.ExecStart").head? =
        some (Str.trim exec) := by
  have hname : "Service" ++ "." ++ "ExecStart" = "Service.ExecStart" := by decide
  have hothers : ∀ key ∈ ["Unit.Description", "Service" ++ "." ++ "Type",
      "Service" ++ "." ++ "RuntimeDirectory", "Service" ++ "." ++ "SuccessExitStatus",
      "Service" ++ "." ++ "ExecCondition"], key ≠ "Service.ExecStart" := by
    decide
  simp only [List.forall_mem_cons] at hothers
  obtain ⟨hdescription, htype, hdirectory, hstatus, hcondition, -⟩ := hothers
  let before : List (String × String) := [("Type", "simple"),
    ("RuntimeDirectory", "cosmic-ext-applet-mounter"), ("SuccessExitStatus", "130 143")] ++
      conditions.map fun line ↦ ("ExecCondition", line)
  let entryOf : String × String → String × String := fun (key, value) ↦ ("Service" ++ "." ++ key, Str.trim value)
  obtain ⟨back, hback⟩ : ∃ back, (serviceParts spec conditions exec).tail.flatMap sectionValues =
      before.map entryOf ++ ("Service" ++ "." ++ "ExecStart", Str.trim exec) :: back := by
    rw [serviceParts, List.tail_cons, List.flatMap_cons, sectionValues, List.map_append, List.map_append,
      List.append_assoc, List.append_assoc]
    exact ⟨_, rfl⟩
  have hfront : ∀ entry ∈ ("Unit.Description", readDescription spec.description) :: before.map entryOf,
      entry.1 ≠ "Service.ExecStart" := by
    intro entry hentry
    rcases List.mem_cons.mp hentry with rfl | hentry
    · exact hdescription
    obtain ⟨⟨key, value⟩, hkey, rfl⟩ := List.mem_map.mp hentry
    rcases List.mem_append.mp hkey with hkey | hkey
    · simp only [List.mem_cons, List.not_mem_nil, or_false, Prod.mk.injEq] at hkey
      rcases hkey with ⟨rfl, -⟩ | ⟨rfl, -⟩ | ⟨rfl, -⟩
      · exact htype
      · exact hdirectory
      · exact hstatus
    · obtain ⟨line, -, heq⟩ := List.mem_map.mp hkey
      obtain ⟨rfl, -⟩ := Prod.mk.inj heq
      exact hcondition
  rw [hback, hname, ← List.cons_append]
  exact get_head? back hfront

/-- No word of an accepted command is empty or holds a character that the import refuses. -/
theorem words_of_escaped {command : ServiceCommand} (h : Escaped command) (hreturn : NoReturn command) :
    ∀ word ∈ command.words, word ≠ [] ∧ ∀ c ∈ word, isUnsafe c = false := by
  intro word hword
  obtain ⟨text, htext, rfl⟩ := List.mem_map.mp hword
  obtain ⟨escaped, hescaped⟩ := h text htext
  have hnewline := (escapeSystemdArgument_eq_ok hescaped).2
  have hnul := notNul_of_escape hescaped
  refine ⟨fun hempty ↦ ?_, fun c hc ↦ ?_⟩
  · rw [escapeSystemdArgument, if_pos (.inl (String.toList_eq_nil_iff.mp hempty))] at hescaped
    cases hescaped
  · rw [isUnsafe, Bool.or_eq_false_iff, Bool.or_eq_false_iff, beq_eq_false_iff_ne, beq_eq_false_iff_ne,
      beq_eq_false_iff_ne]
    exact ⟨⟨fun heq ↦ hnul (heq ▸ hc), fun heq ↦ hnewline (heq ▸ hc)⟩, fun heq ↦ hreturn _ hword (heq ▸ hc)⟩

/-- A rendered service is read back with its percent signs doubled. -/
theorem parseUnit_service (h : UnitDocument.service mode spec = .ok document)
    (hreturn : NoReturn spec.start) (path : String) :
    ∃ unit, parseUnit path document.content = .ok unit ∧ unit.execStart = readBack spec ∧
      unit.description = some (readDescription spec.description) := by
  obtain ⟨-, hchecked⟩ := checked_of_service h
  obtain ⟨_, _, _, -, hdescription, -, -⟩ := service_eq_ok h
  obtain ⟨conditions, exec, rfl, hexec, hconditions⟩ := content_service h
  obtain ⟨inSection, hread⟩ := foldlM_service spec.connectionId
    (fits_service hchecked hdescription hexec hconditions) (solidValues_service hexec hconditions)
  have hwords := words_of_escaped (hchecked.commands _ List.mem_cons_self) hreturn
  have htokens : tokenizeSystemdExec exec = .ok (readBack spec) :=
    tokenize_writeCommand (words_ne_nil _) (fun word hword ↦ (hwords word hword).1)
      (fun word hword ↦ (hwords word hword).2) hexec.1
  have hstart := @get_execStart spec exec conditions inSection
  rw [trim_of_renders hexec] at hstart
  have hdescription' := @get_head? [] "Unit.Description" (readDescription spec.description) inSection
    ((serviceParts spec conditions exec).tail.flatMap sectionValues) nofun
  rw [List.nil_append] at hdescription'
  simp only [parseUnit, hread, Rust.Result.ok_bind, hstart, htokens, hdescription']
  exact ⟨_, rfl, rfl, rfl⟩

theorem readBack_eq_iff (spec : ServiceSpec) :
    readBack spec = spec.executable :: spec.arguments ↔
      ∀ word ∈ spec.executable :: spec.arguments, '%' ∉ word.toList := by
  have hwords : readBack spec =
      (spec.executable :: spec.arguments).map fun word ↦ .ofList (doublePercent word.toList) := by
    simp [readBack, ServiceSpec.start, ServiceCommand.words]
  have hword (word : String) : .ofList (doublePercent word.toList) = word ↔ '%' ∉ word.toList := by
    rw [← String.toList_inj, String.toList_ofList, doublePercent_eq_self_iff]
  rw [hwords]
  conv_lhs => rhs; rw [← List.map_id (spec.executable :: spec.arguments)]
  rw [List.map_inj_left]
  exact forall₂_congr fun word _ ↦ hword word

/-- A description loses the backslashes at its end. -/
theorem length_trim_lt {y slashes : List Char} (hne : slashes ≠ []) (hslashes : ∀ c ∈ slashes, c = '\\') :
    (Str.trim (.ofList y)).length < (Str.trim (.ofList (y ++ slashes))).length := by
  obtain ⟨c, hlast⟩ : ∃ c, slashes.getLast? = some c := ⟨_, List.getLast?_eq_some_getLast hne⟩
  have hspace : Str.isWhitespace c = false := by
    rw [hslashes c (List.mem_of_getLast? hlast)]
    decide
  have hkept : slashes.dropWhile Str.isWhitespace = slashes := by
    obtain ⟨d, rest, rfl⟩ := List.exists_cons_of_ne_nil hne
    refine Str.dropWhile_of_head rfl ?_
    rw [hslashes d List.mem_cons_self]
    decide
  have hstart : (y ++ slashes).dropWhile Str.isWhitespace = y.dropWhile Str.isWhitespace ++ slashes := by
    rw [List.dropWhile_append, hkept]
    split
    · next hempty => rw [List.isEmpty_iff.mp hempty, List.nil_append]
    · rfl
  have hend : (y.dropWhile Str.isWhitespace ++ slashes).rdropWhile Str.isWhitespace =
      y.dropWhile Str.isWhitespace ++ slashes :=
    Str.rdropWhile_of_getLast (by rw [List.getLast?_append_of_ne_nil _ hne, hlast]) hspace
  have hshort : ((y.dropWhile Str.isWhitespace).rdropWhile Str.isWhitespace).length ≤
      (y.dropWhile Str.isWhitespace).length := (List.rdropWhile_prefix _ _).length_le
  have hslash := List.length_pos_of_ne_nil hne
  simp only [Str.trim, Str.trimEnd, Str.trimStart, String.toList_ofList, String.length_ofList, hstart, hend,
    List.length_append]
  omega

theorem readDescription_eq_iff (description : String) :
    readDescription description = Str.trim description ↔
      Str.endsWith "\\" (Str.trimEnd description) = false := by
  rw [← Bool.not_eq_true, readDescription]
  split_ifs with hends
  · refine iff_of_false (fun heq ↦ ?_) (fun hnot ↦ hnot hends)
    obtain ⟨slashes, hsplit, hslashes⟩ := Str.exists_eq_rdropWhile_append (· == '\\') (Str.trimEnd description).toList
    have hne : slashes ≠ [] := by
      rintro rfl
      rw [List.append_nil] at hsplit
      have hlast := (endsWith_backslash_iff _).mp hends
      have hpositive : (Str.trimEnd description).toList ≠ [] := by
        intro hnil
        rw [hnil] at hlast
        cases hlast
      rw [List.getLast?_eq_some_getLast hpositive] at hlast
      exact List.rdropWhile_eq_self_iff.mp hsplit.symm hpositive (by rw [Option.some.inj hlast]; rfl)
    have hlength := length_trim_lt (y := (Str.trimEnd description).toList.rdropWhile (· == '\\')) hne
      fun c hc ↦ by simpa using hslashes c hc
    rw [← hsplit, String.ofList_toList, Str.trim_trimEnd, ← heq, descriptionPart, Str.trim_trimEnd] at hlength
    exact absurd hlength (Nat.lt_irrefl _)
  · exact iff_of_true rfl hends

/-- An imported service keeps its command and its description when no word of
the command has a percent sign and the description does not end in a backslash. -/
theorem parseUnit_service_iff (h : UnitDocument.service mode spec = .ok document)
    (hreturn : NoReturn spec.start) (path : String) :
    (∃ unit, parseUnit path document.content = .ok unit ∧
      unit.execStart = spec.executable :: spec.arguments ∧
      unit.description = some (Str.trim spec.description)) ↔
    (∀ word ∈ spec.executable :: spec.arguments, '%' ∉ word.toList) ∧
      Str.endsWith "\\" (Str.trimEnd spec.description) = false := by
  obtain ⟨unit, hunit, hexec, hdescription⟩ := parseUnit_service h hreturn path
  rw [← readBack_eq_iff, ← readDescription_eq_iff]
  constructor
  · rintro ⟨unit', hunit', hexec', hdescription'⟩
    obtain rfl := Except.ok.inj (hunit.symm.trans hunit')
    exact ⟨hexec.symm.trans hexec', Option.some.inj (hdescription.symm.trans hdescription')⟩
  · rintro ⟨hcommand, hread⟩
    exact ⟨unit, hunit, hexec.trans hcommand, hdescription.trans (congrArg some hread)⟩

/-- The percent sign of an argument comes back doubled. -/
theorem service_percent_argument :
    ∃ document, UnitDocument.service .flatpakSpawnHost (sampleSpec "50%") = .ok document ∧
      ¬∃ unit, parseUnit "/units/mirror.service" document.content = .ok unit ∧
        unit.execStart = ["/usr/bin/rclone", "50%"] ∧ unit.description = some "Mirror" := by
  have hok : (UnitDocument.service .flatpakSpawnHost (sampleSpec "50%")).isOk = true := by decide +kernel
  have hreturn : NoReturn (sampleSpec "50%").start := by
    unfold NoReturn
    decide +kernel
  cases h : UnitDocument.service .flatpakSpawnHost (sampleSpec "50%") with
  | error e =>
      rw [h] at hok
      cases hok
  | ok document =>
      obtain ⟨unit, hunit, hexec, -⟩ := parseUnit_service h hreturn "/units/mirror.service"
      refine ⟨document, rfl, ?_⟩
      rintro ⟨unit', hunit', hexec', -⟩
      obtain rfl := Except.ok.inj (hunit.symm.trans hunit')
      exact absurd (hexec.symm.trans hexec') (by decide +kernel)

theorem parseUnit_service_iff_sample :
    ∃ document, UnitDocument.service .flatpakSpawnHost (sampleSpec "a \"b\" \\") = .ok document ∧
      ∃ unit, parseUnit "/units/mirror.service" document.content = .ok unit ∧
        unit.execStart = ["/usr/bin/rclone", "a \"b\" \\"] ∧
        unit.description = some (Str.trim "Mirror") := by
  have hok : (UnitDocument.service .flatpakSpawnHost (sampleSpec "a \"b\" \\")).isOk = true := by
    decide +kernel
  have hreturn : NoReturn (sampleSpec "a \"b\" \\").start := by
    unfold NoReturn
    decide +kernel
  cases h : UnitDocument.service .flatpakSpawnHost (sampleSpec "a \"b\" \\") with
  | error e =>
      rw [h] at hok
      cases hok
  | ok document =>
      exact ⟨document, rfl, (parseUnit_service_iff h hreturn "/units/mirror.service").mpr
        ⟨by decide +kernel, by decide +kernel⟩⟩

end Content

end CosmicMounter.Import

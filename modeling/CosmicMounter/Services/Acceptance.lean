import CosmicMounter.Services.Rendering

/-!
# Which rendered documents are accepted

The sections of a rendered service and of a rendered timer, and what the
structural validator makes of them.
-/

namespace CosmicMounter

open Rust Systemd StructuralUnitValidator

/-! ## Words of a rendered command -/

/-- Every word of the command could be escaped. -/
def Escaped (command : ServiceCommand) : Prop :=
  ∀ word ∈ command.executable :: command.arguments, ∃ escaped,
    escapeSystemdArgument word = .ok escaped

theorem escaped_of_renderExecStart {executable : String} {arguments : List String}
    {rendered : String} (h : renderExecStart executable arguments = .ok rendered) :
    Escaped ⟨executable, arguments⟩ := by
  unfold renderExecStart at h
  obtain ⟨path, hpath, hargs⟩ := Rust.Result.bind_eq_ok h
  obtain ⟨words, hwords, hexe⟩ := Rust.Result.bind_eq_ok hargs
  obtain ⟨exec, hexec, -⟩ := Rust.Result.bind_eq_ok hexe
  obtain rfl := validateAbsoluteExecutable_eq_ok hpath
  intro word hword
  rcases List.mem_cons.mp hword with rfl | hword
  · exact ⟨exec, hexec⟩
  · obtain ⟨escaped, -, hescaped⟩ := Rust.Result.exists_of_forall₂ (Rust.Result.mapM_eq_ok hwords) word hword
    exact ⟨escaped, hescaped⟩

theorem escaped_of_foldlM {arguments : List String} {start rendered : String}
    (h : arguments.foldlM (fun rendered argument ↦ do
      return rendered ++ " " ++ (← escapeSystemdArgument argument)) start = .ok rendered) :
    ∀ word ∈ arguments, ∃ escaped, escapeSystemdArgument word = .ok escaped := by
  induction arguments generalizing start with
  | nil => simp
  | cons argument arguments ih =>
      rw [List.foldlM_cons] at h
      obtain ⟨next, hnext, hrest⟩ := Rust.Result.bind_eq_ok h
      obtain ⟨escaped, hescaped, -⟩ := Rust.Result.bind_eq_ok hnext
      intro word hword
      rcases List.mem_cons.mp hword with rfl | hword
      · exact ⟨escaped, hescaped⟩
      · exact ih hrest word hword

theorem escaped_of_renderCondition {command : ServiceCommand} {rendered : String}
    (h : renderCondition command = .ok rendered) : Escaped command := by
  unfold renderCondition at h
  obtain ⟨path, hpath, hexe⟩ := Rust.Result.bind_eq_ok h
  obtain ⟨exec, hexec, hfold⟩ := Rust.Result.bind_eq_ok hexe
  obtain rfl := validateAbsoluteExecutable_eq_ok hpath
  intro word hword
  rcases List.mem_cons.mp hword with rfl | hword
  · exact ⟨exec, hexec⟩
  · exact escaped_of_foldlM hfold word hword

theorem escaped_of_conditionLines {command : Option ServiceCommand} {lines : List String}
    (h : UnitDocument.conditionLines command = .ok lines) :
    ∀ condition ∈ command.toList, Escaped condition := by
  cases command with
  | none => simp
  | some command =>
      obtain ⟨rendered, hrendered, -⟩ := Rust.Result.bind_eq_ok h
      simpa using escaped_of_renderCondition hrendered

/-- What a rendered service has been checked for. -/
structure Checked (mode : CommandExecutionMode) (spec : ServiceSpec) : Prop where
  description : spec.description ≠ ""
  executable : Path.isAbsolute spec.executable = true
  commands : ∀ command ∈ spec.start :: spec.conditions mode, Escaped command

theorem validateText_eq_ok {text : String} (h : validateText text = .ok ()) :
    text ≠ "" ∧ ∀ c ∈ text.toList, Str.isControl c = false := by
  unfold validateText at h
  split_ifs at h with hunsafe
  push Not at hunsafe
  constructor
  · rintro rfl
    exact hunsafe.1 (by decide)
  · simpa using hunsafe.2

theorem checked_of_service {mode : CommandExecutionMode} {spec : ServiceSpec}
    {document : UnitDocument} (h : UnitDocument.service mode spec = .ok document) :
    document.name = ⟨spec.connectionId, .service⟩ ∧ Checked mode spec := by
  unfold UnitDocument.service at h
  obtain ⟨_, hdescription, h₁⟩ := Rust.Result.bind_eq_ok h
  obtain ⟨exec, hexec, h₂⟩ := Rust.Result.bind_eq_ok h₁
  obtain ⟨preStart, hpreStart, h₃⟩ := Rust.Result.bind_eq_ok h₂
  obtain ⟨guard, hguard, h₄⟩ := Rust.Result.bind_eq_ok h₃
  obtain ⟨metered, hmetered, h₅⟩ := Rust.Result.bind_eq_ok h₄
  obtain rfl := Except.ok.inj h₅
  refine ⟨rfl, (validateText_eq_ok hdescription).1, ?_, ?_⟩
  · obtain ⟨path, hpath, -⟩ := Rust.Result.bind_eq_ok hexec
    unfold validateAbsoluteExecutable at hpath
    split_ifs at hpath with habsolute
    exact habsolute
  · intro command hcommand
    rcases List.mem_cons.mp hcommand with rfl | hcommand
    · exact escaped_of_renderExecStart hexec
    · rw [ServiceSpec.conditions, hguard] at hcommand
      rcases List.mem_append.mp hcommand with hcommand | hcommand
      · exact escaped_of_conditionLines hmetered command hcommand
      · exact escaped_of_conditionLines hpreStart command hcommand

/-! ## Command lines as values -/

theorem notNul_of_escape {word escaped : String} (h : escapeSystemdArgument word = .ok escaped) :
    '\x00' ∉ word.toList := by
  unfold escapeSystemdArgument at h
  split_ifs at h with hunsafe
  push Not at hunsafe
  intro hnul
  apply hunsafe.2
  rw [List.any_eq_true]
  exact ⟨'\x00', hnul, rfl⟩

theorem notMem_of_renders {rendered : String} {command : ServiceCommand} {c : Char}
    (h : Renders rendered command) (hc : c ∉ ['"', '\\', ' '])
    (hwords : ∀ word ∈ command.words, c ∉ word) : c ∉ rendered.toList := by
  rw [h.1]
  intro hmem
  obtain ⟨word, hword, hmem⟩ := (mem_writeCommand hmem).resolve_right (by simpa using hc)
  exact hwords word hword hmem

theorem noReturn_iff {rendered : String} {command : ServiceCommand}
    (h : Renders rendered command) : '\r' ∉ rendered.toList ↔ NoReturn command := by
  constructor
  · intro hnot
    by_contra hreturn
    unfold NoReturn at hreturn
    push Not at hreturn
    obtain ⟨cut, tail, hcut, -⟩ := writeCommand_cut hreturn h.2
    exact hnot (by simp [h.1, hcut])
  · exact notMem_of_renders h (by decide)

theorem noNul_of_renders {rendered : String} {command : ServiceCommand}
    (h : Renders rendered command) (hescaped : Escaped command) : '\x00' ∉ rendered.toList := by
  apply notMem_of_renders h (by decide)
  intro word hword
  obtain ⟨text, htext, rfl⟩ := List.mem_map.mp hword
  obtain ⟨escaped, hescaped⟩ := hescaped text htext
  exact notNul_of_escape hescaped

theorem getLast?_writeCommand (word : List Char) (words : List (List Char)) :
    (writeCommand (word :: words)).getLast? = some '"' := by
  have hspaced : ∀ words : List (List Char), spaced words ≠ [] →
      (spaced words).getLast? = some '"' := by
    intro words hne
    rcases List.eq_nil_or_concat words with rfl | ⟨before, last, rfl⟩
    · exact absurd rfl hne
    · have hsplit : spaced (before ++ [last]) =
          spaced before ++ ' ' :: '"' :: last.flatMap quoteChar ++ ['"'] := by
        simp [spaced, quote]
      rw [List.concat_eq_append, hsplit, List.getLast?_concat]
  rw [writeCommand, List.map_cons, writeWords]
  by_cases hrest : spaced (words.map doublePercent) = []
  · rw [hrest, List.append_nil, quote, List.getLast?_concat]
  · rw [List.getLast?_append_of_ne_nil _ hrest]
    exact hspaced _ hrest

theorem isLine_of_renders {rendered : String} {command : ServiceCommand}
    (h : Renders rendered command) : Str.IsLine rendered ∧ rendered ≠ "" := by
  have hlast : rendered.toList.getLast? = some '"' := by
    rw [h.1]
    exact getLast?_writeCommand ..
  refine ⟨⟨?_, by simp [hlast]⟩, ?_⟩
  · exact notMem_of_renders h (by decide) h.2
  · rintro rfl
    simp at hlast

/-- An absolute executable opens the command line, in quotes. -/
theorem startsWith_of_renders {rendered : String} {command : ServiceCommand}
    (h : Renders rendered command) (habsolute : Path.isAbsolute command.executable = true) :
    Str.startsWith "\"/" rendered = true := by
  rw [Path.isAbsolute, Path.hasRoot, Str.startsWith_iff] at habsolute
  obtain ⟨rest, hrest⟩ := habsolute
  rw [Str.startsWith_iff, h.1, writeCommand, ServiceCommand.words, List.map_cons, ← hrest]
  exact ⟨_, rfl⟩

/-! ## The sections of a service -/

def serviceParts (spec : ServiceSpec) (conditions : List String) (exec : String) :
    List UnitSection :=
  [⟨"Unit", [("Description", spec.description)]⟩,
    ⟨"Service", [("Type", "simple"), ("RuntimeDirectory", "cosmic-ext-applet-mounter"),
      ("SuccessExitStatus", "130 143")] ++ conditions.map (fun line ↦ ("ExecCondition", line)) ++
      [("ExecStart", exec)] ++
      (if spec.restartOnFailure then [("Restart", "on-failure"), ("RestartSec", "5s")] else [])⟩,
    ⟨"Install", [("WantedBy", "default.target")]⟩]

theorem exists_conditions {lines : List String} {commands : List ServiceCommand}
    (h : SetConditions lines commands) :
    ∃ conditions, lines = conditions.map (fun line ↦ "ExecCondition" ++ "=" ++ line) ∧
      List.Forall₂ Renders conditions commands := by
  induction h with
  | nil => exact ⟨[], rfl, .nil⟩
  | cons hline _ ih =>
      obtain ⟨rendered, rfl, hrendered⟩ := hline
      obtain ⟨conditions, rfl, hconditions⟩ := ih
      exact ⟨rendered :: conditions, rfl, .cons hrendered hconditions⟩

theorem content_service {mode : CommandExecutionMode} {spec : ServiceSpec}
    {document : UnitDocument} (h : UnitDocument.service mode spec = .ok document) :
    ∃ conditions exec,
      document = ⟨⟨spec.connectionId, .service⟩,
        Str.unlines (sectionLines spec.connectionId (serviceParts spec conditions exec))⟩ ∧
      Renders exec spec.start ∧ List.Forall₂ Renders conditions (spec.conditions mode) := by
  obtain ⟨exec, metered, preStart, hcontent, -, hexec, hconditions⟩ := service_eq_ok h
  obtain ⟨conditions, hlines, hrenders⟩ := exists_conditions hconditions
  refine ⟨conditions, exec, ?_, hexec, hrenders⟩
  have hname := (checked_of_service h).1
  have hsections : UnitDocument.serviceLines spec metered preStart exec =
      sectionLines spec.connectionId (serviceParts spec conditions exec) := by
    have hmiddle (before after : List String) :
        before ++ metered ++ preStart ++ after =
          before ++ conditions.map (fun line ↦ "ExecCondition" ++ "=" ++ line) ++ after := by
      rw [← hlines, ← List.append_assoc]
    rw [UnitDocument.serviceLines, List.append_assoc _ ["ExecStart=" ++ exec],
      List.append_assoc _ _ ["", "[Install]", "WantedBy=default.target"], hmiddle]
    cases hrestart : spec.restartOnFailure <;>
      simp [sectionLines, serviceParts, UnitSection.lines, hrestart, Function.comp_def]
  rw [← hsections, ← hcontent, ← hname]

theorem isLine_of_noControl {text : String} (h : ∀ c ∈ text.toList, Str.isControl c = false) :
    Str.IsLine text := by
  constructor
  · intro hmem
    exact absurd (h _ hmem) (by decide)
  · intro hlast
    exact absurd (h _ (List.mem_of_getLast? hlast)) (by decide)

/-- A section fits when it is known and each directive fits by itself. -/
theorem fits_of_forall {kind : UnitKind} {part : UnitSection}
    (hallowed : part.name ∈ allowedSections kind)
    (hdirectives : ∀ directive ∈ part.directives,
      directive.1 ∈ allowedKeys part.name ∧ Str.IsLine directive.2 ∧ directive.2 ≠ "") :
    part.Fits kind where
  allowed := hallowed
  directives directive hdirective :=
    ⟨(hdirectives directive hdirective).1, (hdirectives directive hdirective).2.2⟩
  isLine directive hdirective := (hdirectives directive hdirective).2.1

theorem fits_service {mode : CommandExecutionMode} {spec : ServiceSpec} {exec : String}
    {conditions : List String} (hchecked : Checked mode spec)
    (hdescription : ∀ c ∈ spec.description.toList, Str.isControl c = false)
    (hexec : Renders exec spec.start)
    (hconditions : List.Forall₂ Renders conditions (spec.conditions mode)) :
    ∀ part ∈ serviceParts spec conditions exec, part.Fits .service := by
  have hunit : "Description" ∈ allowedKeys "Unit" := by decide
  have hsections : "Unit" ∈ allowedSections .service ∧ "Service" ∈ allowedSections .service ∧
      "Install" ∈ allowedSections .service := by decide
  have hcommand (key rendered : String) (command : ServiceCommand)
      (hkey : key ∈ ["ExecCondition", "ExecStart"]) (hrendered : Renders rendered command) :
      key ∈ allowedKeys "Service" ∧ Str.IsLine rendered ∧ rendered ≠ "" := by
    refine ⟨?_, isLine_of_renders hrendered⟩
    rcases List.mem_pair.mp hkey with rfl | rfl <;> decide
  have hfixed : ∀ directive ∈ [("Type", "simple"),
      ("RuntimeDirectory", "cosmic-ext-applet-mounter"), ("SuccessExitStatus", "130 143"),
      ("Restart", "on-failure"), ("RestartSec", "5s")],
      directive.1 ∈ allowedKeys "Service" ∧ Str.IsLine directive.2 ∧ directive.2 ≠ "" := by
    decide
  intro part hpart
  simp only [serviceParts, List.mem_cons, List.not_mem_nil, or_false] at hpart
  rcases hpart with rfl | rfl | rfl
  · apply fits_of_forall hsections.1
    intro directive hdirective
    obtain rfl := List.mem_singleton.mp hdirective
    exact ⟨hunit, isLine_of_noControl hdescription, hchecked.description⟩
  · apply fits_of_forall hsections.2.1
    intro directive hdirective
    rcases List.mem_append.mp hdirective with hdirective | hrestart
    · rcases List.mem_append.mp hdirective with hdirective | hstart
      · rcases List.mem_append.mp hdirective with hhead | hcondition
        · exact hfixed directive (List.mem_append_left
            [("Restart", "on-failure"), ("RestartSec", "5s")] hhead)
        · obtain ⟨line, hline, rfl⟩ := List.mem_map.mp hcondition
          obtain ⟨command, -, hrendered⟩ := Rust.Result.exists_of_forall₂ hconditions line hline
          exact hcommand _ _ command List.mem_cons_self hrendered
      · obtain rfl := List.mem_singleton.mp hstart
        exact hcommand _ _ spec.start (List.mem_cons_of_mem _ List.mem_cons_self) hexec
    · apply hfixed directive
      split_ifs at hrestart
      · exact List.mem_append_right [("Type", "simple"),
          ("RuntimeDirectory", "cosmic-ext-applet-mounter"), ("SuccessExitStatus", "130 143")]
          hrestart
      · exact absurd hrestart List.not_mem_nil
  · apply fits_of_forall hsections.2.2
    intro directive hdirective
    obtain rfl := List.mem_singleton.mp hdirective
    exact ⟨by decide, by decide, by decide⟩

/-- What the scan has read of a list of sections. -/
def scanOf (parts : List UnitSection) : Scan :=
  ⟨none, parts.map (·.name), parts.flatMap UnitSection.scanned⟩

theorem one_of_values {scan : Scan} {inSection key value : String}
    (h : scan.values inSection key = [value]) : one scan inSection key = .ok value := by
  rw [one, h]

theorem values_service (spec : ServiceSpec) (conditions : List String) (exec : String)
    {inSection key : String} (hkey : (inSection, key) ≠ ("Service", "ExecCondition")) :
    (scanOf (serviceParts spec conditions exec)).values inSection key =
      (scanOf (serviceParts spec [] exec)).values inSection key := by
  have hnone : (conditions.map fun line ↦ (("Service", "ExecCondition"), line)).filter
      (·.1 == (inSection, key)) = [] := by
    rw [List.filter_eq_nil_iff]
    intro directive hdirective
    obtain ⟨line, -, rfl⟩ := List.mem_map.mp hdirective
    simpa using fun hs hk ↦ hkey (by rw [hs, hk])
  simp only [Scan.values, scanOf, serviceParts, List.flatMap_cons, UnitSection.scanned,
    List.map_append, List.map_map, List.filter_append, Function.comp_def, hnone]
  simp

theorem checkBody_service {spec : ServiceSpec} {exec : String} (conditions : List String)
    (hdescription : ∀ c ∈ spec.description.toList, Str.isControl c = false)
    (hexec : Str.startsWith "\"/" exec = true) :
    checkBody ⟨spec.connectionId, .service⟩ (scanOf (serviceParts spec conditions exec)) =
      .ok () := by
  have hone (inSection key value : String)
      (hkey : (inSection, key) ≠ ("Service", "ExecCondition"))
      (hvalues : (scanOf (serviceParts spec [] exec)).values inSection key = [value]) :
      one (scanOf (serviceParts spec conditions exec)) inSection key = .ok value :=
    one_of_values ((values_service spec conditions exec hkey).trans hvalues)
  have hcontrol : spec.description.toList.any Str.isControl = false := by simpa using hdescription
  have hrestart : (scanOf (serviceParts spec conditions exec)).values "Service" "Restart" =
      (if spec.restartOnFailure then ["on-failure"] else []) ∧
      (scanOf (serviceParts spec conditions exec)).values "Service" "RestartSec" =
      (if spec.restartOnFailure then ["5s"] else []) := by
    rw [values_service _ _ _ (by decide), values_service _ _ _ (by decide)]
    cases hflag : spec.restartOnFailure <;>
      simp [Scan.values, scanOf, serviceParts, UnitSection.scanned, hflag]
  have hsections : checkSections .service (scanOf (serviceParts spec conditions exec)) = .ok () := by
    simp [checkSections, allowedSections, scanOf, serviceParts, require, pure, Except.pure, bind,
      Except.bind]
  have hservice : checkService (scanOf (serviceParts spec conditions exec)) = .ok () := by
    rw [checkService, hone _ _ "simple" (by decide), hone _ _ "cosmic-ext-applet-mounter" (by decide),
      hone _ _ "130 143" (by decide), hone _ _ exec (by decide),
      hone _ _ "default.target" (by decide), hrestart.1, hrestart.2]
    · cases spec.restartOnFailure <;>
        simp [require, hexec, bind, Except.bind]
    all_goals
      cases hflag : spec.restartOnFailure <;>
        simp [Scan.values, scanOf, serviceParts, UnitSection.scanned, hflag]
  have hdescription' : one (scanOf (serviceParts spec conditions exec)) "Unit" "Description" =
      .ok spec.description := by
    apply hone _ _ _ (by decide)
    cases hflag : spec.restartOnFailure <;>
      simp [Scan.values, scanOf, serviceParts, UnitSection.scanned, hflag]
  simp [checkBody, hsections, hdescription', hcontrol, hservice, require, bind, Except.bind]

theorem safeValue_iff {rendered : String} {command : ServiceCommand}
    (h : Renders rendered command) (hescaped : Escaped command) :
    SafeValue rendered ↔ NoReturn command := by
  rw [SafeValue, noReturn_iff h]
  exact and_iff_right (noNul_of_renders h hescaped)

theorem safeValues_iff {conditions : List String} {commands : List ServiceCommand}
    (h : List.Forall₂ Renders conditions commands)
    (hescaped : ∀ command ∈ commands, Escaped command) :
    (∀ line ∈ conditions, SafeValue line) ↔ ∀ command ∈ commands, NoReturn command := by
  induction h with
  | nil => simp
  | cons hline _ ih =>
      rw [List.forall_mem_cons] at hescaped
      rw [List.forall_mem_cons, List.forall_mem_cons, ih hescaped.2,
        safeValue_iff hline hescaped.1]

theorem safeValue_of_noControl {text : String} (h : ∀ c ∈ text.toList, Str.isControl c = false) :
    SafeValue text :=
  ⟨fun hmem ↦ absurd (h _ hmem) (by decide), fun hmem ↦ absurd (h _ hmem) (by decide)⟩

/-- Of a checked service only the commands can hold a refused character. -/
theorem noUnsafeValue_service {spec : ServiceSpec} {exec : String} (conditions : List String)
    (hdescription : ∀ c ∈ spec.description.toList, Str.isControl c = false) :
    NoUnsafeValue (serviceParts spec conditions exec) ↔
      SafeValue exec ∧ ∀ line ∈ conditions, SafeValue line := by
  have htext := safeValue_of_noControl hdescription
  have hfixed : SafeValue "simple" ∧ SafeValue "cosmic-ext-applet-mounter" ∧
      SafeValue "130 143" ∧ SafeValue "on-failure" ∧ SafeValue "5s" ∧
      SafeValue "default.target" := by decide
  obtain ⟨htype, hdirectory, hstatus, hfailure, hdelay, htarget⟩ := hfixed
  cases hrestart : spec.restartOnFailure <;>
    simp only [NoUnsafeValue, serviceParts, hrestart, List.forall_mem_cons,
      List.forall_mem_append, List.forall_mem_map, List.not_mem_nil, false_implies, implies_true,
      htext, htype, hdirectory, hstatus, hfailure, hdelay, htarget, and_true, true_and,
      if_true, if_false, Bool.false_eq_true, and_comm]

theorem validate_service_iff {mode : CommandExecutionMode} {spec : ServiceSpec}
    {document : UnitDocument} (h : UnitDocument.service mode spec = .ok document) :
    validate document = .ok () ↔
      ∀ command ∈ spec.start :: spec.conditions mode, NoReturn command := by
  obtain ⟨-, hchecked⟩ := checked_of_service h
  obtain ⟨_, _, _, -, hdescription, -, -⟩ := service_eq_ok h
  obtain ⟨conditions, exec, rfl, hexec, hconditions⟩ := content_service h
  have hbody := checkBody_service conditions hdescription
    (startsWith_of_renders hexec hchecked.executable)
  have hnames : ["Unit", "Service", "Install"].Nodup := by decide
  have hdecision := validate_sections ⟨spec.connectionId, .service⟩
    (fits_service hchecked hdescription hexec hconditions) hnames
  obtain ⟨hstart, hothers⟩ := List.forall_mem_cons.mp hchecked.commands
  rw [hdecision, noUnsafeValue_service conditions hdescription, safeValue_iff hexec hstart,
    safeValues_iff hconditions hothers, List.forall_mem_cons]
  exact and_iff_left hbody

/-! ## The sections of a timer -/

def timerParts (spec : TimerSpec) : List UnitSection :=
  [⟨"Unit", [("Description", spec.description)]⟩,
    ⟨"Timer", [("OnActiveSec", toString (UnitDocument.asSecs spec.interval) ++ "s"),
      ("OnUnitInactiveSec", toString (UnitDocument.asSecs spec.interval) ++ "s"),
      ("Persistent", if spec.persistent then "true" else "false"),
      ("Unit", UnitName.fileName ⟨spec.connectionId, .service⟩)]⟩,
    ⟨"Install", [("WantedBy", "timers.target")]⟩]

theorem content_timer {spec : TimerSpec} {document : UnitDocument}
    (h : UnitDocument.timer spec = .ok document) :
    document = ⟨⟨spec.connectionId, .timer⟩,
        Str.unlines (sectionLines spec.connectionId (timerParts spec))⟩ ∧
      spec.description ≠ "" ∧ ∀ c ∈ spec.description.toList, Str.isControl c = false := by
  unfold UnitDocument.timer at h
  obtain ⟨_, hdescription, hrest⟩ := Rust.Result.bind_eq_ok h
  by_cases hzero : spec.interval = 0
  · rw [if_pos hzero] at hrest
    cases hrest
  · rw [if_neg hzero] at hrest
    obtain rfl := Except.ok.inj hrest
    refine ⟨?_, validateText_eq_ok hdescription⟩
    have hassoc (s t u : String) : s ++ t ++ u = s ++ (t ++ u) := String.append_assoc
    rw [hassoc "OnActiveSec=", hassoc "OnUnitInactiveSec="]
    simp [sectionLines, timerParts, UnitSection.lines]

/-- A number of seconds has no control characters. -/
theorem noControl_seconds (n : Nat) : ∀ c ∈ (toString n ++ "s").toList, Str.isControl c = false := by
  have hdigits : (toString n).toList = Nat.toDigits 10 n := Nat.toList_repr
  intro c hc
  rw [String.toList_append, hdigits, List.mem_append] at hc
  rcases hc with hc | hc
  · have hdigit := Nat.isDigit_of_mem_toDigits (by decide) (by decide) hc
    rw [Char.isDigit, Bool.and_eq_true, decide_eq_true_eq, decide_eq_true_eq] at hdigit
    have hlow : 48 ≤ c.toNat := hdigit.1
    have hhigh : c.toNat ≤ 57 := hdigit.2
    simp only [Str.isControl, Bool.or_eq_false_iff, Bool.and_eq_false_iff, decide_eq_false_iff_not]
    omega
  · obtain rfl := List.mem_singleton.mp hc
    decide

theorem range_of_isLowerHex {c : Char} (h : isLowerHex c = true) : 48 ≤ c.toNat ∧ c.toNat ≤ 102 := by
  rw [isLowerHex, Bool.or_eq_true, Char.isDigit, Bool.and_eq_true, Bool.and_eq_true] at h
  simp only [decide_eq_true_eq] at h
  rcases h with ⟨hlow, hhigh⟩ | ⟨hlow, hhigh⟩
  · have hlow' : 48 ≤ c.toNat := hlow
    have hhigh' : c.toNat ≤ 57 := hhigh
    omega
  · have hlow' : 97 ≤ c.toNat := hlow
    have hhigh' : c.toNat ≤ 102 := hhigh
    omega

theorem isControl_of_isLowerHex {c : Char} (h : isLowerHex c = true) : Str.isControl c = false := by
  have hrange := range_of_isLowerHex h
  simp only [Str.isControl, Bool.or_eq_false_iff, Bool.and_eq_false_iff, decide_eq_false_iff_not]
  omega

theorem noControl_fileName (name : UnitName) :
    ∀ c ∈ name.fileName.toList, Str.isControl c = false := by
  have hparts : unitPrefix.toList.any Str.isControl = false ∧ ".".toList.any Str.isControl = false ∧
      ∀ kind : UnitKind, kind.extension.toList.any Str.isControl = false := by
    refine ⟨by decide +kernel, by decide, ?_⟩
    intro kind
    cases kind <;> decide
  simp only [List.any_eq_false, Bool.not_eq_true] at hparts
  intro c hc
  simp only [UnitName.fileName, String.toList_append, List.mem_append] at hc
  rcases hc with ((hc | hc) | hc) | hc
  · exact hparts.1 c hc
  · by_contra hcontrol
    have hdash : c ≠ '-' := by
      rintro rfl
      exact hcontrol (by decide)
    have hhex : isLowerHex c = false := by
      by_contra hhex
      rw [Bool.not_eq_false] at hhex
      exact hcontrol (isControl_of_isLowerHex hhex)
    exact Uuid.notMem_text hdash hhex hc
  · exact hparts.2.1 c hc
  · exact hparts.2.2 name.kind c hc

theorem fits_timer {spec : TimerSpec} (hne : spec.description ≠ "")
    (hdescription : ∀ c ∈ spec.description.toList, Str.isControl c = false) :
    ∀ part ∈ timerParts spec, part.Fits .timer := by
  have hkeys : "Description" ∈ allowedKeys "Unit" ∧ "WantedBy" ∈ allowedKeys "Install" ∧
      ∀ key ∈ ["OnActiveSec", "OnUnitInactiveSec", "Persistent", "Unit"],
        key ∈ allowedKeys "Timer" := by decide
  have hsections : "Unit" ∈ allowedSections .timer ∧ "Timer" ∈ allowedSections .timer ∧
      "Install" ∈ allowedSections .timer := by decide
  have hseconds := isLine_of_noControl (noControl_seconds (UnitDocument.asSecs spec.interval))
  have hsecondsNe : toString (UnitDocument.asSecs spec.interval) ++ "s" ≠ "" := by simp
  have hfile := isLine_of_noControl (noControl_fileName ⟨spec.connectionId, .service⟩)
  have hfileNe : UnitName.fileName ⟨spec.connectionId, .service⟩ ≠ "" := by
    simp [UnitName.fileName]
  have hflag : Str.IsLine (if spec.persistent then "true" else "false") ∧
      (if spec.persistent then "true" else "false") ≠ "" := by
    cases spec.persistent <;> decide
  intro part hpart
  simp only [timerParts, List.mem_cons, List.not_mem_nil, or_false] at hpart
  rcases hpart with rfl | rfl | rfl
  · apply fits_of_forall hsections.1
    intro directive hdirective
    obtain rfl := List.mem_singleton.mp hdirective
    exact ⟨hkeys.1, isLine_of_noControl hdescription, hne⟩
  · apply fits_of_forall hsections.2.1
    simp only [List.forall_mem_cons, List.not_mem_nil, false_implies, implies_true, and_true]
    exact ⟨⟨hkeys.2.2 _ (by decide), hseconds, hsecondsNe⟩,
      ⟨hkeys.2.2 _ (by decide), hseconds, hsecondsNe⟩, ⟨hkeys.2.2 _ (by decide), hflag⟩,
      ⟨hkeys.2.2 _ (by decide), hfile, hfileNe⟩⟩
  · apply fits_of_forall hsections.2.2
    intro directive hdirective
    obtain rfl := List.mem_singleton.mp hdirective
    exact ⟨hkeys.2.1, by decide, by decide⟩

theorem noUnsafeValue_timer {spec : TimerSpec}
    (hdescription : ∀ c ∈ spec.description.toList, Str.isControl c = false) :
    NoUnsafeValue (timerParts spec) := by
  have hflag : SafeValue (if spec.persistent then "true" else "false") := by
    cases spec.persistent <;> decide
  have htarget : SafeValue "timers.target" := by decide
  simp only [NoUnsafeValue, timerParts, List.forall_mem_cons, List.not_mem_nil, false_implies,
    implies_true, and_true]
  exact ⟨safeValue_of_noControl hdescription, ⟨safeValue_of_noControl (noControl_seconds _),
    safeValue_of_noControl (noControl_seconds _), hflag,
    safeValue_of_noControl (noControl_fileName _)⟩, htarget⟩

/-- The validator wants the interval to be a whole number of seconds, and not none. -/
theorem checkBody_timer {spec : TimerSpec} (hinterval : UnitDocument.asSecs spec.interval < 2 ^ 64)
    (hdescription : ∀ c ∈ spec.description.toList, Str.isControl c = false) :
    checkBody ⟨spec.connectionId, .timer⟩ (scanOf (timerParts spec)) = .ok () ↔
      0 < UnitDocument.asSecs spec.interval := by
  have hcontrol : spec.description.toList.any Str.isControl = false := by simpa using hdescription
  have hone (inSection key value : String)
      (hvalues : (scanOf (timerParts spec)).values inSection key = [value]) :
      one (scanOf (timerParts spec)) inSection key = .ok value := one_of_values hvalues
  have hsections : checkSections .timer (scanOf (timerParts spec)) = .ok () := by
    simp [checkSections, allowedSections, scanOf, timerParts, require, pure, Except.pure, bind,
      Except.bind]
  have hinterval' (key : String) (hvalues : (scanOf (timerParts spec)).values "Timer" key =
      [toString (UnitDocument.asSecs spec.interval) ++ "s"]) :
      checkInterval (scanOf (timerParts spec)) key =
        require "ui-services-generated-timer-has-invalid-key" [("key", key)]
          (decide (0 < UnitDocument.asSecs spec.interval)) := by
    rw [checkInterval, hone _ _ _ hvalues, Rust.Result.ok_bind, Str.stripSuffix_append,
      Option.bind_some, Str.parseU64_toString hinterval]
    rfl
  have hactive := hinterval' "OnActiveSec"
    (by simp [Scan.values, scanOf, timerParts, UnitSection.scanned])
  have hinactive := hinterval' "OnUnitInactiveSec"
    (by simp [Scan.values, scanOf, timerParts, UnitSection.scanned])
  have hdescription' := hone "Unit" "Description" spec.description
    (by simp [Scan.values, scanOf, timerParts, UnitSection.scanned])
  have hunit := hone "Timer" "Unit" (UnitName.fileName ⟨spec.connectionId, .service⟩)
    (by simp [Scan.values, scanOf, timerParts, UnitSection.scanned])
  have hpersistent := hone "Timer" "Persistent" (if spec.persistent then "true" else "false")
    (by simp [Scan.values, scanOf, timerParts, UnitSection.scanned])
  have hwanted := hone "Install" "WantedBy" "timers.target"
    (by simp [Scan.values, scanOf, timerParts, UnitSection.scanned])
  have hflag : (if spec.persistent then "true" else "false") ∈ ["true", "false"] := by
    cases spec.persistent <;> decide
  rw [checkBody, hsections, Rust.Result.ok_bind, hdescription', Rust.Result.ok_bind, hcontrol]
  by_cases hpositive : 0 < UnitDocument.asSecs spec.interval
  · simp [checkTimer, hactive, hinactive, hunit, hpersistent, hwanted, hpositive, hflag, require,
      bind, Except.bind]
  · simp [checkTimer, hactive, hpositive, require, reject, bind, Except.bind]

theorem validate_timer_iff {spec : TimerSpec} {document : UnitDocument}
    (hinterval : UnitDocument.asSecs spec.interval < 2 ^ 64)
    (h : UnitDocument.timer spec = .ok document) :
    validate document = .ok () ↔ 0 < UnitDocument.asSecs spec.interval := by
  obtain ⟨rfl, hne, hdescription⟩ := content_timer h
  have hnames : ["Unit", "Timer", "Install"].Nodup := by decide
  have hdecision := validate_sections ⟨spec.connectionId, .timer⟩
    (fits_timer hne hdescription) hnames
  rw [hdecision, and_iff_right (noUnsafeValue_timer hdescription)]
  exact checkBody_timer hinterval hdescription

/-! ## Renderer and validator -/

inductive UnitSpec
  | service (spec : ServiceSpec)
  | timer (spec : TimerSpec)

namespace UnitSpec

def connectionId : UnitSpec → ConnectionId
  | .service spec => spec.connectionId
  | .timer spec => spec.connectionId

def render (mode : CommandExecutionMode) : UnitSpec → Except ServiceError UnitDocument
  | .service spec => UnitDocument.service mode spec
  | .timer spec => UnitDocument.timer spec

/-- The seconds of a `Duration` have 64 bits. -/
def HasDuration : UnitSpec → Prop
  | .service _ => True
  | .timer spec => UnitDocument.asSecs spec.interval < 2 ^ 64

/-- No word of a command holds a carriage return, and an interval lasts a second. -/
def IsAcceptable (mode : CommandExecutionMode) : UnitSpec → Prop
  | .service spec => ∀ command ∈ spec.start :: spec.conditions mode, NoReturn command
  | .timer spec => 1000000000 ≤ spec.interval

/-- The document is accepted, and then taken for one of the connection. -/
def Recognised (uuid : UuidParser) (spec : UnitSpec) (document : UnitDocument) : Prop :=
  validate document = .ok () ∧
    parseOwnedConnection uuid document.content = some spec.connectionId

theorem name_of_render {mode : CommandExecutionMode} {spec : UnitSpec} {document : UnitDocument}
    (h : spec.render mode = .ok document) :
    document.name.connectionId = spec.connectionId := by
  cases spec with
  | service spec => rw [(checked_of_service h).1, connectionId]
  | timer spec => rw [(content_timer h).1, connectionId]

end UnitSpec

theorem recognised_iff (uuid : UuidParser) (mode : CommandExecutionMode) {spec : UnitSpec}
    {document : UnitDocument} (hduration : spec.HasDuration)
    (h : spec.render mode = .ok document) :
    spec.Recognised uuid document ↔ spec.IsAcceptable mode := by
  have howned : validate document = .ok () →
      parseOwnedConnection uuid document.content = some spec.connectionId := by
    intro hvalid
    rw [← UnitSpec.name_of_render h]
    exact owned_of_validate uuid hvalid
  rw [UnitSpec.Recognised, and_iff_left_of_imp howned]
  cases spec with
  | service spec => exact validate_service_iff h
  | timer spec =>
      rw [validate_timer_iff hduration h, UnitSpec.IsAcceptable, UnitDocument.asSecs]
      omega

def sampleTimerSpec (interval : Nat) : TimerSpec := ⟨sampleId, "Mirror", interval, true⟩

theorem recognised_sample : ∃ document,
    (UnitSpec.timer (sampleTimerSpec 900000000000)).render .flatpakSpawnHost = .ok document ∧
      (UnitSpec.timer (sampleTimerSpec 900000000000)).Recognised .displayed document := by
  refine ⟨_, rfl, (recognised_iff .displayed .flatpakSpawnHost ?_ rfl).mpr ?_⟩
  · show UnitDocument.asSecs 900000000000 < 2 ^ 64
    decide
  · show 1000000000 ≤ 900000000000
    decide

/-- Half a second is not zero, but it is rendered as no second at all. -/
theorem half_second_is_refused : ∃ document,
    (UnitSpec.timer (sampleTimerSpec 500000000)).render .flatpakSpawnHost = .ok document ∧
      ¬(UnitSpec.timer (sampleTimerSpec 500000000)).Recognised .displayed document := by
  refine ⟨_, rfl, ?_⟩
  rintro ⟨hvalid, -⟩
  have hinterval : UnitDocument.asSecs (sampleTimerSpec 500000000).interval < 2 ^ 64 := by decide
  have hpositive := (validate_timer_iff hinterval rfl).mp hvalid
  exact absurd hpositive (by decide)

end CosmicMounter

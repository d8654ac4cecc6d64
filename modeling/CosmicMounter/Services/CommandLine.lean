import CosmicMounter.Rust.Result
import CosmicMounter.Services.Unit
import CosmicMounter.Systemd.UnitFile

/-!
# Rendered command lines

What the service manager reads from the command lines of a rendered service.
Quotes, backslashes and percent signs survive the reading; dollar signs and
carriage returns are written as they are, and the words that hold them may not.
-/

namespace CosmicMounter

open Rust Systemd

/-- The executable and the arguments of a command. -/
def ServiceCommand.words (command : ServiceCommand) : List (List Char) :=
  (command.executable :: command.arguments).map String.toList

/-! ## Rendering writes quoted words -/

theorem toList_replaceChar (c : Char) (t s : String) :
    (Str.replaceChar c t s).toList = s.toList.flatMap fun d ↦ if d = c then t.toList else [d] := by
  simp [Str.replaceChar]

theorem escapeSystemdArgument_eq_ok {word rendered : String}
    (h : escapeSystemdArgument word = .ok rendered) :
    rendered.toList = quote (doublePercent word.toList) ∧ '\n' ∉ word.toList := by
  unfold escapeSystemdArgument at h
  split_ifs at h with hunsafe
  obtain rfl := Except.ok.inj h
  push Not at hunsafe
  constructor
  · have hquote : ∀ d : Char, (if d = '\\' then "\\\\".toList else [d]).flatMap
        (fun e ↦ if e = '"' then "\\\"".toList else [e]) = quoteChar d := by
      intro d
      by_cases hbackslash : d = '\\'
      · subst hbackslash
        rfl
      · by_cases hquote : d = '"'
        · subst hquote
          rfl
        · simp [quoteChar, hbackslash, hquote]
    have hpercent : ∀ d : Char, (if d = '%' then "%%".toList else [d]) =
        if d = '%' then ['%', '%'] else [d] := fun _ ↦ rfl
    simp only [String.toList_append, toList_replaceChar, List.flatMap_assoc, hquote, hpercent]
    rw [quote, doublePercent, List.flatMap_assoc]
    rfl
  · intro hnewline
    apply hunsafe.2
    rw [List.any_eq_true]
    exact ⟨'\n', hnewline, rfl⟩

/-- Words written one after another, with a space before each. -/
theorem mapM_escapeSystemdArgument {arguments rendered : List String}
    (h : arguments.mapM escapeSystemdArgument = .ok rendered) :
    rendered.map String.toList = (arguments.map String.toList).map (quote ∘ doublePercent) ∧
      ∀ word ∈ arguments, '\n' ∉ word.toList := by
  have hwords := Rust.Result.mapM_eq_ok h
  clear h
  induction hwords with
  | nil => simp
  | cons hword _ ih =>
      obtain ⟨hfirst, hnewline⟩ := escapeSystemdArgument_eq_ok hword
      obtain ⟨hothers, hnewlines⟩ := ih
      exact ⟨by simp [hfirst, hothers], by simpa [hnewline] using hnewlines⟩

theorem spaced_eq_intercalate {words : List (List Char)} (hwords : words ≠ []) :
    spaced words = ' ' :: [' '].intercalate (words.map quote) := by
  induction words with
  | nil => exact absurd rfl hwords
  | cons word words ih =>
      cases words with
      | nil => simp [spaced]
      | cons next words =>
          have hcons : spaced (word :: next :: words) =
              ' ' :: quote word ++ spaced (next :: words) := rfl
          rw [hcons, ih (by simp)]
          simp [List.intercalate]

/-- The text is that of a command, in which no word holds a newline. -/
def Renders (rendered : String) (command : ServiceCommand) : Prop :=
  rendered.toList = writeCommand command.words ∧ ∀ word ∈ command.words, '\n' ∉ word

theorem validateAbsoluteExecutable_eq_ok {path executable : String}
    (h : validateAbsoluteExecutable path = .ok executable) : executable = path := by
  unfold validateAbsoluteExecutable at h
  split_ifs at h
  exact (Except.ok.inj h).symm

theorem renderExecStart_eq_ok {executable : String} {arguments : List String} {rendered : String}
    (h : renderExecStart executable arguments = .ok rendered) :
    Renders rendered ⟨executable, arguments⟩ := by
  unfold renderExecStart at h
  obtain ⟨path, hpath, hargs⟩ := Rust.Result.bind_eq_ok h
  obtain ⟨words, hwords, hexe⟩ := Rust.Result.bind_eq_ok hargs
  obtain ⟨exec, hexec, hdone⟩ := Rust.Result.bind_eq_ok hexe
  obtain rfl := validateAbsoluteExecutable_eq_ok hpath
  obtain ⟨hexec, hnewline⟩ := escapeSystemdArgument_eq_ok hexec
  obtain ⟨hwords, hnewlines⟩ := mapM_escapeSystemdArgument hwords
  refine ⟨?_, by simpa [ServiceCommand.words, hnewline] using hnewlines⟩
  obtain rfl := Except.ok.inj hdone
  have hspaced : (if words.isEmpty then exec else exec ++ " " ++ Str.join " " words).toList =
      exec.toList ++ spaced ((arguments.map String.toList).map doublePercent) := by
    cases words with
    | nil =>
        have harguments : arguments = [] := by simpa using hwords.symm
        subst harguments
        simp [spaced]
    | cons word words =>
        have hne : (arguments.map String.toList).map doublePercent ≠ [] := by
          intro hnil
          simp [List.map_eq_nil_iff.mp (List.map_eq_nil_iff.mp hnil)] at hwords
        rw [spaced_eq_intercalate hne, List.map_map, ← hwords]
        simp [Str.join]
  rw [hspaced, hexec]
  rfl

theorem foldlM_escapeSystemdArgument {arguments : List String} {start rendered : String}
    (h : arguments.foldlM (fun rendered argument ↦ do
      return rendered ++ " " ++ (← escapeSystemdArgument argument)) start = .ok rendered) :
    rendered.toList = start.toList ++ spaced ((arguments.map String.toList).map doublePercent) ∧
      ∀ word ∈ arguments, '\n' ∉ word.toList := by
  induction arguments generalizing start with
  | nil =>
      obtain rfl := Except.ok.inj h
      simp [spaced]
  | cons word arguments ih =>
      rw [List.foldlM_cons] at h
      obtain ⟨next, hnext, h⟩ := Rust.Result.bind_eq_ok h
      obtain ⟨first, hfirst, hnext⟩ := Rust.Result.bind_eq_ok hnext
      obtain rfl := Except.ok.inj hnext
      obtain ⟨hfirst, hnewline⟩ := escapeSystemdArgument_eq_ok hfirst
      obtain ⟨hrest, hnewlines⟩ := ih h
      refine ⟨?_, by simpa [hnewline] using hnewlines⟩
      rw [hrest]
      simp [spaced, hfirst]

theorem renderCondition_eq_ok {command : ServiceCommand} {rendered : String}
    (h : renderCondition command = .ok rendered) : Renders rendered command := by
  unfold renderCondition at h
  obtain ⟨path, hpath, hexe⟩ := Rust.Result.bind_eq_ok h
  obtain ⟨exec, hexec, hfold⟩ := Rust.Result.bind_eq_ok hexe
  obtain rfl := validateAbsoluteExecutable_eq_ok hpath
  obtain ⟨hexec, hnewline⟩ := escapeSystemdArgument_eq_ok hexec
  obtain ⟨hrest, hnewlines⟩ := foldlM_escapeSystemdArgument hfold
  refine ⟨?_, by simpa [ServiceCommand.words, hnewline] using hnewlines⟩
  rw [hrest, hexec]
  rfl

/-! ## The rendered service -/

namespace ServiceSpec

/-- The command of `ExecStart=`. -/
def start (spec : ServiceSpec) : ServiceCommand := ⟨spec.executable, spec.arguments⟩

/-- The commands of `ExecCondition=`, in order: the check for an unmetered
network, then the condition of the specification. -/
def conditions (mode : CommandExecutionMode) (spec : ServiceSpec) : List ServiceCommand :=
  (match UnitDocument.meteredCondition mode spec.skipOnMetered with
    | .ok command => command.toList
    | .error _ => []) ++ spec.preStartCondition.toList

end ServiceSpec

/-- Lines that set `ExecCondition=` to the given commands. -/
def SetConditions (lines : List String) (commands : List ServiceCommand) : Prop :=
  List.Forall₂ (fun line command ↦
    ∃ rendered, line = "ExecCondition=" ++ rendered ∧ Renders rendered command) lines commands

theorem conditionLines_eq_ok {command : Option ServiceCommand} {lines : List String}
    (h : UnitDocument.conditionLines command = .ok lines) :
    SetConditions lines command.toList := by
  cases command with
  | none =>
      obtain rfl := Except.ok.inj h
      exact .nil
  | some command =>
      obtain ⟨rendered, hrendered, hline⟩ := Rust.Result.bind_eq_ok h
      obtain rfl := Except.ok.inj hline
      exact .cons ⟨rendered, rfl, renderCondition_eq_ok hrendered⟩ .nil

theorem service_eq_ok {mode : CommandExecutionMode} {spec : ServiceSpec}
    {document : UnitDocument} (h : UnitDocument.service mode spec = .ok document) :
    ∃ exec metered preStart,
      document.content = Str.unlines (UnitDocument.serviceLines spec metered preStart exec) ∧
      (∀ c ∈ spec.description.toList, Str.isControl c = false) ∧ Renders exec spec.start ∧
      SetConditions (metered ++ preStart) (spec.conditions mode) := by
  unfold UnitDocument.service at h
  obtain ⟨_, hdescription, h₁⟩ := Rust.Result.bind_eq_ok h
  obtain ⟨exec, hexec, h₂⟩ := Rust.Result.bind_eq_ok h₁
  obtain ⟨preStart, hpreStart, h₃⟩ := Rust.Result.bind_eq_ok h₂
  obtain ⟨guard, hguard, h₄⟩ := Rust.Result.bind_eq_ok h₃
  obtain ⟨metered, hmetered, h₅⟩ := Rust.Result.bind_eq_ok h₄
  obtain rfl := Except.ok.inj h₅
  refine ⟨exec, metered, preStart, rfl, ?_, renderExecStart_eq_ok hexec, ?_⟩
  · unfold validateText at hdescription
    split_ifs at hdescription with hunsafe
    push Not at hunsafe
    simpa using hunsafe.2
  · rw [ServiceSpec.conditions, hguard]
    exact List.rel_append (conditionLines_eq_ok hmetered) (conditionLines_eq_ok hpreStart)

/-! ## Reading the document back -/

def itemsOf (lines : List String) : List Item := lines.flatMap fun line ↦ items line.toList

theorem items_unlines (lines : List String) :
    items (Str.unlines lines).toList = itemsOf lines := by
  have htext : (Str.unlines lines).toList = (lines.map String.toList).flatMap (· ++ ['\n']) := by
    rw [Str.toList_unlines, List.flatMap_map]
  rw [htext, items_lines, List.flatMap_map, itemsOf]

theorem itemsOf_append (lines lines' : List String) :
    itemsOf (lines ++ lines') = itemsOf lines ++ itemsOf lines' := List.flatMap_append ..

/-- A line that assigns a text without an end of line to a key. -/
theorem items_assignment (line : String) {key : String} {value : List Char} (hkey : IsKey key.toList)
    (hline : line.toList = key.toList ++ '=' :: value)
    (hkeyEnd : '\n' ∉ key.toList ∧ '\r' ∉ key.toList) (hvalue : '\n' ∉ value ∧ '\r' ∉ value) :
    items line.toList = [.assignment key.toList value] := by
  rw [hline, items_line, parseLine_assignment hkey]
  · rfl
  · intro c hc
    rcases List.mem_append.mp hc with hc | hc
    · exact isEndOfLine_eq_false hkeyEnd c hc
    · rcases List.mem_cons.mp hc with rfl | hc
      · rfl
      · exact isEndOfLine_eq_false hvalue c hc

def execStart : String := "ExecStart"
def execCondition : String := "ExecCondition"

theorem isKey_execStart : IsKey execStart.toList :=
  ⟨by decide, by decide, by decide⟩

theorem isKey_execCondition : IsKey execCondition.toList :=
  ⟨by decide, by decide, by decide⟩

/-- No word of the command holds a carriage return. -/
def NoReturn (command : ServiceCommand) : Prop := ∀ word ∈ command.words, '\r' ∉ word

theorem items_command (line : String) {rendered key : String} {command : ServiceCommand}
    (hkey : IsKey key.toList) (hline : line.toList = key.toList ++ '=' :: rendered.toList)
    (hkeyEnd : '\n' ∉ key.toList ∧ '\r' ∉ key.toList) (hrendered : Renders rendered command)
    (hreturn : NoReturn command) :
    items line.toList = [.assignment key.toList (writeCommand command.words)] := by
  rw [hrendered.1] at hline
  apply items_assignment line hkey hline hkeyEnd
  constructor
  · intro hc
    obtain ⟨word, hword, hc⟩ := (mem_writeCommand hc).resolve_right (by decide)
    exact hrendered.2 word hword hc
  · intro hc
    obtain ⟨word, hword, hc⟩ := (mem_writeCommand hc).resolve_right (by decide)
    exact hreturn word hword hc

/-- A command with a carriage return in a word gives an assignment that cannot be read. -/
theorem items_command_cut (line : String) {rendered key : String} {command : ServiceCommand}
    (hkey : IsKey key.toList) (hline : line.toList = key.toList ++ '=' :: rendered.toList)
    (hkeyEnd : '\n' ∉ key.toList ∧ '\r' ∉ key.toList) (hrendered : Renders rendered command)
    (hreturn : ¬NoReturn command) :
    ∃ cut, .assignment key.toList cut ∈ items line.toList ∧ decodeWords cut = none := by
  have hword : ∃ word ∈ command.words, '\r' ∈ word := by
    unfold NoReturn at hreturn
    push Not at hreturn
    exact hreturn
  obtain ⟨cut, tail, hwrite, hcut, hdecode⟩ := writeCommand_cut hword hrendered.2
  refine ⟨cut, ?_, hdecode⟩
  have hsplit : line.toList = (key.toList ++ '=' :: cut) ++ '\r' :: tail := by
    rw [hline, hrendered.1, hwrite]
    simp
  have hfirst : physicalLines line.toList =
      physicalLines (key.toList ++ '=' :: cut) ++ physicalLines tail := by
    rw [hsplit]
    exact List.splitOnP_append_cons _ _ rfl
  have hitems := items_assignment (.ofList (key.toList ++ '=' :: cut)) hkey (by simp)
    hkeyEnd hcut
  rw [String.toList_ofList] at hitems
  rw [items, hfirst, List.filterMap_append]
  apply List.mem_append_left
  rw [← items, hitems]
  exact List.mem_singleton_self _

/-! ## The items of a service -/

def conditionItems (commands : List ServiceCommand) : List Item :=
  commands.map fun command ↦ .assignment execCondition.toList (writeCommand command.words)

def serviceItems : List Item :=
  [.header "Service".toList, .assignment "Type".toList "simple".toList,
    .assignment "RuntimeDirectory".toList "cosmic-ext-applet-mounter".toList,
    .assignment "SuccessExitStatus".toList "130 143".toList]

def restartItems (restartOnFailure : Bool) : List Item :=
  if restartOnFailure then
    [.assignment "Restart".toList "on-failure".toList, .assignment "RestartSec".toList "5s".toList]
  else []

def tailItems : List Item :=
  [.header "Install".toList, .assignment "WantedBy".toList "default.target".toList]

theorem items_uuidMarker (id : ConnectionId) : items (uuidMarker ++ id.text).toList = [] := by
  have hend : ∀ c ∈ (uuidMarker ++ id.text).toList, isEndOfLine c = false := by
    intro c hc
    rw [String.toList_append] at hc
    rcases List.mem_append.mp hc with hc | hc
    · exact isEndOfLine_eq_false (by decide +kernel) c hc
    · exact isEndOfLine_eq_false ⟨Uuid.notMem_text (by decide) (by decide),
        Uuid.notMem_text (by decide) (by decide)⟩ c hc
  rw [items_line hend, String.toList_append]
  rfl

theorem items_description {description : String}
    (h : ∀ c ∈ description.toList, Str.isControl c = false) :
    items ("Description=" ++ description).toList =
      [.assignment "Description".toList description.toList] := by
  refine items_assignment _ ⟨by decide, by decide, by decide⟩ ?_ (by decide) ⟨?_, ?_⟩
  · rw [String.toList_append]
    rfl
  · exact fun hc ↦ absurd (h _ hc) (by decide)
  · exact fun hc ↦ absurd (h _ hc) (by decide)

theorem itemsOf_cons (line : String) (lines : List String) :
    itemsOf (line :: lines) = items line.toList ++ itemsOf lines := List.flatMap_cons

theorem itemsOf_head (id : ConnectionId) {description : String}
    (h : ∀ c ∈ description.toList, Str.isControl c = false) :
    itemsOf [managedMarker, uuidMarker ++ id.text, "", "[Unit]", "Description=" ++ description, "",
      "[Service]", "Type=simple", "RuntimeDirectory=cosmic-ext-applet-mounter",
      "SuccessExitStatus=130 143"] =
      .header "Unit".toList :: .assignment "Description".toList description.toList ::
        serviceItems := by
  have hmarker : items managedMarker.toList = [] := by decide +kernel
  have hempty : items "".toList = [] := by decide +kernel
  have hunit : items "[Unit]".toList = [.header "Unit".toList] := by decide +kernel
  have hservice : itemsOf ["", "[Service]", "Type=simple",
      "RuntimeDirectory=cosmic-ext-applet-mounter", "SuccessExitStatus=130 143"] =
      serviceItems := by decide +kernel
  rw [itemsOf_cons, itemsOf_cons, itemsOf_cons, itemsOf_cons, itemsOf_cons, hservice, hmarker,
    items_uuidMarker, hempty, hunit, items_description h]
  rfl

theorem itemsOf_conditions {lines : List String} {commands : List ServiceCommand}
    (h : SetConditions lines commands) (hreturn : ∀ command ∈ commands, NoReturn command) :
    itemsOf lines = conditionItems commands := by
  induction h with
  | nil => rfl
  | cons hline _ ih =>
      obtain ⟨rendered, rfl, hrendered⟩ := hline
      rw [itemsOf_cons, ih fun command hcommand ↦ hreturn command (by simp [hcommand]),
        items_command _ isKey_execCondition (String.toList_append ..) (by decide) hrendered
          (hreturn _ (by simp))]
      rfl

/-- The items of a service whose words hold no carriage return. -/
def expectedItems (mode : CommandExecutionMode) (spec : ServiceSpec) : List Item :=
  .header "Unit".toList :: .assignment "Description".toList spec.description.toList ::
    serviceItems ++ conditionItems (spec.conditions mode) ++
    [.assignment execStart.toList (writeCommand spec.start.words)] ++
    restartItems spec.restartOnFailure ++ tailItems

section

variable {mode : CommandExecutionMode} {spec : ServiceSpec} {document : UnitDocument}

theorem items_service (h : UnitDocument.service mode spec = .ok document)
    (hreturn : ∀ command ∈ spec.start :: spec.conditions mode, NoReturn command) :
    items document.content.toList = expectedItems mode spec := by
  obtain ⟨exec, metered, preStart, hcontent, hdescription, hexec, hconditions⟩ := service_eq_ok h
  have hcommands := itemsOf_conditions hconditions fun command hcommand ↦
    hreturn command (by simp [hcommand])
  have hstart : itemsOf ["ExecStart=" ++ exec] =
      [.assignment execStart.toList (writeCommand spec.start.words)] := by
    rw [itemsOf_cons, items_command _ isKey_execStart (String.toList_append ..) (by decide)
      hexec (hreturn _ (by simp))]
    rfl
  have hrestart : itemsOf (if spec.restartOnFailure then
      ["Restart=on-failure", "RestartSec=5s"] else []) = restartItems spec.restartOnFailure := by
    cases spec.restartOnFailure <;> decide +kernel
  have htail : itemsOf ["", "[Install]", "WantedBy=default.target"] = tailItems := by
    decide +kernel
  rw [hcontent, items_unlines, UnitDocument.serviceLines, itemsOf_append, itemsOf_append,
    itemsOf_append, List.append_assoc _ metered, itemsOf_append, itemsOf_head _ hdescription,
    hcommands, hstart, hrestart, htail]
  rfl

/-! ## Meaning what was asked -/

/-- The section headers and the keys of a service, in order. -/
def expectedLabels (mode : CommandExecutionMode) (spec : ServiceSpec) : List String :=
  ["[Unit", "Description", "[Service", "Type", "RuntimeDirectory", "SuccessExitStatus"] ++
    (spec.conditions mode).map (fun _ ↦ execCondition) ++ [execStart] ++
    (if spec.restartOnFailure then ["Restart", "RestartSec"] else []) ++ ["[Install", "WantedBy"]

/-- Under every specifier table and environment the command lines are read as
the commands asked for, and no directive is there that was not written. -/
structure MeansWhatWasAsked (mode : CommandExecutionMode) (spec : ServiceSpec)
    (document : UnitDocument) : Prop where
  start : ∀ specifier value, (values execStart.toList document.content.toList).map
    (readCommand specifier value) = [some spec.start.words]
  conditions : ∀ specifier value, (values execCondition.toList document.content.toList).map
    (readCommand specifier value) = (spec.conditions mode).map fun command ↦ some command.words
  directives : (items document.content.toList).map Item.label =
    (expectedLabels mode spec).map String.toList

theorem values_of_items {key text : List Char} {parts : List Item} (h : items text = parts) :
    values key text = parts.filterMap (Item.valueOf key) := by rw [values, h]

theorem start_values (h : UnitDocument.service mode spec = .ok document)
    (hreturn : ∀ command ∈ spec.start :: spec.conditions mode, NoReturn command) :
    values execStart.toList document.content.toList = [writeCommand spec.start.words] := by
  have hconditions : (conditionItems (spec.conditions mode)).filterMap
      (Item.valueOf execStart.toList) = [] := by
    rw [conditionItems, List.filterMap_map, List.filterMap_eq_nil_iff]
    exact fun _ _ ↦ rfl
  have hrestart : (restartItems spec.restartOnFailure).filterMap
      (Item.valueOf execStart.toList) = [] := by
    cases spec.restartOnFailure <;> rfl
  rw [values_of_items (items_service h hreturn), expectedItems, List.filterMap_append,
    List.filterMap_append, List.filterMap_append, List.filterMap_append, hconditions, hrestart]
  rfl

theorem condition_values (h : UnitDocument.service mode spec = .ok document)
    (hreturn : ∀ command ∈ spec.start :: spec.conditions mode, NoReturn command) :
    values execCondition.toList document.content.toList =
      (spec.conditions mode).map fun command ↦ writeCommand command.words := by
  have hconditions : (conditionItems (spec.conditions mode)).filterMap
      (Item.valueOf execCondition.toList) =
        (spec.conditions mode).map fun command ↦ writeCommand command.words := by
    rw [conditionItems, List.filterMap_map, ← List.filterMap_eq_map]
    rfl
  have hrestart : (restartItems spec.restartOnFailure).filterMap
      (Item.valueOf execCondition.toList) = [] := by
    cases spec.restartOnFailure <;> rfl
  rw [values_of_items (items_service h hreturn), expectedItems, List.filterMap_append,
    List.filterMap_append, List.filterMap_append, List.filterMap_append, hconditions, hrestart]
  have hstart : [Item.assignment execStart.toList (writeCommand spec.start.words)].filterMap
      (Item.valueOf execCondition.toList) = [] := rfl
  have htail : tailItems.filterMap (Item.valueOf execCondition.toList) = [] := rfl
  rw [hstart, htail, List.append_nil, List.append_nil, List.append_nil]
  rfl

theorem words_ne_nil (command : ServiceCommand) : command.words ≠ [] := by
  simp [ServiceCommand.words]

theorem labels_of_items (h : UnitDocument.service mode spec = .ok document)
    (hreturn : ∀ command ∈ spec.start :: spec.conditions mode, NoReturn command) :
    (items document.content.toList).map Item.label =
      (expectedLabels mode spec).map String.toList := by
  have hconditions : (conditionItems (spec.conditions mode)).map Item.label =
      ((spec.conditions mode).map fun _ ↦ execCondition).map String.toList := by
    rw [conditionItems, List.map_map, List.map_map]
    rfl
  have hrestart : (restartItems spec.restartOnFailure).map Item.label =
      (if spec.restartOnFailure then ["Restart", "RestartSec"] else []).map String.toList := by
    cases spec.restartOnFailure <;> rfl
  rw [items_service h hreturn, expectedItems, expectedLabels]
  simp only [List.map_append, hconditions, hrestart]
  rfl

/-- An assignment on one of the lines is an item of the document. -/
theorem mem_values {key cut : List Char} {lines : List String} {line : String}
    (hcontent : document.content = Str.unlines lines) (hline : line ∈ lines)
    (hcut : .assignment key cut ∈ items line.toList) :
    cut ∈ values key document.content.toList := by
  rw [values, hcontent, items_unlines, List.mem_filterMap]
  exact ⟨_, List.mem_flatMap.mpr ⟨line, hline, hcut⟩, if_pos rfl⟩

theorem noReturn_of_means (h : UnitDocument.service mode spec = .ok document)
    (hmeans : MeansWhatWasAsked mode spec document) :
    ∀ command ∈ spec.start :: spec.conditions mode, NoReturn command := by
  obtain ⟨exec, metered, preStart, hcontent, -, hexec, hconditions⟩ := service_eq_ok h
  intro command hcommand
  by_contra hreturn
  rcases List.mem_cons.mp hcommand with rfl | hcommand
  · obtain ⟨cut, hcut, hdecode⟩ := items_command_cut ("ExecStart=" ++ exec)
      isKey_execStart (String.toList_append ..) (by decide) hexec hreturn
    have hvalue := mem_values hcontent (by simp [UnitDocument.serviceLines]) hcut
    have hread := List.mem_map_of_mem (f := readCommand (fun _ ↦ none) unset) hvalue
    rw [hmeans.start, List.mem_singleton, readCommand, hdecode] at hread
    cases hread
  · obtain ⟨line, hline, rendered, rfl, hrendered⟩ : ∃ line ∈ metered ++ preStart,
        ∃ rendered, line = "ExecCondition=" ++ rendered ∧ Renders rendered command := by
      obtain ⟨i, hi, rfl⟩ := List.mem_iff_getElem.mp hcommand
      have hlength := hconditions.length_eq
      exact ⟨_, List.getElem_mem _, hconditions.get (by omega) hi⟩
    obtain ⟨cut, hcut, hdecode⟩ := items_command_cut ("ExecCondition=" ++ rendered)
      isKey_execCondition (String.toList_append ..) (by decide) hrendered hreturn
    have hlines : "ExecCondition=" ++ rendered ∈
        UnitDocument.serviceLines spec metered preStart exec := by
      rcases List.mem_append.mp hline with hline | hline <;>
        simp [UnitDocument.serviceLines, hline]
    have hvalue := mem_values hcontent hlines hcut
    have hread := List.mem_map_of_mem (f := readCommand (fun _ ↦ none) unset) hvalue
    rw [hmeans.conditions, readCommand, hdecode] at hread
    obtain ⟨_, -, hnone⟩ := List.mem_map.mp hread
    cases hnone

/-- No word of the service's commands holds a carriage return or something
that stands for an environment variable. -/
def Plain (mode : CommandExecutionMode) (spec : ServiceSpec) : Prop :=
  ∀ command ∈ spec.start :: spec.conditions mode, ∀ word ∈ command.words,
    '\r' ∉ word ∧ Inert word

instance : Decidable (Plain mode spec) :=
  inferInstanceAs (Decidable (∀ command ∈ spec.start :: spec.conditions mode,
    ∀ word ∈ command.words, _ ∧ _))

theorem plain_of_means (h : UnitDocument.service mode spec = .ok document)
    (hmeans : MeansWhatWasAsked mode spec document) : Plain mode spec := by
  intro command hcommand word hword
  have hreturn := noReturn_of_means h hmeans
  refine ⟨hreturn command hcommand word hword, ?_⟩
  rcases List.mem_cons.mp hcommand with rfl | hcommand
  · have hstart := hmeans.start (fun _ ↦ none) unset
    rw [start_values h hreturn, List.map_singleton,
      readCommand_writeCommand (words_ne_nil _)] at hstart
    exact inert_of_substitute (by simpa using hstart) word hword
  · have hconditions := hmeans.conditions (fun _ ↦ none) unset
    rw [condition_values h hreturn, List.map_map, List.map_inj_left] at hconditions
    have hcondition := hconditions command hcommand
    rw [Function.comp_apply, readCommand_writeCommand (words_ne_nil _)] at hcondition
    exact inert_of_substitute (by simpa using hcondition) word hword

theorem means_of_plain (h : UnitDocument.service mode spec = .ok document)
    (hplain : Plain mode spec) : MeansWhatWasAsked mode spec document := by
  have hreturn : ∀ command ∈ spec.start :: spec.conditions mode, NoReturn command :=
    fun command hcommand word hword ↦ (hplain command hcommand word hword).1
  have hread : ∀ command ∈ spec.start :: spec.conditions mode, ∀ specifier value,
      readCommand specifier value (writeCommand command.words) = some command.words := by
    intro command hcommand specifier value
    rw [readCommand_writeCommand (words_ne_nil command),
      flatMap_substitute fun word hword ↦ (hplain command hcommand word hword).2]
  refine ⟨?_, ?_, labels_of_items h hreturn⟩
  · intro specifier value
    rw [start_values h hreturn, List.map_singleton, hread _ (by simp)]
  · intro specifier value
    rw [condition_values h hreturn, List.map_map]
    exact List.map_congr_left fun command hcommand ↦ hread command (by simp [hcommand]) _ _

/-- A service running one command with one argument. -/
def sampleSpec (argument : String) : ServiceSpec where
  connectionId := sampleId
  description := "Mirror"
  executable := "/usr/bin/rclone"
  arguments := [argument]
  preStartCondition := none
  restartOnFailure := false
  skipOnMetered := false

theorem service_dollar_argument :
    ∃ document, UnitDocument.service .flatpakSpawnHost (sampleSpec "$HOME") = .ok document ∧
      ¬MeansWhatWasAsked .flatpakSpawnHost (sampleSpec "$HOME") document := by
  have hplain : ¬Plain .flatpakSpawnHost (sampleSpec "$HOME") := by decide +kernel
  have hok : (UnitDocument.service .flatpakSpawnHost (sampleSpec "$HOME")).isOk = true := by
    decide +kernel
  cases h : UnitDocument.service .flatpakSpawnHost (sampleSpec "$HOME") with
  | error e =>
      rw [h] at hok
      cases hok
  | ok document => exact ⟨document, rfl, fun hmeans ↦ hplain (plain_of_means h hmeans)⟩

theorem meansWhatWasAsked_iff (h : UnitDocument.service mode spec = .ok document) :
    MeansWhatWasAsked mode spec document ↔ Plain mode spec :=
  ⟨plain_of_means h, means_of_plain h⟩

theorem meansWhatWasAsked_iff_sample :
    ∃ document, UnitDocument.service .flatpakSpawnHost (sampleSpec "a \"b\" \\ 50%") =
        .ok document ∧
      MeansWhatWasAsked .flatpakSpawnHost (sampleSpec "a \"b\" \\ 50%") document := by
  have hok : (UnitDocument.service .flatpakSpawnHost
      (sampleSpec "a \"b\" \\ 50%")).isOk = true := by decide +kernel
  cases h : UnitDocument.service .flatpakSpawnHost (sampleSpec "a \"b\" \\ 50%") with
  | error e =>
      rw [h] at hok
      cases hok
  | ok document => exact ⟨document, rfl, (meansWhatWasAsked_iff h).mpr (by decide +kernel)⟩

end

end CosmicMounter

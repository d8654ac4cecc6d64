import CosmicMounter.App.Sftp
import CosmicMounter.Rust.Result

/-!
# SFTP setup from a redacted dump

The editor reads the configuration through the redacting capture.  A secret
that was empty is no longer empty there, and a value with a token in it is
another value.
-/

namespace CosmicMounter.Sftp

open Rust Serde

/-! ## The redacted section -/

/-- The text of a float. -/
def IsFloatText (text : String) : Prop :=
  ∃ c rest, text.toList = c :: rest ∧ (c.isDigit = true ∨ c = '-')

/-- A float is read back as it was written, or as another float. -/
def RereadsFloats (f : String → String) : Prop :=
  ∀ text, f text = text ∨ IsFloatText text ∧ IsFloatText (f text)

/-- A value as it is read back from the redacted dump. -/
def reread (f : String → String) (value : Value) : Value := (redactJsonValue value).rereadFloats f

section Options

variable {f : String → String} {config : Value} {key : String}

theorem get_reread (hkey : isSensitiveField key = false) :
    (reread f config).get key = (config.get key).map (reread f) := by
  rw [reread, Value.get_rereadFloats, get_redactJsonValue, hkey, Option.map_map]
  rfl

theorem get_reread_sensitive (hkey : isSensitiveField key = true) :
    (reread f config).get key = (config.get key).map fun _ ↦ .string "[REDACTED]" := by
  rw [reread, Value.get_rereadFloats, get_redactJsonValue, hkey, Option.map_map]
  rfl

/-- Redaction and rereading leave the value of the field alone. -/
structure IsKept (f : String → String) (value : Option Value) : Prop where
  string : ∀ s, value = some (.string s) → redactPlainText s = s
  float : ∀ text, value = some (.number (.float text)) → f text = text

theorem stringOption_reread_eq_iff (key : String) (hkey : isSensitiveField key = false) :
    stringOption (reread f config) key = stringOption config key ↔ IsKept f (config.get key) := by
  rw [stringOption, stringOption, get_reread hkey]
  cases hvalue : config.get key with
  | none => exact ⟨fun _ ↦ ⟨by simp, by simp⟩, fun _ ↦ rfl⟩
  | some value =>
      cases value with
      | string s =>
          constructor
          · intro h
            exact ⟨fun s' hs ↦ by cases hs; exact h, by simp⟩
          · intro h
            exact h.string s rfl
      | number n =>
          cases n with
          | float text =>
              constructor
              · intro h
                exact ⟨by simp, fun text' htext ↦ by cases htext; exact h⟩
              · intro h
                exact h.float text rfl
          | unsigned | negative => exact ⟨fun _ ↦ ⟨by simp, by simp⟩, fun _ ↦ rfl⟩
      | null | bool | array | object => exact ⟨fun _ ↦ ⟨by simp, by simp⟩, fun _ ↦ rfl⟩

/-- A word that redaction never produces or changes is found in both or in neither. -/
theorem stringOption_reread_eq_word {word : String} (hf : RereadsFloats f)
    (hkey : isSensitiveField key = false) (hword : Redacts.Unmarked word)
    (hkept : redactPlainText word = word) (hfloat : ¬IsFloatText word) :
    stringOption (reread f config) key = word ↔ stringOption config key = word := by
  rw [stringOption, stringOption, get_reread hkey]
  cases config.get key with
  | none => exact Iff.rfl
  | some value =>
      cases value with
      | string s => exact Redacts.eq_iff_of_unmarked hword hkept
      | number n =>
          cases n with
          | float text =>
              have hiff : f text = word ↔ text = word := by
                rcases hf text with hsame | ⟨htext, hreread⟩
                · rw [hsame]
                · constructor
                  · intro heq
                    exact absurd (heq ▸ hreread) hfloat
                  · intro heq
                    exact absurd (heq ▸ htext) hfloat
              exact hiff
          | unsigned | negative => exact Iff.rfl
      | null | bool | array | object => exact Iff.rfl

theorem not_isFloatText_empty : ¬IsFloatText "" := by
  rintro ⟨c, rest, hempty, -⟩
  cases hempty

theorem stringOption_reread_empty (config : Value) (key : String) (hf : RereadsFloats f)
    (hkey : isSensitiveField key = false) :
    stringOption (reread f config) key = "" ↔ stringOption config key = "" :=
  stringOption_reread_eq_word hf hkey (by decide) (by decide) not_isFloatText_empty

theorem boolOption_reread (config : Value) (key : String) (hf : RereadsFloats f)
    (hkey : isSensitiveField key = false) :
    boolOption (reread f config) key = boolOption config key := by
  have htrue : ¬IsFloatText "true" := by
    rintro ⟨c, rest, htrue, hc⟩
    obtain rfl : 't' = c := (List.cons.inj htrue).1
    exact absurd hc (by decide)
  have hword : stringOption (reread f config) key = "true" ↔ stringOption config key = "true" :=
    stringOption_reread_eq_word hf hkey (by decide) (by decide) htrue
  have hbool : ((reread f config).get key).bind Value.asBool = (config.get key).bind Value.asBool := by
    rw [get_reread hkey]
    cases config.get key with
    | none => rfl
    | some value => simp [reread]
  have hbeq : (stringOption (reread f config) key == "true") = (stringOption config key == "true") := by
    rw [Bool.eq_iff_iff, beq_iff_eq, beq_iff_eq, hword]
  rw [boolOption, boolOption, hbool, hbeq]

theorem isSftp_reread : isSftp (reread f config) = isSftp config := by
  have hplain : isSensitiveField "type" = false := by decide
  rw [isSftp, isSftp, get_reread hplain]
  cases config.get "type" with
  | none => rfl
  | some value =>
      rw [Option.map_some, Option.bind_some, Option.bind_some, reread, Value.asStr_rereadFloats,
        asStr_redactJsonValue]
      cases value.asStr with
      | none => rfl
      | some text =>
          have hiff : redactPlainText text = "sftp" ↔ text = "sftp" :=
            Redacts.eq_iff_of_unmarked (by decide) (by decide)
          rw [Option.map_some, Bool.eq_iff_iff, beq_iff_eq, beq_iff_eq, Option.some.injEq,
            Option.some.injEq, hiff]

/-- A secret that is there counts as a text, whatever it was. -/
theorem stringOption_reread_sensitive (hkey : isSensitiveField key = true) :
    stringOption (reread f config) key = if config.get key = none then "" else "[REDACTED]" := by
  rw [stringOption, get_reread_sensitive hkey]
  cases config.get key with
  | none => rfl
  | some value => rfl

theorem hasPassword_reread (f : String → String) (config : Value) :
    hasPassword (reread f config) = true ↔ config.get "pass" ≠ none := by
  have hkey : isSensitiveField "pass" = true := by decide
  have hredacted : (("[REDACTED]" : String) != "" && "[REDACTED]".utf8ByteSize != 22) = true := by decide
  rw [hasPassword, stringOption_reread_sensitive hkey]
  by_cases hnone : config.get "pass" = none
  · simp [hnone]
  · rw [if_neg hnone]
    exact ⟨fun _ ↦ hnone, fun _ ↦ hredacted⟩

theorem keyPem_reread (f : String → String) (config : Value) :
    stringOption (reread f config) "key_pem" ≠ "" ↔ config.get "key_pem" ≠ none := by
  have hkey : isSensitiveField "key_pem" = true := by decide
  have hredacted : ("[REDACTED]" : String) ≠ "" := by decide
  rw [stringOption_reread_sensitive hkey]
  by_cases hnone : config.get "key_pem" = none
  · simp [hnone]
  · rw [if_neg hnone]
    exact ⟨fun _ ↦ hnone, fun _ ↦ hredacted⟩

theorem get_ne_none_of_stringOption (h : stringOption config key ≠ "") : config.get key ≠ none := by
  intro hnone
  rw [stringOption, hnone] at h
  exact h rfl

end Options

/-! ## The draft -/

def editorFields : List String := ["host", "port", "user", "key_file", "known_hosts_file"]

/-- The way to log in does not hang on whether a secret is empty. -/
def AuthSurvives (config : Value) : Prop :=
  boolOption config "key_use_agent" = true ∨ stringOption config "key_file" ≠ "" ∨
    stringOption config "key_pem" ≠ "" ∨
    (config.get "key_pem" = none ∧ (config.get "pass" = none ∨ hasPassword config = true))

theorem orDefault_eq_iff {value value' : String} (fallback : String) (h : value' = "" ↔ value = "") :
    orDefault value' fallback = orDefault value fallback ↔ value' = value := by
  unfold orDefault
  by_cases hempty : value = ""
  · rw [if_pos hempty, if_pos (h.mpr hempty), hempty, h.mpr hempty]
    exact ⟨fun _ ↦ rfl, fun _ ↦ rfl⟩
  · rw [if_neg hempty, if_neg fun hempty' ↦ hempty (h.mp hempty')]

section Draft

variable {f : String → String} {config : Value}

theorem authOf_reread_iff (hf : RereadsFloats f) :
    authOf (reread f config) = authOf config ↔ AuthSurvives config := by
  have hagent := boolOption_reread config "key_use_agent" hf (by decide)
  have hkeyFile : stringOption (reread f config) "key_file" ≠ "" ↔ stringOption config "key_file" ≠ "" :=
    not_congr (stringOption_reread_empty config "key_file" hf (by decide))
  have hkeyPem := keyPem_reread f config
  have hpassword := hasPassword_reread f config
  have hpemPresent : stringOption config "key_pem" ≠ "" → config.get "key_pem" ≠ none :=
    get_ne_none_of_stringOption
  have hpassPresent : hasPassword config = true → config.get "pass" ≠ none := by
    intro hyes hnone
    simp [hasPassword, stringOption, hnone] at hyes
  simp only [authOf, AuthSurvives, hagent, hkeyFile, hkeyPem, hpassword]
  generalize boolOption config "key_use_agent" = uses
  by_cases hfile : stringOption config "key_file" ≠ ""
  · cases uses <;> simp [hfile]
  · by_cases hpem : stringOption config "key_pem" ≠ ""
    · cases uses <;> simp [hfile, hpem, hpemPresent hpem]
    · by_cases hnone : config.get "key_pem" = none
      · by_cases hyes : hasPassword config = true
        · cases uses <;> simp [hfile, hpem, hnone, hyes, hpassPresent hyes]
        · by_cases hpass : config.get "pass" = none
          · cases uses <;> simp [hfile, hpem, hnone, hyes, hpass]
          · cases uses <;> simp [hfile, hpem, hnone, hyes, hpass]
      · by_cases hyes : hasPassword config = true
        · cases uses <;> simp [hfile, hpem, hnone, hyes]
        · cases uses <;> simp [hfile, hpem, hnone, hyes]

theorem fromConfig_reread_iff (env : Environment) (hf : RereadsFloats f) :
    SftpDraft.fromConfig env (reread f config) = SftpDraft.fromConfig env config ↔
      (∀ key ∈ editorFields, IsKept f (config.get key)) ∧ AuthSurvives config := by
  have hport := orDefault_eq_iff "22" (stringOption_reread_empty config "port" hf (by decide))
  have hknown := orDefault_eq_iff "~/.ssh/known_hosts"
    (stringOption_reread_empty config "known_hosts_file" hf (by decide))
  rw [← authOf_reread_iff hf]
  simp only [editorFields, List.forall_mem_cons, List.not_mem_nil, false_implies, implies_true, and_true]
  rw [← stringOption_reread_eq_iff "host" (by decide),
    ← stringOption_reread_eq_iff "port" (by decide),
    ← stringOption_reread_eq_iff "user" (by decide),
    ← stringOption_reread_eq_iff "key_file" (by decide),
    ← stringOption_reread_eq_iff "known_hosts_file" (by decide), ← hport, ← hknown]
  simp only [SftpDraft.fromConfig, SftpDraft.default, SftpDraft.mk.injEq]
  tauto

end Draft

/-! ## The request -/

theorem not_ok_iff_toOption {α ε : Type} {x : Except ε α} :
    x.toOption = none ↔ ∃ e, x = .error e := by
  cases x with
  | error e => simp [Except.toOption]
  | ok a => simp [Except.toOption]

section Request

variable {f : String → String} {config : Value} {env : Environment} {name : String} {draft : SftpDraft}

theorem setupRequest_of_invalid (existing : Option Value) (h : isRemoteCreateName name = false) :
    setupRequest env name draft existing = .error ⟨"validation-rclone-name", []⟩ := by
  rw [setupRequest, validateRcloneRemoteCreateName, h]
  rfl

/-- An existing remote that is refused makes every request fail. -/
theorem setupRequest_of_refused (env : Environment) (name : String) (draft : SftpDraft)
    (h : isSftp config = true)
    (hcustom : stringOption config "ssh" ≠ "" ∨ stringOption config "key_pem" ≠ "") :
    ∃ e, setupRequest env name draft (some config) = .error e := by
  have hrefused : checkExisting config = .error ⟨"sftp-custom-ssh", []⟩ := by
    rw [checkExisting, h, if_pos hcustom]
    rfl
  rw [setupRequest]
  cases hname : validateRcloneRemoteCreateName name with
  | error e => exact ⟨e, rfl⟩
  | ok _ =>
      cases hdraft : draft.validate env with
      | error e => exact ⟨e, rfl⟩
      | ok _ =>
          refine ⟨⟨"sftp-custom-ssh", []⟩, ?_⟩
          simp only [hrefused]
          rfl

theorem checkExisting_ok (h : isSftp config = true) (hssh : stringOption config "ssh" = "")
    (hpem : stringOption config "key_pem" = "") : checkExisting config = .ok () := by
  have hplain : ¬(stringOption config "ssh" ≠ "" ∨ stringOption config "key_pem" ≠ "") := by
    simp [hssh, hpem]
  simp only [checkExisting, h, hplain, if_false]
  rfl

theorem auth_fromConfig (env : Environment) (config : Value) :
    (SftpDraft.fromConfig env config).auth = authOf config := rfl

theorem hasPassword_of_authOf (h : authOf config = .password) : hasPassword config = true := by
  unfold authOf at h
  split_ifs at h with _ _ hpassword
  exact hpassword

/-- The options do not see that the section was redacted. -/
theorem authPairs_reread
    (hdraft : SftpDraft.fromConfig env (reread f config) = SftpDraft.fromConfig env config) :
    authPairs env draft (some (reread f config)) = authPairs env draft (some config) := by
  have hauth : authOf (reread f config) = authOf config := by
    rw [← auth_fromConfig env, hdraft, auth_fromConfig]
  have hlogin : ((SftpDraft.fromConfig env config).auth = .password ∧
        hasPassword (reread f config) = true) ↔
      ((SftpDraft.fromConfig env config).auth = .password ∧ hasPassword config = true) := by
    rw [auth_fromConfig]
    constructor
    · rintro ⟨hpassword, -⟩
      exact ⟨hpassword, hasPassword_of_authOf hpassword⟩
    · rintro ⟨hpassword, -⟩
      exact ⟨hpassword, hasPassword_of_authOf (hauth.trans hpassword)⟩
  unfold authPairs
  simp only [Option.map_some, hdraft]
  cases hchoice : draft.auth with
  | password => simp only [Option.any_some, decide_eq_true_eq, hlogin]
  | key => rfl
  | agent => rfl

theorem setupRequest_reread
    (hdraft : SftpDraft.fromConfig env (reread f config) = SftpDraft.fromConfig env config)
    (hchecked : checkExisting (reread f config) = checkExisting config) :
    setupRequest env name draft (some (reread f config)) =
      setupRequest env name draft (some config) := by
  unfold setupRequest
  simp only [hchecked, authPairs_reread hdraft]
  rfl

end Request

/-! ## Agreement -/

/-- The prefill, and every setup request, are the same from the redacted dump
as from the dump itself. -/
structure SameSetup (env : Environment) (json : SerdeJson) (dump name : String) : Prop where
  prefill : prefillFromDump env json (redactText json dump) name = prefillFromDump env json dump name
  setup : ∀ draft, (setupFromDump env json (redactText json dump) name draft).toOption =
    (setupFromDump env json dump name draft).toOption

/-- What redaction must leave alone in the section of an SFTP remote. -/
structure SectionSurvives (f : String → String) (name : String) (config : Value) : Prop where
  plainName : isSensitiveField name = false
  kept : ∀ key ∈ editorFields, IsKept f (config.get key)
  auth : AuthSurvives config
  keyPem : config.get "key_pem" = none ∨ stringOption config "key_pem" ≠ "" ∨
    stringOption config "ssh" ≠ "" ∨ isRemoteCreateName name = false

def DumpSurvives (f : String → String) (name : String) (fields : Fields) : Prop :=
  ∀ config, fields.get name = some config → isSftp config = true → SectionSurvives f name config

/-- A draft that any remote accepts. -/
def agentDraft : SftpDraft where
  host := "h"
  port := "22"
  user := "u"
  auth := .agent
  password := ""
  keyFile := ""
  keyPassphrase := ""
  knownHosts := "/k"

section Agreement

variable {f : String → String} {config : Value} {env : Environment} {name : String}

theorem isPlainArgument_of_isRemoteCreateName (h : isRemoteCreateName name = true) :
    isPlainArgument name = true := by
  rw [isRemoteCreateName, Bool.and_eq_true, List.all_eq_true] at h
  rw [isPlainArgument, Bool.not_eq_true', List.any_eq_false]
  intro c hc hcontrol
  have hallowed := h.2 c hc
  have hcases : c = '\x00' ∨ c = '\n' ∨ c = '\r' := by simpa using hcontrol
  rcases hcases with rfl | rfl | rfl
  all_goals exact absurd hallowed (by decide)

theorem filePath_agentDraft : filePath env "sftp-known-hosts-label" "/k" = .ok "/k" := by
  have htrim : Str.trim "/k" = "/k" := by decide
  have hplain : validateSetupValue "sftp-known-hosts-label" "/k" = .ok () := by decide
  have hexpand : expandUserPath env "/k" = "/k" := by
    have hne : ("/k" : String) ≠ "~" := by decide
    have hstrip : Str.stripPrefix "~/" "/k" = none := by decide
    rw [expandUserPath, if_neg hne, hstrip]
  have habsolute : Path.isAbsolute "/k" = true := by decide
  have hne : ("/k" : String) ≠ "" := by decide
  simp [filePath, optionalSetupValue, htrim, hne, hplain, hexpand, habsolute, bind, Except.bind, pure,
    Except.pure]

theorem validate_agentDraft : agentDraft.validate env = .ok () := by
  have hhost : requireSetupValue "sftp-host-label" "h" = .ok () := by decide
  have huser : requireSetupValue "sftp-user-label" "u" = .ok () := by decide
  have hspace : Str.isWhitespace 'h' = false := by decide
  have hport : (parsePort (Str.trim "22")).isNone = false := by decide
  simp [SftpDraft.validate, agentDraft, hhost, huser, hspace, hport, filePath_agentDraft, bind,
    Except.bind, pure, Except.pure]

theorem exists_authPairs_agentDraft (env : Environment) (config : Value) :
    ∃ pairs, authPairs env agentDraft (some config) = .ok pairs ∧
      ∀ pair ∈ pairs, isPlainArgument pair.1 = true ∧ isPlainArgument pair.2 = true := by
  by_cases hsame : (SftpDraft.fromConfig env config).auth = .agent
  · refine ⟨[("pass", ""), ("key_file_pass", "")], ?_, by decide⟩
    simp [authPairs, agentDraft, hsame, pure, Except.pure]
  · refine ⟨[("pass", ""), ("key_file_pass", ""), ("key_file", ""), ("pubkey_file", ""),
      ("pubkey", "")], ?_, by decide⟩
    simp [authPairs, agentDraft, hsame, pure, Except.pure]

theorem isPlainArgument_setupArgs {pairs : List (String × String)}
    (hname : isRemoteCreateName name = true)
    (hpairs : ∀ pair ∈ pairs, isPlainArgument pair.1 = true ∧ isPlainArgument pair.2 = true) :
    ∀ arg ∈ setupArgs name true pairs, isPlainArgument arg.1.value = true := by
  intro arg harg
  simp only [setupArgs, List.mem_append, List.mem_cons, List.mem_flatMap, List.not_mem_nil, or_false,
    if_true] at harg
  rcases harg with ((rfl | rfl | rfl) | ⟨pair, hpair, rfl | rfl⟩) | rfl | rfl
  · decide
  · decide
  · exact isPlainArgument_of_isRemoteCreateName hname
  · exact (hpairs pair hpair).1
  · exact (hpairs pair hpair).2
  · decide
  · decide

theorem exists_setupRequest_agentDraft (env : Environment)
    (hname : isRemoteCreateName name = true)
    (hchecked : checkExisting config = .ok ()) :
    ∃ request, setupRequest env name agentDraft (some config) = .ok request := by
  obtain ⟨authentication, hauthentication, hplain⟩ := exists_authPairs_agentDraft env config
  have hvalid : validateRcloneRemoteCreateName name = .ok () := by
    rw [validateRcloneRemoteCreateName, hname]
    rfl
  have htrim : Str.trim "h" = "h" ∧ Str.trim "22" = "22" ∧ Str.trim "u" = "u" := by decide
  have hpairs : ∀ pair ∈ [("host", "h"), ("port", "22"), ("user", "u"), ("known_hosts_file", "/k"),
      ("ask_password", "false"), ("key_use_agent", "true")] ++ authentication,
      isPlainArgument pair.1 = true ∧ isPlainArgument pair.2 = true := by
    rw [List.forall_mem_append]
    exact ⟨by decide, hplain⟩
  obtain ⟨args, hargs⟩ := exists_pushArgs (isPlainArgument_setupArgs hname hpairs) []
  refine ⟨{ args, timeout := 30 * 10 ^ 9 }, ?_⟩
  have hdraft : agentDraft.host = "h" ∧ agentDraft.port = "22" ∧ agentDraft.user = "u" ∧
      agentDraft.knownHosts = "/k" ∧ agentDraft.auth = .agent := ⟨rfl, rfl, rfl, rfl, rfl⟩
  simp only [List.cons_append, List.nil_append] at hargs
  simp [setupRequest, hvalid, validate_agentDraft, hchecked, hdraft, filePath_agentDraft, hauthentication,
    htrim, hargs, bind, Except.bind, pure, Except.pure]

theorem sectionIn_reread (fields : Fields) :
    sectionIn (reread f (.object fields)) name = match fields.get name with
      | none => .ok none
      | some config =>
          if isSensitiveField name = false ∧ isSftp config = true then .ok (some (reread f config))
          else .error ⟨"sftp-wrong-provider", []⟩ := by
  obtain ⟨fields', hobject, hget⟩ : ∃ fields', reread f (.object fields) = .object fields' ∧
      fields'.get name = (reread f (.object fields)).get name := ⟨_, rfl, rfl⟩
  have hfield : (Value.object fields).get name = fields.get name := rfl
  rw [hobject, sectionIn, hget]
  by_cases hname : isSensitiveField name = true
  · rw [get_reread_sensitive hname, hfield]
    cases fields.get name with
    | none => rfl
    | some config => simp [hname, isSftp, Value.get]
  · rw [Bool.not_eq_true] at hname
    rw [get_reread hname, hfield]
    cases fields.get name with
    | none => rfl
    | some config => simp only [Option.map_some, isSftp_reread, hname, true_and]

theorem sectionIn_object (fields : Fields) :
    sectionIn (.object fields) name = match fields.get name with
      | none => .ok none
      | some config =>
          if isSftp config = true then .ok (some config) else .error ⟨"sftp-wrong-provider", []⟩ := rfl

/-- Both setups of a section that survives are the same. -/
theorem SectionSurvives.setupRequest (hf : RereadsFloats f) (hsftp : isSftp config = true)
    (h : SectionSurvives f name config) (draft : SftpDraft) :
    (setupRequest env name draft (some (reread f config))).toOption =
      (setupRequest env name draft (some config)).toOption := by
  have hdraft := (fromConfig_reread_iff env hf).mpr ⟨h.kept, h.auth⟩
  have hssh := stringOption_reread_empty config "ssh" hf (by decide)
  by_cases hcustom : stringOption config "ssh" ≠ "" ∨ stringOption config "key_pem" ≠ ""
  · have hcustom' : stringOption (reread f config) "ssh" ≠ "" ∨
        stringOption (reread f config) "key_pem" ≠ "" := by
      rcases hcustom with hraw | hraw
      · exact Or.inl (not_congr hssh |>.mpr hraw)
      · exact Or.inr ((keyPem_reread f config).mpr (get_ne_none_of_stringOption hraw))
    have hsftp' : isSftp (reread f config) = true := isSftp_reread.trans hsftp
    obtain ⟨e, he⟩ := setupRequest_of_refused env name draft hsftp hcustom
    obtain ⟨e', he'⟩ := setupRequest_of_refused env name draft hsftp' hcustom'
    rw [he, he']
    rfl
  · by_cases hname : isRemoteCreateName name = true
    · have hplain : stringOption config "ssh" = "" ∧ stringOption config "key_pem" = "" := by
        simpa [not_or] using hcustom
      have hnone : config.get "key_pem" = none := by
        have hcases := h.keyPem
        simpa [hplain, hname] using hcases
      have hpem' : stringOption (reread f config) "key_pem" = "" := by
        by_contra hne
        exact (keyPem_reread f config).mp hne hnone
      have hchecked : checkExisting (reread f config) = checkExisting config := by
        rw [checkExisting_ok hsftp hplain.1 hplain.2,
          checkExisting_ok (isSftp_reread.trans hsftp) (hssh.mpr hplain.1) hpem']
      rw [setupRequest_reread hdraft hchecked]
    · rw [Bool.not_eq_true] at hname
      rw [setupRequest_of_invalid _ hname, setupRequest_of_invalid _ hname]

/-- An empty key of the section must not look like a key afterwards. -/
theorem keyPem_of_setup (hsftp : isSftp config = true)
    (h : (Sftp.setupRequest env name agentDraft (some (reread f config))).toOption =
      (Sftp.setupRequest env name agentDraft (some config)).toOption) :
    config.get "key_pem" = none ∨ stringOption config "key_pem" ≠ "" ∨
      stringOption config "ssh" ≠ "" ∨ isRemoteCreateName name = false := by
  by_contra hnone
  simp only [not_or, not_not, ne_eq, Bool.not_eq_false] at hnone
  obtain ⟨hpem, hempty, hssh, hname⟩ := hnone
  obtain ⟨request, hrequest⟩ := exists_setupRequest_agentDraft env hname
    (checkExisting_ok hsftp hssh hempty)
  obtain ⟨e, he⟩ := setupRequest_of_refused env name agentDraft
    (isSftp_reread.trans hsftp) (Or.inr ((keyPem_reread f config).mpr hpem))
  rw [hrequest, he] at h
  cases h

theorem sameSetup_iff {json : SerdeJson} {dump : String} {fields : Fields}
    (hdump : json.fromStr dump = .ok (.object fields))
    (hreread : json.fromStr (json.toString (redactJsonValue (.object fields))) =
      .ok (reread f (.object fields))) (hf : RereadsFloats f) :
    SameSetup env json dump name ↔ DumpSurvives f name fields := by
  have htext : redactText json dump = json.toString (redactJsonValue (.object fields)) := by
    rw [redactText, hdump]
  have hraw : configSection json dump name = sectionIn (.object fields) name := by
    rw [configSection, hdump]
  have hredacted : configSection json (redactText json dump) name =
      sectionIn (reread f (.object fields)) name := by
    rw [configSection, htext, hreread]
  constructor
  · rintro ⟨hprefill, hsetup⟩ config hconfig hsftp
    rw [prefillFromDump, prefillFromDump, hraw, hredacted, sectionIn_reread, sectionIn_object, hconfig]
      at hprefill
    have hagent := hsetup agentDraft
    rw [setupFromDump, setupFromDump, hraw, hredacted, sectionIn_reread, sectionIn_object, hconfig]
      at hagent
    simp only [hsftp, and_true, if_true] at hprefill hagent
    by_cases hname : isSensitiveField name = false
    · rw [if_pos hname] at hprefill hagent
      have hdraft : SftpDraft.fromConfig env (reread f config) = SftpDraft.fromConfig env config :=
        Option.some.inj (Except.ok.inj hprefill)
      obtain ⟨hkept, hauth⟩ := (fromConfig_reread_iff env hf).mp hdraft
      exact ⟨hname, hkept, hauth, keyPem_of_setup hsftp hagent⟩
    · rw [if_neg hname] at hprefill
      cases hprefill
  · intro h
    have hcases : (sectionIn (reread f (.object fields)) name = sectionIn (.object fields) name) ∨
        ∃ config, fields.get name = some config ∧ isSftp config = true ∧
          sectionIn (reread f (.object fields)) name = .ok (some (reread f config)) ∧
          sectionIn (.object fields) name = .ok (some config) := by
      rw [sectionIn_reread, sectionIn_object]
      cases hconfig : fields.get name with
      | none => exact Or.inl rfl
      | some config =>
          by_cases hsftp : isSftp config = true
          · right
            have hname := (h config hconfig hsftp).plainName
            exact ⟨config, rfl, hsftp, by simp [hname, hsftp], by simp [hsftp]⟩
          · left
            simp [hsftp]
    constructor
    · rw [prefillFromDump, prefillFromDump, hraw, hredacted]
      rcases hcases with hsame | ⟨config, hconfig, hsftp, hsection, hsection'⟩
      · rw [hsame]
      · have hsurvives := h config hconfig hsftp
        have hdraft := (fromConfig_reread_iff env hf).mpr ⟨hsurvives.kept, hsurvives.auth⟩
        rw [hsection, hsection', Result.ok_bind, Result.ok_bind, Option.map_some, Option.map_some, hdraft]
    · intro draft
      rw [setupFromDump, setupFromDump, hraw, hredacted]
      rcases hcases with hsame | ⟨config, hconfig, hsftp, hsection, hsection'⟩
      · rw [hsame]
      · rw [hsection, hsection', Result.ok_bind, Result.ok_bind]
        exact (h config hconfig hsftp).setupRequest hf hsftp draft

end Agreement

/-! ## Samples -/

def sampleEnvironment : Environment := ⟨some "alice", some "/home/alice"⟩

def sampleDump (pass : String) : String :=
  "\x7b\"remote\":\x7b\"type\":\"sftp\",\"host\":\"files.example\",\"pass\":\"" ++ pass ++ "\"\x7d\x7d"

def sampleFields (pass : String) : Fields :=
  .cons "remote" (.ofFields [("type", .string "sftp"), ("host", .string "files.example"),
    ("pass", .string pass)]) .nil

/-- A parser and a writer that know the sample dumps. -/
def sampleJson : SerdeJson where
  fromStr text :=
    match ["secret", "", "[REDACTED]"].find? (sampleDump · == text) with
    | some pass => .ok (.object (sampleFields pass))
    | none => .error "expected value at line 1 column 1"
  toString value :=
    match ((value.get "remote").bind (Value.get "pass")).bind Value.asStr with
    | some pass => sampleDump pass
    | none => "null"

theorem sameSetup_sample : SameSetup sampleEnvironment sampleJson (sampleDump "secret") "remote" := by
  have hfound : ["secret", "", "[REDACTED]"].find? (sampleDump · == sampleDump "secret") = some "secret" ∧
      ["secret", "", "[REDACTED]"].find? (sampleDump · == sampleDump "[REDACTED]") = some "[REDACTED]" := by
    decide
  have hvalue : redactJsonValue (.object (sampleFields "secret")) = .object (sampleFields "[REDACTED]") := by
    have hplain : isSensitiveField "remote" = false ∧ isSensitiveField "type" = false ∧
        isSensitiveField "host" = false ∧ isSensitiveField "pass" = true := by decide
    have hkept : redactPlainText "sftp" = "sftp" ∧ redactPlainText "files.example" = "files.example" := by
      decide
    simp [sampleFields, Value.ofFields, redactJsonValue, redactFields, hplain, hkept]
  have hwritten : sampleJson.toString (.object (sampleFields "[REDACTED]")) = sampleDump "[REDACTED]" := rfl
  have hread : sampleJson.fromStr (sampleDump "secret") = .ok (.object (sampleFields "secret")) := by
    simp only [sampleJson, hfound.1]
  have hreread : sampleJson.fromStr
      (sampleJson.toString (redactJsonValue (.object (sampleFields "secret")))) =
      .ok (reread id (.object (sampleFields "secret"))) := by
    rw [reread, hvalue, hwritten]
    simp only [sampleJson, hfound.2]
    rfl
  apply (sameSetup_iff hread hreread fun _ ↦ Or.inl rfl).mpr
  intro config hconfig _
  obtain rfl := Option.some.inj hconfig
  have habsent {value : Option Value} (h : value = none) : IsKept id value := by
    subst h
    exact ⟨by simp, by simp⟩
  have hhost : redactPlainText "files.example" = "files.example" := by decide
  refine ⟨by decide, ?_, Or.inr (Or.inr (Or.inr ⟨rfl, Or.inr (by decide)⟩)), Or.inl rfl⟩
  simp only [editorFields, List.forall_mem_cons, List.not_mem_nil, false_implies, implies_true, and_true]
  refine ⟨⟨?_, ?_⟩, habsent rfl, habsent rfl, habsent rfl, habsent rfl⟩
  · intro s hs
    rw [← Value.string.inj (Option.some.inj hs), hhost]
  · intro text htext
    cases htext

/-- A draft that keeps the password of the remote. -/
def passwordDraft : SftpDraft := { agentDraft with auth := .password }

/-- An empty password becomes a login with a password, which an update keeps. -/
theorem empty_password_becomes_login :
    (prefillFromDump sampleEnvironment sampleJson (sampleDump "") "remote").map
        (Option.map SftpDraft.auth) = .ok (some .agent) ∧
      (prefillFromDump sampleEnvironment sampleJson (redactText sampleJson (sampleDump "")) "remote").map
        (Option.map SftpDraft.auth) = .ok (some .password) ∧
      (setupFromDump sampleEnvironment sampleJson (sampleDump "") "remote" passwordDraft).toOption = none ∧
      (setupFromDump sampleEnvironment sampleJson (redactText sampleJson (sampleDump "")) "remote"
        passwordDraft).toOption ≠ none := by
  refine ⟨rfl, rfl, rfl, ?_⟩
  decide

end CosmicMounter.Sftp

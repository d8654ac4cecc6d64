import CosmicMounter.App.SftpAgreement
import CosmicMounter.Rust.Trimming

/-!
# What an SFTP update leaves in the configuration

The section of the remote after rclone has applied the pairs of a setup
request, and what the editor reads back from it.
-/

namespace Serde

def Fields.set (name : String) (field : Value) : Fields → Fields
  | .nil => .cons name field .nil
  | .cons key value rest => if key = name then .cons key field rest else .cons key value (rest.set name field)

theorem Fields.get_set (name other : String) (field : Value) (fields : Fields) :
    (fields.set name field).get other = if name = other then some field else fields.get other := by
  cases fields with
  | nil => rfl
  | cons key value rest =>
      rw [Fields.set]
      by_cases hkey : key = name
      · subst hkey
        rw [if_pos rfl, Fields.get, Fields.get]
        split_ifs <;> rfl
      · rw [if_neg hkey, Fields.get, Fields.get, get_set name other field rest]
        by_cases hother : key = other
        · subst hother
          rw [if_pos rfl, if_neg (Ne.symm hkey), if_pos rfl]
        · rw [if_neg hother, if_neg hother]

end Serde

namespace CosmicMounter.Sftp

open Rust Serde

/-! ## What rclone makes of a request -/

def pairUp : List String → List (String × String)
  | key :: value :: rest => (key, value) :: pairUp rest
  | _ => []

/-- The options of the command: everything after the name, or after the backend of a
new remote, up to the two flags. -/
def SetupRequest.pairs (request : SetupRequest) : List (String × String) :=
  let texts := request.args.map (·.value)
  pairUp (texts.drop (if texts[1]? = some "create" then 4 else 3)).dropLast.dropLast

section Apply

variable (obscure : String → String)

/-- A secret is stored obscured. -/
def storedValue (key value : String) : Value :=
  .string (if key = "pass" ∨ key = "key_file_pass" then obscure value else value)

def applyPair (config : Value) (pair : String × String) : Value :=
  match config with
  | .object fields => .object (fields.set pair.1 (storedValue obscure pair.1 pair.2))
  | other => other

def newSection : Value := .ofFields [("type", .string "sftp")]

/-- The section after the command. -/
def applied (existing : Option Value) (pairs : List (String × String)) : Value :=
  pairs.foldl (applyPair obscure) (existing.getD newSection)

end Apply

/-- An obscured secret: 16 bytes more than the secret, in unpadded base64. -/
structure Obscures (obscure : String → String) : Prop where
  empty : (obscure "").utf8ByteSize = 22
  nonempty : ∀ secret, secret ≠ "" → obscure secret ≠ "" ∧ (obscure secret).utf8ByteSize ≠ 22

section Reading

variable {obscure : String → String} {key : String}

/-- The last pair with the key decides. -/
theorem get_foldl_applyPair (pairs : List (String × String)) (fields : Fields) :
    (pairs.foldl (applyPair obscure) (.object fields)).get key =
      pairs.foldl (fun found pair ↦ if pair.1 = key then some (storedValue obscure pair.1 pair.2) else found)
        (fields.get key) := by
  induction pairs generalizing fields with
  | nil => rfl
  | cons pair rest ih =>
      rw [List.foldl_cons, List.foldl_cons, ← Fields.get_set, ← ih]
      rfl

theorem pairUp_flatMap (pairs : List (String × String)) :
    pairUp (pairs.flatMap fun pair ↦ [pair.1, pair.2]) = pairs := by
  induction pairs with
  | nil => rfl
  | cons pair rest ih => rw [List.flatMap_cons, List.cons_append, List.cons_append, List.nil_append, pairUp, ih]

theorem pushArgs_eq_ok {args result : List CommandArg} {more : List (CommandArg × Message)}
    (h : pushArgs args more = .ok result) : result = args ++ more.map Prod.fst := by
  induction more generalizing args with
  | nil =>
      obtain rfl := Except.ok.inj h
      simp
  | cons arg more ih =>
      rw [pushArgs, List.foldlM_cons] at h
      obtain ⟨args', hpush, hrest⟩ := Result.bind_eq_ok h
      split_ifs at hpush
      obtain rfl := Except.ok.inj hpush
      rw [ih hrest]
      simp

/-- rclone reads the pairs that the request was made of. -/
theorem pairs_of_args {name : String} {existing : Bool} {pairs : List (String × String)} {request : SetupRequest}
    (h : request.args = (setupArgs name existing pairs).map Prod.fst) : request.pairs = pairs := by
  have htexts : request.args.map (·.value) = ["config", if existing then "update" else "create", name] ++
      (if existing then [] else ["sftp"]) ++ (pairs.flatMap fun pair ↦ [pair.1, pair.2]) ++
        ["--obscure", "--non-interactive"] := by
    rw [h, setupArgs]
    cases existing <;> simp [List.map_flatMap]
  rw [SetupRequest.pairs, htexts]
  conv_rhs => rw [← pairUp_flatMap pairs]
  cases existing <;> simp [List.dropLast_append_of_ne_nil]

end Reading

section Request

variable {env : Environment} {name : String} {draft : SftpDraft} {existing : Option Value} {request : SetupRequest}

def generalPairs (draft : SftpDraft) (knownHosts : String) : List (String × String) :=
  [("host", Str.trim draft.host), ("port", Str.trim draft.port), ("user", Str.trim draft.user),
    ("known_hosts_file", knownHosts), ("ask_password", "false"),
    ("key_use_agent", if draft.auth = .agent then "true" else "false")]

/-- The pairs of a request, around those of its way to log in. -/
def requestPairs (draft : SftpDraft) (existing : Option Value) (knownHosts : String)
    (authentication : List (String × String)) : List (String × String) :=
  generalPairs draft knownHosts ++ authentication ++ (if existing.isNone then [("shell_type", "none")] else [])

/-- What a request that was made has checked, and its pairs. -/
theorem setupRequest_eq_ok (h : setupRequest env name draft existing = .ok request) :
    draft.validate env = .ok () ∧ (∀ config, existing = some config → checkExisting config = .ok ()) ∧
      ∃ knownHosts authentication, filePath env "sftp-known-hosts-label" draft.knownHosts = .ok knownHosts ∧
        authPairs env draft existing = .ok authentication ∧
        request.pairs = requestPairs draft existing knownHosts authentication := by
  obtain ⟨⟨⟩, -, h⟩ := Result.bind_eq_ok h
  obtain ⟨⟨⟩, hvalid, h⟩ := Result.bind_eq_ok h
  have hchecked : (∀ config, existing = some config → checkExisting config = .ok ()) ∧ (do
      let knownHosts ← filePath env "sftp-known-hosts-label" draft.knownHosts
      let authentication ← authPairs env draft existing
      let args ← pushArgs [] (setupArgs name existing.isSome (requestPairs draft existing knownHosts authentication))
      return (⟨args, 30 * 10 ^ 9⟩ : SetupRequest)) = .ok request := by
    cases existing with
    | none => exact ⟨nofun, h⟩
    | some config =>
        obtain ⟨⟨⟩, hchecked, h⟩ := Result.bind_eq_ok h
        refine ⟨?_, h⟩
        intro other hother
        obtain rfl := Option.some.inj hother
        exact hchecked
  obtain ⟨hchecked, h⟩ := hchecked
  obtain ⟨knownHosts, hknownHosts, h⟩ := Result.bind_eq_ok h
  obtain ⟨authentication, hauthentication, h⟩ := Result.bind_eq_ok h
  obtain ⟨args, hargs, h⟩ := Result.bind_eq_ok h
  obtain rfl := Except.ok.inj h
  refine ⟨hvalid, hchecked, knownHosts, authentication, hknownHosts, hauthentication, ?_⟩
  refine @pairs_of_args name existing.isSome _ _ ?_
  rw [pushArgs_eq_ok hargs, List.nil_append]

/-- The existing remote logs in like the draft. -/
def SameMethod (draft : SftpDraft) (existing : Option Value) : Prop :=
  ∃ config, existing = some config ∧ authOf config = draft.auth

/-- The existing remote has this key file. -/
def HasKeyFile (env : Environment) (existing : Option Value) (key : String) : Prop :=
  ∃ config, existing = some config ∧
    filePath env "sftp-private-key-label" (stringOption config "key_file") = .ok key

theorem sameAuth_iff : (existing.map (SftpDraft.fromConfig env)).any (fun d ↦ decide (d.auth = draft.auth)) = true ↔
    SameMethod draft existing := by
  cases existing with
  | none => simp [SameMethod]
  | some config =>
      simp only [SameMethod, Option.map_some, Option.any_some, auth_fromConfig, Option.some.injEq, exists_eq_left']
      exact decide_eq_true_iff

theorem sameKeyFile_iff {key : String} : (existing.map (SftpDraft.fromConfig env)).any (fun d ↦
    decide ((filePath env "sftp-private-key-label" d.keyFile).toOption = some key)) = true ↔
    HasKeyFile env existing key := by
  cases existing with
  | none => simp [HasKeyFile]
  | some config =>
      have hkey : (SftpDraft.fromConfig env config).keyFile = stringOption config "key_file" := rfl
      simp only [HasKeyFile, Option.map_some, Option.any_some, hkey, decide_eq_true_eq, Option.some.injEq,
        exists_eq_left']
      cases filePath env "sftp-private-key-label" (stringOption config "key_file") <;> simp [Except.toOption]

theorem authPairs_password {pairs : List (String × String)} (hauth : draft.auth = .password)
    (h : authPairs env draft existing = .ok pairs) :
    pairs = (if draft.password = "" then [] else [("pass", draft.password)]) ++
        [("key_file", ""), ("key_file_pass", ""), ("pubkey_file", ""), ("pubkey", "")] ∧
      (draft.password = "" → SameMethod draft existing ∧ existing.any hasPassword = true) := by
  unfold authPairs at h
  rw [hauth] at h
  dsimp only at h
  rcases ite_eq_iff.mp h with ⟨-, h⟩ | ⟨haccepted, h⟩
  · cases h
  · refine ⟨(Except.ok.inj h).symm, fun hblank ↦ ?_⟩
    rw [not_and, not_not] at haccepted
    obtain ⟨hsame, hpassword⟩ := haccepted hblank
    refine ⟨?_, hpassword⟩
    rw [← hauth] at hsame
    exact sameAuth_iff.mp hsame

/-- The key file is expanded, and the passphrase is kept when it is blank and the key is the same. -/
theorem authPairs_key {pairs : List (String × String)} (hauth : draft.auth = .key)
    (h : authPairs env draft existing = .ok pairs) :
    ∃ key, filePath env "sftp-private-key-label" draft.keyFile = .ok key ∧ ∃ sameKey : Bool,
      (sameKey = true ↔ SameMethod draft existing ∧ HasKeyFile env existing key) ∧
      pairs = [("pass", ""), ("key_file", key)] ++
        (if ¬sameKey ∨ draft.keyPassphrase ≠ "" then [("key_file_pass", draft.keyPassphrase)] else []) ++
        (if ¬sameKey then [("pubkey_file", ""), ("pubkey", "")] else []) := by
  unfold authPairs at h
  rw [hauth] at h
  obtain ⟨key, hkey, h⟩ := Result.bind_eq_ok h
  refine ⟨key, hkey, _, ?_, (Except.ok.inj h).symm⟩
  rw [Bool.and_eq_true, sameKeyFile_iff, ← hauth, sameAuth_iff]

theorem authPairs_agent {pairs : List (String × String)} (hauth : draft.auth = .agent)
    (h : authPairs env draft existing = .ok pairs) :
    ∃ sameAuth : Bool, (sameAuth = true ↔ SameMethod draft existing) ∧
      pairs = [("pass", ""), ("key_file_pass", "")] ++
        (if ¬sameAuth then [("key_file", ""), ("pubkey_file", ""), ("pubkey", "")] else []) := by
  unfold authPairs at h
  rw [hauth] at h
  refine ⟨_, ?_, (Except.ok.inj h).symm⟩
  rw [← hauth, sameAuth_iff]

/-! ## The section afterwards -/

/-- What the last pair with the key makes of the option. -/
def found (obscure : String → String) (key : String) (pairs : List (String × String)) (before : Option Value) :
    Option Value :=
  pairs.foldl (fun found pair ↦ if pair.1 = key then some (storedValue obscure pair.1 pair.2) else found) before

theorem accepted_of_checkExisting {config : Value} (h : checkExisting config = .ok ()) :
    isSftp config = true ∧ stringOption config "key_pem" = "" := by
  unfold checkExisting at h
  rcases ite_eq_iff.mp h with ⟨-, h⟩ | ⟨hsftp, h⟩
  · cases h
  · rcases ite_eq_iff.mp h with ⟨-, h⟩ | ⟨hplain, -⟩
    · cases h
    · exact ⟨by simpa using hsftp, not_not.mp (not_or.mp hplain).2⟩

/-- The options of the ways to log in. -/
def authKeys : List String := ["pass", "key_file", "key_file_pass", "pubkey_file", "pubkey"]

/-- The section that the pairs are applied to is an object, without a key in its text. -/
theorem exists_fields (h : ∀ config, existing = some config → checkExisting config = .ok ()) :
    ∃ fields, existing.getD newSection = .object fields ∧ stringOption (.object fields) "key_pem" = "" ∧
      ∀ key ∈ authKeys, fields.get key = existing.bind (·.get key) := by
  cases existing with
  | none =>
      refine ⟨_, rfl, by decide, fun key hkey ↦ ?_⟩
      fin_cases hkey <;> rfl
  | some config =>
      obtain ⟨hsftp, hpem⟩ := accepted_of_checkExisting (h config rfl)
      cases config with
      | object fields => exact ⟨fields, rfl, hpem, fun _ _ ↦ rfl⟩
      | null | bool | number | string | array => cases hsftp

theorem get_applied {obscure : String → String} {fields : Fields} (key : String) (pairs : List (String × String))
    (h : existing.getD newSection = .object fields) :
    (applied obscure existing pairs).get key = found obscure key pairs (fields.get key) := by
  rw [applied, h]
  exact get_foldl_applyPair pairs fields

theorem keys_authPairs {pairs : List (String × String)} (h : authPairs env draft existing = .ok pairs) :
    ∀ pair ∈ pairs, pair.1 ∈ authKeys := by
  cases hauth : draft.auth with
  | password =>
      obtain ⟨rfl, -⟩ := authPairs_password hauth h
      intro pair hpair
      split_ifs at hpair <;> (fin_cases hpair <;> simp [authKeys])
  | key =>
      obtain ⟨key, -, sameKey, -, rfl⟩ := authPairs_key hauth h
      intro pair hpair
      split_ifs at hpair <;> (fin_cases hpair <;> simp [authKeys])
  | agent =>
      obtain ⟨sameAuth, -, rfl⟩ := authPairs_agent hauth h
      intro pair hpair
      split_ifs at hpair <;> (fin_cases hpair <;> simp [authKeys])

section Found

variable {obscure : String → String} {key : String} {before : Option Value}

theorem found_append (first second : List (String × String)) :
    found obscure key (first ++ second) before = found obscure key second (found obscure key first before) :=
  List.foldl_append

theorem found_of_notMem {pairs : List (String × String)} (h : ∀ pair ∈ pairs, pair.1 ≠ key) :
    found obscure key pairs before = before := by
  induction pairs generalizing before with
  | nil => rfl
  | cons pair rest ih =>
      obtain ⟨hpair, hrest⟩ := List.forall_mem_cons.mp h
      rw [found, List.foldl_cons, if_neg hpair]
      exact ih hrest

variable {knownHosts : String} {authentication : List (String × String)}

/-- Outside the ways to log in, only the first pairs count. -/
theorem found_general (h : ∀ pair ∈ authentication, pair.1 ∈ authKeys) (hkey : key ∉ authKeys)
    (hshell : key ≠ "shell_type") :
    found obscure key (requestPairs draft existing knownHosts authentication) before =
      found obscure key (generalPairs draft knownHosts) before := by
  rw [requestPairs, found_append, found_append, found_of_notMem, found_of_notMem]
  · rintro pair hpair rfl
    exact hkey (h pair hpair)
  · intro pair hpair
    split_ifs at hpair
    · obtain rfl := List.mem_singleton.mp hpair
      exact hshell.symm
    · exact absurd hpair List.not_mem_nil

theorem found_auth (hkey : key ∈ authKeys) :
    found obscure key (requestPairs draft existing knownHosts authentication) before =
      found obscure key authentication before := by
  have hgeneral : ∀ pair ∈ generalPairs draft knownHosts, pair.1 ≠ key := by
    intro pair hpair heq
    rw [← heq] at hkey
    unfold generalPairs at hpair
    fin_cases hpair <;> simp [authKeys] at hkey
  rw [requestPairs, found_append, found_append, found_of_notMem, found_of_notMem hgeneral]
  intro pair hpair heq
  rw [← heq] at hkey
  split_ifs at hpair
  · obtain rfl := List.mem_singleton.mp hpair
    exact absurd hkey (by decide)
  · exact absurd hpair List.not_mem_nil

end Found

/-! ## Reading back -/

theorem stringOption_of_get {config : Value} {key text : String} (h : config.get key = some (.string text)) :
    stringOption config key = text := by
  rw [stringOption, h]

/-- What a valid draft has in its fields. -/
structure ValidDraft (env : Environment) (draft : SftpDraft) : Prop where
  host : Str.trim draft.host = draft.host
  port : Str.trim draft.port ≠ ""

theorem validDraft_of_validate (h : draft.validate env = .ok ()) : ValidDraft env draft := by
  obtain ⟨⟨⟩, -, h⟩ := Result.bind_eq_ok h
  obtain ⟨⟨⟩, -, h⟩ := Result.bind_eq_ok h
  rcases ite_eq_iff.mp h with ⟨-, h⟩ | ⟨hhost, h⟩
  · cases h
  · rcases ite_eq_iff.mp h with ⟨-, h⟩ | ⟨hport, -⟩
    · cases h
    · constructor
      · refine Str.trim_of_no_whitespace fun c hc ↦ ?_
        simp only [List.any_eq_true, Bool.or_eq_true, not_exists, not_and, not_or, Bool.not_eq_true] at hhost
        exact (hhost c hc).2
      · intro hempty
        rw [hempty] at hport
        exact hport (by decide)

theorem ne_empty_of_filePath {label value path : String} (h : filePath env label value = .ok path) : path ≠ "" := by
  obtain ⟨trimmed, -, h⟩ := Result.bind_eq_ok h
  cases trimmed with
  | none => cases h
  | some text =>
      rcases ite_eq_iff.mp h with ⟨habsolute, h⟩ | ⟨-, h⟩
      · obtain rfl := Except.ok.inj h
        intro hempty
        rw [hempty] at habsolute
        exact absurd habsolute (by decide)
      · cases h

/-! ## The update -/

/-- The options that belong only to other ways to log in. -/
def SftpAuth.foreignOptions : SftpAuth → List String
  | .password => ["key_file", "key_file_pass", "pubkey_file", "pubkey"]
  | .key => ["pass"]
  | .agent => ["pass", "key_file_pass"]

/-- The secret of the chosen way to log in. -/
def SftpDraft.ownSecret (draft : SftpDraft) : Option (String × String) :=
  match draft.auth with
  | .password => some ("pass", draft.password)
  | .key => some ("key_file_pass", draft.keyPassphrase)
  | .agent => none

/-- The remote logs in like the draft, and with the same key file if it has one. -/
def Unchanged (env : Environment) (draft : SftpDraft) (existing : Option Value) : Prop :=
  SameMethod draft existing ∧ (draft.auth = .key → ∃ key,
    filePath env "sftp-private-key-label" draft.keyFile = .ok key ∧ HasKeyFile env existing key)

/-- The option is there without a value. -/
def IsEmptied (obscure : String → String) (config : Value) (key : String) : Prop :=
  config.get key = some (storedValue obscure key "")

/-- The section is read back as the draft, and has the secrets of its way to log in only. -/
structure Switched (env : Environment) (obscure : String → String) (draft : SftpDraft) (existing : Option Value)
    (pairs : List (String × String)) (config : Value) : Prop where
  host : (SftpDraft.fromConfig env config).host = draft.host
  user : (SftpDraft.fromConfig env config).user = Str.trim draft.user
  port : (SftpDraft.fromConfig env config).port = Str.trim draft.port
  auth : (SftpDraft.fromConfig env config).auth = draft.auth
  knownHosts : filePath env "sftp-known-hosts-label" draft.knownHosts =
    .ok (SftpDraft.fromConfig env config).knownHosts
  keyFile : draft.auth = .key →
    filePath env "sftp-private-key-label" draft.keyFile = .ok (SftpDraft.fromConfig env config).keyFile
  cleared : ∀ key ∈ draft.auth.foreignOptions, IsEmptied obscure config key
  keyCleared : draft.auth = .agent → ¬SameMethod draft existing →
    ∀ key ∈ ["key_file", "pubkey_file", "pubkey"], IsEmptied obscure config key
  secret : ∀ key value, draft.ownSecret = some (key, value) →
    ((∀ pair ∈ pairs, pair.1 ≠ key) ↔ value = "" ∧ Unchanged env draft existing) ∧
    ((∀ pair ∈ pairs, pair.1 ≠ key) → config.get key = existing.bind (·.get key)) ∧
    (¬(∀ pair ∈ pairs, pair.1 ≠ key) → config.get key = some (storedValue obscure key value))

section Update

variable {obscure : String → String} {fields : Fields} {knownHosts : String}
  {authentication : List (String × String)} {config : Value}

theorem boolOption_of_get {value : Bool} {key : String} (h : config.get key = some (.string (if value then "true" else "false"))) :
    boolOption config key = value := by
  rw [boolOption, stringOption_of_get h, h]
  cases value <;> rfl

/-- The way to log in that is read back from a section with these options. -/
theorem authOf_eq {auth : SftpAuth} (hagent : boolOption config "key_use_agent" = decide (auth = .agent))
    (hpem : stringOption config "key_pem" = "")
    (hkey : auth = .key → stringOption config "key_file" ≠ "")
    (hpassword : auth = .password → stringOption config "key_file" = "" ∧ hasPassword config = true) :
    authOf config = auth := by
  unfold authOf
  cases auth with
  | agent => rw [if_pos (hagent.trans (decide_eq_true rfl))]
  | key =>
      have hfalse : ¬boolOption config "key_use_agent" = true := by simp [hagent]
      rw [if_neg hfalse, if_pos (.inl (hkey rfl))]
  | password =>
      have hfalse : ¬boolOption config "key_use_agent" = true := by simp [hagent]
      obtain ⟨hfile, hpass⟩ := hpassword rfl
      have hnone : ¬(stringOption config "key_file" ≠ "" ∨ stringOption config "key_pem" ≠ "") := by simp [hfile, hpem]
      rw [if_neg hfalse, if_neg hnone, if_pos hpass]

theorem hasPassword_of_stored (hobscure : Obscures obscure) {password : String} (hne : password ≠ "")
    (h : config.get "pass" = some (storedValue obscure "pass" password)) : hasPassword config = true := by
  obtain ⟨hnonempty, hsize⟩ := hobscure.nonempty password hne
  have htext : stringOption config "pass" = obscure password := stringOption_of_get h
  rw [hasPassword, htext]
  simp [hnonempty, hsize]

theorem hasPassword_congr {other : Value} (h : config.get "pass" = other.get "pass") :
    hasPassword config = hasPassword other := by
  rw [hasPassword, hasPassword, stringOption, stringOption, h]

/-- The part of the update that depends on the way to log in. -/
structure LogsIn (env : Environment) (obscure : String → String) (draft : SftpDraft) (existing : Option Value)
    (pairs : List (String × String)) (config : Value) : Prop where
  auth : authOf config = draft.auth
  keyFile : draft.auth = .key →
    filePath env "sftp-private-key-label" draft.keyFile = .ok (stringOption config "key_file")
  cleared : ∀ key ∈ draft.auth.foreignOptions, IsEmptied obscure config key
  keyCleared : draft.auth = .agent → ¬SameMethod draft existing →
    ∀ key ∈ ["key_file", "pubkey_file", "pubkey"], IsEmptied obscure config key
  secret : ∀ key value, draft.ownSecret = some (key, value) →
    ((∀ pair ∈ pairs, pair.1 ≠ key) ↔ value = "" ∧ Unchanged env draft existing) ∧
    ((∀ pair ∈ pairs, pair.1 ≠ key) → config.get key = existing.bind (·.get key)) ∧
    (¬(∀ pair ∈ pairs, pair.1 ≠ key) → config.get key = some (storedValue obscure key value))

/-- What is known of a section that the pairs of a way to log in were applied to. -/
structure Applied (obscure : String → String) (draft : SftpDraft) (existing : Option Value)
    (authentication : List (String × String)) (config : Value) : Prop where
  agent : boolOption config "key_use_agent" = decide (draft.auth = .agent)
  keyPem : stringOption config "key_pem" = ""
  options : ∀ key ∈ authKeys, config.get key = found obscure key authentication (existing.bind (·.get key))

theorem logsIn_password (hobscure : Obscures obscure) (hauth : draft.auth = .password)
    (hpairs : authPairs env draft existing = .ok authentication)
    (happlied : Applied obscure draft existing authentication config) :
    LogsIn env obscure draft existing authentication config := by
  obtain ⟨rfl, hblank⟩ := authPairs_password hauth hpairs
  have hoptions := happlied.options
  have hcleared : ∀ key ∈ ["key_file", "key_file_pass", "pubkey_file", "pubkey"], IsEmptied obscure config key := by
    intro key hkey
    rw [IsEmptied, hoptions key (by fin_cases hkey <;> simp [authKeys]), found_append]
    fin_cases hkey <;> simp [found, storedValue]
  have hfile : stringOption config "key_file" = "" := stringOption_of_get (hcleared "key_file" (by simp))
  have hpass := hoptions "pass" (by simp [authKeys])
  rw [found_append, found_of_notMem (by simp)] at hpass
  refine ⟨?_, fun hkey ↦ ?_, ?_, fun hagent ↦ ?_, ?_⟩
  · rw [hauth]
    refine authOf_eq (hauth ▸ happlied.agent) happlied.keyPem nofun fun _ ↦ ⟨hfile, ?_⟩
    by_cases hempty : draft.password = ""
    · rw [if_pos hempty] at hpass
      obtain ⟨⟨other, hexisting, -⟩, hpassword⟩ := hblank hempty
      rw [hexisting] at hpass hpassword
      rw [hasPassword_congr (hpass : config.get "pass" = other.get "pass")]
      exact hpassword
    · rw [if_neg hempty] at hpass
      exact hasPassword_of_stored hobscure hempty hpass
  · rw [hauth] at hkey
    cases hkey
  · rw [hauth]
    exact hcleared
  · rw [hauth] at hagent
    cases hagent
  · intro key value hsecret
    rw [SftpDraft.ownSecret, hauth] at hsecret
    obtain ⟨rfl, rfl⟩ := Prod.mk.inj (Option.some.inj hsecret)
    by_cases hempty : draft.password = ""
    · rw [if_pos hempty] at hpass
      have hkept : ∀ pair ∈ (if draft.password = "" then [] else [("pass", draft.password)]) ++
          [("key_file", ""), ("key_file_pass", ""), ("pubkey_file", ""), ("pubkey", "")], pair.1 ≠ "pass" := by
        simp [hempty]
      refine ⟨iff_of_true hkept ⟨hempty, (hblank hempty).1, fun hkey ↦ ?_⟩, fun _ ↦ hpass, fun hnot ↦ absurd hkept hnot⟩
      rw [hauth] at hkey
      cases hkey
    · rw [if_neg hempty] at hpass
      have hnot : ¬∀ pair ∈ (if draft.password = "" then [] else [("pass", draft.password)]) ++
          [("key_file", ""), ("key_file_pass", ""), ("pubkey_file", ""), ("pubkey", "")], pair.1 ≠ "pass" := by
        simp [hempty]
      exact ⟨iff_of_false hnot fun h ↦ hempty h.1, fun hkept ↦ absurd hkept hnot, fun _ ↦ hpass⟩

theorem logsIn_key (hauth : draft.auth = .key) (hpairs : authPairs env draft existing = .ok authentication)
    (happlied : Applied obscure draft existing authentication config) :
    LogsIn env obscure draft existing authentication config := by
  obtain ⟨key, hkey, sameKey, hsame, rfl⟩ := authPairs_key hauth hpairs
  have hoptions := happlied.options
  have hunchanged : sameKey = true ↔ Unchanged env draft existing := by
    rw [hsame, Unchanged]
    refine and_congr_right fun _ ↦ ⟨fun hfile _ ↦ ⟨key, hkey, hfile⟩, fun h ↦ ?_⟩
    obtain ⟨other, hother, hfile⟩ := h hauth
    obtain rfl := Except.ok.inj (hkey.symm.trans hother)
    exact hfile
  have hpass : IsEmptied obscure config "pass" := by
    rw [IsEmptied, hoptions "pass" (by simp [authKeys])]
    split_ifs <;> simp [found]
  have hfile : stringOption config "key_file" = key := by
    refine stringOption_of_get ?_
    rw [hoptions "key_file" (by simp [authKeys])]
    split_ifs <;> simp [found, storedValue]
  refine ⟨?_, fun _ ↦ ?_, ?_, fun hagent ↦ ?_, ?_⟩
  · rw [hauth]
    refine authOf_eq (hauth ▸ happlied.agent) happlied.keyPem (fun _ ↦ ?_) nofun
    rw [hfile]
    exact ne_empty_of_filePath hkey
  · rw [hfile]
    exact hkey
  · rw [hauth]
    intro option hoption
    obtain rfl := List.mem_singleton.mp hoption
    exact hpass
  · rw [hauth] at hagent
    cases hagent
  · intro option value hsecret
    rw [SftpDraft.ownSecret, hauth] at hsecret
    obtain ⟨rfl, rfl⟩ := Prod.mk.inj (Option.some.inj hsecret)
    have hpassphrase := hoptions "key_file_pass" (by simp [authKeys])
    rw [← hunchanged]
    by_cases hkept : sameKey = true ∧ draft.keyPassphrase = ""
    · obtain ⟨rfl, hempty⟩ := hkept
      simp only [hempty, not_true_eq_false, ne_eq, or_self, if_false, List.append_nil] at hpassphrase ⊢
      refine ⟨by simp, fun _ ↦ ?_, fun hnot ↦ absurd (by simp) hnot⟩
      rw [hpassphrase, found_of_notMem (by simp)]
    · have hwritten : ¬sameKey = true ∨ draft.keyPassphrase ≠ "" := by
        rw [← not_and_or]
        exact hkept
      simp only [if_pos hwritten] at hpassphrase ⊢
      refine ⟨iff_of_false (by simp) fun h ↦ hkept ⟨h.2, h.1⟩, fun hall ↦ absurd hall (by simp), fun _ ↦ ?_⟩
      rw [hpassphrase]
      split_ifs <;> simp [found]

theorem logsIn_agent (hauth : draft.auth = .agent) (hpairs : authPairs env draft existing = .ok authentication)
    (happlied : Applied obscure draft existing authentication config) :
    LogsIn env obscure draft existing authentication config := by
  obtain ⟨sameAuth, hsame, rfl⟩ := authPairs_agent hauth hpairs
  have hoptions := happlied.options
  refine ⟨?_, fun hkey ↦ ?_, ?_, fun _ hnot ↦ ?_, ?_⟩
  · rw [hauth]
    exact authOf_eq (hauth ▸ happlied.agent) happlied.keyPem nofun nofun
  · rw [hauth] at hkey
    cases hkey
  · rw [hauth]
    intro option hoption
    rw [IsEmptied, hoptions option (by fin_cases hoption <;> simp [authKeys])]
    fin_cases hoption <;> split_ifs <;> simp [found]
  · obtain rfl : sameAuth = false := Bool.eq_false_iff.mpr fun h ↦ hnot (hsame.mp h)
    intro option hoption
    rw [IsEmptied, hoptions option (by fin_cases hoption <;> simp [authKeys])]
    fin_cases hoption <;> simp [found]
  · intro option value hsecret
    rw [SftpDraft.ownSecret, hauth] at hsecret
    cases hsecret

theorem logsIn (hobscure : Obscures obscure) (hpairs : authPairs env draft existing = .ok authentication)
    (happlied : Applied obscure draft existing authentication config) :
    LogsIn env obscure draft existing authentication config := by
  cases hauth : draft.auth with
  | password => exact logsIn_password hobscure hauth hpairs happlied
  | key => exact logsIn_key hauth hpairs happlied
  | agent => exact logsIn_agent hauth hpairs happlied

theorem notMem_requestPairs_iff {key : String} (hkey : key ∈ authKeys) :
    (∀ pair ∈ requestPairs draft existing knownHosts authentication, pair.1 ≠ key) ↔
      ∀ pair ∈ authentication, pair.1 ≠ key := by
  refine ⟨fun h pair hpair ↦ h pair (by simp [requestPairs, hpair]), fun h pair hpair heq ↦ ?_⟩
  rw [requestPairs, List.mem_append, List.mem_append] at hpair
  rcases hpair with (hpair | hpair) | hpair
  · rw [← heq] at hkey
    unfold generalPairs at hpair
    fin_cases hpair <;> simp [authKeys] at hkey
  · exact h pair hpair heq
  · rw [← heq] at hkey
    split_ifs at hpair
    · obtain rfl := List.mem_singleton.mp hpair
      exact absurd hkey (by decide)
    · exact absurd hpair List.not_mem_nil

theorem ownSecret_mem {key value : String} (h : draft.ownSecret = some (key, value)) : key ∈ authKeys := by
  unfold SftpDraft.ownSecret at h
  split at h
  · obtain ⟨rfl, -⟩ := Prod.mk.inj (Option.some.inj h)
    decide
  · obtain ⟨rfl, -⟩ := Prod.mk.inj (Option.some.inj h)
    decide
  · cases h

end Update

/-- An update switches the way to log in completely. -/
theorem setupRequest_switches {obscure : String → String} (hobscure : Obscures obscure)
    (h : setupRequest env name draft existing = .ok request) :
    Switched env obscure draft existing request.pairs (applied obscure existing request.pairs) := by
  obtain ⟨hvalid, hchecked, knownHosts, authentication, hknownHosts, hpairs, hrequest⟩ := setupRequest_eq_ok h
  obtain ⟨hhost, hport⟩ := validDraft_of_validate hvalid
  obtain ⟨fields, hfields, hpem, hbefore⟩ := exists_fields hchecked
  have hkeys := keys_authPairs hpairs
  rw [hrequest]
  have hget := fun key ↦ @get_applied existing obscure fields key
    (requestPairs draft existing knownHosts authentication) hfields
  generalize applied obscure existing (requestPairs draft existing knownHosts authentication) = config at hget ⊢
  have hgeneral : ∀ key, key ∉ authKeys → key ≠ "shell_type" →
      config.get key = found obscure key (generalPairs draft knownHosts) (fields.get key) := by
    intro key hkey hshell
    rw [hget, found_general hkeys hkey hshell]
  have happlied : Applied obscure draft existing authentication config := by
    constructor
    · have hflag := hgeneral "key_use_agent" (by decide) (by decide)
      refine boolOption_of_get (hflag.trans ?_)
      by_cases hagent : draft.auth = .agent <;> simp [found, generalPairs, storedValue, hagent]
    · rw [stringOption, hgeneral "key_pem" (by decide) (by decide)]
      exact hpem
    · intro key hkey
      rw [hget, found_auth hkey, hbefore key hkey]
  have hlogs := logsIn hobscure hpairs happlied
  constructor
  · exact (stringOption_of_get (hgeneral "host" (by decide) (by decide))).trans hhost
  · exact stringOption_of_get (hgeneral "user" (by decide) (by decide))
  · have htext : stringOption config "port" = Str.trim draft.port :=
      stringOption_of_get (hgeneral "port" (by decide) (by decide))
    rw [SftpDraft.fromConfig]
    dsimp only
    rw [htext, orDefault, if_neg hport]
  · exact hlogs.auth
  · have htext : stringOption config "known_hosts_file" = knownHosts :=
      stringOption_of_get (hgeneral "known_hosts_file" (by decide) (by decide))
    rw [SftpDraft.fromConfig]
    dsimp only
    rw [htext, orDefault, if_neg (ne_empty_of_filePath hknownHosts)]
    exact hknownHosts
  · exact hlogs.keyFile
  · exact hlogs.cleared
  · exact hlogs.keyCleared
  · intro key value hsecret
    rw [notMem_requestPairs_iff (ownSecret_mem hsecret)]
    exact hlogs.secret key value hsecret

end Request

/-! ## A remote with a password -/

/-- Sixteen zero bytes. -/
@[irreducible] def sampleVector : String := "AAAAAAAAAAAAAAAAAAAAAA"

theorem size_sampleVector : sampleVector.utf8ByteSize = 22 := by
  unfold sampleVector
  decide +kernel

/-- Only the length of what comes after the zeros counts. -/
def sampleObscure (secret : String) : String := sampleVector ++ secret

theorem size_sampleObscure (secret : String) :
    (sampleObscure secret).utf8ByteSize = 22 + secret.utf8ByteSize := by
  rw [sampleObscure, String.utf8ByteSize_append, size_sampleVector]

theorem sampleObscures : Obscures sampleObscure := by
  have hzero : ("" : String).utf8ByteSize = 0 := by decide
  constructor
  · rw [size_sampleObscure, hzero]
  · intro secret hne
    have hsize : secret.utf8ByteSize ≠ 0 := by simpa using hne
    have hall := size_sampleObscure secret
    constructor
    · intro hempty
      rw [hempty] at hall
      omega
    · omega

def sampleSection : Value :=
  .ofFields [("type", .string "sftp"), ("host", .string "nas"), ("user", .string "alice"),
    ("pass", .string "AAAAAAAAAAAAAAAAAAAAAAsecret"), ("key_use_agent", .string "false")]

def sampleDraft (auth : SftpAuth) (user : String) : SftpDraft := { agentDraft with user := user, auth := auth }

/-- The blank password is kept. -/
theorem setupRequest_switches_sample :
    ∃ request, setupRequest ⟨none, none⟩ "nas" (sampleDraft .password "bob") (some sampleSection) = .ok request ∧
      Switched ⟨none, none⟩ sampleObscure (sampleDraft .password "bob") (some sampleSection) request.pairs
        (applied sampleObscure (some sampleSection) request.pairs) := by
  have hmade : (setupRequest ⟨none, none⟩ "nas" (sampleDraft .password "bob") (some sampleSection)).isOk = true := by
    decide +kernel
  cases h : setupRequest ⟨none, none⟩ "nas" (sampleDraft .password "bob") (some sampleSection) with
  | error e =>
      rw [h] at hmade
      cases hmade
  | ok request => exact ⟨request, rfl, setupRequest_switches sampleObscures h⟩

/-- A user name with a blank before it is read back without the blank. -/
theorem blank_is_not_read_back :
    ∃ request, setupRequest ⟨none, none⟩ "nas" (sampleDraft .agent " bob") none = .ok request ∧
      (SftpDraft.fromConfig ⟨none, none⟩ (applied sampleObscure none request.pairs)).user ≠
        (sampleDraft .agent " bob").user := by
  refine ⟨_, rfl, ?_⟩
  decide +kernel

end CosmicMounter.Sftp

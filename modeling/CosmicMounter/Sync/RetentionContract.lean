import CosmicMounter.Interaction.Handler
import CosmicMounter.Interaction.History
import CosmicMounter.Sync.Retention

/-!
# What retention deletes

Every deletion is of an expired day that was listed under the recovery root and
whose owner was read just before.  Everything else the cleanup asks only reads.
-/

namespace CosmicMounter.Retention

open Rust Interaction Host Calendar

/-! ## Days -/

theorem maximumDay_eq {year month maximum : Nat} (h : maximumDay year month = some maximum) :
    1 ≤ month ∧ month ≤ 12 ∧ maximum = daysInMonth year month := by
  unfold maximumDay at h
  split at h
  all_goals cases h
  all_goals exact ⟨by decide, by decide, rfl⟩

/-- The strict days are the texts of dates. -/
theorem exists_date_of_strictDay {name : String} (h : strictDay name = true) :
    ∃ date : Date, date.year < 10000 ∧ name = date.text := by
  unfold strictDay at h
  split at h
  next y₁ y₂ y₃ y₄ first m₁ m₂ second d₁ d₂ hname =>
    cases hmaximum : maximumDay (Nat.ofDigitChars 10 [y₁, y₂, y₃, y₄] 0) (Nat.ofDigitChars 10 [m₁, m₂] 0) with
    | none => simp [hmaximum] at h
    | some maximum =>
        obtain ⟨hmonth, hmonth', rfl⟩ := maximumDay_eq hmaximum
        simp only [hmaximum, Bool.and_eq_true, decide_eq_true_eq, beq_iff_eq, List.all_eq_true] at h
        obtain ⟨⟨⟨rfl, rfl⟩, hdigits⟩, hday⟩ := h
        have hyears : ∀ c ∈ [y₁, y₂, y₃, y₄], c.isDigit = true := 
          fun c hc ↦ hdigits c (List.mem_append_left [m₁, m₂, d₁, d₂] hc)
        have hmonths : ∀ c ∈ [m₁, m₂], c.isDigit = true := fun c hc ↦
          hdigits c (List.mem_append_right [y₁, y₂, y₃, y₄] (List.mem_append_left [d₁, d₂] hc))
        have hdays : ∀ c ∈ [d₁, d₂], c.isDigit = true := fun c hc ↦
          hdigits c (List.mem_append_right [y₁, y₂, y₃, y₄, m₁, m₂] hc)
        refine ⟨⟨_, _, _, ⟨hmonth, hmonth'⟩, hday⟩,
          (ofDigitChars_lt hyears).trans_eq (by simp), ?_⟩
        have hyear : padded 4 _ = _ := padded_ofDigitChars (List.cons_ne_nil _ _) hyears
        have hmonth : padded 2 _ = _ := padded_ofDigitChars (List.cons_ne_nil _ _) hmonths
        have hday : padded 2 _ = _ := padded_ofDigitChars (List.cons_ne_nil _ _) hdays
        rw [← String.toList_inj, hname, Date.text, String.toList_ofList, hyear, hmonth, hday]
        rfl
  next => cases h

/-- The number of the day of a time, by the calendar's count. -/
def utcDayNumber (now : Int) : Int := epoch.dayNumber + now / (86400 * nanosPerSecond)

theorem dayNumber_epoch : epoch.dayNumber = 719528 := by
  have hyears := before_daysInYear 1970
  have hyear : epoch.year = 1970 := rfl
  have hday : epoch.dayOfYear = 0 := rfl
  rw [Date.dayNumber, hyear, hday]
  omega

theorem utcDay_eq_ok {now : Int} {day : String} (h : utcDay now = .ok day) :
    ∃ date : Date, day = date.text ∧ (date.dayNumber : Int) = utcDayNumber now := by
  unfold utcDay at h
  split_ifs at h with hnow
  obtain ⟨date, hdate, rfl⟩ := Result.map_eq_ok h
  unfold utcTm at hdate
  split_ifs at hdate with hrange
  cases hgmtime : gmtime (now / nanosPerSecond).toNat with
  | none =>
      rw [hgmtime] at hdate
      cases hdate
  | some date' =>
      rw [hgmtime] at hdate
      obtain rfl := Except.ok.inj hdate
      unfold gmtime at hgmtime
      dsimp only at hgmtime
      split_ifs at hgmtime
      obtain rfl := Option.some.inj hgmtime
      refine ⟨_, rfl, ?_⟩
      rw [Date.dayNumber_ofDayNumber, utcDayNumber, nanosPerSecond]
      omega

/-! ## What the answers have shown -/

abbrev Past := History HostRequest.Answer

/-- The text of an output with nothing missing. -/
def completeText (output : CommandOutput) : Option String :=
  if output.stdout.truncated || output.stdout.invalidUtf8 then none else some output.stdout.text

def window : Int := retentionDays * 86400 * nanosPerSecond

/-- The name is a date before the day that ends the retention. -/
def Expired (past : Past) (name : String) : Prop :=
  ∃ (now : Int) (date : Date), ⟨.now, now⟩ ∈ past ∧ date.year < 10000 ∧ name = date.text ∧
    (date.dayNumber : Int) < utcDayNumber (now - window)

def ListedLocally (plan : RcloneBisyncPlan) (past : Past) (name : String) : Prop :=
  ∃ entries, ⟨.readDir plan.recoveryDirectory, .ok entries⟩ ∈ past ∧ Except.ok name ∈ entries

/-- The last answers: a directory, a file as its marker, and the owner in it. -/
def OwnedLocally (connection : Connection) (past : Past) (path : String) : Prop :=
  ∃ earlier owner, past = earlier ++ [⟨.symlinkMetadata path, .ok .directory⟩,
      ⟨.symlinkMetadata (Path.join path ownerMarker), .ok .file⟩,
      ⟨.readToString (Path.join path ownerMarker), .ok owner⟩] ∧
    Str.trimEnd owner = connection.id.text

def command (arguments : List String) : CommandRequest where
  args := ["--contimeout", "10s", "--timeout", "30s"] ++ arguments
  timeout := oneMinute
  outputLimit := 256 * 1024

def ListedRemotely (plan : RcloneBisyncPlan) (past : Past) (name : String) : Prop :=
  ∃ output text line, ⟨.run (command (listingArguments plan)), .ok output⟩ ∈ past ∧
    completeText output = some text ∧ line ∈ Str.lines text ∧ Str.trimEndMatches '/' line = name

/-- The last answer: the owner in the marker, completely read. -/
def OwnedRemotely (connection : Connection) (past : Past) (target : String) : Prop :=
  ∃ earlier output owner, past = earlier ++ [⟨.run (command ["cat", remoteMarker target]), .ok output⟩] ∧
    completeText output = some owner ∧ Str.trimEnd owner = connection.id.text

/-- What the cleanup may ask, given the answers so far. -/
def Permitted (connection : Connection) (plan : RcloneBisyncPlan) (past : Past) : HostRequest → Prop
  | .isCancelled | .now | .readDir _ | .symlinkMetadata _ | .readToString _ => True
  | .removeDirAll path =>
      ∃ name, path = Path.join plan.recoveryDirectory name ∧ ListedLocally plan past name ∧
        Expired past name ∧ OwnedLocally connection past path
  | .run request =>
      request = command (listingArguments plan) ∨
      (∃ target, request = command ["cat", remoteMarker target]) ∨
      ∃ name, request = command ["purge", remoteTarget plan name] ∧ ListedRemotely plan past name ∧
        Expired past name ∧ OwnedRemotely connection past (remoteTarget plan name)
  | _ => False

/-- The clock shows a time before the year 10000. -/
def beforeYear10000 : (q : HostRequest) → q.Answer → Prop
  | .now, now => now < 253402300800 * nanosPerSecond
  | _, _ => True

def clockWorld : World HostRequest.Answer Unit := fun _ q r _ ↦ beforeYear10000 q r

def contract (connection : Connection) (plan : RcloneBisyncPlan) :
    Contract HostRequest.Answer (Unit × Past) :=
  .recorded clockWorld fun s ↦ Permitted connection plan s.2

/-! ## The steps -/

variable {connection : Connection} {plan : RcloneBisyncPlan} {past : Past} {cutoff : String}

/-- What was known stays known. -/
def Extends (past : Past) {α : Type} : α → Unit × Past → Prop := fun _ s ↦ past <+: s.2

theorem Extends.of_append {past : Past} {reply : (q : HostRequest) × q.Answer} {s : Unit × Past} {α : Type}
    {a : α} (h : Extends (past ++ [reply]) a s) : Extends past a s :=
  (List.prefix_append past [reply]).trans h

/-- The cutoff is the day that ends the retention. -/
def IsCutoff (past : Past) (cutoff : String) : Prop :=
  ∃ now : Int, ⟨.now, now⟩ ∈ past ∧ now < 253402300800 * nanosPerSecond ∧
    utcDay (now - window) = .ok cutoff

theorem IsCutoff.mono {past' : Past} (h : IsCutoff past cutoff) (hpast : past <+: past') :
    IsCutoff past' cutoff := by
  obtain ⟨now, hmem, hnow⟩ := h
  exact ⟨now, hpast.subset hmem, hnow⟩

theorem ListedLocally.mono {past' : Past} {name : String} (h : ListedLocally plan past name)
    (hpast : past <+: past') : ListedLocally plan past' name := by
  obtain ⟨entries, hmem, hname⟩ := h
  exact ⟨entries, hpast.subset hmem, hname⟩

theorem ListedRemotely.mono {past' : Past} {name : String} (h : ListedRemotely plan past name)
    (hpast : past <+: past') : ListedRemotely plan past' name := by
  obtain ⟨output, text, line, hmem, hline⟩ := h
  exact ⟨output, text, line, hpast.subset hmem, hline⟩

theorem IsCutoff.expired {name : String} (h : IsCutoff past cutoff) (hday : strictDay name = true)
    (hname : name < cutoff) : Expired past name := by
  obtain ⟨now, hmem, hnow, hcutoff⟩ := h
  obtain ⟨date, hyear, rfl⟩ := exists_date_of_strictDay hday
  obtain ⟨limit, rfl, hlimit⟩ := utcDay_eq_ok hcutoff
  have hyears : limit.year < 10000 := by
    apply limit.year_lt_of_dayNumber_lt
    have hepoch := dayNumber_epoch
    have hdays := before_daysInYear 10000
    have hwindow : window = 2764800000000000 := rfl
    have hday : 86400 * nanosPerSecond = 86400000000000 := rfl
    have hend : 253402300800 * nanosPerSecond = 253402300800000000000 := rfl
    rw [utcDayNumber, hday, hwindow, hepoch] at hlimit
    rw [hend] at hnow
    omega
  exact ⟨now, date, hmem, hyear, rfl, hlimit ▸ Int.ofNat_lt.mpr ((Date.text_lt_iff hyear hyears).mp hname)⟩

theorem completeStdout_eq_ok {output : CommandOutput} {stage text : String}
    (h : completeStdout output stage = .ok text) : completeText output = some text := by
  unfold completeStdout at h
  unfold completeText
  split_ifs at h ⊢
  exact congrArg some (Except.ok.inj h)

theorem rcloneRequest_eq_ok {arguments : List String} {request : CommandRequest}
    (h : rcloneRequest arguments oneMinute = .ok request) : request = command arguments := by
  unfold rcloneRequest at h
  split_ifs at h
  exact (Except.ok.inj h).symm

theorem wp_checkCancelled {issues : RetentionCleanupIssues} :
    (checkCancelled issues).run.wp (contract connection plan) (Program.onOk (Extends past)) ((), past) := by
  refine Program.wp_ask_recorded.mpr ⟨trivial, fun cancelled _ _ ↦ ?_⟩
  cases cancelled with
  | true => trivial
  | false => exact List.prefix_append _ _

theorem wp_deleteLocalDay {name : String} {issues : RetentionCleanupIssues}
    (hlisted : ListedLocally plan past name) (hexpired : Expired past name)
    (howned : OwnedLocally connection past (Path.join plan.recoveryDirectory name)) :
    (deleteLocalDay (Path.join plan.recoveryDirectory name) issues).wp (contract connection plan)
      (Extends past) ((), past) := by
  refine Program.wp_ask_recorded.mpr ⟨⟨name, rfl, hlisted, hexpired, howned⟩, fun answer _ _ ↦ ?_⟩
  cases answer with
  | ok _ => exact List.prefix_append _ _
  | error _ => exact List.prefix_append _ _

theorem Expired.mono {past' : Past} {name : String} (h : Expired past name) (hpast : past <+: past') :
    Expired past' name := by
  obtain ⟨now, date, hmem, hrest⟩ := h
  exact ⟨now, date, hpast.subset hmem, hrest⟩

/-- The owner is read last, from a file in a directory. -/
theorem wp_cleanupLocalDay {name : String} {issues : RetentionCleanupIssues}
    (hlisted : ListedLocally plan past name) (hexpired : Expired past name) :
    (cleanupLocalDay connection (Path.join plan.recoveryDirectory name) issues).wp
      (contract connection plan) (Extends past) ((), past) := by
  refine Program.wp_ask_recorded.mpr ⟨trivial, fun metadata _ _ ↦ ?_⟩
  have hpast := List.prefix_append past
    [⟨.symlinkMetadata (Path.join plan.recoveryDirectory name), metadata⟩]
  match metadata with
  | .error _ | .ok .file | .ok .symlink | .ok .other => exact hpast
  | .ok .directory =>
      refine Program.wp_ask_recorded.mpr ⟨trivial, fun metadata _ _ ↦ ?_⟩
      replace hpast := hpast.trans (List.prefix_append _
        [⟨.symlinkMetadata (Path.join (Path.join plan.recoveryDirectory name) ownerMarker), metadata⟩])
      match metadata with
      | .error _ | .ok .directory | .ok .symlink | .ok .other => exact hpast
      | .ok .file =>
          refine Program.wp_ask_recorded.mpr ⟨trivial, fun answer _ _ ↦ ?_⟩
          replace hpast := hpast.trans (List.prefix_append _
            [⟨.readToString (Path.join (Path.join plan.recoveryDirectory name) ownerMarker), answer⟩])
          match answer with
          | .error _ => exact hpast
          | .ok owner =>
              change (if Str.trimEnd owner = connection.id.text then
                deleteLocalDay (Path.join plan.recoveryDirectory name) issues else pure issues).wp _ _ _
              split_ifs with howner
              · refine Program.wp_mono (fun _ _ h ↦ hpast.trans h)
                  (wp_deleteLocalDay (hlisted.mono hpast) (hexpired.mono hpast) ⟨past, owner, ?_, howner⟩)
                simp
              · exact hpast

/-- One turn of either loop: only an expired day is looked at. -/
theorem wp_turn {name : String} {issues : RetentionCleanupIssues} {day : Ask RetentionCleanupIssues}
    {next : RetentionCleanupIssues → Cleanup RetentionCleanupIssues} (hcutoff : IsCutoff past cutoff)
    (hday : ∀ past', past <+: past' → Expired past' name →
      day.wp (contract connection plan) (Extends past') ((), past'))
    (hnext : ∀ past', past <+: past' → ∀ issues,
      (next issues).run.wp (contract connection plan) (Program.onOk (Extends past')) ((), past')) :
    (do checkCancelled issues
        if !strictDay name || !decide (name < cutoff) then next issues
        else
          let issues ← day
          next issues : Cleanup RetentionCleanupIssues).run.wp
      (contract connection plan) (Program.onOk (Extends past)) ((), past) := by
  have hnext' : ∀ past', past <+: past' → ∀ issues, (next issues).run.wp (contract connection plan)
      (Program.onOk (Extends past)) ((), past') := by
    intro past' hpast issues
    refine Program.wp_mono ?_ (hnext past' hpast issues)
    intro r t ht
    cases r with
    | error e => trivial
    | ok _ => exact hpast.trans ht
  refine Program.wp_bind_onOk (Program.wp_mono ?_ wp_checkCancelled)
  intro r s hs
  cases r with
  | error e => trivial
  | ok _ =>
      have hpast : past <+: s.2 := hs
      rw [Program.onOk_ok]
      split_ifs with hguard
      · exact hnext' s.2 hpast issues
      · rw [Bool.or_eq_true, not_or, Bool.not_eq_true', Bool.not_eq_false, Bool.not_eq_true',
          Bool.not_eq_false, decide_eq_true_eq] at hguard
        have hexpired := (hcutoff.mono hpast).expired hguard.1 hguard.2
        refine (Program.wp_liftM_bind _ _ _ _).mpr (Program.wp_mono ?_ (hday s.2 hpast hexpired))
        intro issues t ht
        exact hnext' t.2 (hpast.trans ht) issues

theorem wp_cleanupLocalEntries {entries : List (Except IoError String)}
    (hlisted : ∀ name, .ok name ∈ entries → ListedLocally plan past name) (hcutoff : IsCutoff past cutoff)
    (issues : RetentionCleanupIssues) :
    (cleanupLocalEntries connection plan.recoveryDirectory cutoff entries issues).run.wp
      (contract connection plan) (Program.onOk (Extends past)) ((), past) := by
  induction entries generalizing past issues with
  | nil => exact List.prefix_refl past
  | cons entry rest ih =>
      have hrest : ∀ name, .ok name ∈ rest → ListedLocally plan past name :=
        fun name hname ↦ hlisted name (List.mem_cons_of_mem _ hname)
      cases entry with
      | error e => exact ih hrest hcutoff _
      | ok name =>
          refine wp_turn hcutoff (fun past' hpast hexpired ↦ ?_) (fun past' hpast issues ↦ ?_)
          · exact wp_cleanupLocalDay ((hlisted name List.mem_cons_self).mono hpast) hexpired
          · exact ih (fun name hname ↦ (hrest name hname).mono hpast) (hcutoff.mono hpast) issues

theorem wp_cleanupLocal (hcutoff : IsCutoff past cutoff) :
    (cleanupLocal connection plan.recoveryDirectory cutoff).run.wp
      (contract connection plan) (Program.onOk (Extends past)) ((), past) := by
  refine Program.wp_ask_recorded.mpr ⟨trivial, fun answer _ _ ↦ ?_⟩
  have hpast := List.prefix_append past [⟨.readDir plan.recoveryDirectory, answer⟩]
  match answer with
  | .error _ => exact hpast
  | .ok entries =>
      have hlisted : ∀ name, .ok name ∈ entries → ListedLocally plan
          (past ++ [⟨.readDir plan.recoveryDirectory, .ok entries⟩]) name :=
        fun name hname ↦ ⟨entries, List.mem_append_right _ List.mem_cons_self, hname⟩
      refine Program.wp_mono ?_ (wp_cleanupLocalEntries hlisted (hcutoff.mono hpast) {})
      intro r t ht
      cases r with
      | error e => trivial
      | ok _ => exact hpast.trans ht

/-! ## The remote days -/

variable {fl : Message → String}

theorem wp_purgeRemoteDay {name : String} {issues : RetentionCleanupIssues}
    (hlisted : ListedRemotely plan past name) (hexpired : Expired past name)
    (howned : OwnedRemotely connection past (remoteTarget plan name)) :
    (purgeRemoteDay (remoteTarget plan name) issues).wp (contract connection plan)
      (Extends past) ((), past) := by
  unfold purgeRemoteDay
  cases hrequest : rcloneRequest ["purge", remoteTarget plan name] oneMinute with
  | error e => exact List.prefix_refl past
  | ok request =>
      obtain rfl := rcloneRequest_eq_ok hrequest
      refine Program.wp_ask_recorded.mpr
        ⟨Or.inr (Or.inr ⟨name, rfl, hlisted, hexpired, howned⟩), fun answer _ _ ↦ ?_⟩
      cases answer with
      | ok _ => exact List.prefix_append _ _
      | error _ => exact List.prefix_append _ _

theorem wp_cleanupRemoteDay {name : String} {issues : RetentionCleanupIssues}
    (hlisted : ListedRemotely plan past name) (hexpired : Expired past name) :
    (cleanupRemoteDay fl connection (remoteTarget plan name) issues).wp (contract connection plan)
      (Extends past) ((), past) := by
  unfold cleanupRemoteDay
  cases hrequest : rcloneRequest ["cat", remoteMarker (remoteTarget plan name)] oneMinute with
  | error e => exact List.prefix_refl past
  | ok request =>
      obtain rfl := rcloneRequest_eq_ok hrequest
      refine Program.wp_ask_recorded.mpr ⟨Or.inr (Or.inl ⟨_, rfl⟩), fun answer _ _ ↦ ?_⟩
      have hpast := List.prefix_append past
        [⟨.run (command ["cat", remoteMarker (remoteTarget plan name)]), answer⟩]
      match answer with
      | .error _ => exact hpast
      | .ok output =>
          cases howner : completeStdout output (fl ⟨"ui-bisync-coordinator-retention-owner", []⟩) with
          | error e =>
              simp only [Program.bind, howner]
              exact hpast
          | ok owner =>
              simp only [Program.bind, howner]
              split_ifs with hid
              · have howned : OwnedRemotely connection
                    (past ++ [⟨.run (command ["cat", remoteMarker (remoteTarget plan name)]), .ok output⟩])
                    (remoteTarget plan name) :=
                  ⟨past, output, owner, rfl, completeStdout_eq_ok howner, hid⟩
                refine Program.wp_mono ?_
                  (wp_purgeRemoteDay (hlisted.mono hpast) (hexpired.mono hpast) howned)
                exact fun _ _ h ↦ hpast.trans h
              · exact hpast

theorem cleanupRemoteEntries_cons (line : String) (rest : List String) (issues : RetentionCleanupIssues) :
    cleanupRemoteEntries fl connection plan cutoff (line :: rest) issues = (do
      checkCancelled issues
      if !strictDay (Str.trimEndMatches '/' line) || !decide (Str.trimEndMatches '/' line < cutoff) then
        cleanupRemoteEntries fl connection plan cutoff rest issues
      else
        let issues ← cleanupRemoteDay fl connection (remoteTarget plan (Str.trimEndMatches '/' line)) issues
        cleanupRemoteEntries fl connection plan cutoff rest issues) := rfl

theorem wp_cleanupRemoteEntries {lines : List String}
    (hlisted : ∀ line ∈ lines, ListedRemotely plan past (Str.trimEndMatches '/' line))
    (hcutoff : IsCutoff past cutoff) (issues : RetentionCleanupIssues) :
    (cleanupRemoteEntries fl connection plan cutoff lines issues).run.wp
      (contract connection plan) (Program.onOk (Extends past)) ((), past) := by
  induction lines generalizing past issues with
  | nil => exact List.prefix_refl past
  | cons line rest ih =>
      rw [cleanupRemoteEntries_cons]
      refine wp_turn hcutoff (fun past' hpast hexpired ↦ ?_) (fun past' hpast issues ↦ ?_)
      · exact wp_cleanupRemoteDay ((hlisted line List.mem_cons_self).mono hpast) hexpired
      · refine ih (fun line hline ↦ ?_) (hcutoff.mono hpast) issues
        exact (hlisted line (List.mem_cons_of_mem _ hline)).mono hpast

theorem wp_cleanupRemote (hcutoff : IsCutoff past cutoff) (issues : RetentionCleanupIssues) :
    (cleanupRemote fl connection plan cutoff issues).run.wp
      (contract connection plan) (Program.onOk (Extends past)) ((), past) := by
  unfold cleanupRemote
  cases hrequest : rcloneRequest (listingArguments plan) oneMinute with
  | error e => trivial
  | ok request =>
      obtain rfl := rcloneRequest_eq_ok hrequest
      refine (Program.wp_liftM_bind _ _ _ _).mpr
        (Program.wp_ask_recorded.mpr ⟨Or.inl rfl, fun answer _ _ ↦ (Program.wp_done _ _ _).mpr ?_⟩)
      have hpast := List.prefix_append past [⟨.run (command (listingArguments plan)), answer⟩]
      match answer with
      | .error _ => trivial
      | .ok listing =>
          cases htext : completeStdout listing (fl ⟨"ui-bisync-coordinator-retention-listing", []⟩) with
          | error e =>
              simp only [htext]
              trivial
          | ok text =>
              simp only [htext]
              have hlisted : ∀ line ∈ Str.lines text, ListedRemotely plan
                  (past ++ [⟨.run (command (listingArguments plan)), .ok listing⟩])
                  (Str.trimEndMatches '/' line) := by
                intro line hline
                exact ⟨listing, text, line, List.mem_append_right _ List.mem_cons_self,
                  completeStdout_eq_ok htext, hline, rfl⟩
              refine Program.wp_mono ?_ (wp_cleanupRemoteEntries hlisted (hcutoff.mono hpast) issues)
              intro r t ht
              cases r with
              | error e => trivial
              | ok _ => exact hpast.trans ht

/-! ## The whole cleanup -/

theorem wp_retentionCutoff :
    (retentionCutoff).run.wp (contract connection plan)
      (Program.onOk fun cutoff s ↦ past <+: s.2 ∧ IsCutoff s.2 cutoff) ((), past) := by
  unfold retentionCutoff
  refine (Program.wp_liftM_bind _ _ _ _).mpr
    (Program.wp_ask_recorded.mpr ⟨trivial, fun now _ hnow ↦ (Program.wp_done _ _ _).mpr ?_⟩)
  cases hcutoff : utcDay (now - retentionDays * 86400 * nanosPerSecond) with
  | error e => trivial
  | ok cutoff =>
      refine ⟨List.prefix_append _ _, now, List.mem_append_right _ List.mem_cons_self, hnow, ?_⟩
      exact hcutoff

theorem wp_cleanupDays :
    (cleanupDays fl connection plan).run.wp (contract connection plan)
      (Program.onOk fun _ _ ↦ True) ((), past) := by
  unfold cleanupDays
  refine Program.wp_bind_onOk (Program.wp_mono ?_ wp_checkCancelled)
  rintro (e | _) s -
  · trivial
  refine Program.wp_bind_onOk (Program.wp_mono ?_ wp_retentionCutoff)
  rintro (e | cutoff) s hs
  · trivial
  refine Program.wp_bind_onOk (Program.wp_mono ?_ (wp_cleanupLocal hs.2))
  rintro (e | issues) s' hs'
  · trivial
  refine Program.wp_bind_onOk (Program.wp_mono ?_ wp_checkCancelled)
  rintro (e | _) s'' hs''
  · trivial
  have hpast : s.2 <+: s''.2 := List.IsPrefix.trans hs' hs''
  refine Program.wp_mono ?_ (wp_cleanupRemote (hs.2.mono hpast) issues)
  rintro (e | _) t - <;> trivial

/-- With the clock before the year 10000, the cleanup asks for nothing but what is permitted: it
deletes expired days of its own only. -/
theorem retention_deletes_expired_owned_days (fl : Message → String) (connection : Connection)
    (plan : RcloneBisyncPlan) {tr : List (Moment HostRequest.Answer Unit)}
    {rest : Program HostRequest.Answer (List Message)}
    (hexec : Exec clockWorld (cleanupRetention fl connection plan) () tr rest ()) :
    ∀ earlier m later, tr = earlier ++ m :: later →
      Permitted connection plan (replies earlier) m.request := by
  have hwp : (cleanupRetention fl connection plan).wp (contract connection plan) (fun _ _ ↦ True) ((), []) := by
    refine (Program.wp_bind _ _ _ _).mpr (Program.wp_mono ?_ wp_cleanupDays)
    rintro (e | issues) s - <;> trivial
  intro earlier m later htr
  simpa using (Program.wp_recorded hwp hexec).2 earlier m later htr

/-! ## A leap day of the last century -/

def samplePlan : RcloneBisyncPlan where
  connectionId := sampleId
  path1Remote := "engr:"
  path2Local := "/home/u/Cloud"
  workDirectory := "/state/bisync"
  recoveryDirectory := "/home/u/recovery"
  remoteRecoveryPath := "engr:recovery/"
  filtersFile := "/state/filters"
  preflightCommand := none
  verifyAfterSync := true
  accessMarkerName := none
  service := ⟨sampleId, "", "/usr/bin/rclone", [], none, false, false⟩
  timer := ⟨sampleId, "", 0, false⟩

def plainOutput (text : String) : CommandOutput := ⟨⟨text, false, false⟩, ⟨"", false, false⟩⟩

/-- A host on which the day is listed and marked, here and on the remote. -/
def sampleHost : Handler HostRequest.Answer Unit := fun q _ ↦
  match q with
  | .now => (1700000000 * nanosPerSecond, ())
  | .readDir _ => (.ok [.ok "2000-02-29", .ok "2023-11-01"], ())
  | .symlinkMetadata path => (.ok (if path = "/home/u/recovery/2000-02-29" then .directory else .file), ())
  | .readToString _ => (.ok (sampleId.text ++ "\n"), ())
  | .run request =>
      (.ok (plainOutput (if "lsf" ∈ request.args then "2000-02-29/\n" else sampleId.text)), ())
  | .removeDirAll _ => (.ok (), ())
  | .isFile _ | .pathExists _ | .cancelAndWait | .isCancelled => (false, ())
  | .createDirAll _ | .createNew _ _ | .rename _ _ | .removeFile _ => (.ok (), ())
  | .writePrivate _ _ | .acquireGuard _ | .writeState _ _ | .verifyMirrorBinding _ => (.ok (), ())
  | .releaseGuard _ | .finish => ((), ())
  | .readState _ | .systemd _ _ => (.ok none, ())
  | .resolveDirectory path => (.ok path, ())
  | .newUuid => (sampleId, ())
  | .invocationId => (none, ())

def sampleTrace : List (Moment HostRequest.Answer Unit) :=
  (cleanupRetention Message.key (sampleMirror .box none) samplePlan).trace sampleHost ()

theorem sampleHost_mem (q : HostRequest) (s : Unit) :
    clockWorld s q (sampleHost q s).1 (sampleHost q s).2 := by
  cases q with
  | now => exact (by decide : (1700000000 * nanosPerSecond : Int) < 253402300800 * nanosPerSecond)
  | _ => trivial

theorem sampleTrace_removes : ∃ m ∈ sampleTrace,
    m.request = .removeDirAll "/home/u/recovery/2000-02-29" := by
  have hany : (sampleTrace.any fun m ↦
      match m.request with
      | .removeDirAll path => path == "/home/u/recovery/2000-02-29"
      | _ => false) = true := by decide +kernel
  obtain ⟨m, hm, hrequest⟩ := List.any_eq_true.mp hany
  refine ⟨m, hm, ?_⟩
  split at hrequest
  next path hpath => rw [hpath, eq_of_beq hrequest]
  next => cases hrequest

theorem sampleTrace_exec : ∃ rest s,
    Exec clockWorld (cleanupRetention Message.key (sampleMirror .box none) samplePlan) () sampleTrace rest s :=
  ⟨_, _, Program.exec_trace sampleHost sampleHost_mem _ ()⟩

theorem retention_deletes_expired_owned_days_sample : ∃ past,
    Permitted (sampleMirror .box none) samplePlan past (.removeDirAll "/home/u/recovery/2000-02-29") := by
  obtain ⟨m, hm, hrequest⟩ := sampleTrace_removes
  obtain ⟨earlier, later, htr⟩ := List.append_of_mem hm
  obtain ⟨rest, s, hexec⟩ := sampleTrace_exec
  have hpermitted := retention_deletes_expired_owned_days Message.key (sampleMirror .box none) samplePlan
    hexec earlier m later htr
  exact ⟨replies earlier, hrequest ▸ hpermitted⟩

end CosmicMounter.Retention

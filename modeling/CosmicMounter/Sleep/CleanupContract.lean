import CosmicMounter.Sleep.Cleanup
import CosmicMounter.Sync.Plan

/-!
# What a cleanup unmounts and stops

Each unmount and each stop of `clean_owned` follows answers about the stop
policy, the remaining time and the queue of uploads.  Of the mount tables it
looks at one entry only, so the others have to be the connection's own.
-/

namespace CosmicMounter.Sleep

open Rust Serde Interaction Mounts

/-! ## What the answers say -/

def tableOf (answer : Option (Except CommandError CommandOutput)) : Except Stop (List MountEntry) := do
  let result ← answer.elim (.error .deadline) .ok
  let output ← result.mapError (.failed ∘ .command)
  if output.stdout.truncated then
    .error (.failed (.message ⟨"ui-sleep-host-mount-table-is-truncated", []⟩))
  else ((Str.lines output.stdout.text).mapM parseMountinfoLine).mapError (.failed ∘ .message)

theorem run_hostMounts : hostMounts.run = .ask .mountTable fun answer ↦ .done (tableOf answer) := by
  have hanswer : ∀ answer, (do
      let output ← orFail .command (← inTime answer)
      require (!output.stdout.truncated) "ui-sleep-host-mount-table-is-truncated"
      orFail .message ((Str.lines output.stdout.text).mapM parseMountinfoLine) : Call _).run =
      .done (tableOf answer) := by
    intro answer
    rcases answer with _ | _ | output
    · rfl
    · rfl
    · have hread : tableOf (some (.ok output)) =
          if output.stdout.truncated then
            .error (.failed (.message ⟨"ui-sleep-host-mount-table-is-truncated", []⟩))
          else
            ((Str.lines output.stdout.text).mapM parseMountinfoLine).mapError (.failed ∘ .message) := rfl
      change (require (!output.stdout.truncated) _ >>= fun _ ↦ orFail .message _).run = _
      rw [hread, require, Program.run_bind, Program.run_ensure]
      cases output.stdout.truncated <;> rfl
  exact congrArg (Program.ask _) (funext hanswer)

/-- Both counters of pending uploads are there, and zero. -/
def ReportsIdle (fromStr : FromStr) (text : String) : Prop :=
  ∃ value disk, fromStr text = .ok value ∧ value.get "diskCache" = some disk ∧
    (disk.get "uploadsQueued").bind Value.asU64 = some 0 ∧
    (disk.get "uploadsInProgress").bind Value.asU64 = some 0

theorem reportsIdle_of_uploadsIdle {fromStr : FromStr} {text : String}
    (h : uploadsIdle fromStr text = .ok true) : ReportsIdle fromStr text := by
  unfold uploadsIdle at h
  cases hvalue : fromStr text with
  | error e =>
      rw [hvalue] at h
      cases h
  | ok value =>
      rw [hvalue] at h
      obtain ⟨disk, queued, active, hdisk, hqueued, hactive, hidle⟩ := idleOf_eq_ok h
      have hzero := Bool.and_eq_true_iff.mp hidle.symm
      obtain rfl : queued = 0 := beq_iff_eq.mp hzero.1
      obtain rfl : active = 0 := beq_iff_eq.mp hzero.2
      exact ⟨value, disk, hvalue, hdisk, hqueued, hactive⟩

def table? : (q : CleanupRequest) × q.Answer → Option (List MountEntry)
  | ⟨.mountTable, answer⟩ => (tableOf answer).toOption
  | _ => none

/-- The mount tables that were read, oldest first. -/
def tables (history : JobHistory) : List (List MountEntry) := history.filterMap table?

def time? : (q : CleanupRequest) × q.Answer → Option Nat
  | ⟨.remaining, time⟩ => some time
  | _ => none

def times (history : JobHistory) : List Nat := history.filterMap time?

def ReportedIdle (host : Host) (history : JobHistory) : Prop :=
  ∃ socket output, ⟨.vfsStats socket, some (.ok output)⟩ ∈ history ∧
    ReportsIdle host.fromStr output.stdout.text

/-- The policy that `STOP_POLICY` asks for. -/
def nonforcingPolicy : StopPolicy := ⟨false, 2000000, "terminate", 15⟩

/-! ## The guards of a step -/

def Detaches : CleanupRequest → Prop
  | .unmount _ _ => True
  | .stopNoWait _ => True
  | _ => False

/-- What `clean_unmount_request` passes to the helper. -/
def helperArguments : CleanupRequest → List String
  | .unmount path _ => ["-u", path]
  | _ => []

def atPath (connection : Connection) (mounts : List MountEntry) : List MountEntry :=
  mounts.filter fun mount ↦ decide (Path.Same mount.target connection.localPath)

def AllOwn (connection : Connection) (mounts : List MountEntry) : Prop :=
  ∀ mount ∈ mounts, mount.filesystem = expectedFilesystem connection

/-- Once the service was told to stop, half a second is enough. -/
def requiredTime (unit : String) (history : JobHistory) (q : CleanupRequest) : Nat :=
  if .stopNoWait unit ∈ requests history ++ [q] then 500 else 2500

/-- An unmount or a stop that endangers nothing, by the answers so far. -/
structure Guarded (host : Host) (connection : Connection) (unit : String) (history : JobHistory)
    (q : CleanupRequest) : Prop where
  own : ∃ mounts, (tables history).getLast? = some mounts ∧ AllOwn connection (atPath connection mounts)
  policy : ⟨.stopPolicy unit, some (.ok nonforcingPolicy)⟩ ∈ history
  enough : ∃ time ∈ times history, 2500 ≤ time
  stillEnough : ∃ time, (times history).getLast? = some time ∧ requiredTime unit history q ≤ time
  idle : connection.provider ≠ .onedrive → (∃ mounts, (tables history).getLast? = some mounts ∧
    isMountedAt connection mounts = true) → ReportedIdle host history
  notLazy : (helperArguments q).head? ≠ some "-uz"
  detached : connection.provider = .onedrive → q = .stopNoWait unit →
    ∃ mounts, (tables history).getLast? = some mounts ∧ isMountedAt connection mounts = false

/-- What the code does not look at: the entries behind the first one at the
path, the types in later tables, and uploads of a mount that came later. -/
def UncheckedOwn (connection : Connection) : List (List MountEntry) → Prop
  | [] => True
  | first :: later =>
      match later.getLast? with
      | none => AllOwn connection (atPath connection first).tail
      | some last => AllOwn connection (atPath connection last) ∧
          (connection.provider ≠ .onedrive → isMountedAt connection last = true →
            isMountedAt connection first = true)

/-! ## Histories that grow -/

section Histories

variable {host : Host} {connection : Connection} {unit : String} {history : JobHistory}

@[simp] theorem tables_append (history history' : JobHistory) :
    tables (history ++ history') = tables history ++ tables history' := List.filterMap_append

@[simp] theorem times_append (history history' : JobHistory) :
    times (history ++ history') = times history ++ times history' := List.filterMap_append

@[simp] theorem requests_append (history history' : JobHistory) :
    requests (history ++ history') = requests history ++ requests history' := List.map_append

theorem tables_of_ne {q : CleanupRequest} (r : q.Answer) (h : q ≠ .mountTable) :
    tables [⟨q, r⟩] = [] := by
  cases q with
  | mountTable => exact absurd rfl h
  | _ => rfl

theorem tables_read {answer : Option (Except CommandError CommandOutput)} {mounts : List MountEntry}
    (h : tableOf answer = .ok mounts) : tables [⟨.mountTable, answer⟩] = [mounts] := by
  have htable : table? ⟨.mountTable, answer⟩ = some mounts := by
    rw [table?, h]
    rfl
  apply List.filterMap_cons_some htable

theorem ReportedIdle.append (h : ReportedIdle host history) (history' : JobHistory) :
    ReportedIdle host (history ++ history') := by
  obtain ⟨socket, output, hmem, hidle⟩ := h
  exact ⟨socket, output, List.mem_append_left _ hmem, hidle⟩

theorem reportedIdle_append {q : CleanupRequest} (r : q.Answer) (h : ∀ socket, q ≠ .vfsStats socket) :
    ReportedIdle host (history ++ [⟨q, r⟩]) ↔ ReportedIdle host history := by
  constructor
  · rintro ⟨socket, output, hmem, hidle⟩
    rcases List.mem_append.mp hmem with hmem | hmem
    · exact ⟨socket, output, hmem, hidle⟩
    · have hreply := List.mem_singleton.mp hmem
      exact absurd (Sigma.mk.inj hreply).1.symm (h socket)
  · exact fun hidle ↦ hidle.append _

end Histories

/-! ## When the guards hold -/

/-- The first entry at the path is the connection's own. -/
def FirstIsOwn (connection : Connection) (mounts : List MountEntry) : Prop :=
  ∀ mount ∈ (atPath connection mounts).head?, mount.filesystem = expectedFilesystem connection

/-- Everything was looked at that `clean_owned` looks at. -/
structure Ready (host : Host) (connection : Connection) (unit : String) (history : JobHistory) :
    Prop where
  looked : ∃ first later, tables history = first :: later ∧ FirstIsOwn connection first ∧
    (connection.provider ≠ .onedrive →
      (isMountedAt connection first = true ↔ ReportedIdle host history))
  policy : ⟨.stopPolicy unit, some (.ok nonforcingPolicy)⟩ ∈ history
  enough : ∃ time ∈ times history, 2500 ≤ time

/-- The last table that was read has no entry at the path. -/
def IsClear (connection : Connection) (history : JobHistory) : Prop :=
  ∃ mounts, (tables history).getLast? = some mounts ∧ isMountedAt connection mounts = false

section Guards

variable {host : Host} {connection : Connection} {unit : String} {history : JobHistory}
  {q : CleanupRequest}

theorem Ready.append (h : Ready host connection unit history) (r : q.Answer)
    (hq : ∀ socket, q ≠ .vfsStats socket) :
    Ready host connection unit (history ++ [⟨q, r⟩]) := by
  obtain ⟨first, later, htables, hfirst, hidle⟩ := h.looked
  refine ⟨⟨first, later ++ tables [⟨q, r⟩], ?_, hfirst, ?_⟩, List.mem_append_left _ h.policy, ?_⟩
  · rw [tables_append, htables, List.cons_append]
  · intro hrclone
    rw [hidle hrclone, reportedIdle_append r hq]
  · obtain ⟨time, hmem, htime⟩ := h.enough
    refine ⟨time, ?_, htime⟩
    rw [times_append]
    exact List.mem_append_left _ hmem

theorem allOwn_of_tail {mounts : List MountEntry} (hfirst : FirstIsOwn connection mounts)
    (htail : AllOwn connection (atPath connection mounts).tail) :
    AllOwn connection (atPath connection mounts) := by
  rw [FirstIsOwn] at hfirst
  cases hmounts : atPath connection mounts with
  | nil => exact nofun
  | cons mount rest =>
      rw [hmounts] at hfirst htail
      intro mount' hmem
      rcases List.mem_cons.mp hmem with rfl | hmem
      · exact hfirst mount' rfl
      · exact htail mount' hmem

theorem notLazy_helperArguments (q : CleanupRequest) : (helperArguments q).head? ≠ some "-uz" := by
  cases q with
  | unmount path timeout =>
      rw [helperArguments, List.head?_cons]
      decide
  | _ => exact nofun

theorem guarded_iff_of_ready (h : Ready host connection unit history)
    (htime : ∃ time, (times history).getLast? = some time ∧ requiredTime unit history q ≤ time)
    (hclear : connection.provider = .onedrive → q = .stopNoWait unit → IsClear connection history) :
    Guarded host connection unit history q ↔ UncheckedOwn connection (tables history) := by
  obtain ⟨first, later, htables, hfirst, hidle⟩ := h.looked
  have hlast : ∀ last mounts, (tables history).getLast? = some last →
      (tables history).getLast? = some mounts → mounts = last := by
    intro last mounts hlast hmounts
    exact Option.some.inj (hmounts.symm.trans hlast)
  cases hlater : later.getLast? with
  | none =>
      obtain rfl : later = [] := List.getLast?_eq_none_iff.mp hlater
      have honly : (tables history).getLast? = some first := by
        rw [htables]
        rfl
      rw [htables, UncheckedOwn, hlater]
      constructor
      · intro hguarded mount hmem
        obtain ⟨mounts, hmounts, hown⟩ := hguarded.own
        obtain rfl := hlast first mounts honly hmounts
        exact hown mount (List.mem_of_mem_tail hmem)
      · intro htail
        refine ⟨⟨first, honly, allOwn_of_tail hfirst htail⟩, h.policy, h.enough, htime, ?_,
          notLazy_helperArguments q, hclear⟩
        rintro hrclone ⟨mounts, hmounts, hmounted⟩
        obtain rfl := hlast first mounts honly hmounts
        exact (hidle hrclone).mp hmounted
  | some last =>
      have hread : (tables history).getLast? = some last := by
        rw [htables, List.getLast?_cons, hlater]
        rfl
      rw [htables, UncheckedOwn, hlater]
      constructor
      · intro hguarded
        obtain ⟨mounts, hmounts, hown⟩ := hguarded.own
        obtain rfl := hlast last mounts hread hmounts
        refine ⟨hown, fun hrclone hmounted ↦ ?_⟩
        exact (hidle hrclone).mpr (hguarded.idle hrclone ⟨mounts, hread, hmounted⟩)
      · rintro ⟨hown, hmount⟩
        refine ⟨⟨last, hread, hown⟩, h.policy, h.enough, htime, ?_, notLazy_helperArguments q, hclear⟩
        rintro hrclone ⟨mounts, hmounts, hmounted⟩
        obtain rfl := hlast last mounts hread hmounts
        exact (hidle hrclone).mp (hmount hrclone hmounted)

end Guards

/-! ## Every step of a job -/

/-- An unmount or a stop is guarded exactly where what nobody looks at is the connection's own. -/
abbrev guarding (host : Host) (connection : Connection) (unit : String) :
    Contract CleanupRequest.Answer (Unit × JobHistory) :=
  .recorded anyWorld fun s q ↦ Detaches q →
    (Guarded host connection unit s.2 q ↔ UncheckedOwn connection (tables s.2))

/-- The first table, and nothing stopped yet. -/
structure Looked (connection : Connection) (mounted : Bool) (history : JobHistory) : Prop where
  table : ∃ first, tables history = [first] ∧ isMountedAt connection first = mounted ∧
    FirstIsOwn connection first
  notStopped : ∀ unit, .stopNoWait unit ∉ requests history

/-- Requests between the decisions. -/
def IsAside : CleanupRequest → Prop
  | .activeState _ => True
  | .setWasActive _ => True
  | _ => False

section Steps

variable {host : Host} {connection : Connection} {unit : String} {mounted : Bool}
  {history : JobHistory}

theorem Looked.append (h : Looked connection mounted history) {q : CleanupRequest} (r : q.Answer)
    (htable : q ≠ .mountTable) (hstop : ∀ unit, q ≠ .stopNoWait unit) :
    Looked connection mounted (history ++ [⟨q, r⟩]) := by
  obtain ⟨first, htables, hfirst⟩ := h.table
  constructor
  · refine ⟨first, ?_, hfirst⟩
    rw [tables_append, htables, tables_of_ne r htable, List.append_nil]
  · intro unit hmem
    rw [requests_append] at hmem
    rcases List.mem_append.mp hmem with hmem | hmem
    · exact h.notStopped unit hmem
    · exact hstop unit (List.mem_singleton.mp hmem).symm

theorem inTime_ok {α : Type} {answer : Option α} {a : α}
    (h : answer.elim (.error .deadline) .ok = (.ok a : Except Stop α)) : answer = some a := by
  cases answer with
  | none => cases h
  | some b => exact congrArg some (Except.ok.inj h)

theorem orFail_ok {ε α : Type} {error : ε → CleanupError} {result : Except ε α} {a : α}
    (h : result.mapError (.failed ∘ error) = (.ok a : Except Stop α)) : result = .ok a := by
  cases result with
  | error e => cases h
  | ok b => exact congrArg Except.ok (Except.ok.inj h)

theorem wp_hostMounts {permits : Unit × JobHistory → CleanupRequest → Prop}
    {post : List MountEntry → Unit × JobHistory → Prop}
    (hpermits : permits ((), history) .mountTable)
    (h : ∀ answer mounts, tableOf answer = .ok mounts →
      post mounts ((), history ++ [⟨.mountTable, answer⟩])) :
    hostMounts.run.wp (.recorded anyWorld permits) (Program.onOk post) ((), history) := by
  rw [run_hostMounts]
  refine Program.wp_ask_recorded.mpr ⟨hpermits, fun answer _ _ ↦ ?_⟩
  exact Program.onOk_intro fun mounts htable ↦ h answer mounts htable

theorem isMountedAt_eq (mounts : List MountEntry) : isMountedAt connection mounts =
    (mounts.find? fun mount ↦ decide (Path.Same mount.target connection.localPath)).isSome := by
  rw [isMountedAt, Bool.eq_iff_iff, List.any_eq_true, List.find?_isSome]

theorem firstIsOwn_iff (mounts : List MountEntry) : FirstIsOwn connection mounts ↔
    ∀ mount ∈ mounts.find? fun mount ↦ decide (Path.Same mount.target connection.localPath),
      mount.filesystem = expectedFilesystem connection := by
  rw [FirstIsOwn, atPath, List.head?_filter]

theorem wp_findMount : (findMount connection).run.wp (guarding host connection unit)
    (Program.onOk fun mounted s ↦ Looked connection mounted s.2 ∧ ¬ReportedIdle host s.2) ((), []) := by
  refine Program.wp_bind_onOk (wp_hostMounts (fun h ↦ h.elim) fun answer mounts htable ↦ ?_)
  have hlooked : FirstIsOwn connection mounts →
      Looked connection (isMountedAt connection mounts) [⟨.mountTable, answer⟩] := by
    intro hfirst
    refine ⟨⟨mounts, tables_read htable, rfl, hfirst⟩, fun unit hmem ↦ ?_⟩
    cases List.mem_singleton.mp hmem
  have hfresh : ¬ReportedIdle host [⟨.mountTable, answer⟩] := by
    rintro ⟨socket, output, hmem, -⟩
    cases List.mem_singleton.mp hmem
  rw [firstIsOwn_iff, isMountedAt_eq] at hlooked
  cases hfind : mounts.find? fun mount ↦ decide (Path.Same mount.target connection.localPath) with
  | none =>
      rw [hfind] at hlooked
      exact ⟨hlooked nofun, hfresh⟩
  | some mount =>
      rw [hfind] at hlooked
      refine Program.wp_bind_onOk (Program.wp_ensure fun hown ↦ ?_)
      refine ⟨hlooked fun mount' hmem ↦ ?_, hfresh⟩
      obtain rfl := Option.some.inj hmem
      exact beq_iff_eq.mp hown

theorem wp_checkQueue (h : Looked connection mounted history) (socket : String) :
    (checkQueue host socket).run.wp (guarding host connection unit)
      (Program.onOk fun _ s ↦ Looked connection mounted s.2 ∧ ReportedIdle host s.2) ((), history) := by
  unfold checkQueue
  refine Program.wp_bind_onOk (Program.wp_ensure fun _ ↦ ?_)
  refine Program.wp_bind_onOk (Program.wp_lift_recorded (fun h ↦ h.elim) fun answer ↦ ?_)
  refine Program.wp_bind_onOk (Program.wp_check fun result hresult ↦ ?_)
  refine Program.wp_bind_onOk (Program.wp_check fun health hhealth ↦ ?_)
  refine Program.wp_bind_onOk (Program.wp_check fun idle hidle ↦ ?_)
  refine Program.wp_ensure fun hzero ↦ ⟨h.append (q := .vfsStats socket) answer nofun nofun, ?_⟩
  obtain rfl := inTime_ok hresult
  obtain rfl := orFail_ok hhealth
  obtain rfl : idle = true := hzero
  have hreports := reportsIdle_of_uploadsIdle (orFail_ok hidle)
  exact ⟨socket, health, List.mem_append_right _ List.mem_cons_self, hreports⟩

theorem wp_checkUploads (h : Looked connection mounted history) :
    (checkUploads host connection).run.wp (guarding host connection unit)
      (Program.onOk fun _ s ↦ Looked connection mounted s.2 ∧ ReportedIdle host s.2) ((), history) := by
  rw [checkUploads, Program.wp_run_bind, runtimeDirectory]
  cases host.runtimeDirectory with
  | none => exact trivial
  | some directory =>
      rw [Program.run_pure, Program.wp_done, Program.andThen_ok]
      generalize rcSocket directory connection = socket
      exact wp_checkQueue h socket

/-- The uploads are known where there is a mount of rclone, and only there. -/
theorem wp_uploads (h : Looked connection mounted history) (hfresh : ¬ReportedIdle host history) :
    (onlyIf (mounted && !isOnedrive connection) (checkUploads host connection)).run.wp
      (guarding host connection unit)
      (Program.onOk fun _ s ↦ Looked connection mounted s.2 ∧
        (connection.provider ≠ .onedrive → (mounted = true ↔ ReportedIdle host s.2))) ((), history) := by
  cases hneeds : mounted && !isOnedrive connection with
  | true =>
      rw [onlyIf, if_pos rfl]
      refine Program.wp_mono_onOk (wp_checkUploads h) fun _ s hs ↦ ⟨hs.1, fun _ ↦ ?_⟩
      exact iff_of_true (Bool.and_eq_true_iff.mp hneeds).1 hs.2
  | false =>
      refine ⟨h, fun hrclone ↦ iff_of_false ?_ hfresh⟩
      rintro rfl
      have honedrive : isOnedrive connection = false := decide_eq_false hrclone
      rw [honedrive] at hneeds
      cases hneeds

theorem wp_stopPolicyMatches : (stopPolicyMatches unit).run.wp (guarding host connection unit)
    (Program.onOk fun applied s ↦ ∃ answer, s.2 = history ++ [⟨.stopPolicy unit, answer⟩] ∧
      (applied = true → answer = some (.ok nonforcingPolicy))) ((), history) := by
  refine Program.wp_bind_onOk (Program.wp_lift_recorded (fun h ↦ h.elim) fun answer ↦ ?_)
  refine Program.wp_bind_onOk (Program.wp_check fun result hresult ↦ ?_)
  refine Program.wp_bind_onOk (Program.wp_check fun policy hpolicy ↦ ?_)
  refine ⟨answer, rfl, fun happlied ↦ ?_⟩
  obtain rfl := inTime_ok hresult
  obtain rfl := orFail_ok hpolicy
  obtain ⟨sendSigkill, timeoutStopUsec, failureMode, killSignal⟩ := policy
  simp only [Bool.and_eq_true, Bool.not_eq_true', beq_iff_eq] at happlied
  obtain ⟨⟨⟨rfl, rfl⟩, rfl⟩, rfl⟩ := happlied
  rfl

end Steps

/-! ## Detaching and stopping -/

/-- The service was told to stop, after everything was looked at. -/
structure Stopping (host : Host) (connection : Connection) (unit : String) (history : JobHistory) :
    Prop where
  ready : Ready host connection unit history
  asked : .stopNoWait unit ∈ requests history
  time : ∃ time, (times history).getLast? = some time ∧ 500 ≤ time

def FollowsStop : CleanupRequest → Prop
  | .activeState _ => True
  | .mountTable => True
  | .unmount _ _ => True
  | .sleep _ => True
  | _ => False

section Stops

variable {host : Host} {connection : Connection} {unit : String} {mounted : Bool}
  {history : JobHistory}

theorem times_of_followsStop {q : CleanupRequest} (r : q.Answer) (h : FollowsStop q) :
    times [⟨q, r⟩] = [] := by
  cases q with
  | remaining => exact h.elim
  | _ => rfl

theorem Stopping.append (h : Stopping host connection unit history) {q : CleanupRequest}
    (r : q.Answer) (hq : FollowsStop q) : Stopping host connection unit (history ++ [⟨q, r⟩]) := by
  refine ⟨h.ready.append r ?_, ?_, ?_⟩
  · rintro socket rfl
    exact hq
  · rw [requests_append]
    exact List.mem_append_left _ h.asked
  · rw [times_append, times_of_followsStop r hq, List.append_nil]
    exact h.time

theorem Stopping.guarded_iff (h : Stopping host connection unit history) {q : CleanupRequest}
    (hq : FollowsStop q) :
    Guarded host connection unit history q ↔ UncheckedOwn connection (tables history) := by
  refine guarded_iff_of_ready h.ready ?_ ?_
  · rw [requiredTime, if_pos (List.mem_append_left _ h.asked)]
    exact h.time
  · rintro - rfl
    exact hq.elim

theorem followsStop_awaitStopped (rounds : Nat) :
    (awaitStopped connection unit rounds).run.Only FollowsStop :=
  only_awaitStopped trivial trivial trivial trivial rounds

theorem Looked.ready (h : Looked connection mounted history)
    (hidle : connection.provider ≠ .onedrive → (mounted = true ↔ ReportedIdle host history))
    {time : Nat} (htime : 2500 ≤ time) :
    Ready host connection unit (history ++ [⟨.remaining, time⟩] ++
      [⟨.stopPolicy unit, some (.ok nonforcingPolicy)⟩]) := by
  obtain ⟨first, htables, hmounted, hfirst⟩ := h.table
  refine ⟨⟨first, [], ?_, hfirst, ?_⟩, ?_, ?_⟩
  · rw [tables_append, tables_append, htables]
    rfl
  · intro hrclone
    rw [reportedIdle_append (q := .stopPolicy unit) _ nofun,
      reportedIdle_append (q := .remaining) _ nofun, hmounted]
    exact hidle hrclone
  · exact List.mem_append_right _ List.mem_cons_self
  · refine ⟨time, ?_, htime⟩
    rw [times_append, times_append]
    exact List.mem_append_left _ (List.mem_append_right _ List.mem_cons_self)

theorem times_getLast_append (history : JobHistory) (time : Nat) :
    (times (history ++ [⟨.remaining, time⟩])).getLast? = some time := by
  rw [times_append]
  apply List.getLast?_concat

theorem wp_detachOnedrive (h : Ready host connection unit history) :
    (detachOnedrive connection).run.wp (guarding host connection unit)
      (Program.onOk fun _ s ↦ Ready host connection unit s.2 ∧ IsClear connection s.2) ((), history) := by
  refine Program.wp_bind_onOk (Program.wp_lift_recorded (fun h ↦ h.elim) fun time ↦ ?_)
  refine Program.wp_bind_onOk (Program.wp_ensure fun henough ↦ ?_)
  have hready := h.append (q := .remaining) time nofun
  have hguarded : ∀ timeout, Guarded host connection unit (history ++ [⟨.remaining, time⟩])
      (.unmount connection.localPath timeout) ↔
        UncheckedOwn connection (tables (history ++ [⟨.remaining, time⟩])) := by
    intro timeout
    refine guarded_iff_of_ready hready ⟨time, times_getLast_append history time, ?_⟩ nofun
    exact (by unfold requiredTime; split_ifs <;> omega : _ ≤ 2500).trans (of_decide_eq_true henough)
  refine Program.wp_bind_onOk ?_
  refine Program.wp_bind_onOk (Program.wp_ensure fun _ ↦ ?_)
  refine Program.wp_bind_onOk (Program.wp_lift_recorded (fun _ ↦ hguarded _) fun answer ↦ ?_)
  refine Program.wp_check fun detach _ ↦ ?_
  have hdetached := hready.append (q := .unmount connection.localPath _) answer nofun
  refine Program.wp_bind_onOk (wp_hostMounts (fun h ↦ h.elim) fun answer mounts htable ↦ ?_)
  refine Program.wp_ensure fun hclear ↦ ⟨hdetached.append (q := .mountTable) _ nofun, mounts, ?_, ?_⟩
  · rw [tables_append, tables_read htable]
    apply List.getLast?_concat
  · simpa using hclear

/-- A mount of onedriver is gone before its service is told to stop. -/
theorem wp_detach (h : Ready host connection unit history) (hlooked : Looked connection mounted history) :
    (onlyIf (mounted && isOnedrive connection) (detachOnedrive connection)).run.wp
      (guarding host connection unit)
      (Program.onOk fun _ s ↦ Ready host connection unit s.2 ∧
        (connection.provider = .onedrive → IsClear connection s.2)) ((), history) := by
  cases hneeds : mounted && isOnedrive connection with
  | true => exact Program.wp_mono_onOk (wp_detachOnedrive h) fun _ s hs ↦ ⟨hs.1, fun _ ↦ hs.2⟩
  | false =>
      refine ⟨h, fun honedrive ↦ ?_⟩
      obtain ⟨first, htables, hmounted, -⟩ := hlooked.table
      have hdrive : isOnedrive connection = true := decide_eq_true honedrive
      rw [hdrive, Bool.and_true] at hneeds
      refine ⟨first, ?_, hmounted.trans hneeds⟩
      rw [htables]
      rfl

theorem wp_stop (h : Ready host connection unit history)
    (hclear : connection.provider = .onedrive → IsClear connection history) (rounds : Nat) :
    (do
      let remaining ← ask .remaining
      require (500 ≤ remaining) "ui-sleep-sleep-cleanup-deadline-reached-after-detaching-inspect"
      let answer ← ask (.stopNoWait unit)
      orFail .text (← inTime answer)
      awaitStopped connection unit rounds : Call Bool).run.wp (guarding host connection unit)
      (Program.onOk fun _ _ ↦ True) ((), history) := by
  refine Program.wp_bind_onOk (Program.wp_lift_recorded (fun h ↦ h.elim) fun time ↦ ?_)
  refine Program.wp_bind_onOk (Program.wp_ensure fun henough ↦ ?_)
  have hready := h.append (q := .remaining) time nofun
  have hlast := times_getLast_append history time
  have htime : 500 ≤ time := of_decide_eq_true henough
  refine Program.wp_bind_onOk (Program.wp_lift_recorded (fun _ ↦ ?_) fun answer ↦ ?_)
  · refine guarded_iff_of_ready hready ⟨time, hlast, ?_⟩ fun honedrive _ ↦ ?_
    · rw [requiredTime, if_pos (List.mem_append_right _ List.mem_cons_self)]
      exact htime
    · obtain ⟨mounts, hmounts, hmounted⟩ := hclear honedrive
      refine ⟨mounts, ?_, hmounted⟩
      rw [tables_append, tables_of_ne (q := .remaining) _ nofun, List.append_nil]
      exact hmounts
  · have hstopping : Stopping host connection unit
        (history ++ [⟨.remaining, time⟩] ++ [⟨.stopNoWait unit, answer⟩]) := by
      refine ⟨hready.append (q := .stopNoWait unit) answer nofun, ?_, time, ?_, htime⟩
      · rw [requests_append]
        exact List.mem_append_right _ List.mem_cons_self
      · rw [times_append]
        exact (congrArg List.getLast? (List.append_nil _)).trans hlast
    have hrest : (do
        orFail .text (← inTime answer)
        awaitStopped connection unit rounds : Call Bool).run.Only FollowsStop := by
      refine .andThen (only_inTime answer) fun result ↦ ?_
      exact .andThen (only_orFail _ result) fun _ ↦ followsStop_awaitStopped rounds
    refine Program.wp_mono (fun r _ _ ↦ Program.onOk_intro fun _ _ ↦ trivial)
      (Program.wp_of_only (I := fun s ↦ Stopping host connection unit s.2) ?_ ?_ hrest hstopping)
    · exact fun s q hs hq _ ↦ hs.guarded_iff hq
    · intro s q r s' hs hq hw
      rw [hw.2]
      exact hs.append r hq

theorem wp_stopOwned_guarding (hlooked : Looked connection mounted history)
    (hfresh : ¬ReportedIdle host history) (rounds : Nat) :
    (stopOwned host rounds connection unit mounted).run.wp (guarding host connection unit)
      (Program.onOk fun _ _ ↦ True) ((), history) := by
  refine Program.wp_seq_onOk (wp_uploads hlooked hfresh) ?_
  rintro _ ⟨⟨⟩, history⟩ ⟨hlooked, hidle⟩
  refine Program.wp_bind_onOk (Program.wp_lift_recorded (fun h ↦ h.elim) fun time ↦ ?_)
  refine Program.wp_bind_onOk (Program.wp_ensure fun henough ↦ ?_)
  refine Program.wp_seq_onOk wp_stopPolicyMatches ?_
  rintro applied ⟨⟨⟩, _⟩ ⟨answer, rfl, hpolicy⟩
  refine Program.wp_bind_onOk (Program.wp_ensure fun happlied ↦ ?_)
  obtain rfl := hpolicy happlied
  have hready := @Looked.ready host connection unit _ _ hlooked hidle time (of_decide_eq_true henough)
  have hstill := (hlooked.append (q := .remaining) time nofun nofun).append
    (q := .stopPolicy unit) (some (.ok nonforcingPolicy)) nofun nofun
  refine Program.wp_seq_onOk (wp_detach hready hstill) ?_
  rintro _ ⟨⟨⟩, history⟩ ⟨hready, hclear⟩
  exact wp_stop hready hclear rounds

theorem wp_cleanOwned_guarding (rounds : Nat) :
    (cleanOwned host rounds connection unit).run.wp (guarding host connection unit)
      (Program.onOk fun _ _ ↦ True) ((), []) := by
  refine Program.wp_seq_onOk wp_findMount ?_
  rintro mounted ⟨⟨⟩, history⟩ hs
  have haside : (isInUse unit mounted).run.Only IsAside := by
    cases mounted with
    | true => trivial
    | false => exact only_active trivial
  refine Program.wp_frame_bind (P := IsAside)
    (I := fun s ↦ Looked connection mounted s.2 ∧ ¬ReportedIdle host s.2) ?_ ?_ haside hs ?_
  · intro s q _ hq hdetaches
    cases q <;> first | exact hq.elim | exact hdetaches.elim
  · rintro s q r s' hs hq ⟨-, hhistory⟩
    rw [hhistory]
    have htable : q ≠ .mountTable := by
      rintro rfl
      exact hq
    have hstop : ∀ unit, q ≠ .stopNoWait unit := by
      rintro unit rfl
      exact hq
    have hstats : ∀ socket, q ≠ .vfsStats socket := by
      rintro socket rfl
      exact hq
    exact ⟨hs.1.append r htable hstop, mt (reportedIdle_append r hstats).mp hs.2⟩
  · rintro isActive ⟨⟨⟩, history⟩ ⟨hlooked, hfresh⟩
    refine Program.wp_bind_onOk (Program.wp_lift_recorded (fun h ↦ h.elim) fun _ ↦ ?_)
    have hkept := hlooked.append (q := .setWasActive isActive) () nofun nofun
    have hstill := mt (reportedIdle_append (q := .setWasActive isActive) () nofun).mp hfresh
    cases isActive with
    | false => trivial
    | true => exact wp_stopOwned_guarding hkept hstill rounds

end Stops

/-- Each unmount and each stop, in every run: the mount table may list at the
path what the code does not look at, and everything else is as it should be. -/
theorem cleanOwned_guarded_iff {host : Host} {rounds : Nat} {connection : Connection} {unit : String}
    {tr before after : List (Moment CleanupRequest.Answer Unit)} {m : Moment CleanupRequest.Answer Unit}
    {rest : Program CleanupRequest.Answer (Except Stop Bool)}
    (hexec : Exec anyWorld (cleanOwned host rounds connection unit).run () tr rest ())
    (htr : tr = before ++ m :: after) (hdetaches : Detaches m.request) :
    Guarded host connection unit (replies before) m.request ↔
      UncheckedOwn connection (tables (replies before)) := by
  have hpermits := (Program.wp_recorded (wp_cleanOwned_guarding rounds) hexec).2 before m after htr
  exact hpermits hdetaches

/-! ## A foreign mount over the drive -/

/-- The calls of a OneDrive connection up to its first unmount. -/
def untilUnmount (answer : Option (Except CommandError CommandOutput)) (unit : String) :
    List (Moment CleanupRequest.Answer Unit) :=
  [⟨(), .mountTable, answer⟩, ⟨(), .setWasActive true, ()⟩, ⟨(), .remaining, 4000⟩,
    ⟨(), .stopPolicy unit, some (.ok nonforcingPolicy)⟩, ⟨(), .remaining, 4000⟩]

section Runs

variable {host : Host} {connection : Connection} {unit : String} {mounts : List MountEntry}
  {answer : Option (Except CommandError CommandOutput)}

theorem exec_hostMounts (htable : tableOf answer = .ok mounts) :
    Exec anyWorld hostMounts.run () [⟨(), .mountTable, answer⟩] (.done (.ok mounts)) () := by
  rw [run_hostMounts, ← htable]
  apply Exec.ask
  apply Exec.stop

theorem exec_findMount (htable : tableOf answer = .ok mounts) (hfirst : FirstIsOwn connection mounts)
    (hmounted : isMountedAt connection mounts = true) :
    Exec anyWorld (findMount connection).run () [⟨(), .mountTable, answer⟩] (.done (.ok true)) () := by
  rw [isMountedAt_eq] at hmounted
  obtain ⟨mount, hfind⟩ := Option.isSome_iff_exists.mp hmounted
  have hown := (firstIsOwn_iff mounts).mp hfirst mount hfind
  unfold findMount
  rw [Program.run_bind]
  refine (exec_hostMounts htable).bind_done ?_
  have hresult : (do
      require (mount.filesystem == expectedFilesystem connection)
        "ui-sleep-unexpected-filesystem-at-mountpoint-left-untouched"
      return true : Call Bool).run = .done (.ok true) := by
    rw [hown, require, beq_self_eq_true]
    rfl
  rw [Program.andThen_ok, hfind, ← hresult]
  apply Exec.stop

/-- A OneDrive connection whose first entry is its own gets as far as the unmount. -/
theorem exec_untilUnmount (honedrive : connection.provider = .onedrive)
    (hplain : isPlainArgument connection.localPath = true) (htable : tableOf answer = .ok mounts)
    (hfirst : FirstIsOwn connection mounts) (hmounted : isMountedAt connection mounts = true)
    (rounds : Nat) :
    Exec anyWorld (cleanOwned host rounds connection unit).run ()
      (untilUnmount answer unit ++ [⟨(), .unmount connection.localPath 2000, none⟩])
      (.done (.error .deadline)) () := by
  have hdrive : isOnedrive connection = true := decide_eq_true honedrive
  have hdetach : Exec anyWorld (detachOnedrive connection).run ()
      [⟨(), .remaining, 4000⟩, ⟨(), .unmount connection.localPath 2000, none⟩]
      (.done (.error .deadline)) () := by
    unfold detachOnedrive cleanUnmount
    rw [hplain]
    apply Exec.ask
    apply Exec.ask
    apply Exec.stop
  have hstop : Exec anyWorld (stopOwned host rounds connection unit true).run ()
      [⟨(), .remaining, 4000⟩, ⟨(), .stopPolicy unit, some (.ok nonforcingPolicy)⟩,
        ⟨(), .remaining, 4000⟩, ⟨(), .unmount connection.localPath 2000, none⟩]
      (.done (.error .deadline)) () := by
    unfold stopOwned
    rw [hdrive]
    apply Exec.ask
    apply Exec.ask
    exact hdetach.bind
  unfold cleanOwned
  rw [Program.run_bind]
  refine (exec_findMount htable hfirst hmounted).bind_done ?_
  apply Exec.ask
  exact hstop

theorem tables_untilUnmount (htable : tableOf answer = .ok mounts) (unit : String) :
    tables (replies (untilUnmount answer unit)) = [mounts] := tables_read htable

end Runs

def sampleOnedrive : Connection :=
  { sampleMirror .onedrive none with mode := .onlineMount {} }

def sampleSession : Host := ⟨some "/run/user/1000", fun _ ↦ .error "expected value at line 1 column 1"⟩

/-- The mount table with these lines. -/
def tableAnswer (lines : String) : Option (Except CommandError CommandOutput) :=
  some (.ok ⟨⟨lines, false, false⟩, ⟨"", false, false⟩⟩)

def sampleDriveLine : String := "40 30 0:50 / /home/u/Cloud rw - fuse.onedriver drive rw\n"

/-- A file server is mounted over the drive. -/
def sampleStackedLines : String :=
  sampleDriveLine ++ "41 40 0:51 / /home/u/Cloud rw - fuse.sshfs nas: rw\n"

def sampleDriveEntry : MountEntry := ⟨"/home/u/Cloud", ["rw"], "fuse.onedriver", "drive"⟩

def sampleForeignEntry : MountEntry := ⟨"/home/u/Cloud", ["rw"], "fuse.sshfs", "nas:"⟩

theorem tableOf_sampleLines : tableOf (tableAnswer sampleDriveLine) = .ok [sampleDriveEntry] ∧
    tableOf (tableAnswer sampleStackedLines) = .ok [sampleDriveEntry, sampleForeignEntry] := by
  decide +kernel

theorem atPath_sample : atPath sampleOnedrive [sampleDriveEntry] = [sampleDriveEntry] ∧
    atPath sampleOnedrive [sampleDriveEntry, sampleForeignEntry] =
      [sampleDriveEntry, sampleForeignEntry] := by
  decide +kernel

/-- The drive is unmounted before sleep, whatever is listed behind it. -/
theorem exec_sample {lines : String} {behind : List MountEntry}
    (htable : tableOf (tableAnswer lines) = .ok (sampleDriveEntry :: behind)) :
    Exec anyWorld (cleanOwned sampleSession 0 sampleOnedrive "drive.service").run ()
      (untilUnmount (tableAnswer lines) "drive.service" ++ [⟨(), .unmount "/home/u/Cloud" 2000, none⟩])
      (.done (.error .deadline)) () := by
  have hat : Path.Same sampleDriveEntry.target sampleOnedrive.localPath := rfl
  refine exec_untilUnmount rfl (by decide) htable ?_ ?_ 0
  · rw [firstIsOwn_iff]
    simp only [List.find?_cons, hat, decide_true]
    rintro mount ⟨⟩
    rfl
  · rw [isMountedAt, List.any_cons, decide_eq_true hat, Bool.true_or]

theorem cleanOwned_guarded_iff_sample : Guarded sampleSession sampleOnedrive "drive.service"
    (replies (untilUnmount (tableAnswer sampleDriveLine) "drive.service"))
    (.unmount "/home/u/Cloud" 2000) := by
  refine (cleanOwned_guarded_iff (exec_sample tableOf_sampleLines.1) rfl trivial).mpr ?_
  rw [tables_untilUnmount tableOf_sampleLines.1]
  change AllOwn sampleOnedrive (atPath sampleOnedrive [sampleDriveEntry]).tail
  rw [atPath_sample.1]
  exact nofun

theorem foreign_mount_is_unmounted : ¬∀ tr rest,
    Exec anyWorld (cleanOwned sampleSession 0 sampleOnedrive "drive.service").run () tr rest () →
    ∀ before m after, tr = before ++ m :: after → Detaches m.request →
      Guarded sampleSession sampleOnedrive "drive.service" (replies before) m.request := by
  intro hall
  have hguarded := hall _ _ (exec_sample tableOf_sampleLines.2) _ _ [] rfl trivial
  obtain ⟨mounts, hlast, hown⟩ := hguarded.own
  rw [tables_untilUnmount tableOf_sampleLines.2, List.getLast?_singleton] at hlast
  rw [← Option.some.inj hlast, atPath_sample.2] at hown
  have hforeign := hown sampleForeignEntry (List.mem_cons_of_mem _ List.mem_cons_self)
  revert hforeign
  decide

end CosmicMounter.Sleep

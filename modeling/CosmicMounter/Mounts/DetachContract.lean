import CosmicMounter.Interaction.Replay
import CosmicMounter.Mounts.Detach

/-!
# What detaching a mount promises

An unmount is never lazy and stops the service only once the mount is gone or
was detached cleanly.  Repair detaches what is mounted last at the path, and
has looked at what is listed first there.
-/

namespace CosmicMounter.Detach

open Rust Interaction Mounts

/-! ## The tables of a history -/

abbrev DetachHistory := History DetachRequest.Answer

def info? : (q : DetachRequest) × q.Answer → Option (Except String String)
  | ⟨.hostMountInfo, answer⟩ => some answer
  | _ => none

/-- The mount tables that were read, oldest first. -/
def infos (history : DetachHistory) : List (Except String String) := history.filterMap info?

def lastTable (history : DetachHistory) : Option (Except TableError (List MountEntry)) :=
  (infos history).getLast?.map tableOf

/-- The last table that was read has no entry at the path. -/
def IsClear (connection : Connection) (history : DetachHistory) : Prop :=
  ∃ mounts, lastTable history = some (.ok mounts) ∧ isMountedAt connection mounts = false

def UnmountedCleanly (history : DetachHistory) : Prop :=
  ∃ path output, ⟨.unmount false path, .ok output⟩ ∈ history

def expectedFilesystem (connection : Connection) : String :=
  if connection.provider = .onedrive then "fuse.onedriver" else "fuse.rclone"

/-- Every mount at the path is of the connection's type. -/
def OwnsAll (connection : Connection) (mounts : List MountEntry) : Prop :=
  ∀ mount ∈ mounts, Path.Same mount.target connection.localPath →
    mount.filesystem = expectedFilesystem connection

@[simp] theorem infos_append (history history' : DetachHistory) :
    infos (history ++ history') = infos history ++ infos history' := List.filterMap_append

theorem lastTable_append_info (history : DetachHistory) (answer : Except String String) :
    lastTable (history ++ [⟨.hostMountInfo, answer⟩]) = some (tableOf answer) := by
  rw [lastTable, infos_append, List.getLast?_append]
  rfl

theorem infos_append_of_ne (history : DetachHistory) {q : DetachRequest} (r : q.Answer)
    (h : q ≠ .hostMountInfo) : infos (history ++ [⟨q, r⟩]) = infos history := by
  have hnone : info? ⟨q, r⟩ = none := by
    cases q with
    | hostMountInfo => exact absurd rfl h
    | _ => rfl
  rw [infos_append]
  have hreply : infos [⟨q, r⟩] = [] := by
    apply List.filterMap_cons_none hnone
  rw [hreply, List.append_nil]

theorem IsClear.append {connection : Connection} {history : DetachHistory} (hclear : IsClear connection history)
    {q : DetachRequest} (r : q.Answer) (h : q ≠ .hostMountInfo) :
    IsClear connection (history ++ [⟨q, r⟩]) := by
  obtain ⟨mounts, hlast, hmounted⟩ := hclear
  refine ⟨mounts, ?_, hmounted⟩
  rw [lastTable, infos_append_of_ne history r h]
  exact hlast

theorem UnmountedCleanly.append {history : DetachHistory} (h : UnmountedCleanly history)
    (reply : (q : DetachRequest) × q.Answer) : UnmountedCleanly (history ++ [reply]) := by
  obtain ⟨path, output, hmem⟩ := h
  exact ⟨path, output, List.mem_append_left _ hmem⟩

theorem isClear_append_info {connection : Connection} (history : DetachHistory)
    {answer : Except String String} {mounts : List MountEntry} (htable : tableOf answer = .ok mounts)
    (hmounted : isMountedAt connection mounts = false) :
    IsClear connection (history ++ [⟨.hostMountInfo, answer⟩]) := by
  refine ⟨mounts, ?_, hmounted⟩
  rw [lastTable_append_info, htable]

/-! ## Single steps -/

section Steps

variable {history : DetachHistory} {permits : Unit × DetachHistory → DetachRequest → Prop}

/-- Runs in any environment, with the answers that were given so far. -/
abbrev recorded (permits : Unit × DetachHistory → DetachRequest → Prop) :
    Contract DetachRequest.Answer (Unit × DetachHistory) := .recorded anyWorld permits

theorem wp_hostMountEntries {wrap : TableError → Failure} {post : List MountEntry → Unit × DetachHistory → Prop}
    (hpermits : permits ((), history) .hostMountInfo)
    (h : ∀ answer mounts, tableOf answer = .ok mounts →
      post mounts ((), history ++ [⟨.hostMountInfo, answer⟩])) :
    (hostMountEntries wrap).run.wp (recorded permits) (Program.onOk post) ((), history) := by
  refine Program.wp_ask_recorded.mpr ⟨hpermits, fun answer _ _ ↦ ?_⟩
  have hresult : Program.onOk post ((tableOf answer).mapError wrap)
      ((), history ++ [⟨.hostMountInfo, answer⟩]) := by
    cases htable : tableOf answer with
    | error _ => trivial
    | ok mounts => exact h answer mounts htable
  exact hresult

theorem wp_ask {q : DetachRequest} {post : q.Answer → Unit × DetachHistory → Prop}
    (hpermits : permits ((), history) q) (h : ∀ r, post r ((), history ++ [⟨q, r⟩])) :
    (ask q).wp (recorded permits) post ((), history) :=
  Program.wp_ask_recorded.mpr ⟨hpermits, fun r _ _ ↦ h r⟩

theorem wp_lift {q : DetachRequest} {post : q.Answer → Unit × DetachHistory → Prop}
    (hpermits : permits ((), history) q) (h : ∀ r, post r ((), history ++ [⟨q, r⟩])) :
    (monadLift (ask q) : Call q.Answer).run.wp (recorded permits) (Program.onOk post) ((), history) :=
  Program.wp_ask_recorded.mpr ⟨hpermits, fun r _ _ ↦ h r⟩

theorem wp_ensure {b : Bool} {e : Failure} {post : Unit → Unit × DetachHistory → Prop}
    (h : b = true → post () ((), history)) :
    (Program.ensure b e : Call Unit).run.wp (recorded permits) (Program.onOk post) ((), history) := by
  cases b with
  | false => trivial
  | true => exact h rfl

end Steps

/-! ## Unmounting -/

/-- What an unmount may ask, given the answers so far. -/
def unmountPermits (connection : Connection) (s : Unit × DetachHistory) : DetachRequest → Prop
  | .unmount isLazy _ => isLazy = false
  | .action .stop _ => IsClear connection s.2 ∨ UnmountedCleanly s.2
  | .shutdownVpn => IsClear connection s.2
  | _ => True

section Unmount

variable {connection : Connection} {history : DetachHistory}

theorem wp_reconcileFailure (error : CommandError) :
    (reconcileFailure connection error).run.wp (recorded (unmountPermits connection))
      (Program.onOk fun isRetried s ↦ isRetried = false → IsClear connection s.2) ((), history) := by
  refine Program.wp_bind_onOk (wp_hostMountEntries trivial fun answer mounts htable ↦ ?_)
  cases hmounted : isMountedAt connection mounts with
  | false => exact fun _ ↦ isClear_append_info history htable hmounted
  | true =>
      refine Program.wp_bind_onOk (wp_lift trivial fun isPast ↦ ?_)
      refine Program.wp_bind_onOk (wp_ensure fun _ ↦ ?_)
      exact Program.wp_bind_onOk (wp_lift trivial fun _ ↦ nofun)

theorem wp_cleanDetachBeforeServiceStop (rounds : Nat) :
    (cleanDetachBeforeServiceStop connection rounds).run.wp (recorded (unmountPermits connection))
      (Program.onOk fun _ s ↦ IsClear connection s.2 ∨ UnmountedCleanly s.2) ((), history) := by
  induction rounds generalizing history with
  | zero => trivial
  | succ rounds ih =>
      refine Program.wp_bind_onOk (wp_hostMountEntries trivial fun answer mounts htable ↦ ?_)
      cases hmounted : isMountedAt connection mounts with
      | false => exact .inl (isClear_append_info history htable hmounted)
      | true =>
          refine Program.wp_bind_onOk (Program.wp_bind_onOk (wp_ensure fun _ ↦ wp_lift rfl ?_))
          rintro (error | output)
          · refine Program.wp_bind_onOk (Program.wp_mono ?_ (wp_reconcileFailure error))
            rintro (_ | isRetried) ⟨_, past⟩ hclear
            · trivial
            cases isRetried with
            | false => exact .inl (hclear rfl)
            | true => exact ih
          · exact .inr ⟨connection.localPath, output, by simp⟩

theorem wp_requireMountDisappearanceAfterCleanStop (rounds : Nat) :
    (requireMountDisappearanceAfterCleanStop connection rounds).run.wp
      (recorded (unmountPermits connection)) (Program.onOk fun _ s ↦ IsClear connection s.2)
      ((), history) := by
  induction rounds generalizing history with
  | zero => trivial
  | succ rounds ih =>
      refine Program.wp_bind_onOk (wp_hostMountEntries trivial fun answer mounts htable ↦ ?_)
      cases hmounted : isMountedAt connection mounts with
      | false => exact isClear_append_info history htable hmounted
      | true =>
          refine Program.wp_bind_onOk (wp_lift trivial fun isPast ↦ ?_)
          refine Program.wp_bind_onOk (wp_ensure fun _ ↦ ?_)
          exact Program.wp_bind_onOk (wp_lift trivial fun _ ↦ ih)

theorem wp_stopOnlineServiceAndReleaseVpn (rounds : Nat)
    (hdetached : IsClear connection history ∨ UnmountedCleanly history) :
    (stopOnlineServiceAndReleaseVpn connection rounds).run.wp (recorded (unmountPermits connection))
      (Program.onOk fun _ _ ↦ True) ((), history) := by
  refine Program.wp_bind_onOk (Program.wp_reporting_onOk
    (wp_ask hdetached fun _ ↦ Program.onOk_intro fun _ _ ↦ ?_))
  refine Program.wp_bind_onOk
    (Program.wp_mono ?_ (wp_requireMountDisappearanceAfterCleanStop rounds))
  rintro (_ | _) ⟨_, past⟩ hclear
  · trivial
  exact Program.wp_reporting_onOk (wp_ask hclear fun _ ↦ Program.onOk_intro fun _ _ ↦ trivial)

/-- The second half of both unmount operations. -/
theorem wp_detachAndStop (rounds : Nat) :
    (do cleanDetachBeforeServiceStop connection rounds
        stopOnlineServiceAndReleaseVpn connection rounds : Call Unit).run.wp
      (recorded (unmountPermits connection)) (Program.onOk fun _ _ ↦ True) ((), history) := by
  refine Program.wp_bind_onOk (Program.wp_mono ?_ (wp_cleanDetachBeforeServiceStop rounds))
  rintro (_ | _) ⟨_, past⟩ hdetached
  · trivial
  exact wp_stopOnlineServiceAndReleaseVpn rounds hdetached

theorem wp_cancelGoogleRefresh {post : Unit → Unit × DetachHistory → Prop}
    (h : ∀ past, post () ((), past)) :
    (cancelGoogleRefresh connection).run.wp (recorded (unmountPermits connection))
      (Program.onOk post) ((), history) := by
  unfold cancelGoogleRefresh
  split
  · exact wp_lift trivial fun _ ↦ h _
  · exact h _

theorem wp_cancelUsedPreload {post : Unit → Unit × DetachHistory → Prop}
    (h : ∀ past, post () ((), past)) :
    (cancelUsedPreload connection).run.wp (recorded (unmountPermits connection))
      (Program.onOk post) ((), history) := by
  unfold cancelUsedPreload
  split
  · exact Program.wp_reporting_onOk (wp_ask trivial fun _ ↦ Program.onOk_intro fun _ _ ↦ h _)
  · exact h _

theorem wp_runUnmountOperation (rounds : Nat) :
    (runUnmountOperation connection rounds).run.wp (recorded (unmountPermits connection))
      (Program.onOk fun _ _ ↦ True) ((), history) := by
  unfold runUnmountOperation
  cases onlineMountEngine connection with
  | none => trivial
  | some engine =>
      cases engine with
      | rclone =>
          refine Program.wp_bind_onOk (Program.wp_reporting_onOk
            (wp_ask trivial fun _ ↦ Program.onOk_intro fun _ _ ↦ ?_))
          refine Program.wp_bind_onOk (wp_cancelGoogleRefresh fun _ ↦ ?_)
          exact Program.wp_bind_onOk (wp_cancelUsedPreload fun _ ↦ wp_detachAndStop rounds)
      | onedriver =>
          refine Program.wp_bind_onOk (Program.wp_reporting_onOk
            (wp_ask trivial fun _ ↦ Program.onOk_intro fun _ _ ↦ ?_))
          refine Program.wp_bind_onOk (Program.wp_reporting_onOk
            (wp_ask trivial fun _ ↦ Program.onOk_intro fun _ _ ↦ ?_))
          exact wp_detachAndStop rounds

end Unmount

/-! ## Repair -/

/-- What Repair looks at before it detaches: the entry listed first at the path. -/
def FirstIsOwn (connection : Connection) (mounts : List MountEntry) : Prop :=
  ∃ mount, mounts.find? (fun mount ↦ decide (Path.Same mount.target connection.localPath)) = some mount ∧
    mount.filesystem = expectedFilesystem connection

/-- A lazy unmount follows the first table, and that table only. -/
def repairPermits (connection : Connection) (s : Unit × DetachHistory) : DetachRequest → Prop
  | .unmount _ _ => isPlainArgument connection.localPath = true ∧ ∃ answer mounts,
      infos s.2 = [answer] ∧ tableOf answer = .ok mounts ∧ FirstIsOwn connection mounts
  | _ => True

section Repair

variable {connection : Connection} {history : DetachHistory}

theorem onlineRepairPlan_expectedFilesystem {plan : OnlineRepairPlan}
    (h : onlineRepairPlan connection = some plan) :
    plan.expectedFilesystem = expectedFilesystem connection := by
  obtain ⟨engine, hengine, rfl⟩ := Option.map_eq_some_iff.mp h
  revert hengine
  unfold onlineMountEngine expectedFilesystem OnlineRepairPlan.expectedFilesystem
  cases connection.provider <;> cases connection.mode <;> simp +contextual [eq_comm]

theorem firstIsOwn_of_needsLazyDetach {mounts : List MountEntry}
    (h : repairNeedsLazyDetach connection mounts = .ok true) : FirstIsOwn connection mounts := by
  unfold repairNeedsLazyDetach at h
  split at h
  · cases h
  next mount hfind =>
    split at h
    · cases h
    next plan hplan =>
      split at h
      · cases h
      next htype => exact ⟨mount, hfind, by rw [← onlineRepairPlan_expectedFilesystem hplan]; simpa using htype⟩

theorem needsLazyDetach_of_firstIsOwn {mounts : List MountEntry} {plan : OnlineRepairPlan}
    (hplan : onlineRepairPlan connection = some plan) (h : FirstIsOwn connection mounts) :
    repairNeedsLazyDetach connection mounts = .ok true := by
  obtain ⟨mount, hfind, htype⟩ := h
  rw [← onlineRepairPlan_expectedFilesystem hplan] at htype
  simp [repairNeedsLazyDetach, hfind, hplan, htype]

theorem isMountedAt_of_needsLazyDetach {mounts : List MountEntry}
    (h : repairNeedsLazyDetach connection mounts = .ok false) : isMountedAt connection mounts = false := by
  unfold repairNeedsLazyDetach at h
  split at h
  next hfind => simpa [isMountedAt] using hfind
  next mount hfind =>
    split at h
    · cases h
    · split at h <;> cases h

/-- The steps before the table is read neither read it nor unmount. -/
def IsPreparation : DetachRequest → Prop
  | .hostMountInfo | .unmount _ _ => False
  | _ => True

theorem only_prepareRepair (plan : OnlineRepairPlan) :
    (prepareRepair connection plan).run.Only IsPreparation := by
  unfold prepareRepair
  refine Program.Only.andThen ?_ fun _ ↦ ?_
  · exact ⟨trivial, fun _ ↦ trivial⟩
  cases plan.cancelRcloneRefresh with
  | false =>
      cases plan.cancelDirectoryPreload with
      | false => exact ⟨trivial, fun _ ↦ trivial⟩
      | true => exact ⟨trivial, fun _ ↦ ⟨trivial, fun _ ↦ trivial⟩⟩
  | true =>
      cases plan.cancelDirectoryPreload with
      | false => exact ⟨trivial, fun _ ↦ ⟨trivial, fun _ ↦ trivial⟩⟩
      | true => exact ⟨trivial, fun _ ↦ ⟨trivial, fun _ ↦ ⟨trivial, fun _ ↦ trivial⟩⟩⟩

theorem wp_prepareRepair {plan : OnlineRepairPlan} (hinfos : infos history = []) :
    (prepareRepair connection plan).run.wp (recorded (repairPermits connection))
      (Program.onOk fun _ s ↦ infos s.2 = []) ((), history) := by
  refine Program.wp_mono ?_ (Program.wp_of_only (I := fun s ↦ infos s.2 = []) ?_ ?_
    (only_prepareRepair plan) hinfos)
  · exact fun _ s hs ↦ Program.onOk_intro fun _ _ ↦ hs
  · intro s q _ hq
    cases q with
    | unmount isLazy path => exact absurd hq id
    | _ => trivial
  · rintro s q r ⟨_, past⟩ hs hq ⟨-, rfl⟩
    have hne : q ≠ .hostMountInfo := by
      rintro rfl
      exact hq
    rw [infos_append_of_ne s.2 r hne]
    exact hs

theorem wp_detachForRepair (hinfos : infos history = []) :
    (detachForRepair connection).run.wp (recorded (repairPermits connection))
      (Program.onOk fun _ _ ↦ True) ((), history) := by
  refine Program.wp_bind_onOk (wp_hostMountEntries trivial fun answer mounts htable ↦ ?_)
  refine Program.wp_bind_onOk ?_
  cases hneeds : repairNeedsLazyDetach connection mounts with
  | error e => trivial
  | ok isMounted =>
      cases isMounted with
      | false => trivial
      | true =>
          have hown := firstIsOwn_of_needsLazyDetach hneeds
          refine Program.wp_bind_onOk (Program.wp_bind_onOk (wp_ensure fun hplain ↦ wp_lift ?_ ?_))
          · refine ⟨hplain, answer, mounts, ?_, htable, hown⟩
            rw [infos_append, hinfos]
            rfl
          · rintro (_ | _) <;> trivial

theorem wp_awaitDetached (rounds : Nat) :
    (awaitDetached connection rounds).run.wp (recorded (repairPermits connection))
      (Program.onOk fun _ s ↦ IsClear connection s.2) ((), history) := by
  induction rounds generalizing history with
  | zero => trivial
  | succ rounds ih =>
      refine Program.wp_bind_onOk (wp_hostMountEntries trivial fun answer mounts htable ↦ ?_)
      refine Program.wp_bind_onOk ?_
      cases hneeds : repairNeedsLazyDetach connection mounts with
      | error e => trivial
      | ok isMounted =>
          cases isMounted with
          | false => exact isClear_append_info history htable (isMountedAt_of_needsLazyDetach hneeds)
          | true =>
              refine Program.wp_bind_onOk (wp_lift trivial fun isPast ↦ ?_)
              refine Program.wp_bind_onOk (wp_ensure fun _ ↦ ?_)
              exact Program.wp_bind_onOk (wp_lift trivial fun _ ↦ ih)

theorem wp_reconcileOnlineRepairService (hclear : IsClear connection history) :
    (reconcileOnlineRepairService connection).run.wp (recorded (repairPermits connection))
      (Program.onOk fun _ s ↦ IsClear connection s.2) ((), history) := by
  refine Program.wp_bind_onOk (Program.wp_reporting_onOk
    (wp_ask trivial fun answer ↦ Program.onOk_intro fun status _ ↦ ?_))
  have hread := hclear.append answer (q := .action .status (service connection)) (by simp)
  cases status with
  | none => trivial
  | some status =>
      dsimp only
      split
      · refine Program.wp_bind_onOk (Program.wp_reporting_onOk
          (wp_ask trivial fun answer' ↦ Program.onOk_intro fun _ _ ↦ ?_))
        exact hread.append answer' (by simp)
      · exact hread

theorem wp_runOnlineMountRepairOperationResult (rounds : Nat) :
    (runOnlineMountRepairOperationResult connection rounds).run.wp (recorded (repairPermits connection))
      (Program.onOk fun _ s ↦ IsClear connection s.2) ((), []) := by
  unfold runOnlineMountRepairOperationResult
  cases onlineRepairPlan connection with
  | none => trivial
  | some plan =>
      refine Program.wp_bind_onOk (Program.wp_mono ?_ (wp_prepareRepair rfl))
      rintro (_ | _) ⟨_, past⟩ hinfos
      · trivial
      refine Program.wp_bind_onOk (Program.wp_mono ?_ (wp_detachForRepair hinfos))
      rintro (_ | _) ⟨_, past'⟩ -
      · trivial
      refine Program.wp_bind_onOk (Program.wp_mono ?_ (wp_awaitDetached rounds))
      rintro (_ | _) ⟨_, past''⟩ hclear
      · trivial
      exact wp_reconcileOnlineRepairService hclear

end Repair

end CosmicMounter.Detach

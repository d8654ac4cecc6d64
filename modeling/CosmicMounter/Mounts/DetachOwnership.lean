import CosmicMounter.Mounts.DetachContract
import CosmicMounter.Sync.Plan

/-!
# Whose mount a repair detaches

The helper detaches the entry listed last, Repair looks at the one listed
first.  So the lazy unmount hits the connection's own mount exactly on the
tables that stack nothing foreign over it.
-/

namespace CosmicMounter.Detach

open Rust Interaction Mounts

/-- Every lazy unmount after this first table finds the connection's own mounts only. -/
def RepairDetachesOwn (connection : Connection) (first : Except String String) : Prop :=
  ∀ rounds tr rest,
    Exec anyWorld (runOnlineMountRepairOperationResult connection rounds).run () tr rest () →
    (infos (replies tr)).head? = some first → ∀ before m after, tr = before ++ m :: after →
    ∀ isLazy path, m.request = .unmount isLazy path →
      ∃ mounts, lastTable (replies before) = some (.ok mounts) ∧ OwnsAll connection mounts

/-- No foreign mount is listed behind one of the connection at its path. -/
def StacksNothingForeign (connection : Connection) (first : Except String String) : Prop :=
  ∀ mounts, tableOf first = .ok mounts → isPlainArgument connection.localPath = true →
    FirstIsOwn connection mounts → OwnsAll connection mounts

section Runs

variable {connection : Connection} {first : Except String String}

theorem repairDetachesOwn_of_stacks (h : StacksNothingForeign connection first) :
    RepairDetachesOwn connection first := by
  intro rounds tr rest hexec hfirst before m after htr isLazy path hrequest
  have hpermits := (Program.wp_recorded (wp_runOnlineMountRepairOperationResult rounds) hexec).2
    before m after htr
  rw [hrequest, List.nil_append] at hpermits
  obtain ⟨hplain, answer, mounts, hinfos, htable, hown⟩ := hpermits
  have hanswer : answer = first := by
    rw [htr, replies_append, infos_append, hinfos] at hfirst
    exact Option.some.inj hfirst
  subst hanswer
  refine ⟨mounts, ?_, h mounts htable hplain hown⟩
  rw [lastTable, hinfos]
  exact congrArg some htable

def failedLazyUnmount (connection : Connection) (error : CommandError) : Moment DetachRequest.Answer Unit :=
  ⟨(), .unmount true connection.localPath, .error error⟩

theorem exec_prepareRepair (plan : OnlineRepairPlan) :
    ∃ tr, Exec anyWorld (prepareRepair connection plan).run () tr (.done (.ok ())) () ∧
      infos (replies tr) = [] := by
  obtain ⟨engine, cancelsRefresh, cancelsPreload⟩ := plan
  cases cancelsRefresh with
  | false =>
      cases cancelsPreload with
      | false => exact ⟨_, .ask (.ok ()) (.ask (.ok none) (.stop _ _)), rfl⟩
      | true => exact ⟨_, .ask (.ok ()) (.ask () (.ask (.ok none) (.stop _ _))), rfl⟩
  | true =>
      cases cancelsPreload with
      | false => exact ⟨_, .ask (.ok ()) (.ask () (.ask (.ok none) (.stop _ _))), rfl⟩
      | true => exact ⟨_, .ask (.ok ()) (.ask () (.ask () (.ask (.ok none) (.stop _ _)))), rfl⟩

theorem exec_hostMountEntries {mounts : List MountEntry} (wrap : TableError → Failure)
    (htable : tableOf first = .ok mounts) :
    Exec anyWorld (hostMountEntries wrap).run () [⟨(), .hostMountInfo, first⟩] (.done (.ok mounts)) () := by
  have hresult : (tableOf first).mapError wrap = .ok mounts := by
    rw [htable]
    rfl
  rw [← hresult]
  apply Exec.ask
  apply Exec.stop

theorem exec_detachLazily (hplain : isPlainArgument connection.localPath = true) (error : CommandError) :
    Exec anyWorld (detachLazily connection).run ()
      [failedLazyUnmount connection error]
      (.done (.error (.shown (.command error)))) () := by
  unfold detachLazily runUnmount
  rw [hplain]
  apply Exec.ask
  apply Exec.stop

theorem exec_detachForRepair {mounts : List MountEntry} (htable : tableOf first = .ok mounts)
    (hneeds : repairNeedsLazyDetach connection mounts = .ok true)
    (hplain : isPlainArgument connection.localPath = true) (error : CommandError) :
    Exec anyWorld (detachForRepair connection).run ()
      [⟨(), .hostMountInfo, first⟩, failedLazyUnmount connection error]
      (.done (.error (.shown (.command error)))) () := by
  have hlazy := exec_detachLazily hplain error
  have hdetach : Exec anyWorld (do
      let isMounted ← Program.check (repairNeedsLazyDetach connection mounts)
      if isMounted then detachLazily connection else return () : Call Unit).run ()
      [failedLazyUnmount connection error]
      (.done (.error (.shown (.command error)))) () := by
    rw [hneeds]
    exact hlazy
  unfold detachForRepair
  rw [Program.run_bind]
  exact (exec_hostMountEntries _ htable).bind_done hdetach

/-- On a table whose first entry is its own, Repair gets as far as the lazy unmount. -/
theorem exec_lazyUnmount {mounts : List MountEntry} {plan : OnlineRepairPlan}
    (hplan : onlineRepairPlan connection = some plan) (htable : tableOf first = .ok mounts)
    (hplain : isPlainArgument connection.localPath = true) (hown : FirstIsOwn connection mounts)
    (rounds : Nat) (error : CommandError) :
    ∃ before rest, infos (replies before) = [first] ∧
      Exec anyWorld (runOnlineMountRepairOperationResult connection rounds).run ()
        (before ++ [failedLazyUnmount connection error]) rest () := by
  obtain ⟨tr, hprepare, hinfos⟩ := @exec_prepareRepair connection plan
  have hdetach := exec_detachForRepair htable (needsLazyDetach_of_firstIsOwn hplan hown) hplain error
  refine ⟨tr ++ [⟨(), .hostMountInfo, first⟩], Program.done (.error (.shown (.command error))), ?_, ?_⟩
  · rw [replies_append, infos_append, hinfos]
    rfl
  · unfold runOnlineMountRepairOperationResult
    rw [hplan, List.append_assoc]
    have hrest : Exec anyWorld (do
        detachForRepair connection
        awaitDetached connection rounds
        reconcileOnlineRepairService connection : Call Unit).run ()
        [⟨(), .hostMountInfo, first⟩, failedLazyUnmount connection error]
        (.done (.error (.shown (.command error)))) () := by
      rw [Program.run_bind]
      exact hdetach.bind
    rw [Program.run_bind]
    exact hprepare.bind_done hrest

theorem stacks_of_repairDetachesOwn (honline : ∃ options, connection.mode = .onlineMount options)
    (h : RepairDetachesOwn connection first) : StacksNothingForeign connection first := by
  intro mounts htable hplain hown
  obtain ⟨plan, hplan⟩ : ∃ plan, onlineRepairPlan connection = some plan := by
    obtain ⟨options, hmode⟩ := honline
    unfold onlineRepairPlan onlineMountEngine
    rw [hmode]
    cases connection.provider <;> exact ⟨_, rfl⟩
  obtain ⟨before, rest, hinfos, hexec⟩ := exec_lazyUnmount hplan htable hplain hown 0 .invalidArgument
  have hfirst : (infos (replies (before ++ [failedLazyUnmount connection .invalidArgument]))).head? = some first := by
    rw [replies_append, infos_append, hinfos]
    rfl
  obtain ⟨mounts', hlast, howns⟩ := h 0 _ rest hexec hfirst before _ [] rfl true _ rfl
  rw [lastTable, hinfos] at hlast
  have hmounts : mounts = mounts' := Except.ok.inj (htable.symm.trans (Option.some.inj hlast))
  exact hmounts ▸ howns

end Runs

/-- The unmount operation detaches and stops in order, Repair ends without a
mount, and its lazy unmount is one of an own mount on those tables only that
stack nothing foreign over the first entry. -/
theorem detach_iff (connection : Connection) (honline : ∃ options, connection.mode = .onlineMount options) :
    (∀ rounds tr rest, Exec anyWorld (runUnmountOperation connection rounds).run () tr rest () →
      ∀ before m after, tr = before ++ m :: after →
        unmountPermits connection ((), replies before) m.request) ∧
    (∀ rounds tr,
      Exec anyWorld (runOnlineMountRepairOperationResult connection rounds).run () tr (.done (.ok ())) () →
      IsClear connection (replies tr)) ∧
    ∀ first, RepairDetachesOwn connection first ↔ StacksNothingForeign connection first := by
  refine ⟨?_, ?_, fun first ↦ ⟨stacks_of_repairDetachesOwn honline, repairDetachesOwn_of_stacks⟩⟩
  · intro rounds tr rest hexec before m after htr
    have hwp : (runUnmountOperation connection rounds).run.wp (recorded (unmountPermits connection))
        (Program.onOk fun _ _ ↦ True) ((), []) := wp_runUnmountOperation rounds
    have hpermits := (Program.wp_recorded hwp hexec).2 before m after htr
    rwa [List.nil_append] at hpermits
  · intro rounds tr hexec
    have hclear := (Program.wp_recorded (wp_runOnlineMountRepairOperationResult rounds) hexec).1
    rwa [List.nil_append] at hclear

/-! ## A foreign mount on top -/

def sampleMount : Connection :=
  { sampleMirror .googleDrive none with mode := .onlineMount {} }

/-- The drive is mounted, and a file server over it. -/
def sampleStackedTable : String :=
  "40 30 0:50 / /home/u/Cloud rw,nosuid - fuse.rclone engr: rw\n" ++
    "41 40 0:51 / /home/u/Cloud rw,nosuid - fuse.sshfs nas:/srv rw\n"

def sampleOwnEntry : MountEntry := ⟨"/home/u/Cloud", ["rw", "nosuid"], "fuse.rclone", "engr:"⟩

def sampleForeignEntry : MountEntry := ⟨"/home/u/Cloud", ["rw", "nosuid"], "fuse.sshfs", "nas:/srv"⟩

theorem tableOf_sampleStackedTable :
    tableOf (.ok sampleStackedTable) = .ok [sampleOwnEntry, sampleForeignEntry] := by
  decide +kernel

theorem detach_iff_sampleMount : RepairDetachesOwn sampleMount (.ok sampleStackedTable) ↔
    StacksNothingForeign sampleMount (.ok sampleStackedTable) :=
  (detach_iff sampleMount ⟨{}, rfl⟩).2.2 (.ok sampleStackedTable)

theorem foreign_mount_is_detached : ¬RepairDetachesOwn sampleMount (.ok sampleStackedTable) := by
  intro howns
  have hstacks := stacks_of_repairDetachesOwn ⟨{}, rfl⟩ howns
  have hown : FirstIsOwn sampleMount [sampleOwnEntry, sampleForeignEntry] := by
    exact ⟨sampleOwnEntry, by decide +kernel, rfl⟩
  have hforeign := hstacks _ tableOf_sampleStackedTable (by decide +kernel) hown sampleForeignEntry
    (by simp) rfl
  revert hforeign
  decide

end CosmicMounter.Detach

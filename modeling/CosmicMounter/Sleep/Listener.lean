import CosmicMounter.Sleep.Cleanup

/-!
# The sleep listener

`listen` of `sleep.rs` and the subscription that starts it again when it has
failed.  An input is a signal together with the answers to what the listener
asks while it handles it.
-/

namespace CosmicMounter.Sleep

open Rust Interaction

variable {host : Host}

/-! ## The listener -/

inductive StatusText
  | message (message : Message)
  | report (report : CleanupReport)
  | unavailable (error : String)
  deriving DecidableEq, Repr

inductive Event
  | status (text : StatusText) (needsAttention : Bool)
  | wake (ids : List ConnectionId)
  deriving DecidableEq, Repr

/-- What the listener does to the gate, and the events that the channel takes. -/
inductive Output
  | preparing
  | awake
  | event (event : Event)
  deriving DecidableEq, Repr

/-- One preparation for sleep.  There are no jobs when an online operation does not end in time. -/
structure Cycle (host : Host) where
  connections : List Connection
  restoreAfterWake : Bool
  jobs : Option (List (Job host))
  jobs_connections : ∀ finished, jobs = some finished →
    (finished.map Job.connection).Perm (onlineConnections connections)

def Cycle.report (cycle : Cycle host) : CleanupReport :=
  match cycle.jobs with
  | some jobs => cleanup jobs
  | none => ⟨[], 0, [], true⟩

def Cycle.restore (cycle : Cycle host) : List ConnectionId :=
  if cycle.restoreAfterWake then cycle.report.active else []

inductive Input (host : Host)
  | start (connect inhibit : Except String Unit) (property : Except String Bool) (accepted : Bool)
  | sleep (delayLimit : Except String Nat) (cycle : Cycle host) (accepted accepted' : Bool)
  | wake (inhibit : Except String Unit) (accepted : Bool)
  | malformed (error : String)
  | ended

structure Listening where
  sleeping : Bool
  restore : List ConnectionId
  inhibitor : Bool
  deriving DecidableEq, Repr

/-- Nothing listens between a failure and the next start. -/
abbrev Listener := Option Listening

/-- `try_send`: a full channel drops the event. -/
def offer (accepted : Bool) (event : Event) : List Output :=
  if accepted then [.event event] else []

def failed (error : String) : List Output := [.event (.status (.unavailable error) true)]

def readyStatus (sleeping : Bool) : Event :=
  .status (.message ⟨if sleeping then "ui-sleep-sleep-already-in-progress-cleanup-will-be"
    else "ui-sleep-online-mount-cleanup-before-sleep-is-ready", []⟩) sleeping

def preparingStatus : Event :=
  .status (.message ⟨"ui-sleep-preparing-for-sleep-unmounting-online-connections", []⟩) false

def start (connect inhibit : Except String Unit) (property : Except String Bool) (accepted : Bool) :
    Listener × List Output :=
  match (do connect; inhibit; property : Except String Bool) with
  | .error error => (none, failed error)
  | .ok sleeping =>
      (some ⟨sleeping, [], !sleeping⟩,
        (if sleeping then .preparing else .awake) :: offer accepted (readyStatus sleeping))

def handle : Listener → Input host → Listener × List Output
  | none, .start connect inhibit property accepted => start connect inhibit property accepted
  | some listening, .sleep delayLimit cycle accepted accepted' =>
      if listening.sleeping then (some listening, [])
      else
        let announced := .preparing :: offer accepted preparingStatus
        match delayLimit with
        | .error error => (none, announced ++ failed error)
        | .ok _ =>
            (some ⟨true, cycle.restore, false⟩,
              announced ++ offer accepted' (.status (.report cycle.report) cycle.report.needsAttention))
  | some listening, .wake inhibit accepted =>
      if !listening.sleeping then (some listening, [])
      else match inhibit with
        | .error error => (none, .awake :: failed error)
        | .ok () => (some ⟨false, [], true⟩, .awake :: offer accepted (.wake listening.restore))
  | some _, .malformed error => (none, failed error)
  | some _, .ended => (none, failed "ui-sleep-logind-signal-stream-ended")
  | listener, _ => (listener, [])

theorem handle_wake (listening : Listening) (inhibit : Except String Unit) (accepted : Bool) :
    handle (some listening) (.wake inhibit accepted : Input host) =
      if !listening.sleeping then (some listening, [])
      else match inhibit with
        | .error error => (none, .awake :: failed error)
        | .ok () => (some ⟨false, [], true⟩, .awake :: offer accepted (.wake listening.restore)) := rfl

def run : Listener → List (Input host) → Listener × List Output
  | listener, [] => (listener, [])
  | listener, input :: rest =>
      let (next, outputs) := handle listener input
      ((run next rest).1, outputs ++ (run next rest).2)

/-- The lists of connections to restore, in the order in which they are sent. -/
def wakes (outputs : List Output) : List (List ConnectionId) :=
  outputs.filterMap fun
    | .event (.wake ids) => some ids
    | _ => none

@[simp] theorem wakes_nil : wakes [] = [] := rfl

@[simp] theorem wakes_append (outputs outputs' : List Output) :
    wakes (outputs ++ outputs') = wakes outputs ++ wakes outputs' := List.filterMap_append

@[simp] theorem wakes_offer_status (accepted : Bool) (text : StatusText) (attention : Bool) :
    wakes (offer accepted (.status text attention)) = [] := by
  cases accepted <;> rfl

/-! ## Runs -/

theorem run_cons (listener : Listener) (input : Input host) (rest : List (Input host)) :
    run listener (input :: rest) = ((run (handle listener input).1 rest).1,
      (handle listener input).2 ++ (run (handle listener input).1 rest).2) := rfl

theorem run_append (listener : Listener) (inputs rest : List (Input host)) :
    run listener (inputs ++ rest) = ((run (run listener inputs).1 rest).1,
      (run listener inputs).2 ++ (run (run listener inputs).1 rest).2) := by
  induction inputs generalizing listener with
  | nil => rfl
  | cons input inputs ih =>
      rw [List.cons_append, run_cons, ih, run_cons, List.append_assoc]

def Input.IsSleep : Input host → Prop
  | .sleep .. => True
  | _ => False

/-- A signal that makes the listener clean up. -/
def StartsCycle (listener : Listener) : Input host → Prop
  | .sleep (.ok _) _ _ _ => ∃ listening, listener = some listening ∧ listening.sleeping = false
  | _ => False

/-- None of the inputs makes the listener clean up. -/
def NoCycle : Listener → List (Input host) → Prop
  | _, [] => True
  | listener, input :: rest => ¬StartsCycle listener input ∧ NoCycle (handle listener input).1 rest

/-- While the host sleeps further sleep signals change nothing. -/
theorem run_sleeping {listening : Listening} (hsleeping : listening.sleeping = true)
    {inputs : List (Input host)} (h : ∀ input ∈ inputs, input.IsSleep) :
    run (some listening) inputs = (some listening, []) := by
  induction inputs with
  | nil => rfl
  | cons input inputs ih =>
      have hinput : handle (some listening) input = (some listening, []) := by
        cases input with
        | sleep => rw [handle, if_pos hsleeping]
        | start | wake | malformed | ended => exact (h _ List.mem_cons_self).elim
      rw [run_cons, hinput, ih fun i hi ↦ h i (List.mem_cons_of_mem _ hi)]
      rfl

/-- Nothing is kept to be restored. -/
def NothingKept (listener : Listener) : Prop :=
  ∀ listening, listener = some listening → listening.restore = []

/-- A step without a cleanup keeps it so, and sends at most an empty list. -/
theorem nothingKept_of_handle {listener : Listener} {input : Input host}
    (h : NothingKept listener) (hcycle : ¬StartsCycle listener input) :
    NothingKept (handle listener input).1 ∧ ∀ ids ∈ wakes (handle listener input).2, ids = [] := by
  cases listener with
  | none =>
      cases input with
      | start connect inhibit property accepted =>
          rw [handle, start]
          split
          · exact ⟨by simp [NothingKept], by simp [wakes, failed]⟩
          · next sleeping _ =>
              refine ⟨by simp [NothingKept], ?_⟩
              cases sleeping <;> cases accepted <;> simp [wakes, offer, readyStatus]
      | sleep | wake | malformed | ended => exact ⟨h, by simp [handle]⟩
  | some listening =>
      have hkept := h listening rfl
      cases input with
      | start => exact ⟨h, by simp [handle]⟩
      | malformed | ended => exact ⟨by simp [NothingKept, handle], by simp [handle, wakes, failed]⟩
      | sleep delayLimit cycle accepted accepted' =>
          rw [handle]
          split_ifs with hsleeping
          · exact ⟨h, by simp⟩
          · cases delayLimit with
            | ok limit => exact absurd ⟨listening, rfl, by simpa using hsleeping⟩ hcycle
            | error error =>
                refine ⟨by simp [NothingKept], ?_⟩
                cases accepted <;> simp [wakes, offer, failed, preparingStatus]
      | wake inhibit accepted =>
          rw [handle_wake]
          split_ifs
          · exact ⟨h, by simp⟩
          · cases inhibit with
            | error error => exact ⟨by simp [NothingKept], by simp [wakes, failed]⟩
            | ok _ =>
                refine ⟨by simp [NothingKept], ?_⟩
                cases accepted <;> simp [wakes, offer, hkept]

theorem wakes_of_noCycle {listener : Listener} {inputs : List (Input host)}
    (h : NothingKept listener) (hcycle : NoCycle listener inputs) :
    ∀ ids ∈ wakes (run listener inputs).2, ids = [] := by
  induction inputs generalizing listener with
  | nil => simp [run]
  | cons input inputs ih =>
      obtain ⟨hkept, hempty⟩ := nothingKept_of_handle h hcycle.1
      intro ids hids
      rw [run_cons, wakes_append, List.mem_append] at hids
      exact hids.elim (hempty ids) (ih hkept hcycle.2 ids)

/-! ## Restoration -/

/-- The connection is sent for restoration once: at the wake signal, and neither before it nor
after it. -/
structure RestoredOnce (listener : Listener) (cycle : Input host) (between : List (Input host))
    (wake : Input host) (after : List (Input host)) (id : ConnectionId) : Prop where
  before : wakes (run listener (cycle :: between)).2 = []
  atWake : ∃ ids, wakes (handle (run listener (cycle :: between)).1 wake).2 = [ids] ∧ id ∈ ids
  after : ∀ ids ∈ wakes (run (handle (run listener (cycle :: between)).1 wake).1 after).2, id ∉ ids

def sampleConnection : Connection where
  id := sampleId
  name := "Documents"
  provider := .onedrive
  mode := .onlineMount {}
  remoteReference := "documents"
  localPath := "/mnt/documents"

def sampleHost : Host := ⟨some "/run/user/1000", fun _ ↦ .error "EOF while parsing a value"⟩

def sampleName : UnitName := ⟨sampleId, .service⟩

def printed (text : String) : Option (Except CommandError CommandOutput) :=
  some (.ok ⟨⟨text, false, false⟩, ⟨"", false, false⟩⟩)

/-- The calls up to the first look at the mount table. -/
def preparation : JobHistory :=
  [⟨.unitFileState sampleName, .ok (.managed sampleId)⟩,
    ⟨.prepareStopPolicy "/run/user/1000/systemd/user" sampleName, .ok true⟩,
    ⟨.reloadUserManager, some (.ok ())⟩]

def safePolicy : Option (Except String StopPolicy) := some (.ok ⟨false, 2000000, "terminate", 15⟩)

/-- The service is active without a mount, and stops. -/
def cleanHistory : JobHistory := preparation ++
  [⟨.mountTable, printed ""⟩, ⟨.activeState sampleName.fileName, some (.ok "active")⟩,
    ⟨.setWasActive true, ()⟩, ⟨.remaining, (4000 : Nat)⟩, ⟨.stopPolicy sampleName.fileName, safePolicy⟩,
    ⟨.remaining, (3900 : Nat)⟩, ⟨.stopNoWait sampleName.fileName, some (.ok ())⟩,
    ⟨.activeState sampleName.fileName, some (.ok "inactive")⟩, ⟨.mountTable, printed ""⟩]

def mountLine : String := "36 35 98:0 / /mnt/documents rw - fuse.onedriver onedriver rw"

/-- The mount is detached, and then there is too little time left to stop the service. -/
def detachedHistory : JobHistory := preparation ++
  [⟨.mountTable, printed mountLine⟩, ⟨.setWasActive true, ()⟩, ⟨.remaining, (2600 : Nat)⟩,
    ⟨.stopPolicy sampleName.fileName, safePolicy⟩, ⟨.remaining, (2500 : Nat)⟩,
    ⟨.unmount "/mnt/documents" 500, printed ""⟩, ⟨.mountTable, printed ""⟩, ⟨.remaining, (400 : Nat)⟩]

def cleanJob : Job sampleHost := ⟨sampleConnection, 1, cleanHistory, .ok true, rfl⟩

def detachedJob : Job sampleHost where
  connection := sampleConnection
  rounds := 1
  history := detachedHistory
  ended := .error (.failed (.message
    ⟨"ui-sleep-sleep-cleanup-deadline-reached-after-detaching-inspect", []⟩))
  ran := rfl

def sampleCycle (job : Job sampleHost) (h : job.connection = sampleConnection) :
    Cycle sampleHost where
  connections := [sampleConnection]
  restoreAfterWake := true
  jobs := some [job]
  jobs_connections := by
    intro finished hfinished
    obtain rfl := Option.some.inj hfinished
    rw [List.map_singleton, h]
    exact List.Perm.refl _

end CosmicMounter.Sleep

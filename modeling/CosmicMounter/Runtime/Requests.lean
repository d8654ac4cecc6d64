import CosmicMounter.Runtime.Outcomes

/-!
# Routed requests

The applet with the history of the requests that it accepted from other
windows: which of them each waiting or running operation belongs to, and which
completions were recorded for it.
-/

namespace CosmicMounter.Runtime

open Rust

/-- Where an operation comes from: the applet itself, or an accepted request. -/
inductive Origin
  | applet
  | routed (request : Nat)
  deriving DecidableEq

def Origin.request : Origin → Option Nat
  | .applet => none
  | .routed request => some request

@[simp] theorem Origin.request_eq_some {origin : Origin} {request : Nat} :
    origin.request = some request ↔ origin = .routed request := by
  cases origin <;> simp [Origin.request]

structure Running where
  work : Work
  origin : Origin
  deriving DecidableEq

/-- The state of the applet and what is known about the accepted requests. -/
structure Moment where
  app : AppModel
  accepted : List (ConnectionId × Operation) := []
  latest : ConnectionId → Nat := fun _ ↦ 0
  origins : ConnectionId → Origin := fun _ ↦ .applet
  unfinished : List Running := []
  settled : List Nat := []
  records : List (Nat × OperationCompletion) := []

/-- What happened to an operation, with the state before it. -/
inductive Entry
  | waits (before : Moment) (id : ConnectionId) (origin : Origin)
  | turnedAway (before : Moment) (id : ConnectionId) (operation : Operation) (origin : Origin)
  | started (before : Moment) (running : Running)
  | finished (before : Moment) (running : Running)

structure System extends Moment where
  log : List Entry := []

namespace System

variable (s : System)

def withApp (app : AppModel) : System := { s with app }

/-- The state after a call that ended with `complete_routed_operation`. -/
def complete (after : AppModel) (id : ConnectionId) (operation : Operation) (origin : Origin) : System :=
  { s with
    app := after
    settled := s.settled ++ origin.request.toList
    records := if s.app.runtimeRoutedOperations[id]? = some operation then
        s.records ++ [(s.latest id, after.recorded id operation)]
      else s.records }

def enter (entry : Entry) : System := { s with log := s.log ++ [entry] }

/-- A new request takes the connection. -/
def accept (id : ConnectionId) (operation : Operation) (document : ConfigDocument) : System :=
  { s with
    app := (s.app.reloadConfiguration document).registerRoutedOperation id operation
    accepted := s.accepted ++ [(id, operation)]
    latest := Function.update s.latest id s.accepted.length }

def record (now : Instant) (id : ConnectionId) (operation : Operation) (origin : Origin) : System :=
  let after := s.app.recordOperationRequest now id operation
  match s.app.mustWait now id with
  | some _ => { s.enter (.waits s.toMoment id origin) with
      app := after.1, origins := Function.update s.origins id origin }
  | none =>
      match after.2 with
      | .perform work :: _ => { s.enter (.started s.toMoment ⟨work, origin⟩) with
          app := after.1, unfinished := s.unfinished ++ [⟨work, origin⟩] }
      | _ => (s.enter (.turnedAway s.toMoment id operation origin)).complete after.1 id operation origin

def resume (now : Instant) (id : ConnectionId) (connection : Connection) (operation : Operation) :
    System :=
  if s.app.unitStatusFresh now id && connection ∈ s.app.document.connections then
    s.record now id operation (s.origins id)
  else
    (s.enter (.turnedAway s.toMoment id operation (s.origins id))).complete
      (s.app.resumeOperation now id connection operation).1 id operation (s.origins id)

def resumeAll (now : Instant) : Waiting → System → System
  | [], s => s
  | (id, connection, operation) :: rest, s => resumeAll now rest (s.resume now id connection operation)

/-- A message that is not the completion of an operation. -/
def deliver (now : Instant) (message : AppMessage) : System :=
  match message with
  | .runtimeRequest (.runOperation id operation) (.ok document) _ =>
      if s.app.standalone ∨ id ∈ s.app.runtimeRoutedOperations then s
      else (s.accept id operation document).record now id operation (.routed s.accepted.length)
  | .operationRequested id operation =>
      if s.app.runtimeOwner then s.record now id operation .applet
      else s.withApp (s.app.operationRequested now id operation).1
  | .unitObservationCompleted revision connections observation =>
      if revision = s.app.unitObservationRevision ∧ connections = s.app.document.connections then
        resumeAll now s.app.unitOperationsWaiting.toList
          (s.withApp (s.app.acceptObservation now connections observation))
      else s.withApp (s.app.unitObservationCompleted now revision connections observation).1
  | .wake ids loaded =>
      { s with
        app := s.app.reloadConfiguration loaded
        unfinished := s.unfinished ++ (AppModel.restored ids loaded).map fun connection ↦
          ⟨.restoreOnline connection, .applet⟩ }
  | _ => s.withApp (s.app.update now message).app

end System

/-- How an operation ended, as its completion reports it. -/
structure Ending where
  notice : Message
  result : Except Message Unit
  loaded : ConfigDocument

def Work.completed (work : Work) (ending : Ending) : AppMessage :=
  match work with
  | .onlineMount connection operation =>
      .managedOnlineOperationCompleted connection operation ending.result ending.loaded
  | .restoreOnline connection =>
      .managedOnlineOperationCompleted connection .mount ending.result ending.loaded
  | .onlineRepair connection => .onlineRepairCompleted connection.id ending.notice ending.loaded
  | .offlineRepair connection _ => .offlineRepairCompleted connection.id ending.notice ending.loaded
  | .mirror _ connection _ _ => .mirrorOperationCompleted connection.id ending.notice ending.loaded

/-- The completion of a mirror operation names no operation: it completes the one that is routed. -/
def Work.completes (work : Work) (operation : Operation) : Prop :=
  match work with
  | .mirror .. => True
  | _ => work.operation = operation

instance (work : Work) (operation : Operation) : Decidable (work.completes operation) := by
  unfold Work.completes
  split <;> infer_instance

namespace System

variable (s : System)

/-- The completion of `running`, which leaves the operations in `others`. -/
def finish (now : Instant) (running : Running) (others : List Running) (ending : Ending) : System :=
  let id := running.work.connection.id
  let after := (s.app.update now (running.work.completed ending)).app
  let logged := { s.enter (.finished s.toMoment running) with unfinished := others }
  match s.app.runtimeRoutedOperations[id]? with
  | some operation =>
      if running.work.completes operation then logged.complete after id operation running.origin
      else { logged.withApp after with settled := s.settled ++ running.origin.request.toList }
  | none => { logged.withApp after with settled := s.settled ++ running.origin.request.toList }

end System

def AppMessage.isCompletion : AppMessage → Bool
  | .onlineRepairCompleted .. | .offlineRepairCompleted .. | .mirrorOperationCompleted ..
  | .managedOnlineOperationCompleted .. => true
  | _ => false

inductive Step (s : System) : System → Prop
  | deliver (now : Instant) {message : AppMessage} (hmessage : message.isCompletion = false) :
      Step s (s.deliver now message)
  | finish (now : Instant) {running : Running} {first last : List Running}
      (hrunning : s.unfinished = first ++ running :: last) (ending : Ending) :
      Step s (s.finish now running (first ++ last) ending)

/-- The applet starts with a configuration, and with nothing pending. -/
inductive Reachable : System → Prop
  | initial (document : ConfigDocument) : Reachable { app := { document } }
  | step {s s' : System} (h : Reachable s) (hstep : Step s s') : Reachable s'

/-! ## The history follows the applet -/

namespace System

variable {s : System} {now : Instant}

theorem app_record (id : ConnectionId) (operation : Operation) (origin : Origin) :
    (s.record now id operation origin).app = (s.app.recordOperationRequest now id operation).1 := by
  unfold record
  dsimp only
  split
  · rfl
  · split <;> rfl

theorem app_resume (id : ConnectionId) (connection : Connection) (operation : Operation) :
    (s.resume now id connection operation).app = (s.app.resumeOperation now id connection operation).1 := by
  unfold resume
  split
  · next hfresh => rw [app_record, AppModel.resumeOperation, if_pos hfresh]
  · rfl

theorem app_resumeAll (entries : Waiting) :
    (resumeAll now entries s).app = (resumeOperations now entries s.app).1 := by
  induction entries generalizing s with
  | nil => rfl
  | cons entry rest ih =>
      obtain ⟨id, connection, operation⟩ := entry
      rw [resumeAll, resumeOperations, ih, app_resume]

theorem deliver_of_isQuiet {message : AppMessage} (hquiet : message.isQuiet = true) :
    s.deliver now message = s.withApp (s.app.update now message).app := by
  cases message with
  | runtimeRequest command loaded saved =>
      cases command with
      | runOperation id operation =>
          cases loaded with
          | ok document => cases hquiet
          | error error => rfl
      | _ => rfl
  | unitObservationCompleted | operationRequested | wake | onlineRepairCompleted
  | offlineRepairCompleted | mirrorOperationCompleted | managedOnlineOperationCompleted => cases hquiet
  | _ => rfl

/-- A delivered message changes the applet as `update` does. -/
theorem app_deliver {message : AppMessage} (hmessage : message.isCompletion = false) :
    (s.deliver now message).app = (s.app.update now message).app := by
  by_cases hquiet : message.isQuiet = true
  · rw [deliver_of_isQuiet hquiet]
    rfl
  · cases message with
    | unitObservationCompleted revision connections observation =>
        have hupdate : (s.app.update now (.unitObservationCompleted revision connections observation)).app =
            (s.app.unitObservationCompleted now revision connections observation).1 := rfl
        rw [hupdate, deliver]
        split
        · next hcurrent =>
            rw [app_resumeAll, AppModel.unitObservationCompleted, if_neg (not_not.mpr hcurrent.1),
              if_neg (not_not.mpr hcurrent.2)]
            rfl
        · rfl
    | operationRequested id operation =>
        have hupdate : (s.app.update now (.operationRequested id operation)).app =
            (s.app.operationRequested now id operation).1 := rfl
        rw [hupdate, deliver]
        split
        · next howner => rw [app_record, AppModel.operationRequested, if_pos howner]
        · rfl
    | wake ids loaded => rfl
    | runtimeRequest command loaded saved =>
        cases command with
        | runOperation id operation =>
            cases loaded with
            | error error => exact absurd rfl hquiet
            | ok document =>
                have hupdate : (s.app.update now (.runtimeRequest (.runOperation id operation)
                    (.ok document) saved)).app =
                    (s.app.runtimeRequest now (.runOperation id operation) (.ok document) saved).app := rfl
                rw [hupdate, deliver, AppModel.runtimeRequest]
                by_cases hstandalone : s.app.standalone = true
                · rw [if_pos hstandalone, if_pos (.inl hstandalone)]
                · rw [if_neg hstandalone]
                  dsimp only [AppModel.runRoutedOperation]
                  by_cases hrouted : id ∈ s.app.runtimeRoutedOperations
                  · rw [if_pos hrouted, if_pos (.inr hrouted)]
                  · rw [if_neg hrouted, if_neg (not_or.mpr ⟨hstandalone, hrouted⟩), app_record]
                    rfl
        | _ => exact absurd rfl hquiet
    | onlineRepairCompleted | offlineRepairCompleted | mirrorOperationCompleted
    | managedOnlineOperationCompleted => cases hmessage
    | _ => exact absurd rfl hquiet

/-- A finished operation changes the applet as its completion does. -/
theorem app_finish (running : Running) (others : List Running) (ending : Ending) :
    (s.finish now running others ending).app =
      (s.app.update now (running.work.completed ending)).app := by
  unfold finish
  dsimp only
  split
  · split <;> rfl
  · rfl

end System

/-- Every step is the handling of one message. -/
theorem app_of_step {s s' : System} (h : Step s s') :
    ∃ now message, s'.app = (s.app.update now message).app := by
  cases h with
  | deliver now hmessage => exact ⟨now, _, System.app_deliver hmessage⟩
  | finish now hrunning ending => exact ⟨now, _, System.app_finish _ _ ending⟩

/-- A completion completes the routed request of its connection when it is of that operation. -/
theorem completes_update_completed (app : AppModel) (now : Instant) (work : Work) (ending : Ending) :
    ∃ operation,
      app.Completes work.connection.id operation (app.update now (work.completed ending)).app ∧
        ∀ routed, app.runtimeRoutedOperations[work.connection.id]? = some routed →
          (operation = routed ↔ work.completes routed) := by
  cases work with
  | mirror engine connection operation control =>
      obtain ⟨operation, hoperation, hcompletes⟩ :=
        app.completes_mirrorOperationCompleted connection.id ending.notice ending.loaded
      refine ⟨operation, hcompletes.refresh true, fun routed hrouted ↦ ?_⟩
      rw [show app.runtimeRoutedOperations[connection.id]? = some routed from hrouted] at hoperation
      exact iff_of_true hoperation.symm trivial
  | onlineMount connection operation =>
      exact ⟨operation, (app.completes_managedOnlineOperationCompleted connection operation
        ending.result ending.loaded).refresh true, fun _ _ ↦ .rfl⟩
  | restoreOnline connection =>
      exact ⟨.mount, (app.completes_managedOnlineOperationCompleted connection .mount
        ending.result ending.loaded).refresh true, fun _ _ ↦ .rfl⟩
  | onlineRepair connection =>
      exact ⟨.repair, (app.completes_onlineRepairCompleted connection.id ending.notice
        ending.loaded).refresh true, fun _ _ ↦ .rfl⟩
  | offlineRepair connection manualOperation =>
      exact ⟨.repair, (app.completes_offlineRepairCompleted connection.id ending.notice
        ending.loaded).refresh true, fun _ _ ↦ .rfl⟩

end CosmicMounter.Runtime

import CosmicMounter.Runtime.Requests

/-!
# Completion of routed requests

Every accepted request that is not served yet is owned by one waiting entry or
one running operation.  Completions move the ownership, and a request leaves
it when its completion is recorded.
-/

namespace CosmicMounter.Runtime

open Rust AppModel

theorem keepLast_append (completions : List OperationCompletion) (completion : OperationCompletion) :
    keepLast (keepLast completions ++ [completion]) = keepLast (completions ++ [completion]) := by
  have happend : keepLast completions ++ [completion] =
      (completions ++ [completion]).drop (completions.length - runtimeOperationCompletionLimit) := by
    rw [keepLast, List.drop_append_of_le_length (Nat.sub_le _ _)]
  rw [happend, keepLast, List.drop_drop, keepLast]
  congr 1
  simp only [List.length_drop, List.length_append, List.length_singleton]
  unfold runtimeOperationCompletionLimit
  omega

abbrev Waiters := ConnectionId → Option (Connection × Operation)

namespace Moment

variable (m : Moment)

def Open (request : Nat) : Prop := request ∉ m.settled ∧ ∀ record ∈ m.records, record.1 ≠ request

/-- The request that the connection is registered for. -/
def Live (request : Nat) (id : ConnectionId) (operation : Operation) : Prop :=
  m.accepted[request]? = some (id, operation) ∧
    m.app.runtimeRoutedOperations[id]? = some operation ∧ m.latest id = request

/-- The request was refused or its operation has ended, and one completion was recorded for it. -/
def Served (request : Nat) (id : ConnectionId) (operation : Operation) : Prop :=
  request ∈ m.settled ∧ ∃ completion : OperationCompletion,
    m.records.filter (fun record ↦ record.1 = request) = [(request, completion)] ∧
      completion.connectionId = id ∧ completion.operation = operation

/-- `waiters` are the waiting entries, and `held` is the request that is handled right now. -/
structure Sound (waiters : Waiters) (held : Option Nat) (m : Moment) : Prop where
  routed : ∀ {id operation}, m.app.runtimeRoutedOperations[id]? = some operation →
    m.Live (m.latest id) id operation ∧ m.Open (m.latest id)
  closed : ∀ {request id operation}, m.accepted[request]? = some (id, operation) →
    m.Live request id operation ∨ m.Served request id operation
  recordsKnown : ∀ record ∈ m.records, record.1 < m.accepted.length
  settledKnown : ∀ request ∈ m.settled, request < m.accepted.length
  heldLive : ∀ {request}, held = some request → ∃ id operation, m.Live request id operation
  waiterLive : ∀ {id entry request}, waiters id = some entry → m.origins id = .routed request →
    m.Live request id entry.2
  runningLive : ∀ {running request}, running ∈ m.unfinished → running.origin = .routed request →
    m.Live request running.work.connection.id running.work.operation
  owned : ∀ {id operation}, m.app.runtimeRoutedOperations[id]? = some operation →
    held = some (m.latest id) ∨
      (∃ entry, waiters id = some entry ∧ m.origins id = .routed (m.latest id)) ∨
        ∃ running ∈ m.unfinished, running.origin = .routed (m.latest id)
  heldWaiter : ∀ {request id entry}, held = some request → waiters id = some entry →
    m.origins id ≠ .routed request
  heldRunning : ∀ {request running}, held = some request → running ∈ m.unfinished →
    running.origin ≠ .routed request
  waiterRunning : ∀ {request id entry running}, waiters id = some entry →
    m.origins id = .routed request → running ∈ m.unfinished → running.origin ≠ .routed request
  runningOnce : m.unfinished.Pairwise fun first second ↦
    ∀ request, first.origin = .routed request → second.origin ≠ .routed request
  history : m.app.runtimeOperationCompletions = keepLast (m.records.map (·.2))

variable {m : Moment} {waiters : Waiters} {held : Option Nat} {id : ConnectionId}
  {operation : Operation}

theorem Live.eq {request request' : Nat} {operation' : Operation} (h : m.Live request id operation)
    (h' : m.Live request' id operation') : request = request' := h.2.2.symm.trans h'.2.2

theorem Live.id_eq {request : Nat} {id' : ConnectionId} {operation' : Operation}
    (h : m.Live request id operation) (h' : m.Live request id' operation') : id = id' := by
  have := h.1.symm.trans h'.1
  simp only [Option.some.injEq, Prod.mk.injEq] at this
  exact this.1

theorem Live.with_app {request : Nat} {app : AppModel}
    (hrouted : app.runtimeRoutedOperations = m.app.runtimeRoutedOperations)
    (h : m.Live request id operation) : Live { m with app } request id operation :=
  ⟨h.1, hrouted.symm ▸ h.2.1, h.2.2⟩

/-- Only the routed operations and their completions matter. -/
theorem Sound.with_app (app : AppModel) (h : Sound waiters held m)
    (hrouted : app.runtimeRoutedOperations = m.app.runtimeRoutedOperations)
    (hcompletions : app.runtimeOperationCompletions = m.app.runtimeOperationCompletions) :
    Sound waiters held { m with app } where
  routed hid := by
    dsimp only at hid
    rw [hrouted] at hid
    exact ⟨(h.routed hid).1.with_app hrouted, (h.routed hid).2⟩
  closed hrequest := (h.closed hrequest).imp (Live.with_app hrouted) fun hserved ↦ hserved
  recordsKnown := h.recordsKnown
  settledKnown := h.settledKnown
  heldLive hheld := by
    obtain ⟨id, operation, hlive⟩ := h.heldLive hheld
    exact ⟨id, operation, hlive.with_app hrouted⟩
  waiterLive hwaiter horigin := (h.waiterLive hwaiter horigin).with_app hrouted
  runningLive hrunning horigin := (h.runningLive hrunning horigin).with_app hrouted
  owned hid := by
    dsimp only at hid
    rw [hrouted] at hid
    exact h.owned hid
  heldWaiter := h.heldWaiter
  heldRunning := h.heldRunning
  waiterRunning := h.waiterRunning
  runningOnce := h.runningOnce
  history := hcompletions.trans h.history

/-! ## Moving the ownership -/

/-- A waiting entry is taken up. -/
theorem Sound.take {entry : Connection × Operation} (h : Sound waiters none m)
    (hentry : waiters id = some entry) :
    Sound (Function.update waiters id none) (m.origins id).request m := by
  have hwaiter : ∀ {id' entry'}, Function.update waiters id none id' = some entry' →
      id' ≠ id ∧ waiters id' = some entry' := by
    intro id' entry' hid'
    by_cases heq : id' = id
    · subst heq
      simp at hid'
    · rw [Function.update_of_ne heq] at hid'
      exact ⟨heq, hid'⟩
  constructor
  case routed => exact h.routed
  case closed => exact h.closed
  case recordsKnown => exact h.recordsKnown
  case settledKnown => exact h.settledKnown
  case heldLive => exact fun hheld ↦ ⟨id, entry.2, h.waiterLive hentry (Origin.request_eq_some.mp hheld)⟩
  case waiterLive => exact fun hid' ↦ h.waiterLive (hwaiter hid').2
  case runningLive => exact h.runningLive
  case owned =>
    intro id' operation' hid'
    rcases h.owned hid' with hheld | ⟨entry', hentry', horigin'⟩ | hrunning
    · cases hheld
    · by_cases heq : id' = id
      · subst heq
        exact .inl (Origin.request_eq_some.mpr horigin')
      · exact .inr (.inl ⟨entry', by rwa [Function.update_of_ne heq], horigin'⟩)
    · exact .inr (.inr hrunning)
  case heldWaiter =>
    intro request id' entry' hheld hid' horigin'
    have hlive := h.waiterLive (hwaiter hid').2 horigin'
    exact (hwaiter hid').1 (hlive.id_eq (h.waiterLive hentry (Origin.request_eq_some.mp hheld)))
  case heldRunning =>
    exact fun hheld hrunning ↦ h.waiterRunning hentry (Origin.request_eq_some.mp hheld) hrunning
  case waiterRunning => exact fun hid' ↦ h.waiterRunning (hwaiter hid').2
  case runningOnce => exact h.runningOnce
  case history => exact h.history

/-- A running operation is taken up when its completion arrives. -/
theorem Sound.release {running : Running} {first last : List Running} (h : Sound waiters none m)
    (hrunning : m.unfinished = first ++ running :: last) :
    Sound waiters running.origin.request { m with unfinished := first ++ last } := by
  have hmem : running ∈ m.unfinished := by simp [hrunning]
  have hothers : ∀ {other}, other ∈ first ++ last → other ∈ m.unfinished := by
    intro other hother
    rw [hrunning]
    simp only [List.mem_append, List.mem_cons] at hother ⊢
    tauto
  have honce : (running :: (first ++ last)).Pairwise fun first second ↦
      ∀ request, first.origin = .routed request → second.origin ≠ .routed request := by
    refine (List.pairwise_middle fun hpair request hsecond hfirst ↦ ?_).mp (hrunning ▸ h.runningOnce)
    exact hpair request hfirst hsecond
  rw [List.pairwise_cons] at honce
  constructor
  case routed => exact h.routed
  case closed => exact h.closed
  case recordsKnown => exact h.recordsKnown
  case settledKnown => exact h.settledKnown
  case heldLive => exact fun hheld ↦ ⟨_, _, h.runningLive hmem (Origin.request_eq_some.mp hheld)⟩
  case waiterLive => exact h.waiterLive
  case runningLive => exact fun hother ↦ h.runningLive (hothers hother)
  case owned =>
    intro id operation hid
    rcases h.owned hid with hheld | hwaiter | ⟨other, hother, horigin⟩
    · cases hheld
    · exact .inr (.inl hwaiter)
    · rw [hrunning, List.mem_append, List.mem_cons] at hother
      rcases hother with hfirst | rfl | hlast
      · exact .inr (.inr ⟨other, List.mem_append_left _ hfirst, horigin⟩)
      · exact .inl (Origin.request_eq_some.mpr horigin)
      · exact .inr (.inr ⟨other, List.mem_append_right _ hlast, horigin⟩)
  case heldWaiter =>
    exact fun hheld hwaiter horigin ↦
      h.waiterRunning hwaiter horigin hmem (Origin.request_eq_some.mp hheld)
  case heldRunning =>
    exact fun hheld hother ↦ honce.1 _ hother _ (Origin.request_eq_some.mp hheld)
  case waiterRunning => exact fun hwaiter horigin hother ↦ h.waiterRunning hwaiter horigin (hothers hother)
  case runningOnce => exact honce.2
  case history => exact h.history

/-- What is handled right now joins the waiting entries. -/
theorem Sound.wait {origin : Origin} (id : ConnectionId) (entry : Connection × Operation)
    (h : Sound waiters held m)
    (hheld : origin.request = held) (hlive : ∀ request, origin = .routed request →
      m.Live request id entry.2)
    (hfair : origin = .applet → ∀ entry request, waiters id = some entry →
      m.origins id ≠ .routed request) :
    Sound (Function.update waiters id (some entry)) none
      { m with origins := Function.update m.origins id origin } := by
  subst hheld
  have hkept : ∀ {id' entry'} request, waiters id' = some entry' → m.origins id' = .routed request →
      id' ≠ id := by
    rintro id' entry' request hwaiter horigin rfl
    cases hid : origin with
    | applet => exact hfair hid _ _ hwaiter horigin
    | routed request' =>
        have heq := (h.waiterLive hwaiter horigin).eq (hlive request' hid)
        exact h.heldWaiter (Origin.request_eq_some.mpr hid) hwaiter (heq ▸ horigin)
  have hwaiter : ∀ {id' entry' request}, Function.update waiters id (some entry) id' = some entry' →
      Function.update m.origins id origin id' = .routed request →
      (id' = id ∧ entry' = entry ∧ origin = .routed request) ∨
        (waiters id' = some entry' ∧ m.origins id' = .routed request) := by
    intro id' entry' request hid' horigin
    by_cases heq : id' = id
    · subst heq
      rw [Function.update_self] at hid' horigin
      exact .inl ⟨rfl, (Option.some.inj hid').symm, horigin⟩
    · rw [Function.update_of_ne heq] at hid' horigin
      exact .inr ⟨hid', horigin⟩
  constructor
  case routed => exact h.routed
  case closed => exact h.closed
  case recordsKnown => exact h.recordsKnown
  case settledKnown => exact h.settledKnown
  case heldLive => nofun
  case waiterLive =>
    intro id' entry' request hid' horigin
    rcases hwaiter hid' horigin with ⟨rfl, rfl, hrouted⟩ | ⟨hold, horigin⟩
    · exact hlive request hrouted
    · exact h.waiterLive hold horigin
  case runningLive => exact h.runningLive
  case owned =>
    intro id' operation' hid'
    rcases h.owned hid' with hheld | ⟨entry', hentry', horigin⟩ | hrunning
    · have hrouted := Origin.request_eq_some.mp hheld
      obtain rfl := (hlive _ hrouted).id_eq (h.routed hid').1
      exact .inr (.inl ⟨entry, Function.update_self .., (Function.update_self ..).trans hrouted⟩)
    · have hne := hkept _ hentry' horigin
      exact .inr (.inl ⟨entry', by rwa [Function.update_of_ne hne],
        (Function.update_of_ne hne ..).trans horigin⟩)
    · exact .inr (.inr hrunning)
  case heldWaiter => nofun
  case heldRunning => nofun
  case waiterRunning =>
    intro request id' entry' running hid' horigin hrunning
    rcases hwaiter hid' horigin with ⟨rfl, rfl, hrouted⟩ | ⟨hold, horigin⟩
    · exact h.heldRunning (Origin.request_eq_some.mpr hrouted) hrunning
    · exact h.waiterRunning hold horigin hrunning
  case runningOnce => exact h.runningOnce
  case history => exact h.history

/-- What is handled right now starts its operation. -/
theorem Sound.start (running : Running) (h : Sound waiters held m)
    (hheld : running.origin.request = held)
    (hlive : ∀ request, running.origin = .routed request →
      m.Live request running.work.connection.id running.work.operation) :
    Sound waiters none { m with unfinished := m.unfinished ++ [running] } := by
  subst hheld
  have hmem : ∀ {other}, other ∈ m.unfinished ++ [running] → other ∈ m.unfinished ∨ other = running := by
    intro other hother
    simpa using hother
  constructor
  case routed => exact h.routed
  case closed => exact h.closed
  case recordsKnown => exact h.recordsKnown
  case settledKnown => exact h.settledKnown
  case heldLive => nofun
  case waiterLive => exact h.waiterLive
  case runningLive =>
    intro other request hother horigin
    rcases hmem hother with hold | rfl
    · exact h.runningLive hold horigin
    · exact hlive request horigin
  case owned =>
    intro id operation hid
    rcases h.owned hid with hheld | hwaiter | ⟨other, hother, horigin⟩
    · exact .inr (.inr ⟨running, by simp, Origin.request_eq_some.mp hheld⟩)
    · exact .inr (.inl hwaiter)
    · exact .inr (.inr ⟨other, List.mem_append_left _ hother, horigin⟩)
  case heldWaiter => nofun
  case heldRunning => nofun
  case waiterRunning =>
    intro request id entry other hwaiter horigin hother
    rcases hmem hother with hold | rfl
    · exact h.waiterRunning hwaiter horigin hold
    · exact fun hrouted ↦ h.heldWaiter (Origin.request_eq_some.mpr hrouted) hwaiter horigin
  case runningOnce =>
    rw [List.pairwise_append]
    refine ⟨h.runningOnce, List.pairwise_singleton _ _, fun other hother last hlast request horigin hrouted ↦ ?_⟩
    obtain rfl := List.mem_singleton.mp hlast
    exact h.heldRunning (Origin.request_eq_some.mpr hrouted) hother horigin
  case history => exact h.history

/-- The applet starts operations of its own. -/
theorem Sound.startAll (h : Sound waiters none m) (started : List Running)
    (happlet : ∀ running ∈ started, running.origin = .applet) :
    Sound waiters none { m with unfinished := m.unfinished ++ started } := by
  induction started generalizing m with
  | nil =>
      rw [List.append_nil]
      exact h
  | cons running rest ih =>
      have horigin := happlet running (List.mem_cons_self ..)
      have hfirst := h.start running (by rw [horigin]; rfl) (by simp [horigin])
      have hrest := ih hfirst fun other hother ↦ happlet other (List.mem_cons_of_mem _ hother)
      dsimp only at hrest
      rw [List.append_assoc, List.singleton_append] at hrest
      exact hrest

/-- The request that is handled right now is served. -/
theorem Sound.serve {request : Nat} {completion : OperationCompletion} {after : AppModel}
    (h : Sound waiters (some request) m) (hlive : m.Live request id operation)
    (hrouted : after.runtimeRoutedOperations = m.app.runtimeRoutedOperations.erase id)
    (hcompletions : after.runtimeOperationCompletions =
      keepLast (m.app.runtimeOperationCompletions ++ [completion]))
    (hid : completion.connectionId = id) (hoperation : completion.operation = operation) :
    Sound waiters none { m with
      app := after
      settled := m.settled ++ [request]
      records := m.records ++ [(request, completion)] } := by
  have hopen : m.Open request := hlive.2.2 ▸ (h.routed hlive.2.1).2
  have herase : ∀ {id' operation'}, after.runtimeRoutedOperations[id']? = some operation' →
      id' ≠ id ∧ m.app.runtimeRoutedOperations[id']? = some operation' := by
    intro id' operation' hid'
    rw [hrouted, Std.TreeMap.getElem?_erase] at hid'
    by_cases heq : id = id' <;> simp_all [eq_comm]
  -- Every other live request stays live.
  have hkeeps : ∀ {request' id' operation'}, request' ≠ request → m.Live request' id' operation' →
      Live { m with
        app := after
        settled := m.settled ++ [request]
        records := m.records ++ [(request, completion)] } request' id' operation' := by
    intro request' id' operation' hne hlive'
    have hid' : id ≠ id' := by
      rintro rfl
      exact hne (hlive'.eq hlive)
    refine ⟨hlive'.1, ?_, hlive'.2.2⟩
    dsimp only
    rw [hrouted, Std.TreeMap.getElem?_erase]
    simpa [hid'] using hlive'.2.1
  constructor
  case routed =>
    intro id' operation' hid'
    obtain ⟨hne, hold⟩ := herase hid'
    obtain ⟨hlive', hopen'⟩ := h.routed hold
    have hrequest : m.latest id' ≠ request := by
      intro heq
      exact hne (hlive'.id_eq (heq ▸ hlive))
    refine ⟨hkeeps hrequest hlive', ?_, ?_⟩
    · simpa [hrequest] using hopen'.1
    · intro record hrecord
      rcases List.mem_append.mp hrecord with hrecord | hrecord
      · exact hopen'.2 record hrecord
      · obtain rfl := List.mem_singleton.mp hrecord
        exact hrequest.symm
  case closed =>
    intro request' id' operation' haccepted
    by_cases hne : request' = request
    · subst hne
      have heq := hlive.1.symm.trans haccepted
      simp only [Option.some.injEq, Prod.mk.injEq] at heq
      refine .inr ⟨by simp, completion, ?_, hid.trans heq.1, hoperation.trans heq.2⟩
      have hnone : m.records.filter (fun record ↦ record.1 = request') = [] := by
        rw [List.filter_eq_nil_iff]
        simpa using hopen.2
      simp [hnone]
    · refine (h.closed haccepted).imp (hkeeps hne) ?_
      rintro ⟨hsettled, completion', hrecords, hserved⟩
      refine ⟨List.mem_append_left _ hsettled, completion', ?_, hserved⟩
      rw [List.filter_append, hrecords]
      simp [Ne.symm hne]
  case recordsKnown =>
    intro record hrecord
    rcases List.mem_append.mp hrecord with hrecord | hrecord
    · exact h.recordsKnown record hrecord
    · obtain rfl := List.mem_singleton.mp hrecord
      exact (List.getElem?_eq_some_iff.mp hlive.1).1
  case settledKnown =>
    intro request' hrequest
    rcases List.mem_append.mp hrequest with hrequest | hrequest
    · exact h.settledKnown request' hrequest
    · obtain rfl := List.mem_singleton.mp hrequest
      exact (List.getElem?_eq_some_iff.mp hlive.1).1
  case heldLive => nofun
  case waiterLive =>
    intro id' entry request' hwaiter horigin
    refine hkeeps ?_ (h.waiterLive hwaiter horigin)
    rintro rfl
    exact h.heldWaiter rfl hwaiter horigin
  case runningLive =>
    intro running request' hrunning horigin
    refine hkeeps ?_ (h.runningLive hrunning horigin)
    rintro rfl
    exact h.heldRunning rfl hrunning horigin
  case owned =>
    intro id' operation' hid'
    obtain ⟨hne, hold⟩ := herase hid'
    rcases h.owned hold with hheld | hothers
    · have heq : request = m.latest id' := Option.some.inj hheld
      exact absurd ((h.routed hold).1.id_eq (heq ▸ hlive)) hne
    · exact .inr hothers
  case heldWaiter => nofun
  case heldRunning => nofun
  case waiterRunning => exact h.waiterRunning
  case runningOnce => exact h.runningOnce
  case history =>
    dsimp only
    rw [hcompletions, h.history, keepLast_append, List.map_append, List.map_singleton]

/-- What is handled right now is over, and its completion is recorded. -/
theorem Sound.complete {origin : Origin} {after : AppModel} {s : System}
    (h : Sound waiters held s.toMoment) (hheld : origin.request = held)
    (hlive : ∀ request, origin = .routed request → s.Live request id operation)
    (hfair : origin = .applet → s.app.runtimeRoutedOperations[id]? ≠ some operation)
    (hafter : s.app.Completes id operation after) :
    Sound waiters none (s.complete after id operation origin).toMoment := by
  subst hheld
  cases origin with
  | applet =>
      have hnot := hfair rfl
      have hrouted := hafter.routed
      have hcompletions := hafter.completions
      rw [if_neg hnot] at hrouted hcompletions
      have heq : (s.complete after id operation .applet).toMoment = { s.toMoment with app := after } := by
        simp [System.complete, hnot, Origin.request]
      rw [heq]
      exact h.with_app after hrouted hcompletions
  | routed request =>
      have hrequest := hlive request rfl
      have hrouted := hafter.routed
      have hcompletions := hafter.completions
      rw [if_pos hrequest.2.1] at hrouted hcompletions
      have heq : (s.complete after id operation (.routed request)).toMoment = { s.toMoment with
          app := after
          settled := s.settled ++ [request]
          records := s.records ++ [(request, after.recorded id operation)] } := by
        simp [System.complete, hrequest.2.1, hrequest.2.2, Origin.request]
      rw [heq]
      exact h.serve hrequest hrouted hcompletions rfl rfl

/-- A free connection is taken by a new request. -/
theorem Sound.accept {s : System} (h : Sound waiters none s.toMoment)
    (hfree : s.app.runtimeRoutedOperations[id]? = none) (operation : Operation)
    (document : ConfigDocument) :
    Sound waiters (some s.accepted.length) (s.accept id operation document).toMoment ∧
      (s.accept id operation document).Live s.accepted.length id operation := by
  have hrouted : ∀ id', (s.accept id operation document).app.runtimeRoutedOperations[id']? =
      if id = id' then some operation else s.app.runtimeRoutedOperations[id']? := by
    intro id'
    simp [System.accept, registerRoutedOperation, reloadConfiguration, Std.TreeMap.getElem?_insert]
  have hlive : (s.accept id operation document).Live s.accepted.length id operation :=
    ⟨by simp [System.accept], by rw [hrouted, if_pos rfl], Function.update_self ..⟩
  have hkeeps : ∀ {request id' operation'}, s.Live request id' operation' →
      (s.accept id operation document).Live request id' operation' := by
    intro request id' operation' hold
    have hne : id ≠ id' := by
      rintro rfl
      rw [hold.2.1] at hfree
      cases hfree
    refine ⟨?_, by rw [hrouted, if_neg hne]; exact hold.2.1, ?_⟩
    · exact (List.getElem?_append_left (List.getElem?_eq_some_iff.mp hold.1).1).trans hold.1
    · exact (Function.update_of_ne (Ne.symm hne) ..).trans hold.2.2
  refine ⟨?_, hlive⟩
  constructor
  case routed =>
    intro id' operation' hid'
    rw [hrouted] at hid'
    split at hid'
    · next heq =>
        subst heq
        obtain rfl := Option.some.inj hid'
        have hlatest : (s.accept id operation document).latest id = s.accepted.length :=
          Function.update_self ..
        refine ⟨hlatest ▸ hlive, hlatest ▸ ⟨fun hsettled ↦ ?_, fun record hrecord heq ↦ ?_⟩⟩
        · exact absurd (h.settledKnown _ hsettled) (lt_irrefl _)
        · exact absurd (h.recordsKnown _ hrecord) (heq ▸ lt_irrefl _)
    · next hne =>
        obtain ⟨hlive', hopen⟩ := h.routed hid'
        have hlatest : (s.accept id operation document).latest id' = s.latest id' :=
          Function.update_of_ne (Ne.symm hne) ..
        exact ⟨hlatest ▸ hkeeps hlive', hlatest ▸ hopen⟩
  case closed =>
    intro request id' operation' haccepted
    by_cases hlt : request < s.accepted.length
    · have hold : s.accepted[request]? = some (id', operation') :=
        (List.getElem?_append_left hlt).symm.trans haccepted
      exact (h.closed hold).imp hkeeps fun hserved ↦ hserved
    · have hlast : request < (s.accepted ++ [(id, operation)]).length :=
        (List.getElem?_eq_some_iff.mp haccepted).1
      obtain rfl : request = s.accepted.length := by
        simp only [List.length_append, List.length_singleton] at hlast
        omega
      have heq := hlive.1.symm.trans haccepted
      simp only [Option.some.injEq, Prod.mk.injEq] at heq
      obtain ⟨rfl, rfl⟩ := heq
      exact .inl hlive
  case recordsKnown =>
    intro record hrecord
    have := h.recordsKnown record hrecord
    simp only [System.accept, List.length_append, List.length_singleton]
    omega
  case settledKnown =>
    intro request hrequest
    have := h.settledKnown request hrequest
    simp only [System.accept, List.length_append, List.length_singleton]
    omega
  case heldLive =>
    rintro request ⟨⟩
    exact ⟨id, operation, hlive⟩
  case waiterLive => exact fun hwaiter horigin ↦ hkeeps (h.waiterLive hwaiter horigin)
  case runningLive => exact fun hrunning horigin ↦ hkeeps (h.runningLive hrunning horigin)
  case owned =>
    intro id' operation' hid'
    rw [hrouted] at hid'
    split at hid'
    · next heq =>
        subst heq
        have hlatest : (s.accept id operation document).latest id = s.accepted.length :=
          Function.update_self ..
        exact .inl (congrArg some hlatest.symm)
    · next hne =>
        have hlatest : (s.accept id operation document).latest id' = s.latest id' :=
          Function.update_of_ne (Ne.symm hne) ..
        rw [hlatest]
        rcases h.owned hid' with hheld | hothers
        · cases hheld
        · exact .inr hothers
  case heldWaiter =>
    rintro request id' entry ⟨⟩ hwaiter horigin
    exact absurd (List.getElem?_eq_some_iff.mp (h.waiterLive hwaiter horigin).1).1 (lt_irrefl _)
  case heldRunning =>
    rintro request running ⟨⟩ hrunning horigin
    exact absurd (List.getElem?_eq_some_iff.mp (h.runningLive hrunning horigin).1).1 (lt_irrefl _)
  case waiterRunning => exact h.waiterRunning
  case runningOnce => exact h.runningOnce
  case history => exact h.history

end Moment

/-! ## Fair histories -/

/-- An operation of the applet displaces no routed request, and does not report in its place. -/
def Entry.Fair : Entry → Prop
  | .waits before id .applet => ∀ entry request, before.app.unitOperationsWaiting[id]? = some entry →
      before.origins id ≠ .routed request
  | .turnedAway before id operation .applet => before.app.runtimeRoutedOperations[id]? ≠ some operation
  | .finished before ⟨work, .applet⟩ => ∀ operation,
      before.app.runtimeRoutedOperations[work.connection.id]? = some operation →
        ¬work.completes operation
  | _ => True

def Entry.origin : Entry → Origin
  | .waits _ _ origin | .turnedAway _ _ _ origin => origin
  | .started _ running | .finished _ running => running.origin

def System.Fair (s : System) : Prop := ∀ entry ∈ s.log, entry.Fair

/-- The requests that wait for a reading of the units. -/
def AppModel.waiters (app : AppModel) : Waiters := fun id ↦ app.unitOperationsWaiting[id]?

namespace System

open Moment

variable {s : System} {now : Instant} {id : ConnectionId} {operation : Operation} {origin : Origin}
  {waiters : Waiters}

theorem log_record (s : System) (now : Instant) (id : ConnectionId) (operation : Operation)
    (origin : Origin) : ∃ entry, (s.record now id operation origin).log = s.log ++ [entry] := by
  unfold record
  dsimp only
  split
  · exact ⟨_, rfl⟩
  · split <;> exact ⟨_, rfl⟩

theorem log_resume (s : System) (now : Instant) (id : ConnectionId) (connection : Connection)
    (operation : Operation) : ∃ entry, (s.resume now id connection operation).log = s.log ++ [entry] := by
  unfold resume
  split
  · exact log_record s now id operation (s.origins id)
  · exact ⟨_, rfl⟩

theorem log_resumeAll (entries : Waiting) : s.log <+: (resumeAll now entries s).log := by
  induction entries generalizing s with
  | nil => exact List.prefix_refl _
  | cons entry rest ih =>
      obtain ⟨id, connection, operation⟩ := entry
      obtain ⟨logged, hlog⟩ := log_resume s now id connection operation
      exact (hlog ▸ List.prefix_append s.log [logged]).trans ih

/-- The waiting requests, and the reading of the units that they wait for, stay. -/
structure Attends (app after : AppModel) : Prop where
  standalone : after.standalone = app.standalone
  waiting : after.unitOperationsWaiting = app.unitOperationsWaiting
  observing : app.standalone = false → app.unitObservationPending = true →
    after.unitObservationPending = true

theorem Attends.refl (app : AppModel) : Attends app app := ⟨rfl, rfl, fun _ h ↦ h⟩

theorem Attends.trans {first second third : AppModel} (h : Attends first second)
    (h' : Attends second third) : Attends first third :=
  ⟨h'.standalone.trans h.standalone, h'.waiting.trans h.waiting, fun happlet hpending ↦
    h'.observing (h.standalone.trans happlet) (h.observing happlet hpending)⟩

theorem attends_of_completes {app after : AppModel} (h : app.Completes id operation after) :
    Attends app after := ⟨h.standalone, h.waiting, h.observing⟩

/-- A request that need not wait is turned away or starts. -/
theorem sound_record_handled (h : Sound waiters origin.request s.toMoment)
    (hlive : ∀ request, origin = .routed request → s.Live request id operation)
    (hwait : s.app.mustWait now id = none) (hfair : (s.record now id operation origin).Fair) :
    Sound waiters none (s.record now id operation origin).toMoment ∧
      Attends s.app (s.record now id operation origin).app := by
  have houtcome := outcome_recordOperationRequest s.app now id operation
  revert hfair
  unfold record
  generalize s.app.recordOperationRequest now id operation = result at houtcome
  rw [hwait]
  -- An operation that starts is of the connection that it was requested for.
  have hstart : ∀ {connection : Connection} {work : Work} {after : AppModel},
      s.app.findConnection id = some connection → work.connection = connection →
      work.operation = operation →
      after.runtimeRoutedOperations = s.app.runtimeRoutedOperations →
      after.runtimeOperationCompletions = s.app.runtimeOperationCompletions →
      Sound waiters none { s.toMoment with
        app := after, unfinished := s.unfinished ++ [⟨work, origin⟩] } := by
    intro connection work after hfind hconnection hoperation hrouted hcompletions
    have hlive' : ∀ request, origin = .routed request →
        s.Live request work.connection.id work.operation := by
      intro request horigin
      rw [hconnection, id_of_findConnection hfind, hoperation]
      exact hlive request horigin
    exact (h.start ⟨work, origin⟩ rfl hlive').with_app after hrouted hcompletions
  cases houtcome with
  | waits hwait' =>
      rw [hwait] at hwait'
      cases hwait'
  | turnedAway _ pending notice =>
      intro hfair
      have hcompletes : s.app.Completes id operation
          (turnAway { s.app with pendingRepair := pending } id operation notice).1 :=
        SameRequests.completes (.of_fields rfl)
      refine ⟨Sound.complete (s := s.enter (.turnedAway s.toMoment id operation origin)) h rfl hlive ?_
        hcompletes, attends_of_completes hcompletes⟩
      rintro rfl
      exact hfair (.turnedAway s.toMoment id operation .applet)
        (List.mem_append_right s.log (List.mem_singleton_self _))
  | mounts _ hfind unmounting notice =>
      exact fun _ ↦ ⟨hstart hfind rfl rfl rfl rfl, ⟨rfl, rfl, fun _ h ↦ h⟩⟩
  | repairs _ hfind hoperation hwork notice =>
      rcases hwork with rfl | rfl
      all_goals exact fun _ ↦ ⟨hstart hfind rfl hoperation.symm rfl rfl, ⟨rfl, rfl, fun _ h ↦ h⟩⟩
  | mirrors _ hfind hmode hallowed hoperation notice =>
      exact fun _ ↦ ⟨hstart hfind rfl rfl rfl rfl, ⟨rfl, rfl, fun _ h ↦ h⟩⟩

/-- A waiting request that is taken up does not wait again. -/
theorem sound_resume {connection : Connection} (h : Sound waiters none s.toMoment)
    (hentry : waiters id = some (connection, operation))
    (hfair : (s.resume now id connection operation).Fair) :
    Sound (Function.update waiters id none) none (s.resume now id connection operation).toMoment ∧
      Attends s.app (s.resume now id connection operation).app := by
  have hlive : ∀ request, s.origins id = .routed request → s.Live request id operation :=
    fun request horigin ↦ h.waiterLive hentry horigin
  have htaken := h.take hentry
  unfold resume at hfair ⊢
  split at hfair
  · next hfresh =>
      rw [if_pos hfresh]
      rw [Bool.and_eq_true] at hfresh
      exact sound_record_handled htaken hlive (by rw [mustWait, if_pos hfresh.1]) hfair
  · next hstale =>
      rw [if_neg hstale]
      have hcompletes : s.app.Completes id operation
          (s.app.resumeOperation now id connection operation).1 := by
        rw [resumeOperation, if_neg hstale]
        exact SameRequests.completes (.of_fields rfl)
      refine ⟨Sound.complete (s := s.enter (.turnedAway s.toMoment id operation (s.origins id))) htaken
        rfl hlive ?_ hcompletes, attends_of_completes hcompletes⟩
      intro horigin
      have := hfair (.turnedAway s.toMoment id operation (s.origins id))
        (List.mem_append_right s.log (List.mem_singleton_self _))
      rw [horigin] at this
      exact this

theorem update_lookup {entry : Connection × Operation} {rest : Waiting}
    (hdistinct : ∀ other ∈ rest, id ≠ other.1) :
    Function.update (fun id' ↦ ((id, entry) :: rest).lookup id') id none = fun id' ↦ rest.lookup id' := by
  funext id'
  by_cases heq : id' = id
  · subst heq
    rw [Function.update_self, eq_comm, List.lookup_eq_none_iff]
    exact fun other hother ↦ by simpa using hdistinct other hother
  · have hbeq : (id' == id) = false := by simpa using heq
    rw [Function.update_of_ne heq, List.lookup_cons, hbeq]

/-- All waiting requests are taken up, one after the other. -/
theorem sound_resumeAll {entries : Waiting}
    (hdistinct : entries.Pairwise fun first second ↦ first.1 ≠ second.1)
    (h : Sound (fun id ↦ entries.lookup id) none s.toMoment) (hfair : (resumeAll now entries s).Fair) :
    Sound (fun _ ↦ none) none (resumeAll now entries s).toMoment ∧
      Attends s.app (resumeAll now entries s).app := by
  induction entries generalizing s with
  | nil => exact ⟨h, .refl s.app⟩
  | cons entry rest ih =>
      obtain ⟨id, connection, operation⟩ := entry
      rw [List.pairwise_cons] at hdistinct
      have hfirst : (s.resume now id connection operation).Fair := fun logged hlogged ↦
        hfair logged ((log_resumeAll rest).subset hlogged)
      obtain ⟨hsound, hattends⟩ := sound_resume h List.lookup_cons_self hfirst
      rw [update_lookup hdistinct.1] at hsound
      obtain ⟨hlast, hattendsLast⟩ := ih hdistinct.2 hsound hfair
      exact ⟨hlast, hattends.trans hattendsLast⟩

theorem lookup_toList (waiting : ById (Connection × Operation)) (id : ConnectionId) :
    waiting.toList.lookup id = waiting[id]? := by
  refine Option.ext fun entry ↦ ?_
  rw [← Std.TreeMap.mem_toList_iff_getElem?_eq_some, List.lookup_eq_some_iff]
  constructor
  · rintro ⟨first, last, heq, -⟩
    simp [heq]
  · intro hmem
    obtain ⟨first, last, heq⟩ := List.append_of_mem hmem
    have hdistinct := Std.TreeMap.distinct_keys_toList (t := waiting)
    rw [heq, List.pairwise_append] at hdistinct
    refine ⟨first, last, heq, fun other hother ↦ ?_⟩
    have hne := hdistinct.2.2 other hother (id, entry) (List.mem_cons_self ..)
    rw [bne_iff_ne]
    rintro rfl
    exact hne Std.ReflCmp.compare_self

/-! ## Steps -/

/-- The applet between two messages. -/
structure Accounted (s : System) : Prop where
  applet : s.app.standalone = false
  sound : Sound s.app.waiters none s.toMoment
  attended : ∀ (id : ConnectionId) (entry : Connection × Operation),
    s.app.unitOperationsWaiting[id]? = some entry → s.app.unitObservationPending = true

theorem Accounted.with_app {app : AppModel} (h : s.Accounted) (hsame : SameRequests s.app app) :
    (s.withApp app).Accounted where
  applet := hsame.standalone.trans h.applet
  sound := by
    have hwaiters : app.waiters = s.app.waiters := by
      unfold AppModel.waiters
      rw [hsame.waiting]
    have hsound := h.sound.with_app app hsame.routed hsame.completions
    rw [← hwaiters] at hsound
    exact hsound
  attended id entry hentry :=
    hsame.observing h.applet (h.attended id entry (hsame.waiting ▸ hentry))

theorem accounted_of_attends (app : AppModel) {s' : System} (happlet : app.standalone = false)
    (hattended : ∀ (id : ConnectionId) (entry : Connection × Operation),
      app.unitOperationsWaiting[id]? = some entry → app.unitObservationPending = true)
    (hattends : Attends app s'.app) (hsound : Sound app.waiters none s'.toMoment) : s'.Accounted where
  applet := hattends.standalone.trans happlet
  sound := by
    have hwaiters : s'.app.waiters = app.waiters := by
      unfold AppModel.waiters
      rw [hattends.waiting]
    rw [hwaiters]
    exact hsound
  attended id entry hentry :=
    hattends.observing happlet (hattended id entry (hattends.waiting ▸ hentry))

theorem waiters_wait (app : AppModel) (id : ConnectionId) (connection : Connection)
    (operation : Operation) : (app.wait id connection operation).1.waiters =
      Function.update app.waiters id (some (connection, operation)) := by
  have hwaiting := (untouched_refreshUnitObservation { app with
    unitOperationsWaiting := app.unitOperationsWaiting.insert id (connection, operation)
    lastNotice := some ⟨"unit-status-wait", []⟩ } false).requests.waiting
  funext id'
  unfold AppModel.waiters AppModel.wait
  rw [hwaiting, Std.TreeMap.getElem?_insert]
  by_cases heq : id' = id
  · simp [heq]
  · simp [heq, Ne.symm heq]

theorem unitObservationPending_wait {app : AppModel} (happlet : app.standalone = false)
    (id : ConnectionId) (connection : Connection) (operation : Operation) :
    (app.wait id connection operation).1.unitObservationPending = true := by
  unfold wait refreshUnitObservation
  split
  · next hnone => simpa [happlet] using hnone
  · rfl

/-- A request is recorded between two messages, or as the rest of one. -/
theorem accounted_record (happlet : s.app.standalone = false)
    (hsound : Sound s.app.waiters origin.request s.toMoment)
    (hattended : ∀ (id : ConnectionId) (entry : Connection × Operation),
      s.app.unitOperationsWaiting[id]? = some entry → s.app.unitObservationPending = true)
    (hlive : ∀ request, origin = .routed request → s.Live request id operation)
    (hfair : (s.record now id operation origin).Fair) :
    (s.record now id operation origin).Accounted := by
  cases hwait : s.app.mustWait now id with
  | none =>
      obtain ⟨hhandled, hattends⟩ := sound_record_handled hsound hlive hwait hfair
      exact accounted_of_attends s.app happlet hattended hattends hhandled
  | some connection =>
      have hresult : s.app.recordOperationRequest now id operation =
          s.app.wait id connection operation := by
        rw [recordOperationRequest, hwait]
      have hsame := (untouched_refreshUnitObservation { s.app with
        unitOperationsWaiting := s.app.unitOperationsWaiting.insert id (connection, operation)
        lastNotice := some ⟨"unit-status-wait", []⟩ } false).requests
      have hrecord : s.record now id operation origin = { s.enter (.waits s.toMoment id origin) with
          app := (s.app.wait id connection operation).1
          origins := Function.update s.origins id origin } := by
        rw [record, hwait, hresult]
      have hmoved := hsound.wait id (connection, operation) rfl hlive (by
        rintro rfl
        exact hfair (.waits s.toMoment id .applet) (by
          rw [hrecord]
          exact List.mem_append_right s.log (List.mem_singleton_self _)))
      rw [hrecord]
      refine ⟨hsame.standalone.trans happlet, ?_, fun _ _ _ ↦
        unitObservationPending_wait happlet id connection operation⟩
      have hwaiting := hmoved.with_app (s.app.wait id connection operation).1 hsame.routed
        hsame.completions
      rw [← waiters_wait] at hwaiting
      exact hwaiting

theorem accounted_observed {connections : List Connection} {observation : UnitObservation}
    (h : s.Accounted)
    (hfair : (resumeAll now s.app.unitOperationsWaiting.toList
      (s.withApp (s.app.acceptObservation now connections observation))).Fair) :
    (resumeAll now s.app.unitOperationsWaiting.toList
      (s.withApp (s.app.acceptObservation now connections observation))).Accounted := by
  have hqueue : s.app.waiters = fun id ↦ s.app.unitOperationsWaiting.toList.lookup id := by
    funext id
    exact (lookup_toList _ id).symm
  have hdistinct : s.app.unitOperationsWaiting.toList.Pairwise fun first second ↦ first.1 ≠ second.1 := by
    refine Std.TreeMap.distinct_keys_toList.imp fun hne heq ↦ hne ?_
    rw [heq]
    exact Std.ReflCmp.compare_self
  have hsound := h.sound.with_app (s.app.acceptObservation now connections observation) rfl rfl
  rw [hqueue] at hsound
  obtain ⟨hlast, hattends⟩ := sound_resumeAll hdistinct hsound hfair
  have hempty : (s.app.acceptObservation now connections observation).waiters = fun _ ↦ none := by
    funext id
    exact Std.TreeMap.getElem?_emptyc
  refine accounted_of_attends (s.app.acceptObservation now connections observation) h.applet
    ?_ hattends (hempty ▸ hlast)
  intro id entry hentry
  rw [show (s.app.acceptObservation now connections observation).unitOperationsWaiting[id]? = none from
    Std.TreeMap.getElem?_emptyc] at hentry
  cases hentry

theorem accounted_deliver {message : AppMessage} (h : s.Accounted)
    (hmessage : message.isCompletion = false) (hfair : (s.deliver now message).Fair) :
    (s.deliver now message).Accounted := by
  by_cases hquiet : message.isQuiet = true
  · rw [deliver_of_isQuiet hquiet]
    exact h.with_app (untouched_update hquiet).requests
  · cases message with
    | unitObservationCompleted revision connections observation =>
        unfold deliver at hfair ⊢
        dsimp only at hfair ⊢
        split at hfair
        · next hcurrent =>
            rw [if_pos hcurrent]
            exact accounted_observed h hfair
        · next hstale =>
            rw [if_neg hstale]
            exact h.with_app (untouched_unitObservationCompleted hstale).requests
    | operationRequested id operation =>
        unfold deliver at hfair ⊢
        dsimp only at hfair ⊢
        split at hfair
        · next howner =>
            rw [if_pos howner]
            exact accounted_record h.applet h.sound h.attended nofun hfair
        · next hclient =>
            rw [if_neg hclient]
            refine h.with_app ?_
            rw [operationRequested, if_neg hclient]
            exact .of_fields rfl
    | wake ids loaded =>
        have hsound := h.sound.startAll ((AppModel.restored ids loaded).map fun connection ↦
          ⟨.restoreOnline connection, .applet⟩) (by simp)
        exact ⟨h.applet, hsound.with_app (s.app.reloadConfiguration loaded) rfl rfl, h.attended⟩
    | runtimeRequest command loaded saved =>
        cases command with
        | runOperation id operation =>
            cases loaded with
            | error error => exact absurd rfl hquiet
            | ok document =>
                unfold deliver at hfair ⊢
                dsimp only at hfair ⊢
                split at hfair
                · next hrefused =>
                    rw [if_pos hrefused]
                    exact h
                · next haccepted =>
                    rw [if_neg haccepted]
                    have hfree : s.app.runtimeRoutedOperations[id]? = none := by
                      exact Std.TreeMap.getElem?_eq_none fun hmem ↦ haccepted (.inr hmem)
                    obtain ⟨hsound, hlive⟩ := h.sound.accept hfree operation document
                    refine accounted_record h.applet hsound h.attended ?_ hfair
                    rintro request ⟨⟩
                    exact hlive
        | _ => exact absurd rfl hquiet
    | onlineRepairCompleted | offlineRepairCompleted | mirrorOperationCompleted
    | managedOnlineOperationCompleted => cases hmessage
    | _ => exact absurd rfl hquiet

theorem accounted_finish {running : Running} {first last : List Running} {ending : Ending}
    (h : s.Accounted) (hrunning : s.unfinished = first ++ running :: last)
    (hfair : (s.finish now running (first ++ last) ending).Fair) :
    (s.finish now running (first ++ last) ending).Accounted := by
  obtain ⟨operation, hcompletes, hiff⟩ := completes_update_completed s.app now running.work ending
  have hattends := attends_of_completes hcompletes
  have hreleased := h.sound.release hrunning
  have hlive : ∀ request, running.origin = .routed request →
      s.Live request running.work.connection.id running.work.operation :=
    fun request horigin ↦ h.sound.runningLive (by simp [hrunning]) horigin
  have hself : running.work.completes running.work.operation := by
    cases running.work <;> trivial
  refine accounted_of_attends s.app h.applet h.attended (app_finish .. ▸ hattends) ?_
  -- A completion that reports nothing ends an operation of the applet.
  have hsilent : (∀ request, running.origin ≠ .routed request) →
      s.app.runtimeRoutedOperations[running.work.connection.id]? ≠ some operation →
      Sound s.app.waiters none { s.toMoment with
        app := (s.app.update now (running.work.completed ending)).app
        unfinished := first ++ last
        settled := s.settled ++ running.origin.request.toList } := by
    intro happlet hnot
    have hnone : running.origin.request = none := by
      rw [Option.eq_none_iff_forall_ne_some]
      exact fun request heq ↦ happlet request (Origin.request_eq_some.mp heq)
    have hrouted := hcompletes.routed
    have hcompletions := hcompletes.completions
    rw [if_neg hnot] at hrouted hcompletions
    rw [hnone] at hreleased ⊢
    rw [Option.toList_none, List.append_nil]
    exact hreleased.with_app _ hrouted hcompletions
  unfold finish at hfair ⊢
  dsimp only at hfair ⊢
  cases hrouted : s.app.runtimeRoutedOperations[running.work.connection.id]? with
  | none =>
      refine hsilent (fun request horigin ↦ ?_) (by rw [hrouted]; nofun)
      rw [(hlive request horigin).2.1] at hrouted
      cases hrouted
  | some routed =>
      rw [hrouted] at hfair
      dsimp only at hfair ⊢
      split
      · next hmatches =>
          rw [if_pos hmatches] at hfair
          obtain rfl := (hiff routed hrouted).mpr hmatches
          refine Sound.complete (s := { s.enter (.finished s.toMoment running) with
            unfinished := first ++ last }) hreleased rfl ?_ ?_ hcompletes
          · intro request horigin
            have hrequest := hlive request horigin
            obtain rfl := Option.some.inj (hrouted.symm.trans hrequest.2.1)
            exact hrequest
          · intro horigin _
            have hentry := hfair (.finished s.toMoment running)
              (List.mem_append_right s.log (List.mem_singleton_self _))
            obtain ⟨work, origin⟩ := running
            obtain rfl : origin = .applet := horigin
            exact hentry operation hrouted hmatches
      · next hother =>
          refine hsilent (fun request horigin ↦ ?_) ?_
          · have hrequest := hlive request horigin
            obtain rfl := Option.some.inj (hrouted.symm.trans hrequest.2.1)
            exact hother hself
          · rw [hrouted]
            rintro ⟨⟩
            exact hother ((hiff _ hrouted).mp rfl)

theorem prefix_record : s.log <+: (s.record now id operation origin).log := by
  obtain ⟨entry, hlog⟩ := log_record s now id operation origin
  exact hlog ▸ List.prefix_append ..

theorem log_deliver {message : AppMessage} : s.log <+: (s.deliver now message).log := by
  unfold deliver
  split
  · next id operation document _ =>
      split
      · exact List.prefix_refl _
      · exact prefix_record (s := s.accept id operation document)
  · split
    · exact prefix_record
    · exact List.prefix_refl _
  · next connections observation =>
      split
      · exact log_resumeAll (s := s.withApp (s.app.acceptObservation now connections observation)) _
      · exact List.prefix_refl _
  · exact List.prefix_refl _
  · exact List.prefix_refl _

theorem log_finish {running : Running} {others : List Running} {ending : Ending} :
    s.log <+: (s.finish now running others ending).log := by
  unfold finish
  dsimp only
  split
  · split <;> exact List.prefix_append ..
  · exact List.prefix_append ..

theorem accounted_of_step {s' : System} (h : s.Accounted) (hstep : Step s s') (hfair : s'.Fair) :
    s'.Accounted := by
  cases hstep with
  | deliver now hmessage => exact accounted_deliver h hmessage hfair
  | finish now hrunning ending => exact accounted_finish h hrunning hfair

theorem fair_of_step {s' : System} (hstep : Step s s') (hfair : s'.Fair) : s.Fair := by
  intro entry hentry
  cases hstep with
  | deliver now hmessage => exact hfair entry (log_deliver.subset hentry)
  | finish now hrunning ending => exact hfair entry (log_finish.subset hentry)

theorem accounted_initial (document : ConfigDocument) :
    Accounted { app := { document } } := by
  refine ⟨rfl, ?_, fun id entry hentry ↦ by simp at hentry⟩
  constructor
  case history => rfl
  all_goals simp [AppModel.waiters]

theorem accounted_of_reachable (hreachable : Reachable s) (hfair : s.Fair) : s.Accounted := by
  induction hreachable with
  | initial document => exact accounted_initial document
  | step hreachable hstep ih => exact accounted_of_step (ih (fair_of_step hstep hfair)) hstep hfair

/-! ## Exactly one completion -/

def completionsOf (s : System) (request : Nat) : List OperationCompletion :=
  (s.records.filter fun record ↦ record.1 = request).map (·.2)

/-- Every request that was answered is completed once, after it was refused or its operation ended. -/
structure CompletedOnce (s : System) : Prop where
  answered : ∀ now id operation loaded saved status,
    (s.app.update now (.runtimeRequest (.runOperation id operation) loaded saved)).reply =
        some (.ok status) →
      (s.deliver now (.runtimeRequest (.runOperation id operation) loaded saved)).accepted =
        s.accepted ++ [(id, operation)]
  published : s.app.runtimeOperationCompletions = keepLast (s.records.map (·.2))
  own : ∀ record ∈ s.records, s.accepted[record.1]? = some (record.2.connectionId, record.2.operation)
  ended : ∀ record ∈ s.records, record.1 ∈ s.settled
  once : ∀ request < s.accepted.length, (s.completionsOf request).length ≤ 1
  completed : ∀ request ∈ s.settled, (s.completionsOf request).length = 1
  quiet : s.app.unitObservationPending = false → s.unfinished = [] →
    s.app.runtimeRoutedOperations.isEmpty = true ∧ s.app.unitOperationsWaiting.isEmpty = true ∧
      ∀ request < s.accepted.length, (s.completionsOf request).length = 1

theorem completed_of_accounted (h : s.Accounted) {request : Nat} (hsettled : request ∈ s.settled) :
    (s.completionsOf request).length = 1 := by
  have hlt := h.sound.settledKnown request hsettled
  rcases h.sound.closed (List.getElem?_eq_getElem hlt) with hlive | ⟨-, completion, hrecords, -⟩
  · have hopen := (h.sound.routed hlive.2.1).2
    rw [hlive.2.2] at hopen
    exact absurd hsettled hopen.1
  · rw [completionsOf, hrecords]
    rfl

theorem served_of_record (h : s.Accounted) {record : Nat × OperationCompletion}
    (hrecord : record ∈ s.records) :
    s.accepted[record.1]? = some (record.2.connectionId, record.2.operation) ∧
      record.1 ∈ s.settled := by
  have haccepted := List.getElem?_eq_getElem (h.sound.recordsKnown record hrecord)
  rcases h.sound.closed haccepted with hlive | ⟨hsettled, completion, hrecords, hid, hoperation⟩
  · have hopen := (h.sound.routed hlive.2.1).2
    rw [hlive.2.2] at hopen
    exact absurd rfl (hopen.2 record hrecord)
  · have hmem : record ∈ s.records.filter fun other ↦ other.1 = record.1 := by simp [hrecord]
    rw [hrecords, List.mem_singleton] at hmem
    have hcompletion : record.2 = completion := congrArg Prod.snd hmem
    refine ⟨haccepted.trans ?_, hsettled⟩
    rw [hcompletion, hid, hoperation]
    rfl

/-- A registered request belongs to a waiting entry or to a running operation. -/
theorem not_routed_of_quiet (h : s.Accounted) (hpending : s.app.unitObservationPending = false)
    (hunfinished : s.unfinished = []) (id : ConnectionId) :
    s.app.runtimeRoutedOperations[id]? = none := by
  rw [Option.eq_none_iff_forall_ne_some]
  intro operation hrouted
  rcases h.sound.owned hrouted with hheld | ⟨entry, hentry, -⟩ | ⟨running, hrunning, -⟩
  · cases hheld
  · rw [h.attended id entry hentry] at hpending
    cases hpending
  · rw [hunfinished] at hrunning
    exact absurd hrunning List.not_mem_nil

theorem accepted_record : (s.record now id operation origin).accepted = s.accepted := by
  unfold record
  dsimp only
  split
  · rfl
  · split <;> rfl

theorem accepted_of_reply {loaded : Except Message ConfigDocument} {saved : Except Message Unit}
    {status : RuntimeStatus}
    (hreply : (s.app.runtimeRequest now (.runOperation id operation) loaded saved).reply =
      some (.ok status)) :
    (s.deliver now (.runtimeRequest (.runOperation id operation) loaded saved)).accepted =
      s.accepted ++ [(id, operation)] := by
  unfold runtimeRequest at hreply
  split at hreply
  · cases hreply
  · next hstandalone =>
      dsimp only [runRoutedOperation] at hreply
      split at hreply
      · cases hreply
      · next hrouted =>
          cases loaded with
          | error error => cases hreply
          | ok document =>
              unfold deliver
              dsimp only
              rw [if_neg (not_or.mpr ⟨hstandalone, hrouted⟩), accepted_record]
              rfl

theorem completedOnce_of_accounted (h : s.Accounted) : s.CompletedOnce where
  answered now id operation loaded saved status hreply := accepted_of_reply hreply
  published := h.sound.history
  own record hrecord := (served_of_record h hrecord).1
  ended record hrecord := (served_of_record h hrecord).2
  once request hlt := by
    by_cases hsettled : request ∈ s.settled
    · exact (completed_of_accounted h hsettled).le
    · have hnone : s.records.filter (fun record ↦ record.1 = request) = [] := by
        rw [List.filter_eq_nil_iff]
        intro record hrecord heq
        exact hsettled (of_decide_eq_true heq ▸ (served_of_record h hrecord).2)
      rw [completionsOf, hnone]
      exact Nat.zero_le 1
  completed request hsettled := completed_of_accounted h hsettled
  quiet hpending hunfinished := by
    have hrouted := not_routed_of_quiet h hpending hunfinished
    refine ⟨?_, ?_, fun request hlt ↦ ?_⟩
    · rw [Std.TreeMap.isEmpty_iff_forall_not_mem]
      intro id hmem
      rw [Std.TreeMap.mem_iff_isSome_getElem?, hrouted id] at hmem
      cases hmem
    · rw [Std.TreeMap.isEmpty_iff_forall_not_mem]
      intro id hmem
      rw [Std.TreeMap.mem_iff_isSome_getElem?, Option.isSome_iff_exists] at hmem
      obtain ⟨entry, hentry⟩ := hmem
      rw [h.attended id entry hentry] at hpending
      cases hpending
    · rcases h.sound.closed (List.getElem?_eq_getElem hlt) with hlive | hserved
      · have hnone := (hrouted _).symm.trans hlive.2.1
        cases hnone
      · exact completed_of_accounted h hserved.1

/-- A run in which the applet asks for nothing itself is fair. -/
theorem fair_of_routed (hrouted : ∀ entry ∈ s.log, entry.origin ≠ .applet) : s.Fair := by
  intro entry hentry
  have horigin := hrouted entry hentry
  cases entry with
  | waits before id origin => cases origin <;> simp_all [Entry.origin, Entry.Fair]
  | turnedAway before id operation origin => cases origin <;> simp_all [Entry.origin, Entry.Fair]
  | started before running => trivial
  | finished before running =>
      obtain ⟨work, origin⟩ := running
      cases origin <;> simp_all [Entry.origin, Entry.Fair]

end System

/-- In a fair run every routed operation is completed exactly once, and none is left behind. -/
theorem routed_operations_complete_once {s : System} (hreachable : Reachable s) (hfair : s.Fair) :
    s.CompletedOnce :=
  System.completedOnce_of_accounted (System.accounted_of_reachable hreachable hfair)

/-! ## A request that is never completed -/

def sampleMount : Connection where
  id := sampleId
  name := "Files"
  provider := .sftp
  mode := .onlineMount {}
  remoteReference := "files:"
  localPath := "/home/u/Files"

def sampleDocument : ConfigDocument := { connections := [sampleMount] }

def sampleReading (state : ActiveState) : UnitObservation where
  services := (∅ : ById UnitStatus).insert sampleId { active := state, enabled := false }

def System.readUnits (s : System) (now : Instant) (revision : UInt64) (state : ActiveState) : System :=
  s.deliver now (.unitObservationCompleted revision [sampleMount] (sampleReading state))

/-- The service of the mount has failed, and its status was read a while ago. -/
def sampleStart : System :=
  ((({ app := { document := sampleDocument } } : System).deliver 0 .runtimeReady).deliver 0
    .unitObservationTick).readUnits 0 1 .failed

/-- A window asks for the mount, which waits for the next reading. -/
def sampleRouted : System :=
  sampleStart.deliver 20000 (.runtimeRequest (.runOperation sampleId .mount) (.ok sampleDocument) (.ok ()))

/-- A repair from the popup takes the place of the waiting mount. -/
def sampleDisplaced : System :=
  (sampleRouted.deliver 20100 (.operationRequested sampleId .repair)).readUnits 20200 2 .failed

theorem Reachable.deliver {s : System} (h : Reachable s) (now : Instant) (message : AppMessage)
    (hmessage : message.isCompletion = false) : Reachable (s.deliver now message) :=
  .step h (.deliver now hmessage)

theorem reachable_sampleRouted : Reachable sampleRouted := by
  unfold sampleRouted sampleStart System.readUnits
  exact ((((Reachable.initial sampleDocument).deliver 0 _ rfl).deliver 0 _ rfl).deliver 0 _ rfl).deliver
    20000 _ rfl

theorem reachable_sampleDisplaced : Reachable sampleDisplaced := by
  unfold sampleDisplaced System.readUnits
  exact (reachable_sampleRouted.deliver 20100 _ rfl).deliver 20200 _ rfl

theorem displaced_request_is_never_completed : ¬∀ s : System, Reachable s → s.CompletedOnce := by
  intro h
  have hquiet := (h sampleDisplaced reachable_sampleDisplaced).quiet (by decide +kernel) (by decide +kernel)
  exact absurd hquiet.1 (by decide +kernel)

/-- The same request without the repair. -/
def sampleMounted : System :=
  (sampleRouted.readUnits 20200 2 .inactive).finish 20300
    ⟨.onlineMount sampleMount .mount, .routed 0⟩ ([] ++ []) ⟨⟨"", []⟩, .ok (), sampleDocument⟩

theorem routed_operations_complete_once_sample :
    sampleMounted.Fair ∧ sampleMounted.CompletedOnce := by
  have hstarted : Reachable (sampleRouted.readUnits 20200 2 .inactive) := by
    unfold System.readUnits
    exact reachable_sampleRouted.deliver 20200 _ rfl
  have hunfinished : (sampleRouted.readUnits 20200 2 .inactive).unfinished =
      [] ++ ⟨.onlineMount sampleMount .mount, .routed 0⟩ :: [] := by decide +kernel
  have hreachable : Reachable sampleMounted := .step hstarted (.finish 20300 hunfinished _)
  have hfair : sampleMounted.Fair := by
    refine System.fair_of_routed ?_
    have horigins : (sampleMounted.log.map Entry.origin).all (· ≠ .applet) = true := by decide +kernel
    simpa using horigins
  exact ⟨hfair, routed_operations_complete_once hreachable hfair⟩

end CosmicMounter.Runtime

import CosmicMounter.Microsoft.Steps

/-!
# Creating a remote

The configuration that a guided creation works on, and what its steps keep: the
remote is its own from the first dump on, and the others stay as they were.
-/

namespace CosmicMounter.Microsoft

open Rust Serde Interaction

abbrev Configuration := String → Option Value

abbrev ConfigState := Configuration × History MicrosoftRequest.Answer

/-- The answer to a dump, and its content when it is complete and well formed. -/
def dumpResult (json : ConfigJson) : (q : MicrosoftRequest) → q.Answer → Option (Option Value)
  | .privateConfig request, r =>
      if request.args = dumpArgs then some (r.toOption.bind fun output ↦ (dumpOf json output).toOption)
      else none
  | _, _ => none

def succeeded : (q : MicrosoftRequest) → q.Answer → Bool
  | .run _, r => r.toOption.isSome
  | _, _ => false

/-- A change of the configuration that is not named may or may not have taken effect. -/
structure ConfigWorld (json : ConfigJson) (s : Configuration) (q : MicrosoftRequest) (r : q.Answer)
    (s' : Configuration) : Prop where
  frame : ∀ other, written q ≠ some other → s' other = s other
  honest : ∀ dump, dumpResult json q r = some (some dump) → ∀ remote, dump.get remote = s remote
  removed : succeeded q r = true → ∀ remote, written q = some remote → s' remote = none

variable {json : ConfigJson} {name : String} {s₀ : Configuration}

/-- The first dump was read. -/
def Begun (json : ConfigJson) (history : History MicrosoftRequest.Answer) : Prop :=
  ∃ dump, (history.filterMap fun reply ↦ dumpResult json reply.1 reply.2).head? = some (some dump)

/-- Only the named remote is written, if it was absent and the first dump was read. -/
def Permitted (json : ConfigJson) (name : String) (s₀ : Configuration) (t : ConfigState)
    (q : MicrosoftRequest) : Prop :=
  ∀ remote, written q = some remote → remote = name ∧ s₀ name = none ∧ Begun json t.2

abbrev creation (json : ConfigJson) (name : String) (s₀ : Configuration) :
    Contract MicrosoftRequest.Answer ConfigState :=
  .recorded (ConfigWorld json) (Permitted json name s₀)

/-- The remote was absent at first, and nothing else has changed since. -/
structure Owned (json : ConfigJson) (name : String) (s₀ : Configuration) (remote : NewRemote)
    (t : ConfigState) : Prop where
  name_eq : remote.name = name
  absent : s₀ name = none
  others : ∀ other, other ≠ name → t.1 other = s₀ other
  untouched : remote.started = false → t.1 = s₀
  begun : Begun json t.2

theorem Begun.append {history : History MicrosoftRequest.Answer} (h : Begun json history)
    (later : History MicrosoftRequest.Answer) : Begun json (history ++ later) := by
  obtain ⟨dump, hdump⟩ := h
  refine ⟨dump, ?_⟩
  rw [List.filterMap_append, List.head?_append, hdump]
  rfl

theorem Owned.eq_of_absent {remote : NewRemote} {t : ConfigState} (h : Owned json name s₀ remote t)
    {s : Configuration} (hothers : ∀ other, other ≠ name → s other = t.1 other) (hs : s name = none) :
    s = s₀ := by
  funext other
  by_cases hother : other = name
  · rw [hother, hs, h.absent]
  · rw [hothers other hother, h.others other hother]

/-! ## Steps that leave the configuration alone -/

/-- What is known after a step that only reads. -/
structure AfterReading {α : Type} (json : ConfigJson) (p : Ask α) (a : α) (t t' : ConfigState) : Prop where
  same : t'.1 = t.1
  replayed : ∃ segment, t'.2 = t.2 ++ segment ∧
    (∀ reply ∈ segment, Quiet reply.1 ∧ ∀ dump, dumpResult json reply.1 reply.2 = some (some dump) →
      ∀ remote, dump.get remote = t.1 remote) ∧ p.replay segment = some a

theorem wp_reading {α : Type} {p : Ask α} (hp : p.Only Quiet) (t : ConfigState) :
    p.wp (creation json name s₀) (fun a t' ↦ AfterReading json p a t t') t := by
  obtain ⟨s, history⟩ := t
  have hpermits : ∀ s' history q, s' = s → Quiet q → Permitted json name s₀ (s', history) q := by
    intro s' history q _ hquiet remote hwritten
    rw [hquiet] at hwritten
    cases hwritten
  have hkeeps : ∀ s₁ q (r : MicrosoftRequest.Answer q) s', s₁ = s → Quiet q → ConfigWorld json s₁ q r s' →
      s' = s ∧ ∀ dump, dumpResult json q r = some (some dump) → ∀ remote, dump.get remote = s remote := by
    rintro s₁ q r s' rfl hquiet hw
    refine ⟨funext fun other ↦ hw.frame other ?_, hw.honest⟩
    rw [hquiet]
    exact nofun
  refine Program.wp_mono ?_ (Program.wp_replayed (I := (· = s)) hpermits hkeeps hp rfl)
  rintro a t' ⟨hsame, segment, hsegment, hknown, hreplay⟩
  exact ⟨hsame, segment, hsegment, hknown, hreplay⟩

theorem Owned.reading {α : Type} {p : Ask α} {a : α} {remote : NewRemote} {t t' : ConfigState}
    (h : Owned json name s₀ remote t) (hread : AfterReading json p a t t') :
    Owned json name s₀ remote t' := by
  obtain ⟨segment, hsegment, -, -⟩ := hread.replayed
  refine ⟨h.name_eq, h.absent, ?_, ?_, ?_⟩
  · rw [hread.same]
    exact h.others
  · rw [hread.same]
    exact h.untouched
  · rw [hsegment]
    exact h.begun.append segment

/-- A dump that was read shows the configuration. -/
theorem AfterReading.shown {cancel : Token} {ε : Type} {f : OAuthError → ε} {dump : Value} {t t' : ConfigState}
    (h : AfterReading json (Program.reporting f (configDump json cancel)).run (.ok dump) t t')
    (remote : String) : dump.get remote = t.1 remote := by
  obtain ⟨segment, -, hknown, hreplay⟩ := h.replayed
  obtain ⟨before, request, output, rfl, -, hargs, hvalue⟩ :=
    replay_configDump (Program.replay_reporting hreplay)
  refine (hknown _ (List.mem_append_right _ (List.mem_singleton_self _))).2 dump ?_ remote
  rw [dumpResult, if_pos hargs, Except.toOption, Option.bind_some, hvalue]
  rfl

/-! ## The new remote -/

theorem wp_execute {remote : NewRemote} {request : CommandRequest} {cancel : Token} {t : ConfigState}
    (h : Owned json name s₀ remote t) (hrequest : written (.privateConfig request) = some remote.name) :
    (remote.execute json request cancel).wp (creation json name s₀)
      (fun r t' ↦ Owned json name s₀ r.2 t') t := by
  rw [NewRemote.execute, Program.wp_bind]
  refine Program.wp_mono ?_ (wp_reading (only_isCancelled.mono fun _ ↦ quiet_of_aside) t)
  intro cancelled t₁ hread
  have h₁ := h.reading hread
  split_ifs
  · exact h₁
  · exact h₁
  · refine Program.wp_ask_recorded.mpr ⟨?_, ?_⟩
    · intro target htarget
      rw [hrequest, h.name_eq] at htarget
      exact ⟨(Option.some.inj htarget).symm, h.absent, h₁.begun⟩
    · intro r s' hw
      refine ⟨h₁.name_eq, h₁.absent, ?_, nofun, h₁.begun.append _⟩
      intro other hother
      change s' other = s₀ other
      rw [hw.frame other, h₁.others other hother]
      rw [hrequest, h.name_eq]
      exact fun heq ↦ hother (Option.some.inj heq).symm

theorem wp_executeArgs {remote : NewRemote} {args : List String} {cancel : Token} {t : ConfigState}
    (h : Owned json name s₀ remote t)
    (hargs : ∀ timeout outputLimit, written (.privateConfig ⟨args, timeout, outputLimit⟩) = some remote.name) :
    (remote.executeArgs json args cancel).wp (creation json name s₀)
      (fun r t' ↦ Owned json name s₀ r.2 t') t := by
  unfold NewRemote.executeArgs rclone
  split_ifs
  · exact wp_execute h (hargs _ _)
  · exact h

theorem written_createArgs (remote : NewRemote) (timeout outputLimit : Nat) :
    written (.privateConfig ⟨remote.createArgs, timeout, outputLimit⟩) = some remote.name := rfl

theorem written_updateArgs (remote : NewRemote) (state answer : String) (timeout outputLimit : Nat) :
    written (.privateConfig ⟨remote.updateArgs state answer, timeout, outputLimit⟩) = some remote.name := rfl

theorem wp_create {remote : NewRemote} {cancel : Token} {t : ConfigState}
    (h : Owned json name s₀ remote t) :
    (remote.create json cancel).wp (creation json name s₀) (fun r t' ↦ Owned json name s₀ r.2 t') t := by
  unfold NewRemote.create
  split_ifs
  · exact h
  · exact wp_executeArgs h (written_createArgs remote)

theorem wp_continueWith {remote : NewRemote} {state answer : String} {cancel : Token} {t : ConfigState}
    (h : Owned json name s₀ remote t) :
    (remote.continueWith json state answer cancel).wp (creation json name s₀)
      (fun r t' ↦ Owned json name s₀ r.2 t') t := by
  unfold NewRemote.continueWith
  split_ifs
  · exact h
  · exact wp_executeArgs h (written_updateArgs remote state answer)

/-! ## Rolling back -/

/-- A remote that was deleted is gone, and one that was not leaves cleaning up to the user. -/
theorem wp_delete {remote : NewRemote} {t : ConfigState} (h : Owned json name s₀ remote t)
    (hplain : remote.deleteArgs.all isPlainArgument = true) :
    (remote.delete).run.wp (creation json name s₀)
      (fun r t' ↦ (∀ e, r = .error e → e = .cleanupRequired) ∧ (r = .ok () → t'.1 = s₀)) t := by
  have hrequest : written (.run ⟨remote.deleteArgs, 10 * 1000000000, 16 * 1024⟩) = some remote.name := rfl
  rw [NewRemote.delete, rclone, if_pos hplain]
  refine Program.wp_ask_recorded.mpr ⟨?_, ?_⟩
  · intro target htarget
    rw [hrequest, h.name_eq] at htarget
    exact ⟨(Option.some.inj htarget).symm, h.absent, h.begun⟩
  · intro r s' hw
    cases r with
    | error e => exact ⟨fun e' he ↦ (Except.error.inj he).symm, nofun⟩
    | ok output =>
        refine ⟨nofun, fun _ ↦ h.eq_of_absent (s := s') ?_ ?_⟩
        · intro other hother
          refine hw.frame other ?_
          rw [hrequest, h.name_eq]
          exact fun heq ↦ hother (Option.some.inj heq).symm
        · rw [← h.name_eq]
          exact hw.removed rfl remote.name hrequest

theorem wp_rollback {remote : NewRemote} {t : ConfigState} (h : Owned json name s₀ remote t)
    (hplain : remote.deleteArgs.all isPlainArgument = true) :
    (remote.rollback json).run.wp (creation json name s₀)
      (fun r t' ↦ (∀ e, r = .error e → e = .cleanupRequired) ∧ (r = .ok () → t'.1 = s₀)) t := by
  unfold NewRemote.rollback
  split_ifs with hstarted
  · refine ⟨nofun, fun _ ↦ h.untouched ?_⟩
    simpa using hstarted
  · rw [Program.wp_run_bind]
    refine Program.wp_mono ?_ (wp_reading (asks_reporting asks_configDump).only t)
    intro r t₁ hread
    have h₁ := h.reading hread
    cases r with
    | error e =>
        obtain ⟨segment, -, -, hreplay⟩ := hread.replayed
        obtain ⟨e', rfl⟩ := Program.replay_reporting_error hreplay
        exact ⟨fun e he ↦ (Except.error.inj he).symm, nofun⟩
    | ok dump =>
        rw [Program.andThen_ok]
        split_ifs with hpresent
        · exact wp_delete h₁ hplain
        · refine ⟨nofun, fun _ ↦ h₁.eq_of_absent (fun _ _ ↦ rfl) ?_⟩
          rw [hread.same, ← hread.shown name, ← h.name_eq]
          simpa using hpresent

/-! ## Preparing -/

theorem isPlainArgument_of_name (h : validateRemoteName name = .ok ()) : isPlainArgument name = true := by
  unfold validateRemoteName at h
  split_ifs at h with hname
  rw [not_or, not_or, Bool.not_eq_true', Bool.not_eq_false, List.all_eq_true] at hname
  rw [isPlainArgument, Bool.not_eq_true', List.any_eq_false]
  intro c hc hplain
  have hallowed := hname.2.2 c hc
  simp only [List.mem_cons, List.not_mem_nil, or_false, decide_eq_true_eq] at hplain
  rcases hplain with rfl | rfl | rfl <;> exact absurd hallowed (by decide)

theorem plain_deleteArgs {remote : NewRemote} (h : validateRemoteName remote.name = .ok ()) :
    remote.deleteArgs.all isPlainArgument = true := by
  have hconfig : isPlainArgument "config" = true := by decide
  have hdelete : isPlainArgument "delete" = true := by decide
  simp [NewRemote.deleteArgs, hconfig, hdelete, isPlainArgument_of_name h]

theorem dumpResult_of_aside {q : MicrosoftRequest} (h : Aside q) (r : q.Answer) : dumpResult json q r = none := by
  cases q with
  | privateConfig request => exact h.elim
  | _ => rfl

theorem asks_prepare {target : OAuthTarget} {cancel : Token} :
    Asks Quiet (NewRemote.prepare json name target cancel) := by
  unfold NewRemote.prepare
  refine (asks_check _).bind fun _ ↦ asks_configDump.bind fun dump ↦ ?_
  exact (asks_require _ _).bind fun _ ↦ asks_pure _

/-- A prepared remote is absent from a configuration that was read first of all. -/
theorem owned_of_prepare {target : OAuthTarget} {cancel : Token} {remote : NewRemote} {t : ConfigState}
    (h : AfterReading json (NewRemote.prepare json name target cancel).run (.ok remote) (s₀, []) t) :
    Owned json name s₀ remote t ∧ validateRemoteName name = .ok () := by
  obtain ⟨segment, hsegment, hknown, hreplay⟩ := h.replayed
  unfold NewRemote.prepare at hreplay
  obtain ⟨first, second, ⟨⟩, rfl, hfirst, h₁⟩ := Program.replay_run_bind hreplay
  obtain ⟨rfl, hname⟩ := Program.replay_check hfirst
  obtain ⟨dumped, third, dump, rfl, hdumped, h₂⟩ := Program.replay_run_bind h₁
  obtain ⟨fourth, fifth, ⟨⟩, rfl, hfourth, h₃⟩ := Program.replay_run_bind h₂
  obtain ⟨rfl, habsent⟩ := Program.replay_ensure hfourth
  obtain ⟨rfl, hremote⟩ := Program.replay_done h₃
  obtain rfl := Except.ok.inj hremote
  obtain ⟨before, request, output, rfl, haside, hargs, hvalue⟩ := replay_configDump hdumped
  have hresult : dumpResult json (.privateConfig request) (.ok output) = some (some dump) := by
    rw [dumpResult, if_pos hargs, Except.toOption, Option.bind_some, hvalue]
    rfl
  have hbefore : before.filterMap (fun reply ↦ dumpResult json reply.1 reply.2) = [] :=
    List.filterMap_eq_nil_iff.mpr fun reply hreply ↦ dumpResult_of_aside (haside reply hreply) reply.2
  have hshown := (hknown ⟨.privateConfig request, .ok output⟩ (by simp)).2 dump hresult name
  have hnone : s₀ name = none := by
    rw [Option.isNone_iff_eq_none.mp habsent] at hshown
    exact hshown.symm
  refine ⟨⟨rfl, hnone, ?_, fun _ ↦ h.same, dump, ?_⟩, hname⟩
  · intro other _
    rw [h.same]
  · rw [hsegment]
    simp [List.filterMap_append, hbefore, hresult]

/-! ## Verified last -/

/-- The remote was verified after the last command that could change it. -/
def VerifiedLast {ε α : Type} (verification : Call ε α) (verified : α)
    (history : History MicrosoftRequest.Answer) : Prop :=
  ∃ before segment after, history = before ++ segment ++ after ∧
    (∀ reply ∈ segment ++ after, Quiet reply.1) ∧ verification.run.replay segment = some (.ok verified)

theorem AfterReading.verifiedLast {ε α β : Type} {p : Ask β} {b : β} {verification : Call ε α} {verified : α}
    {t t' : ConfigState} (h : AfterReading json p b t t')
    (hfirst : ∀ segment, p.replay segment = some b → ∃ first second, segment = first ++ second ∧
      verification.run.replay first = some (.ok verified)) : VerifiedLast verification verified t'.2 := by
  obtain ⟨segment, hsegment, hknown, hreplay⟩ := h.replayed
  obtain ⟨first, second, rfl, hverified⟩ := hfirst segment hreplay
  refine ⟨t.2, first, second, ?_, fun reply hreply ↦ (hknown reply hreply).1, hverified⟩
  rw [hsegment, List.append_assoc]

end CosmicMounter.Microsoft

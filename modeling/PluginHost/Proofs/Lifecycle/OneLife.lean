import PluginHost.Proofs.Lifecycle.Balance

/-!
# One life of an instance

An instance lives once, whatever order the actions of the calls on it come in: one `init` hook,
one successful `init`, one period in which the instance is active, and one `shutdown` hook.  An
`init` whose hook fails or that is cancelled after it has taken the instance ends that life at
once.  A call that is cancelled before it has exchanged the state has not touched the instance.
-/

namespace PluginHost

namespace SharedInstance

/-- The instance is active after a run. -/
def ActiveAfter (shared : SharedInstance) (events : List CallEvent) : Prop :=
  ∃ final, shared.run? events = some final ∧ final.handle.isActive = true

section Runs

variable {id : String} {plugin : Plugin} {calls : List LifecycleCall}
variable {events : List CallEvent} {final : SharedInstance}

theorem countP_startInit_le_one (runs : (start id plugin calls).run? events = some final) :
    (events.countP fun event => event.action = .startInit) ≤ 1 := by
  have taken := (start_run?_balanced runs).taken
  have started : final.calls.countP OngoingCall.startedInit ≤
      final.calls.countP OngoingCall.tookInit :=
    List.countP_mono_left fun _ _ => OngoingCall.tookInit_of_startedInit
  rw [← start_run?_countP marks_startedInit runs]
  omega

theorem exists_succeeded_of_startShutdown {earlier later : List CallEvent} {call : Nat}
    (runs : (start id plugin calls).run? (earlier ++ ⟨call, .startShutdown⟩ :: later) =
      some final) :
    ∃ other, ⟨other, .endInit .succeeded⟩ ∈ earlier := by
  -- The books are read right after the hook has started.
  rw [List.append_cons] at runs
  obtain ⟨middle, runs, _⟩ := exists_run?_of_append runs
  have started := Nat.le_trans (countP_startShutdown_le runs) (countP_doneInit_le runs)
  have succeeded : 0 < earlier.countP fun event => event.action = .endInit .succeeded := by
    simp only [List.countP_append, List.countP_singleton, decide_true, if_true] at started
    simp only [reduceCtorEq, decide_false, Bool.false_eq_true, if_false] at started
    omega
  obtain ⟨⟨other, action⟩, member, ended⟩ := List.countP_pos_iff.mp succeeded
  obtain rfl : action = .endInit .succeeded := of_decide_eq_true ended
  exact ⟨other, member⟩

theorem isActive_iff_exists (runs : (start id plugin calls).run? events = some final) :
    final.handle.isActive = true ↔
      ∃ earlier call later, events = earlier ++ ⟨call, .storeActive⟩ :: later ∧
        ∀ event ∈ later, event.action ≠ .exchangeShutdown true := by
  rw [isActive_iff_countP runs]
  constructor
  · rintro ⟨stored, untaken⟩
    have storing : 0 < events.countP fun event => event.action = .storeActive := by omega
    obtain ⟨⟨call, action⟩, member, stores⟩ := List.countP_pos_iff.mp storing
    obtain rfl : action = .storeActive := of_decide_eq_true stores
    obtain ⟨earlier, later, rfl⟩ := List.append_of_mem member
    refine ⟨earlier, call, later, rfl, ?_⟩
    intro event after takes
    exact List.countP_eq_zero.mp untaken event (by simp [after]) (decide_eq_true takes)
  · rintro ⟨earlier, call, later, rfl, untaken⟩
    have once := countP_storeActive_le_one runs
    obtain ⟨middle, earlierRuns, _⟩ := exists_run?_of_append runs
    have before := countP_exchangeShutdown_add earlierRuns
    have after : (later.countP fun event => event.action = .exchangeShutdown true) = 0 :=
      List.countP_eq_zero.mpr fun event member => by simpa using untaken event member
    simp only [List.countP_append, List.countP_cons, decide_true, if_true] at once ⊢
    simp only [reduceCtorEq, decide_false, Bool.false_eq_true, if_false] at once ⊢
    omega

theorem isActive_eq_false_of_left {first second third : List CallEvent}
    (runs : (start id plugin calls).run? (first ++ second ++ third) = some final)
    (active : (start id plugin calls).ActiveAfter first)
    (left : ¬ (start id plugin calls).ActiveAfter (first ++ second)) :
    final.handle.isActive = false := by
  obtain ⟨early, earlyRuns, wasActive⟩ := active
  obtain ⟨middle, middleRuns, _⟩ := exists_run?_of_append runs
  have inactive : ¬ middle.handle.isActive = true :=
    fun isActive => left ⟨middle, middleRuns, isActive⟩
  rw [isActive_iff_countP middleRuns] at inactive
  have stored := ((isActive_iff_countP earlyRuns).mp wasActive).1
  have once := countP_storeActive_le_one runs
  cases isActive : final.handle.isActive with
  | false => rfl
  | true =>
      have untaken := ((isActive_iff_countP runs).mp isActive).2
      simp only [List.countP_append] at inactive once untaken
      omega

theorem isActive_eq_false_of_failed (runs : (start id plugin calls).run? events = some final)
    {call : Nat} {outcome : HookOutcome} (ends : ⟨call, .endInit outcome⟩ ∈ events)
    (unsuccessful : outcome ≠ .succeeded) : final.handle.isActive = false := by
  obtain ⟨last, found, failed⟩ := run?_failed runs ends unsuccessful
  have took := OngoingCall.tookInit_of_failedInit failed
  have undone := OngoingCall.not_doneInit_of_failedInit failed
  exact ((start_run?_balanced runs).idle_of_undone (List.mem_of_getElem? found) took undone).2

theorem isActive_eq_false_of_cancelled (runs : (start id plugin calls).run? events = some final)
    {call : Nat} (takes : ⟨call, .exchangeInit true⟩ ∈ events)
    (cancels : ⟨call, .cancel⟩ ∈ events) : final.handle.isActive = false := by
  obtain ⟨last, found, stuck⟩ := run?_cancelled runs cancels
  obtain ⟨same, foundSame, took⟩ :=
    run?_past_of_mem marks_tookInit.persists marks_tookInit.marked runs takes
  obtain rfl : last = same := Option.some.inj (found.symm.trans foundSame)
  have undone := OngoingCall.not_doneInit_of_pending stuck
  exact ((start_run?_balanced runs).idle_of_undone (List.mem_of_getElem? found) took undone).2

end Runs

end SharedInstance

/-- What every run of calls on a new instance keeps to, whatever the order of their actions. -/
structure OneLife (id : String) (plugin : Plugin) (calls : List LifecycleCall)
    (events : List CallEvent) (final : SharedInstance) : Prop where
  initStarts : (events.countP fun event => event.action = .startInit) ≤ 1
  initReturns : final.calls.countP OngoingCall.doneInit ≤ 1
  shutdownStarts : (events.countP fun event => event.action = .startShutdown) ≤ 1
  /-- When the `shutdown` hook starts, the `init` hook has succeeded. -/
  shutdownFollows : ∀ {earlier later : List CallEvent} {call : Nat},
    events = earlier ++ ⟨call, .startShutdown⟩ :: later →
      ∃ other, ⟨other, .endInit .succeeded⟩ ∈ earlier
  /-- The instance is active from the moment a successful `init` marks it so to the moment the
  first `shutdown` takes it. -/
  active_iff : final.handle.isActive = true ↔
    ∃ earlier call later, events = earlier ++ ⟨call, .storeActive⟩ :: later ∧
      ∀ event ∈ later, event.action ≠ .exchangeShutdown true
  /-- The `init` that marks the instance active returns successfully. -/
  returns_of_stores : ∀ {call : Nat}, ⟨call, .storeActive⟩ ∈ events →
    ∃ last, final.calls[call]? = some last ∧ last.doneInit = true
  /-- What has been active and is not is never active again. -/
  inactive_of_left : ∀ {first second third : List CallEvent},
    events = first ++ second ++ third →
      (SharedInstance.start id plugin calls).ActiveAfter first →
      ¬ (SharedInstance.start id plugin calls).ActiveAfter (first ++ second) →
        final.handle.isActive = false
  /-- An instance whose `init` hook has failed or panicked is never active again. -/
  inactive_of_failed : ∀ {call : Nat} {outcome : HookOutcome},
    ⟨call, .endInit outcome⟩ ∈ events → outcome ≠ .succeeded → final.handle.isActive = false
  /-- An instance is never active again once the `init` that took it has been cancelled. -/
  inactive_of_cancelled : ∀ {call : Nat},
    ⟨call, .exchangeInit true⟩ ∈ events → ⟨call, .cancel⟩ ∈ events →
      final.handle.isActive = false

namespace SharedInstance

/-- An instance lives once in all orders of the actions of calls on it. -/
theorem run?_oneLife {id : String} {plugin : Plugin} {calls : List LifecycleCall}
    {events : List CallEvent} {final : SharedInstance}
    (runs : (start id plugin calls).run? events = some final) :
    OneLife id plugin calls events final where
  initStarts := countP_startInit_le_one runs
  initReturns := (start_run?_balanced runs).doneInit_le_one
  shutdownStarts :=
    Nat.le_trans (countP_startShutdown_le runs) (start_run?_balanced runs).doneInit_le_one
  shutdownFollows := by
    rintro earlier later call rfl
    exact exists_succeeded_of_startShutdown runs
  active_iff := isActive_iff_exists runs
  returns_of_stores := run?_past_of_mem marks_doneInit.persists marks_doneInit.marked runs
  inactive_of_left := by
    rintro first second third rfl
    exact isActive_eq_false_of_left runs
  inactive_of_failed := isActive_eq_false_of_failed runs
  inactive_of_cancelled := isActive_eq_false_of_cancelled runs

def racePlugin : Plugin :=
  ⟨fun _ => .succeeded, fun _ => [], fun _ => .succeeded⟩

def raceCalls : List LifecycleCall :=
  let context := ⟨.ofNumbers 1 0 0, .ofNumbers 1 0 0, .object [], none⟩
  [.init context, .shutdown, .init context, .shutdown]

/-- A `shutdown` and another `init` come while the `init` hook runs, and a `shutdown` after it. -/
def raceEvents : List CallEvent :=
  [⟨0, .exchangeInit true⟩, ⟨0, .startInit⟩, ⟨1, .exchangeShutdown false⟩,
    ⟨2, .exchangeInit false⟩, ⟨0, .endInit .succeeded⟩, ⟨2, .cancel⟩, ⟨0, .storeActive⟩,
    ⟨3, .exchangeShutdown true⟩, ⟨3, .startShutdown⟩, ⟨3, .endShutdown .succeeded⟩]

theorem run?_oneLife_race :
    ∃ final, (start "race" racePlugin raceCalls).run? raceEvents = some final ∧
      OneLife "race" racePlugin raceCalls raceEvents final :=
  ⟨_, rfl, run?_oneLife rfl⟩

end SharedInstance

end PluginHost

import PluginHost.Proofs.Lifecycle.Interleaving

/-!
# The books of a shared instance

The state of an instance is stopped while `init` runs its hook, after a hook that failed and
after a shutdown, so a state alone does not say what may still happen.  What does is the number
of calls that have come so far: exactly one `init` ever takes the instance, and an instance that
an `init` has marked active is either still active or taken by exactly one `shutdown`.  These
books are kept by every action, whichever call does it.
-/

namespace PluginHost

/-- Whether no `init` has taken the instance. -/
def PluginHandle.isNew (handle : PluginHandle) : Bool :=
  match handle.state with
  | .created => true
  | _ => false

namespace OngoingCall

/-- The call is an `init` that has taken the instance. -/
def tookInit (call : OngoingCall) : Bool :=
  match call.phase with
  | .initTaken _ | .initRunning _ | .initSucceeded _ | .initDone | .initFailed _ => true
  | _ => false

/-- The call has started the `init` hook. -/
def startedInit (call : OngoingCall) : Bool :=
  match call.phase with
  | .initRunning _ | .initSucceeded _ | .initDone | .initFailed _ => true
  | _ => false

/-- The `init` hook that the call started has succeeded. -/
def succeededInit (call : OngoingCall) : Bool :=
  match call.phase with
  | .initSucceeded _ | .initDone => true
  | _ => false

/-- The call is an `init` that has returned the error of its hook. -/
def failedInit (call : OngoingCall) : Bool :=
  match call.phase with
  | .initFailed _ => true
  | _ => false

/-- The call is an `init` that has returned successfully. -/
def doneInit (call : OngoingCall) : Bool :=
  match call.phase.initResult? with
  | some (.ok ()) => true
  | _ => false

/-- The call is a `shutdown` that has taken the instance. -/
def tookShutdown (call : OngoingCall) : Bool :=
  match call.phase with
  | .shutdownTaken _ | .shutdownRunning _ | .shutdownEnded _ => true
  | _ => false

/-- The call has started the `shutdown` hook. -/
def startedShutdown (call : OngoingCall) : Bool :=
  match call.phase with
  | .shutdownRunning _ | .shutdownEnded _ => true
  | _ => false

theorem tookInit_of_startedInit {call : OngoingCall} (started : call.startedInit) :
    call.tookInit := by
  obtain ⟨phase, cancelled⟩ := call
  cases phase <;> first | rfl | cases started

theorem tookInit_of_doneInit {call : OngoingCall} (done : call.doneInit) : call.tookInit := by
  obtain ⟨phase, cancelled⟩ := call
  cases phase <;> first | rfl | cases done

theorem tookInit_of_failedInit {call : OngoingCall} (failed : call.failedInit) :
    call.tookInit := by
  obtain ⟨phase, cancelled⟩ := call
  cases phase <;> first | rfl | cases failed

theorem not_doneInit_of_failedInit {call : OngoingCall} (failed : call.failedInit) :
    call.doneInit = false := by
  obtain ⟨phase, cancelled⟩ := call
  cases phase <;> first | rfl | cases failed

theorem succeededInit_of_doneInit {call : OngoingCall} (done : call.doneInit) :
    call.succeededInit := by
  obtain ⟨phase, cancelled⟩ := call
  cases phase <;> first | rfl | cases done

theorem tookShutdown_of_startedShutdown {call : OngoingCall} (started : call.startedShutdown) :
    call.tookShutdown := by
  obtain ⟨phase, cancelled⟩ := call
  cases phase <;> first | rfl | cases started

theorem not_doneInit_of_pending {call : OngoingCall} (pending : call.phase.hasReturned = false) :
    call.doneInit = false := by
  obtain ⟨phase, cancelled⟩ := call
  cases phase <;> first | rfl | cases pending

end OngoingCall

/-! ### Counting calls and actions -/

/-- A property of calls that holds of a call exactly when it has done an action. -/
structure Marks (past : OngoingCall → Bool) (mark : CallAction) : Prop where
  fresh : ∀ call : LifecycleCall, past ⟨call.firstPhase, false⟩ = false
  step : ∀ {handle after : PluginHandle} {call next : OngoingCall} {action : CallAction},
    Acts handle call action after next →
      (past next).toNat = (past call).toNat + (decide (action = mark)).toNat

theorem Marks.persists {past : OngoingCall → Bool} {mark : CallAction} (marks : Marks past mark)
    {handle after : PluginHandle} {call next : OngoingCall} {action : CallAction}
    (acts : Acts handle call action after next) (held : past call = true) :
    past next = true := by
  have step := marks.step acts
  have bounded := Bool.toNat_le (past next)
  rw [held, Bool.toNat_true] at step
  exact Bool.toNat_eq_one.mp (by omega)

theorem Marks.marked {past : OngoingCall → Bool} {mark : CallAction} (marks : Marks past mark)
    {handle after : PluginHandle} {call next : OngoingCall}
    (acts : Acts handle call mark after next) : past next = true := by
  have step := marks.step acts
  have bounded := Bool.toNat_le (past next)
  rw [decide_eq_true rfl, Bool.toNat_true] at step
  exact Bool.toNat_eq_one.mp (by omega)

theorem marks_tookInit : Marks OngoingCall.tookInit (.exchangeInit true) where
  fresh call := by cases call <;> rfl
  step acts := by cases acts <;> rfl

theorem marks_startedInit : Marks OngoingCall.startedInit .startInit where
  fresh call := by cases call <;> rfl
  step acts := by cases acts <;> rfl

theorem marks_succeededInit : Marks OngoingCall.succeededInit (.endInit .succeeded) where
  fresh call := by cases call <;> rfl
  step acts := by
    cases acts with
    | @failInit context outcome error failed =>
        cases outcome with
        | succeeded => cases failed
        | _ => rfl
    | _ => rfl

theorem marks_doneInit : Marks OngoingCall.doneInit .storeActive where
  fresh call := by cases call <;> rfl
  step acts := by cases acts <;> rfl

theorem marks_tookShutdown : Marks OngoingCall.tookShutdown (.exchangeShutdown true) where
  fresh call := by cases call <;> rfl
  step acts := by cases acts <;> rfl

theorem marks_startedShutdown : Marks OngoingCall.startedShutdown .startShutdown where
  fresh call := by cases call <;> rfl
  step acts := by cases acts <;> rfl

/-- An instance stops being new when an `init` takes it, unless it is marked active before. -/
theorem Acts.isNew {handle after : PluginHandle} {call next : OngoingCall} {action : CallAction}
    (acts : Acts handle call action after next)
    (taken : action = .storeActive → handle.isNew = false) :
    after.isNew.toNat + (decide (action = .exchangeInit true)).toNat = handle.isNew.toNat := by
  cases acts with
  | takeInit created =>
      have wasNew : handle.isNew = true := by simp [PluginHandle.isNew, created]
      rw [wasNew]
      rfl
  | storeActive =>
      rw [taken rfl]
      rfl
  | takeShutdown active =>
      have wasUsed : handle.isNew = false := by simp [PluginHandle.isNew, active]
      rw [wasUsed]
      rfl
  | _ => rfl

/-- An instance becomes active when `init` marks it so and stops being active when a `shutdown`
takes it, unless it is marked active twice. -/
theorem Acts.isActive {handle after : PluginHandle} {call next : OngoingCall}
    {action : CallAction} (acts : Acts handle call action after next)
    (idle : action = .storeActive → handle.isActive = false) :
    after.isActive.toNat + (decide (action = .exchangeShutdown true)).toNat =
      handle.isActive.toNat + (decide (action = .storeActive)).toNat := by
  cases acts with
  | takeInit created =>
      have wasIdle : handle.isActive = false := by simp [PluginHandle.isActive, created]
      rw [wasIdle]
      rfl
  | storeActive =>
      rw [idle rfl]
      rfl
  | takeShutdown active =>
      have wasActive : handle.isActive = true := by simp [PluginHandle.isActive, active]
      rw [wasActive]
      rfl
  | _ => rfl

theorem countP_set_add {calls : List OngoingCall} {number : Nat} {call : OngoingCall}
    (found : calls[number]? = some call) (past : OngoingCall → Bool) (next : OngoingCall) :
    (calls.set number next).countP past + (past call).toNat =
      calls.countP past + (past next).toNat := by
  obtain ⟨bounded, rfl⟩ := List.getElem?_eq_some_iff.mp found
  have counted := List.boole_getElem_le_countP (p := past) bounded
  rw [List.countP_set bounded]
  cases held : past calls[number] <;> cases past next <;>
    simp only [held, Bool.false_eq_true, ↓reduceIte, Bool.toNat_true, Bool.toNat_false]
      at counted ⊢
  all_goals omega

/-- An `init` that has taken the instance and has not succeeded leaves fewer successful calls
than takings. -/
theorem countP_doneInit_lt {calls : List OngoingCall} {call : OngoingCall}
    (member : call ∈ calls) (took : call.tookInit) (undone : call.doneInit = false) :
    calls.countP OngoingCall.doneInit < calls.countP OngoingCall.tookInit := by
  obtain ⟨front, back, rfl⟩ := List.append_of_mem member
  have inFront : front.countP OngoingCall.doneInit ≤ front.countP OngoingCall.tookInit :=
    List.countP_mono_left fun _ _ => OngoingCall.tookInit_of_doneInit
  have inBack : back.countP OngoingCall.doneInit ≤ back.countP OngoingCall.tookInit :=
    List.countP_mono_left fun _ _ => OngoingCall.tookInit_of_doneInit
  simp only [List.countP_append, List.countP_cons, took, undone]
  simp
  omega

namespace SharedInstance

variable {shared next final : SharedInstance} {event : CallEvent} {events : List CallEvent}

theorem start_countP {past : OngoingCall → Bool} {mark : CallAction} (marks : Marks past mark)
    (id : String) (plugin : Plugin) (calls : List LifecycleCall) :
    (start id plugin calls).calls.countP past = 0 := by
  rw [start, List.countP_map, List.countP_eq_zero]
  intro call _
  simp [marks.fresh call]

theorem step?_countP {past : OngoingCall → Bool} {mark : CallAction} (marks : Marks past mark)
    (stepped : shared.step? event = some next) :
    next.calls.countP past =
      shared.calls.countP past + (decide (event.action = mark)).toNat := by
  obtain ⟨call, after, found, acts, calls⟩ := exists_acts_of_step? stepped
  have moved := countP_set_add found past after
  have marked := marks.step acts
  rw [calls]
  omega

/-- In a run as many calls come past an action as the action is done. -/
theorem run?_countP {past : OngoingCall → Bool} {mark : CallAction} (marks : Marks past mark)
    (runs : shared.run? events = some final) :
    final.calls.countP past =
      shared.calls.countP past + events.countP fun event => event.action = mark := by
  induction events generalizing shared with
  | nil =>
      cases runs
      simp
  | cons event events ih =>
      obtain ⟨next, stepped, runs⟩ := exists_step?_of_cons runs
      rw [ih runs, step?_countP marks stepped, List.countP_cons]
      by_cases same : event.action = mark <;> simp [same]
      omega

theorem start_run?_countP {id : String} {plugin : Plugin} {calls : List LifecycleCall}
    {past : OngoingCall → Bool} {mark : CallAction} (marks : Marks past mark)
    (runs : (start id plugin calls).run? events = some final) :
    final.calls.countP past = events.countP fun event => event.action = mark := by
  rw [run?_countP marks runs, start_countP marks, Nat.zero_add]

/-! ### What single actions keep -/

/-- The books of an instance: one `init` has taken it unless it is new, and it is active or has
been taken by a `shutdown` exactly if an `init` has succeeded. -/
structure Balanced (shared : SharedInstance) : Prop where
  taken : shared.calls.countP OngoingCall.tookInit + shared.handle.isNew.toNat = 1
  active : shared.calls.countP OngoingCall.tookShutdown + shared.handle.isActive.toNat =
    shared.calls.countP OngoingCall.doneInit

theorem Balanced.doneInit_le_one (balanced : shared.Balanced) :
    shared.calls.countP OngoingCall.doneInit ≤ 1 := by
  have done : shared.calls.countP OngoingCall.doneInit ≤
      shared.calls.countP OngoingCall.tookInit :=
    List.countP_mono_left fun _ _ => OngoingCall.tookInit_of_doneInit
  have taken := balanced.taken
  omega

/-- While the `init` that took the instance has not succeeded, the instance is neither new nor
active. -/
theorem Balanced.idle_of_undone (balanced : shared.Balanced) {call : OngoingCall}
    (member : call ∈ shared.calls) (took : call.tookInit) (undone : call.doneInit = false) :
    shared.handle.isNew = false ∧ shared.handle.isActive = false := by
  have fewer := countP_doneInit_lt member took undone
  have taken := balanced.taken
  have active := balanced.active
  exact ⟨Bool.toNat_eq_zero.mp (by omega), Bool.toNat_eq_zero.mp (by omega)⟩

theorem balanced_start (id : String) (plugin : Plugin) (calls : List LifecycleCall) :
    (start id plugin calls).Balanced where
  taken := by
    rw [start_countP marks_tookInit]
    rfl
  active := by
    rw [start_countP marks_tookShutdown, start_countP marks_doneInit]
    rfl

/-- The `init` that marks the instance active is the one that took it. -/
theorem Balanced.idle_of_storeActive (balanced : shared.Balanced)
    (stepped : shared.step? event = some next) (stores : event.action = .storeActive) :
    shared.handle.isNew = false ∧ shared.handle.isActive = false := by
  obtain ⟨call, after, found, acts, _⟩ := exists_acts_of_step? stepped
  rw [stores] at acts
  generalize next.handle = handle at acts
  cases acts
  exact balanced.idle_of_undone (List.mem_of_getElem? found) rfl rfl

/-- Every action keeps the books. -/
theorem Balanced.step (balanced : shared.Balanced) (stepped : shared.step? event = some next) :
    next.Balanced := by
  obtain ⟨call, after, _, acts, _⟩ := exists_acts_of_step? stepped
  have isNew := acts.isNew fun stores => (balanced.idle_of_storeActive stepped stores).1
  have isActive := acts.isActive fun stores => (balanced.idle_of_storeActive stepped stores).2
  have taken := balanced.taken
  have active := balanced.active
  constructor
  · rw [step?_countP marks_tookInit stepped]
    omega
  · rw [step?_countP marks_tookShutdown stepped, step?_countP marks_doneInit stepped]
    omega

theorem Balanced.of_run? (balanced : shared.Balanced) (runs : shared.run? events = some final) :
    final.Balanced := by
  induction events generalizing shared with
  | nil =>
      cases runs
      exact balanced
  | cons event events ih =>
      obtain ⟨next, stepped, runs⟩ := exists_step?_of_cons runs
      exact ih (balanced.step stepped) runs

/-- The books of a new instance are kept in every run. -/
theorem start_run?_balanced {id : String} {plugin : Plugin} {calls : List LifecycleCall}
    (runs : (start id plugin calls).run? events = some final) : final.Balanced :=
  (balanced_start id plugin calls).of_run? runs

/-! ### What whole runs keep -/

section Runs

variable {id : String} {plugin : Plugin} {calls : List LifecycleCall}

theorem run?_past {past : OngoingCall → Bool}
    (persists : ∀ {handle after : PluginHandle} {call next : OngoingCall} {action : CallAction},
      Acts handle call action after next → past call = true → past next = true)
    (runs : shared.run? events = some final) {number : Nat} {call : OngoingCall}
    (found : shared.calls[number]? = some call) (held : past call = true) :
    ∃ last, final.calls[number]? = some last ∧ past last = true := by
  induction events generalizing shared call with
  | nil =>
      cases runs
      exact ⟨call, found, held⟩
  | cons event events ih =>
      obtain ⟨next, stepped, runs⟩ := exists_step?_of_cons runs
      obtain ⟨acting, after, foundActing, acts, moved⟩ := exists_acts_of_step? stepped
      have bounded := (List.getElem?_eq_some_iff.mp foundActing).1
      by_cases same : event.call = number
      · subst same
        obtain rfl : acting = call := Option.some.inj (foundActing.symm.trans found)
        exact ih runs (by rw [moved, List.getElem?_set_self bounded]) (persists acts held)
      · exact ih runs (by rw [moved, List.getElem?_set_ne same, found]) held

/-- A call that has done an action ends past it. -/
theorem run?_past_of_mem {past : OngoingCall → Bool}
    (persists : ∀ {handle after : PluginHandle} {call next : OngoingCall} {action : CallAction},
      Acts handle call action after next → past call = true → past next = true)
    {mark : CallAction}
    (marks : ∀ {handle after : PluginHandle} {call next : OngoingCall},
      Acts handle call mark after next → past next = true)
    (runs : shared.run? events = some final) {number : Nat}
    (done : ⟨number, mark⟩ ∈ events) :
    ∃ last, final.calls[number]? = some last ∧ past last = true := by
  obtain ⟨earlier, later, rfl⟩ := List.append_of_mem done
  obtain ⟨middle, _, runs⟩ := exists_run?_of_append runs
  obtain ⟨next, stepped, runs⟩ := exists_step?_of_cons runs
  obtain ⟨call, after, found, acts, moved⟩ := exists_acts_of_step? stepped
  have bounded := (List.getElem?_eq_some_iff.mp found).1
  exact run?_past persists runs (by rw [moved, List.getElem?_set_self bounded]) (marks acts)

/-- A call that has been cancelled never returns. -/
theorem run?_cancelled (runs : shared.run? events = some final) {number : Nat}
    (cancels : ⟨number, .cancel⟩ ∈ events) :
    ∃ last, final.calls[number]? = some last ∧ last.phase.hasReturned = false := by
  let stuck (call : OngoingCall) : Bool := call.cancelled && !call.phase.hasReturned
  have persists {handle after : PluginHandle} {call next : OngoingCall} {action : CallAction}
      (acts : Acts handle call action after next) (held : stuck call = true) :
      stuck next = true := by
    cases acts <;> cases held
  have marks {handle after : PluginHandle} {call next : OngoingCall}
      (acts : Acts handle call .cancel after next) : stuck next = true := by
    cases acts with
    | cancel pending => simpa [stuck] using pending
  obtain ⟨last, found, isStuck⟩ := run?_past_of_mem persists marks runs cancels
  exact ⟨last, found, by simpa using (Bool.and_eq_true_iff.mp isStuck).2⟩

theorem run?_failed (runs : shared.run? events = some final) {number : Nat}
    {outcome : HookOutcome} (ends : ⟨number, .endInit outcome⟩ ∈ events)
    (unsuccessful : outcome ≠ .succeeded) :
    ∃ last, final.calls[number]? = some last ∧ last.failedInit = true :=
  run?_past_of_mem
    (by
      intro _ _ call _ _ acts held
      cases acts with
      | cancel => exact held
      | _ => cases held)
    (by
      intro _ _ _ _ acts
      cases acts with
      | succeedInit => exact absurd rfl unsuccessful
      | failInit failed => rfl)
    runs ends

/-- The `shutdown` hook starts no more often than an `init` has returned successfully. -/
theorem countP_startShutdown_le (runs : (start id plugin calls).run? events = some final) :
    (events.countP fun event => event.action = .startShutdown) ≤
      final.calls.countP OngoingCall.doneInit := by
  have active := (start_run?_balanced runs).active
  have taken : final.calls.countP OngoingCall.startedShutdown ≤
      final.calls.countP OngoingCall.tookShutdown :=
    List.countP_mono_left fun _ _ => OngoingCall.tookShutdown_of_startedShutdown
  rw [← start_run?_countP marks_startedShutdown runs]
  omega

/-- No `init` returns successfully unless its hook has succeeded. -/
theorem countP_doneInit_le (runs : (start id plugin calls).run? events = some final) :
    final.calls.countP OngoingCall.doneInit ≤
      events.countP fun event => event.action = .endInit .succeeded := by
  rw [← start_run?_countP marks_succeededInit runs]
  exact List.countP_mono_left fun _ _ => OngoingCall.succeededInit_of_doneInit

theorem countP_storeActive_le_one (runs : (start id plugin calls).run? events = some final) :
    (events.countP fun event => event.action = .storeActive) ≤ 1 := by
  rw [← start_run?_countP marks_doneInit runs]
  exact (start_run?_balanced runs).doneInit_le_one

/-- The actions that decide whether an instance is active. -/
theorem countP_exchangeShutdown_add (runs : (start id plugin calls).run? events = some final) :
    (events.countP fun event => event.action = .exchangeShutdown true) +
        final.handle.isActive.toNat =
      events.countP fun event => event.action = .storeActive := by
  rw [← start_run?_countP marks_tookShutdown runs, ← start_run?_countP marks_doneInit runs]
  exact (start_run?_balanced runs).active

/-- An instance is active if the active state has been stored and no `shutdown` has taken the
instance. -/
theorem isActive_iff_countP (runs : (start id plugin calls).run? events = some final) :
    final.handle.isActive = true ↔
      (events.countP fun event => event.action = .storeActive) = 1 ∧
        (events.countP fun event => event.action = .exchangeShutdown true) = 0 := by
  have once := countP_storeActive_le_one runs
  have balanced := countP_exchangeShutdown_add runs
  rw [← Bool.toNat_eq_one]
  omega

end Runs

end SharedInstance

end PluginHost

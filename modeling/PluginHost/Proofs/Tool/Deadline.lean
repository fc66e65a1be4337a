import PluginHost.Proofs.Tool.Invocation

/-!
# Tools raced against a limit

A call with a limit runs its tool in a task of its own and waits for the end of the task or for
the limit, whichever comes first.  When the limit comes first the caller is told so and the task
is aborted, which takes effect at some time or never.  Here the race is taken apart into its
steps.  Unless the tool ends exactly at the limit, every way to order the steps gives the caller
the same answer, and what the task does after the answer changes nothing.
-/

namespace PluginHost

/-- The task in which a call with a limit runs its tool. -/
inductive ToolTask where
  | running
  | ended (outcome : ToolOutcome)
  /-- It was stopped before the tool ended. -/
  | aborted

/-- A call with a limit on its way: the nanoseconds since its task was started, the task, and
what the caller has been told. -/
structure LimitedRace where
  clock : Nat
  task : ToolTask
  answer : Option (Except HostError Json)

namespace LimitedRace

/-- A task has been started. -/
def start : LimitedRace :=
  ⟨0, .running, none⟩

/-- What can happen next.  Time goes on only when the tool is not due to end and the caller has
nothing to notice; things that are due at the same time happen in any order. -/
inductive Step (name : String) (run : ToolRun) (limit : Span) :
    LimitedRace → LimitedRace → Prop where
  | wait {race : LimitedRace}
      (undue : race.task = .running → run.delay ≠ some ⟨race.clock⟩)
      (unnoticed : race.answer = none → race.task = .running ∧ race.clock < limit.nanoseconds) :
      Step name run limit race { race with clock := race.clock + 1 }
  | finish {race : LimitedRace} (running : race.task = .running)
      (due : run.delay = some ⟨race.clock⟩) :
      Step name run limit race { race with task := .ended run.outcome }
  | deliver {race : LimitedRace} {outcome : ToolOutcome} (waiting : race.answer = none)
      (ended : race.task = .ended outcome) :
      Step name run limit race
        { race with answer := some (ToolRegistry.resultOf name outcome) }
  | expire {race : LimitedRace} (waiting : race.answer = none) (running : race.task = .running)
      (elapsed : limit.nanoseconds ≤ race.clock) :
      Step name run limit race { race with answer := some (.error (.toolTimeout name limit)) }
  | abort {race : LimitedRace} (answered : race.answer ≠ none) (running : race.task = .running) :
      Step name run limit race { race with task := .aborted }

/-- What can come of a race in any number of steps. -/
inductive Reaches (name : String) (run : ToolRun) (limit : Span) (first : LimitedRace) :
    LimitedRace → Prop where
  | refl : Reaches name run limit first first
  | step {race next : LimitedRace} (before : Reaches name run limit first race)
      (now : Step name run limit race next) : Reaches name run limit first next

/-- Every answer is the result of a tool that has ended at the limit or before, or else tells of
the limit, and the tool would not have ended before it. -/
inductive Answers (name : String) (run : ToolRun) (limit : Span) :
    Except HostError Json → Prop where
  | ended {delay : Span} (delay_eq : run.delay = some delay)
      (inTime : delay.nanoseconds ≤ limit.nanoseconds) :
      Answers name run limit (ToolRegistry.resultOf name run.outcome)
  | timedOut (late : ∀ delay, run.delay = some delay → limit.nanoseconds ≤ delay.nanoseconds) :
      Answers name run limit (.error (.toolTimeout name limit))

/-- What is true at every moment of a race. -/
structure Timely (name : String) (run : ToolRun) (limit : Span) (race : LimitedRace) : Prop where
  /-- A tool that runs has not reached its end. -/
  running : race.task = .running →
    ∀ delay, run.delay = some delay → race.clock ≤ delay.nanoseconds
  /-- A task that has ended has done so by itself. -/
  ended : ∀ outcome, race.task = .ended outcome → outcome = run.outcome ∧
    ∃ delay, run.delay = some delay ∧ delay.nanoseconds ≤ race.clock
  /-- A caller that waits does so up to the limit. -/
  waiting : race.answer = none → race.clock ≤ limit.nanoseconds
  answered : ∀ result, race.answer = some result → Answers name run limit result

variable {name : String} {run : ToolRun} {limit : Span} {race next : LimitedRace}

theorem timely_start : Timely name run limit start where
  running _ _ _ := Nat.zero_le _
  ended _ ended := by cases ended
  waiting _ := Nat.zero_le _
  answered _ answered := by cases answered

theorem Timely.step (timely : Timely name run limit race) (now : Step name run limit race next) :
    Timely name run limit next := by
  cases now with
  | wait undue unnoticed =>
      refine ⟨?_, ?_, ?_, timely.answered⟩
      · intro running delay delay_eq
        -- At its end the tool would be due, and the clock would not go on.
        have notYet : race.clock ≠ delay.nanoseconds := by
          rintro same
          exact undue running (by rw [delay_eq, same])
        have := timely.running running delay delay_eq
        show race.clock + 1 ≤ delay.nanoseconds
        omega
      · intro outcome ended
        obtain ⟨same, delay, delay_eq, past⟩ := timely.ended outcome ended
        exact ⟨same, delay, delay_eq, Nat.le_succ_of_le past⟩
      · intro waiting
        exact (unnoticed waiting).2
  | finish running due =>
      refine ⟨?_, ?_, timely.waiting, timely.answered⟩
      · intro stillRunning
        cases stillRunning
      · intro outcome ended
        cases ended
        exact ⟨rfl, _, due, Nat.le_refl _⟩
  | deliver waiting ended =>
      refine ⟨timely.running, timely.ended, nofun, ?_⟩
      rintro _ ⟨⟩
      obtain ⟨rfl, delay, delay_eq, past⟩ := timely.ended _ ended
      exact .ended delay_eq (Nat.le_trans past (timely.waiting waiting))
  | expire waiting running elapsed =>
      refine ⟨timely.running, timely.ended, nofun, ?_⟩
      rintro _ ⟨⟩
      exact .timedOut fun delay delay_eq =>
        Nat.le_trans elapsed (timely.running running delay delay_eq)
  | abort answered running =>
      refine ⟨?_, ?_, timely.waiting, timely.answered⟩
      · intro stillRunning
        cases stillRunning
      · intro outcome ended
        cases ended

theorem Reaches.timely (reached : Reaches name run limit start race) :
    Timely name run limit race := by
  induction reached with
  | refl => exact timely_start
  | step _ now ih => exact ih.step now

/-- Once the caller has been told something, nothing that happens later changes it. -/
theorem Reaches.answer_eq {result : Except HostError Json}
    (reached : Reaches name run limit race next) (answered : race.answer = some result) :
    next.answer = some result := by
  induction reached with
  | refl => exact answered
  | step _ now ih =>
      cases now with
      | deliver waiting _ => rw [waiting] at ih; cases ih
      | expire waiting _ _ => rw [waiting] at ih; cases ih
      | _ => exact ih

/-- The only answer to a race that is no tie is the result up to the limit. -/
theorem Answers.eq_resultWithin {result : Except HostError Json}
    (answers : Answers name run limit result) (noTie : run.delay ≠ some limit) :
    result = (ToolRegistry.resultWithin name run limit).1 := by
  cases answers with
  | @ended delay delay_eq inTime =>
      have apart : delay.nanoseconds ≠ limit.nanoseconds := by
        intro same
        obtain rfl : delay = limit := by cases delay; cases limit; congr
        exact noTie delay_eq
      have ends : run.EndsBefore limit :=
        ⟨delay, delay_eq, Nat.lt_of_le_of_ne inTime apart⟩
      rw [ToolRegistry.resultWithin_of_ends ends]
  | timedOut late =>
      have tooLate : ¬ run.EndsBefore limit := by
        rintro ⟨delay, delay_eq, ends⟩
        exact Nat.not_lt.mpr (late delay delay_eq) ends
      rw [ToolRegistry.resultWithin_of_late tooLate]

/-! ### Every race comes to an answer -/

theorem reaches_clock {clock : Nat} (beforeLimit : clock ≤ limit.nanoseconds)
    (beforeEnd : ∀ delay, run.delay = some delay → clock ≤ delay.nanoseconds) :
    Reaches name run limit start ⟨clock, .running, none⟩ := by
  induction clock with
  | zero => exact .refl
  | succ clock ih =>
      have earlier := ih (Nat.le_of_succ_le beforeLimit) fun delay delay_eq =>
        Nat.le_of_succ_le (beforeEnd delay delay_eq)
      refine .step earlier (.wait ?_ fun _ => ⟨rfl, beforeLimit⟩)
      intro _ due
      exact Nat.not_succ_le_self _ (beforeEnd _ due)

/-- The result up to the limit is the answer of some race, also when the tool ends exactly at the
limit. -/
theorem exists_answer (name : String) (run : ToolRun) (limit : Span) :
    ∃ race, Reaches name run limit start race ∧
      race.answer = some (ToolRegistry.resultWithin name run limit).1 := by
  by_cases ends : run.EndsBefore limit
  · rw [ToolRegistry.resultWithin_of_ends ends]
    obtain ⟨delay, delay_eq, before⟩ := ends
    have atEnd : Reaches name run limit start ⟨delay.nanoseconds, .running, none⟩ := by
      refine reaches_clock (Nat.le_of_lt before) fun other other_eq => ?_
      obtain rfl := Option.some.inj (delay_eq.symm.trans other_eq)
      exact Nat.le_refl _
    exact ⟨_, .step (.step atEnd (.finish rfl delay_eq)) (.deliver rfl rfl), rfl⟩
  · rw [ToolRegistry.resultWithin_of_late ends]
    have atLimit : Reaches name run limit start ⟨limit.nanoseconds, .running, none⟩ := by
      refine reaches_clock (Nat.le_refl _) fun delay delay_eq => ?_
      exact Nat.not_lt.mp fun before => ends ⟨delay, delay_eq, before⟩
    exact ⟨_, .step atLimit (.expire rfl rfl (Nat.le_refl _)), rfl⟩

end LimitedRace

/-- A call with a limit beside the same call without one. -/
structure RacedCall (registry : ToolRegistry) (handles : Handles) (name : String) (args : Json)
    (limit : Span) : Prop where
  /-- A call that fails a check is told the same error both ways and started neither way. -/
  refused : ∀ error, registry.prepare handles name args = .error error →
    registry.invoke handles name args = .finished (.error error) ∧
      registry.invokeWithin handles name args limit = ⟨.error error, none, []⟩
  /-- A tool that ends before the limit without a panic gives both callers the same. -/
  inTime : ∀ call delay, registry.prepare handles name args = .ok call →
    call.run.delay = some delay → delay < limit →
    (∀ payload, call.run.outcome ≠ .panicked payload) →
      registry.invoke handles name args =
        .finished (registry.invokeWithin handles name args limit).result
  /-- A panic before the limit is an internal error that names the tool. -/
  panicked : ∀ call delay payload, registry.prepare handles name args = .ok call →
    call.run.delay = some delay → delay < limit → call.run.outcome = .panicked payload →
      (registry.invokeWithin handles name args limit).result =
        .error (.internal s!"tool `{name}` did not complete: {payload.taskText}")
  /-- A tool that has not ended at a limit before its end is told by its name and the limit. -/
  late : ∀ call, registry.prepare handles name args = .ok call →
    (∀ delay, call.run.delay = some delay → limit < delay) →
      (registry.invokeWithin handles name args limit).result = .error (.toolTimeout name limit)
  /-- What a tool comes to after the limit makes no difference. -/
  discarded : ∀ (change : RegisteredTool → ToolArgs → ToolRun) call,
    registry.prepare handles name args = .ok call →
    (∀ delay, call.run.delay = some delay → limit < delay) →
    (∀ delay, (change call.tool call.args).delay = some delay → limit < delay) →
      ((registry.withHandlers change).invokeWithin handles name args limit).result =
        (registry.invokeWithin handles name args limit).result
  /-- However the race between the tool and the limit goes, this is the answer to it, and nothing
  that happens after an answer changes it. -/
  settled : ∀ call race later result, registry.prepare handles name args = .ok call →
    call.run.delay ≠ some limit →
    LimitedRace.Reaches name call.run limit .start race → race.answer = some result →
    LimitedRace.Reaches name call.run limit race later →
      later.answer = some (registry.invokeWithin handles name args limit).result
  /-- The race can go so. -/
  possible : ∀ call, registry.prepare handles name args = .ok call →
    ∃ race, LimitedRace.Reaches name call.run limit .start race ∧
      race.answer = some (registry.invokeWithin handles name args limit).result

namespace ToolRegistry

variable {registry : ToolRegistry} {handles : Handles} {name : String} {args : Json}
  {limit : Span} {call : PreparedCall}

theorem result_invokeWithin (prepared : registry.prepare handles name args = .ok call) :
    (registry.invokeWithin handles name args limit).result =
      (resultWithin name call.run limit).1 := by
  rw [invokeWithin, prepared]

theorem invoke_of_prepare (prepared : registry.prepare handles name args = .ok call) :
    registry.invoke handles name args = call.run.awaited := by
  rw [invoke, prepared]

theorem not_endsBefore_of_late {run : ToolRun}
    (late : ∀ delay, run.delay = some delay → limit < delay) : ¬ run.EndsBefore limit := by
  rintro ⟨delay, delay_eq, before⟩
  exact Nat.lt_asymm before (late delay delay_eq)

/-- A limit adds two outcomes to a call, running out of time and a panic told as an error, and
takes nothing else away from it. -/
theorem invokeWithin_racedCall (registry : ToolRegistry) (handles : Handles) (name : String)
    (args : Json) (limit : Span) : RacedCall registry handles name args limit where
  refused := by
    intro error refused
    rw [invoke, invokeWithin, refused]
    exact ⟨rfl, rfl⟩
  inTime := by
    intro call delay prepared delay_eq before noPanic
    rw [result_invokeWithin prepared, resultWithin_of_ends ⟨delay, delay_eq, before⟩,
      invoke_of_prepare prepared, ToolRun.awaited, delay_eq]
    cases outcome : call.run.outcome with
    | returned value => rfl
    | failed error => rfl
    | panicked payload => exact absurd outcome (noPanic payload)
  panicked := by
    intro call delay payload prepared delay_eq before panics
    rw [result_invokeWithin prepared, resultWithin_of_ends ⟨delay, delay_eq, before⟩, panics]
    rfl
  late := by
    intro call prepared late
    rw [result_invokeWithin prepared, resultWithin_of_late (not_endsBefore_of_late late)]
  discarded := by
    intro change call prepared late changedLate
    have changed : (registry.withHandlers change).prepare handles name args =
        .ok { call with tool := { call.tool with handler := change call.tool } } := by
      rw [prepare_withHandlers, prepared]
      rfl
    rw [result_invokeWithin prepared, result_invokeWithin changed,
      resultWithin_of_late (not_endsBefore_of_late late)]
    exact congrArg Prod.fst (resultWithin_of_late (not_endsBefore_of_late changedLate))
  settled := by
    intro call race later result prepared noTie reached answered after
    rw [result_invokeWithin prepared, after.answer_eq answered,
      (reached.timely.answered result answered).eq_resultWithin noTie]
  possible := by
    intro call prepared
    rw [result_invokeWithin prepared]
    exact LimitedRace.exists_answer name call.run limit

end ToolRegistry

end PluginHost

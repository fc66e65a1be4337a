import PluginHost.Proofs.Tool.Preparation

/-!
# What a call with a limit comes to

A call that passes every check is put to its handler once.  Its result counts if the tool ends
before the limit; a failure, a panic and running out of time are told by errors of their own.
-/

namespace PluginHost

/-- A run that ends before a limit. -/
def ToolRun.EndsBefore (run : ToolRun) (limit : Span) : Prop :=
  ∃ delay, run.delay = some delay ∧ delay < limit

/-- The error of a tool that has been called. -/
inductive ExecutionFailure (name : String) (run : ToolRun) (limit : Span) : HostError → Prop where
  | timedOut (late : ¬ run.EndsBefore limit) :
      ExecutionFailure name run limit (.toolTimeout name limit)
  | failed {error : HostError} (ends : run.EndsBefore limit) (fails : run.outcome = .failed error) :
      ExecutionFailure name run limit error
  | panicked {payload : PanicPayload} (ends : run.EndsBefore limit)
      (panics : run.outcome = .panicked payload) :
      ExecutionFailure name run limit
        (.internal s!"tool `{name}` did not complete: {payload.taskText}")

namespace ToolRegistry

variable {registry : ToolRegistry} {handles : Handles} {name : String} {args : Json}
  {limit : Span} {run : ToolRun}

theorem endsBefore_eq_true_iff : endsBefore run limit = true ↔ run.EndsBefore limit := by
  rw [endsBefore, ToolRun.EndsBefore]
  cases run.delay with
  | none => simp
  | some delay => simp

theorem resultWithin_of_ends (ends : run.EndsBefore limit) :
    resultWithin name run limit = (resultOf name run.outcome, []) := by
  rw [resultWithin, if_pos (endsBefore_eq_true_iff.mpr ends)]

theorem resultWithin_of_late (late : ¬ run.EndsBefore limit) :
    resultWithin name run limit =
      (.error (.toolTimeout name limit), [.toolTimedOut name limit.milliseconds]) := by
  rw [resultWithin, if_neg fun ends => late (endsBefore_eq_true_iff.mp ends)]

theorem resultWithin_eq_error_iff {error : HostError} :
    (resultWithin name run limit).1 = .error error ↔ ExecutionFailure name run limit error := by
  constructor
  · intro fails
    by_cases ends : run.EndsBefore limit
    · rw [resultWithin_of_ends ends] at fails
      cases outcome : run.outcome with
      | returned value =>
          rw [outcome] at fails
          cases fails
      | failed other =>
          rw [outcome] at fails
          cases fails
          exact .failed ends outcome
      | panicked payload =>
          rw [outcome] at fails
          cases fails
          exact .panicked ends outcome
    · rw [resultWithin_of_late ends] at fails
      cases fails
      exact .timedOut ends
  · intro failure
    cases failure with
    | timedOut late => rw [resultWithin_of_late late]
    | failed ends fails =>
        rw [resultWithin_of_ends ends, fails]
        rfl
    | panicked ends panics =>
        rw [resultWithin_of_ends ends, panics]
        rfl

theorem resultOf_eq_ok_iff {outcome : ToolOutcome} {value : Json} :
    resultOf name outcome = .ok value ↔ outcome = .returned value := by
  cases outcome <;> simp [resultOf]

theorem resultWithin_eq_ok_iff {value : Json} :
    (resultWithin name run limit).1 = .ok value ↔
      run.EndsBefore limit ∧ run.outcome = .returned value := by
  by_cases ends : run.EndsBefore limit
  · rw [resultWithin_of_ends ends, resultOf_eq_ok_iff, and_iff_right ends]
  · rw [resultWithin_of_late ends]
    exact iff_of_false (fun succeeds => by cases succeeds) (fun both => ends both.1)

theorem invokeWithin_of_refusal {error : HostError}
    (refusal : CallRefusal registry handles name args error) :
    registry.invokeWithin handles name args limit = ⟨.error error, none, []⟩ := by
  rw [invokeWithin, prepare_of_refusal refusal]

theorem invokeWithin_of_passing (passing : PassingCall registry handles name args) :
    registry.invokeWithin handles name args limit =
      ⟨(resultWithin name passing.prepared.run limit).1, some passing.prepared,
        (resultWithin name passing.prepared.run limit).2⟩ := by
  rw [invokeWithin, passing.prepare_eq]

/-- A call fails by a check before its handler is called, or by what comes of the tool. -/
theorem invokeWithin_eq_error_iff {error : HostError} :
    (registry.invokeWithin handles name args limit).result = .error error ↔
      CallRefusal registry handles name args error ∨
        ∃ passing : PassingCall registry handles name args,
          ExecutionFailure name passing.prepared.run limit error := by
  rw [← prepare_eq_error_iff]
  rcases passing_or_refusal registry handles name args with ⟨⟨passing⟩⟩ | ⟨other, refusal⟩
  · have sole (another : PassingCall registry handles name args) :
        another.prepared = passing.prepared :=
      Except.ok.inj (another.prepare_eq.symm.trans passing.prepare_eq)
    simp only [invokeWithin_of_passing passing, resultWithin_eq_error_iff, passing.prepare_eq,
      reduceCtorEq, false_or, sole]
    exact ⟨fun failure => ⟨passing, failure⟩, fun ⟨_, failure⟩ => failure⟩
  · have stopped := prepare_of_refusal refusal
    have nonePasses (another : PassingCall registry handles name args) : False := by
      have both := stopped.symm.trans another.prepare_eq
      cases both
    simp only [invokeWithin_of_refusal refusal, stopped, Except.error.injEq]
    exact ⟨.inl, fun either => either.elim id fun ⟨another, _⟩ => (nonePasses another).elim⟩

/-- A call has a result if it passes every check and its tool returns the result in time. -/
theorem invokeWithin_eq_ok_iff {value : Json} :
    (registry.invokeWithin handles name args limit).result = .ok value ↔
      ∃ passing : PassingCall registry handles name args,
        passing.prepared.run.EndsBefore limit ∧ passing.prepared.run.outcome = .returned value := by
  simp only [← @resultWithin_eq_ok_iff name]
  constructor
  · intro succeeds
    rcases passing_or_refusal registry handles name args with ⟨⟨passing⟩⟩ | ⟨error, refusal⟩
    · rw [invokeWithin_of_passing passing] at succeeds
      exact ⟨passing, succeeds⟩
    · rw [invokeWithin_of_refusal refusal] at succeeds
      cases succeeds
  · rintro ⟨passing, succeeds⟩
    rw [invokeWithin_of_passing passing, succeeds]

end ToolRegistry

end PluginHost

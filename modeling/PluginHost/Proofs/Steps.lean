/-!
# Steps that can fail

A chain of steps succeeds exactly if each of them does.
-/

namespace PluginHost

variable {ε ε' α β : Type}

theorem exists_of_map_eq_ok {change : α → β} {step : Except ε α} {result : β}
    (succeeds : step.map change = .ok result) :
    ∃ found, step = .ok found ∧ change found = result := by
  cases step with
  | error fault => cases succeeds
  | ok found => exact ⟨found, rfl, Except.ok.inj succeeds⟩

theorem map_eq_ok_iff {change : α → β} {step : Except ε α} {result : β} :
    step.map change = .ok result ↔ ∃ found, step = .ok found ∧ change found = result := by
  refine ⟨exists_of_map_eq_ok, ?_⟩
  rintro ⟨found, rfl, rfl⟩
  rfl

theorem mapError_eq_ok_iff {change : ε → ε'} {step : Except ε α} {result : α} :
    step.mapError change = .ok result ↔ step = .ok result := by
  cases step with
  | error fault => exact ⟨nofun, nofun⟩
  | ok found =>
    have reports : (Except.ok found : Except ε α).mapError change = .ok found := rfl
    rw [reports, Except.ok.injEq, Except.ok.injEq]

theorem exists_of_bind_eq_ok {next : α → Except ε β} {step : Except ε α} {result : β}
    (succeeds : step.bind next = .ok result) :
    ∃ found, step = .ok found ∧ next found = .ok result := by
  cases step with
  | error fault => cases succeeds
  | ok found => exact ⟨found, rfl, succeeds⟩

theorem bind_eq_ok_iff {next : α → Except ε β} {step : Except ε α} {result : β} :
    (step >>= next) = .ok result ↔ ∃ found, step = .ok found ∧ next found = .ok result := by
  refine ⟨exists_of_bind_eq_ok, ?_⟩
  rintro ⟨found, rfl, succeeds⟩
  exact succeeds

end PluginHost

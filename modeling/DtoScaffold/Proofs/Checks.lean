/-!
# Chains of checks

A chain of checks succeeds exactly when each of them does. What a failure is called plays no part
in that.
-/
namespace DtoScaffold

variable {ε ε' α β : Type}

theorem bind_ok_iff {check : Except ε α} {rest : α → Except ε β} {result : β} :
    (check >>= rest) = .ok result ↔ ∃ value, check = .ok value ∧ rest value = .ok result := by
  cases check <;> simp [bind, Except.bind]

theorem mapError_ok_iff {check : Except ε α} {rename : ε → ε'} {result : α} :
    check.mapError rename = .ok result ↔ check = .ok result := by
  cases check with
  | error error => exact ⟨nofun, nofun⟩
  | ok value =>
    constructor
    · rintro ⟨⟩
      rfl
    · rintro ⟨⟩
      rfl

/-- A guard lets a chain go on when its condition does not hold. -/
theorem guard_bind_ok_iff {stopped : Bool} {error : ε} {rest : Except ε α} {result : α} :
    (do
      if stopped then throw error
      rest : Except ε α) = .ok result ↔ stopped = false ∧ rest = .ok result := by
  cases stopped <;> simp [bind, Except.bind, throw, throwThe, MonadExceptOf.throw]

theorem guard_ok_iff {stopped : Bool} {error : ε} {value result : α} :
    (do
      if stopped then throw error
      return value : Except ε α) = .ok result ↔ stopped = false ∧ value = result := by
  rw [guard_bind_ok_iff]
  simp [pure, Except.pure]

end DtoScaffold

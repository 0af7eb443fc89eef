/-!
# Computations in steps

A computation that may fail comes to a value exactly when each of its steps does.
-/

namespace SqlClient

theorem bind_eq_ok {ε α β : Type} {first : Except ε α} {next : α → Except ε β} {result : β} :
    first >>= next = .ok result ↔ ∃ value, first = .ok value ∧ next value = .ok result := by
  cases first <;> simp [bind, Except.bind]

theorem map_eq_ok {ε α β : Type} {first : Except ε α} {change : α → β} {result : β} :
    first.map change = .ok result ↔ ∃ value, first = .ok value ∧ change value = result := by
  cases first <;> simp [Except.map]

theorem mapError_eq_ok {ε ε' α : Type} {result : Except ε α} {form : ε → ε'} {value : α} :
    result.mapError form = .ok value ↔ result = .ok value := by
  cases result with
  | error cause => exact ⟨nofun, nofun⟩
  | ok result => constructor <;> rintro ⟨⟩ <;> rfl

end SqlClient

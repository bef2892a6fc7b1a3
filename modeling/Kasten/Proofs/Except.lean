/-!
# Computations that may fail

A computation in several steps succeeds only if each of its steps does.
-/

namespace Kasten

variable {ε α β : Type} {x : Except ε α} {b : β}

theorem exists_of_bind_eq_ok {f : α → Except ε β} (h : x >>= f = .ok b) :
    ∃ a, x = .ok a ∧ f a = .ok b := by
  cases x with
  | ok a => exact ⟨a, rfl, h⟩
  | error error => cases h

theorem exists_of_map_eq_ok {f : α → β} (h : x.map f = .ok b) : ∃ a, x = .ok a ∧ f a = b := by
  cases x with
  | ok a => exact ⟨a, rfl, Except.ok.inj h⟩
  | error error => cases h

theorem eq_error_of_map_eq_error {f : α → β} {error : ε} (h : x.map f = .error error) :
    x = .error error := by
  cases x with
  | ok a => cases h
  | error error' => exact congrArg Except.error (Except.error.inj h)

end Kasten

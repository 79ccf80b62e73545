import LoginGateway.Error

/-!
Computations that may fail: a result means that every step before it had one. What an error is answered with is one of
three statuses.
-/
set_option autoImplicit false

namespace LoginGateway

theorem bind_ok {ε α β : Type} (first : Except ε α) (next : α → Except ε β) (b : β) (done : first >>= next = .ok b) :
    ∃ a, first = .ok a ∧ next a = .ok b := by
  cases first with
  | error e => cases done
  | ok a => exact ⟨a, rfl, done⟩

theorem to_option_eq_some_iff {ε α : Type} (result : Except ε α) (a : α) : result.toOption = some a ↔ result = .ok a := by
  cases result <;> simp [Except.toOption]

theorem map_ok {ε α β : Type} (result : Except ε α) (f : α → β) (b : β) (done : result.map f = .ok b) :
    ∃ a, result = .ok a ∧ f a = b := by
  cases result with
  | error e => cases done
  | ok a => exact ⟨a, rfl, Except.ok.inj done⟩

theorem map_error_ok {ε φ α : Type} (result : Except ε α) (tell : ε → φ) (a : α) (done : result.mapError tell = .ok a) :
    result = .ok a := by
  cases result with
  | error e => cases done
  | ok found => exact congrArg Except.ok (Except.ok.inj done)

theorem Error.status_known (e : Error) : e.status ∈ [400, 500, 503] := by
  unfold status
  split
  · decide
  · split
    · decide
    · decide

end LoginGateway

/-!
# Results taken apart

A computation that may fail succeeds only when each of its steps does.
-/

namespace TableApi.Result

variable {ε δ α β : Type}

theorem ok_of_bind_ok {first : Except ε α} {next : α → Except ε β} {result : β}
    (success : (first >>= next) = .ok result) :
    ∃ value, first = .ok value ∧ next value = .ok result := by
  cases first with
  | error error => simp [bind, Except.bind] at success
  | ok value => exact ⟨value, rfl, success⟩

theorem ok_of_toOption {first : Except ε α} {value : α} (found : first.toOption = some value) :
    first = .ok value := by
  cases first with
  | error error => simp [Except.toOption] at found
  | ok held => simpa [Except.toOption] using found

@[simp]
theorem mapError_ok (value : α) (change : ε → δ) :
    (.ok value : Except ε α).mapError change = .ok value := rfl

@[simp]
theorem mapError_error (error : ε) (change : ε → δ) :
    (.error error : Except ε α).mapError change = .error (change error) := rfl

@[simp]
theorem mapError_eq_ok {first : Except ε α} {change : ε → δ} {value : α} :
    first.mapError change = .ok value ↔ first = .ok value := by
  cases first with
  | error error => simp
  | ok found => simp

end TableApi.Result

/-!
Computations that may fail, told by when they succeed.
-/

namespace SignedRequest.Outcome

variable {ε δ α β : Type}

theorem bind_eq_ok_iff (first : Except ε α) (next : α → Except ε β) (result : β) :
    (first >>= next) = .ok result ↔ ∃ value, first = .ok value ∧ next value = .ok result := by
  cases first with
  | error error => simp [bind, Except.bind]
  | ok value => simp [bind, Except.bind]

theorem bind_ne_error {first : Except ε α} {next : α → Except ε β} {error : ε}
    (begins : first ≠ .error error) (continues : ∀ value, next value ≠ .error error) :
    (first >>= next) ≠ .error error := by
  cases first with
  | error other => simpa [bind, Except.bind] using begins
  | ok value => exact continues value

theorem mapError_eq_ok_iff (attempt : Except ε α) (rename : ε → δ) (value : α) :
    attempt.mapError rename = .ok value ↔ attempt = .ok value := by
  cases attempt with
  | error error => exact ⟨nofun, nofun⟩
  | ok other => exact ⟨fun same => by cases same; rfl, fun same => by cases same; rfl⟩

theorem map_eq_ok_iff (attempt : Except ε α) (change : α → β) (result : β) :
    change <$> attempt = .ok result ↔ ∃ value, attempt = .ok value ∧ change value = result := by
  cases attempt with
  | error error => simp [Functor.map, Except.map]
  | ok value => simp [Functor.map, Except.map]

theorem toOption_eq_some_iff (attempt : Except ε α) (value : α) :
    attempt.toOption = some value ↔ attempt = .ok value := by
  cases attempt with
  | error error => simp [Except.toOption]
  | ok other => simp [Except.toOption]

theorem exists_eq_ok {attempt : Except ε α} (some : attempt.toOption.isSome = true) :
    ∃ value, attempt = .ok value := by
  obtain ⟨value, told⟩ := Option.isSome_iff_exists.1 some
  exact ⟨value, (toOption_eq_some_iff _ _).1 told⟩

end SignedRequest.Outcome

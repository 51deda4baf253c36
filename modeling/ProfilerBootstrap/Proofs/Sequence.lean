namespace ProfilerBootstrap

variable {ε α β : Type} {x : Except ε α} {k : α → Except ε β}

theorem eq_ok_of_toOption {a : α} (h : x.toOption = some a) : x = .ok a := by
  cases x with
  | error e => simp [Except.toOption] at h
  | ok a' => exact congrArg _ (Option.some.inj h)

@[simp]
theorem mapError_ok {δ : Type} (f : ε → δ) (a : α) : (Except.ok a).mapError f = .ok a := rfl

@[simp]
theorem mapError_error {δ : Type} (f : ε → δ) (e : ε) :
    (Except.error e : Except ε α).mapError f = .error (f e) := rfl

theorem bind_ok {b : β} (h : x >>= k = .ok b) : ∃ a, x = .ok a ∧ k a = .ok b := by
  cases x with
  | error e => simp [bind, Except.bind] at h
  | ok a => exact ⟨a, rfl, h⟩

theorem bind_error {e : ε} (h : x >>= k = .error e) :
    x = .error e ∨ ∃ a, x = .ok a ∧ k a = .error e := by
  cases x with
  | error e' => exact .inl (by simpa [bind, Except.bind] using h)
  | ok a => exact .inr ⟨a, rfl, h⟩

/-- A computation for each item of a list comes to the first failure, or to all results. -/
theorem mapM_eq_findSome? {f : α → Except ε β} {e? : α → Option ε} {g : α → β}
    (h : ∀ a, f a = (e? a).elim (.ok (g a)) .error) (as : List α) :
    as.mapM f = (as.findSome? e?).elim (.ok (as.map g)) .error := by
  induction as with
  | nil => rfl
  | cons a as ih =>
    rw [List.mapM_cons, List.findSome?_cons, h, ih]
    cases e? a with
    | some e => rfl
    | none => cases as.findSome? e? <;> rfl

end ProfilerBootstrap

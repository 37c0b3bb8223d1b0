/-!
# Results that may be faults

What has to hold for a reading to succeed, taken apart step by step. -/

namespace TextTemplate

variable {ε α β : Type}

@[simp] theorem bind_eq_ok_iff {first : Except ε α} {rest : α → Except ε β} {result : β} :
    (first >>= rest) = .ok result ↔ ∃ middle, first = .ok middle ∧ rest middle = .ok result := by
  cases first <;> simp [bind, Except.bind]

@[simp] theorem pure_eq_ok_iff {value result : α} :
    (pure value : Except ε α) = .ok result ↔ value = result := by
  simp [pure, Except.pure]

@[simp] theorem map_ok {change : α → β} {value : α} :
    change <$> (Except.ok value : Except ε α) = .ok (change value) := rfl

theorem map_eq_error_iff {change : α → β} {result : Except ε α} {fault : ε} :
    result.map change = .error fault ↔ result = .error fault := by
  cases result <;> simp [Except.map]

/-- A check that stops the reading if a condition holds. -/
@[simp] theorem guard_eq_ok_iff {condition : Prop} [Decidable condition] {fault : ε}
    {rest : Except ε β} {result : β} :
    (if condition then (throw fault >>= fun _ : α => rest) else rest) = .ok result ↔
      ¬ condition ∧ rest = .ok result := by
  by_cases holds : condition <;> simp [holds, throw, throwThe, MonadExceptOf.throw]

/-- What is known of a result that is there, up to a change of it. -/
theorem exists_ok_iff {Place Form : Type} {value : α} {place after : Place} {change : α → Form}
    {form : Form} :
    (∃ other, (.ok (value, place) : Except ε (α × Place)) = .ok (other, after) ∧
        change other = form) ↔
      form = change value ∧ after = place := by
  constructor
  · rintro ⟨_, same, rfl⟩
    cases same
    exact ⟨rfl, rfl⟩
  · rintro ⟨rfl, rfl⟩
    exact ⟨value, rfl, rfl⟩

end TextTemplate

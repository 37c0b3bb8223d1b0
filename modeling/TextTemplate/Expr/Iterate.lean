/-!
# Repeated steps of a relation

Iterate step count says that a number of steps of a relation leads from one number to another. For
steps that never lead back and never lead beyond a bound, no more steps are needed than the bound
allows. -/

namespace TextTemplate

/-- `count` steps of a relation lead from `start` to `stop`. -/
def Iterate (step : Nat → Nat → Prop) : (count start stop : Nat) → Prop
  | 0, start, stop => start = stop
  | count + 1, start, stop => ∃ middle, step start middle ∧ Iterate step count middle stop

namespace Iterate

variable {step : Nat → Nat → Prop}

theorem add_iff {first second start stop : Nat} :
    Iterate step (first + second) start stop ↔
      ∃ middle, Iterate step first start middle ∧ Iterate step second middle stop := by
  induction first generalizing start with
  | zero => simp [Iterate]
  | succ first ih =>
    rw [Nat.succ_add]
    simp only [Iterate, ih]
    exact ⟨fun ⟨next, moves, middle, left, right⟩ => ⟨middle, ⟨next, moves, left⟩, right⟩,
      fun ⟨middle, ⟨next, moves, left⟩, right⟩ => ⟨next, moves, middle, left, right⟩⟩

theorem one_iff {start stop : Nat} : Iterate step 1 start stop ↔ step start stop := by
  simp [Iterate]

theorem succ_iff {count start stop : Nat} :
    Iterate step (count + 1) start stop ↔
      ∃ middle, Iterate step count start middle ∧ step middle stop := by
  simp only [add_iff, one_iff]

theorem le {count start stop : Nat} (ascending : ∀ low high, step low high → low ≤ high)
    (steps : Iterate step count start stop) : start ≤ stop := by
  induction count generalizing start with
  | zero => exact Nat.le_of_eq steps
  | succ count ih =>
    obtain ⟨middle, moves, rest⟩ := steps
    exact Nat.le_trans (ascending _ _ moves) (ih rest)

/-- Steps that stay where they are can be left out. -/
theorem exists_le_sub {count start stop : Nat} (ascending : ∀ low high, step low high → low ≤ high)
    (steps : Iterate step count start stop) :
    ∃ fewer, fewer ≤ stop - start ∧ Iterate step fewer start stop := by
  induction count generalizing start with
  | zero => exact ⟨0, Nat.zero_le _, steps⟩
  | succ count ih =>
    obtain ⟨middle, moves, rest⟩ := steps
    obtain ⟨fewer, bound, shorter⟩ := ih rest
    have before := ascending _ _ moves
    have behind := le ascending rest
    by_cases same : start = middle
    · exact same ▸ ⟨fewer, bound, shorter⟩
    · exact ⟨fewer + 1, by omega, middle, moves, shorter⟩

end Iterate

end TextTemplate

import TextTemplate.Expr.Iterate
import TextTemplate.Expr.Place

/-!
# What an expression means

An expression covers some stretches of a text, each given by the places where it starts and stops.
The definition knows nothing about preferences or about how stretches are found: it is what the
search has to agree with. -/

namespace TextTemplate

namespace Expr

/-- The expression covers the text from `start` to `stop`. -/
def Covers (text : Array Char) : Expr → (start stop : Nat) → Prop
  | empty, start, stop => start = stop
  | set chars, start, stop =>
    stop = start + 1 ∧ ∃ char, text[start]? = some char ∧ chars.mem char = true
  | look assertion, start, stop => start = stop ∧ assertion.holds text start = true
  | seq first second, start, stop =>
    ∃ middle, Covers text first start middle ∧ Covers text second middle stop
  | alt first second, start, stop => Covers text first start stop ∨ Covers text second start stop
  | rep least more _ body, start, stop =>
    ∃ extra, (∀ limit ∈ more, extra ≤ limit) ∧ Iterate (Covers text body) (least + extra) start stop
  | group _ body, start, stop => Covers text body start stop

/-- What is covered does not stop before it starts. -/
theorem Covers.le {text : Array Char} {expr : Expr} {start stop : Nat}
    (covers : expr.Covers text start stop) : start ≤ stop := by
  induction expr generalizing start stop with
  | empty => exact Nat.le_of_eq covers
  | set chars => exact covers.1 ▸ Nat.le_succ start
  | look assertion => exact Nat.le_of_eq covers.1
  | seq first second ihFirst ihSecond =>
    obtain ⟨middle, left, right⟩ := covers
    exact Nat.le_trans (ihFirst left) (ihSecond right)
  | alt first second ihFirst ihSecond => exact covers.elim ihFirst ihSecond
  | rep least more lazy body ih =>
    obtain ⟨extra, _, rounds⟩ := covers
    exact Iterate.le (fun _ _ => ih) rounds
  | group kind body ih => exact ih covers

/-- What is covered lies inside the text, unless it is empty. -/
theorem Covers.stop_le_size {text : Array Char} {expr : Expr} {start stop : Nat}
    (covers : expr.Covers text start stop) (moves : start < stop) : stop ≤ text.size := by
  induction expr generalizing start stop with
  | empty => exact absurd covers (Nat.ne_of_lt moves)
  | set chars =>
    obtain ⟨rfl, char, found, _⟩ := covers
    exact (Array.getElem?_eq_some_iff.1 found).1
  | look assertion => exact absurd covers.1 (Nat.ne_of_lt moves)
  | seq first second ihFirst ihSecond =>
    obtain ⟨middle, left, right⟩ := covers
    by_cases rest : middle < stop
    · exact ihSecond right rest
    · have same : middle = stop := Nat.le_antisymm (Covers.le right) (Nat.le_of_not_lt rest)
      exact same ▸ ihFirst left (same ▸ moves)
  | alt first second ihFirst ihSecond =>
    exact covers.elim (fun left => ihFirst left moves) (fun right => ihSecond right moves)
  | rep least more lazy body ih =>
    obtain ⟨extra, _, rounds⟩ := covers
    generalize least + extra = count at rounds
    induction count generalizing start with
    | zero => exact absurd rounds (Nat.ne_of_lt moves)
    | succ count ihCount =>
      obtain ⟨middle, round, rest⟩ := rounds
      by_cases further : middle < stop
      · exact ihCount further rest
      · have same : middle = stop :=
          Nat.le_antisymm (Iterate.le (fun _ _ => Covers.le) rest) (Nat.le_of_not_lt further)
        exact same ▸ ih round (same ▸ moves)
  | group kind body ih => exact ih covers moves

end Expr

end TextTemplate

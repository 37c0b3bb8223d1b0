import TextTemplate.Expr.Meaning
import TextTemplate.Expr.PlacesLemmas
import TextTemplate.Expr.Search

/-!
# The search finds what an expression means

Main statements: the places found by Expr.startsBefore are those from which the expression covers a
stretch up to one of the targets, and Expr.isMatch decides whether it covers any stretch of the
text. -/

namespace TextTemplate.Expr

/-- Without a limit, as many rounds as the text has characters are enough. -/
theorem exists_le_getD {text : Array Char} {body : Expr} {more : Option Nat}
    {extra start stop : Nat} (bounded : ∀ limit ∈ more, extra ≤ limit)
    (rounds : Iterate (body.Covers text) extra start stop) :
    ∃ fewer, fewer ≤ more.getD text.size ∧ Iterate (body.Covers text) fewer start stop := by
  cases more with
  | some limit => exact ⟨extra, bounded limit rfl, rounds⟩
  | none =>
    obtain ⟨fewer, small, shorter⟩ := Iterate.exists_le_sub (fun _ _ => Covers.le) rounds
    refine ⟨fewer, ?_, shorter⟩
    by_cases moves : start < stop
    · have whole : (rep 0 none true body).Covers text start stop :=
        ⟨fewer, by simp, by simpa using shorter⟩
      have inside := Covers.stop_le_size whole moves
      simp only [Option.getD_none]
      omega
    · omega

/-- The places found are exactly the starts of stretches that the expression covers. -/
theorem findsStarts_startsBefore (text : Array Char) (expr : Expr) :
    Places.FindsStarts (startsBefore text expr) (expr.Covers text) := by
  induction expr with
  | empty => simp [Places.FindsStarts, startsBefore, Covers]
  | set chars =>
    intro targets start
    simp only [startsBefore, Covers, List.mem_filterMap]
    constructor
    · rintro ⟨target, member, found⟩
      split at found
      · simp at found
      · next index =>
        split at found
        · next holds =>
          obtain ⟨char, here, inside⟩ := (Option.any_eq_true _ _).1 holds
          exact ⟨index + 1, member, by simp_all, char, by simp_all, inside⟩
        · simp at found
    · rintro ⟨stop, member, rfl, char, here, inside⟩
      exact ⟨start + 1, member, by simp [here, inside]⟩
  | look assertion =>
    intro targets start
    simp only [startsBefore, Covers, List.mem_filter]
    exact ⟨fun ⟨member, holds⟩ => ⟨start, member, rfl, holds⟩,
      fun ⟨_, member, same, holds⟩ => ⟨same ▸ member, holds⟩⟩
  | seq first second ihFirst ihSecond =>
    intro targets start
    rw [startsBefore, ihFirst]
    constructor
    · rintro ⟨middle, member, left⟩
      obtain ⟨stop, stopMember, right⟩ := (ihSecond _ _).1 member
      exact ⟨stop, stopMember, middle, left, right⟩
    · rintro ⟨stop, stopMember, middle, left, right⟩
      exact ⟨middle, (ihSecond _ _).2 ⟨stop, stopMember, right⟩, left⟩
  | alt first second ihFirst ihSecond =>
    intro targets start
    rw [startsBefore, Places.mem_union_iff, ihFirst, ihSecond]
    simp only [Covers]
    grind
  | rep least more lazy body ih =>
    intro targets start
    simp only [startsBefore, Covers, ih.mem_repeatStep_iff, ih.mem_reach_iff]
    constructor
    · rintro ⟨middle, ⟨extra, bound, stop, member, further⟩, rounds⟩
      refine ⟨stop, member, extra, ?_, Iterate.add_iff.2 ⟨middle, rounds, further⟩⟩
      rintro limit ⟨rfl⟩
      exact bound
    · rintro ⟨stop, member, extra, bounded, rounds⟩
      obtain ⟨middle, rounds, further⟩ := Iterate.add_iff.1 rounds
      obtain ⟨fewer, bound, shorter⟩ := exists_le_getD bounded further
      exact ⟨middle, ⟨fewer, bound, stop, member, shorter⟩, rounds⟩
  | group kind body ih => exact ih

/-- A place is found if the expression covers a stretch from it up to one of the targets. -/
theorem mem_startsBefore_iff {text : Array Char} {expr : Expr} {targets : List Nat} {start : Nat} :
    start ∈ startsBefore text expr targets ↔ ∃ stop ∈ targets, expr.Covers text start stop :=
  findsStarts_startsBefore text expr targets start

/-- A text matches if the expression covers some stretch of it. -/
theorem isMatch_iff {text : Array Char} {expr : Expr} :
    expr.isMatch text = true ↔ ∃ start stop, stop ≤ text.size ∧ expr.Covers text start stop := by
  simp only [isMatch, Bool.not_eq_true', List.isEmpty_eq_false_iff_exists_mem,
    mem_startsBefore_iff, places, List.mem_range, Nat.lt_succ_iff]

end TextTemplate.Expr

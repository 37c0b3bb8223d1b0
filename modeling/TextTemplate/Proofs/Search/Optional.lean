import TextTemplate.Proofs.Search.Sequence

/-!
# Optional expressions

An expression that covers the empty text everywhere can be made optional without any effect: it covers
the same stretches, and since the search prefers the round to leaving it out, it also goes the same
way and captures the same. -/

namespace TextTemplate.Expr

variable {text : Array Char} {body : Expr} {start stop place : Nat} {targets : List Nat}

/-- An expression that covers the empty text everywhere covers the same stretches if it is
optional. -/
theorem covers_optional_iff {isLazy : Bool} (coversEmpty : ∀ place, body.Covers text place place) :
    (rep 0 (some 1) isLazy body).Covers text start stop ↔ body.Covers text start stop := by
  constructor
  · rintro ⟨extra, bounded, rounds⟩
    have few := bounded 1 rfl
    rw [Nat.zero_add] at rounds
    rcases Nat.le_one_iff_eq_zero_or_eq_one.mp few with rfl | rfl
    · cases rounds
      exact coversEmpty start
    · exact Iterate.one_iff.mp rounds
  · intro covers
    exact ⟨1, by simp, Iterate.one_iff.mpr covers⟩

/-- Where an optional expression that prefers its round can make one, it does. -/
theorem follow_optional (member : place ∈ startsBefore text body targets) :
    follow text (rep 0 (some 1) false body) place targets = follow text body place targets := by
  have goes : Trail.goesOn (startsBefore text body) false targets targets place = true := by
    simpa [Trail.goesOn] using member
  simp only [follow, Trail.exactly, Trail.stop_stay, Trail.stay_append, Trail.upTo, Places.reach_zero,
    goes, if_true, Trail.append_stay]

end TextTemplate.Expr

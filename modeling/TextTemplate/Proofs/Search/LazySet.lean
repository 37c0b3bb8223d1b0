import TextTemplate.Proofs.Search.Sequence

/-!
# Repetitions of sets

A repetition of a set of characters covers the stretches that hold nothing else. One that prefers
few repetitions goes to the first of its targets that it can reach. -/

namespace TextTemplate

variable {chars : List Char} {allowed : CharSet}

namespace Expr

theorem covers_set_iff {start stop : Nat} :
    (set allowed).Covers chars.toArray start stop ↔
      ∃ char, chars[start]? = some char ∧ allowed.mem char = true ∧ stop = start + 1 := by
  simp only [Covers, List.getElem?_toArray]
  constructor
  · rintro ⟨place, char, found, member⟩
    exact ⟨char, found, member, place⟩
  · rintro ⟨char, found, member, place⟩
    exact ⟨place, char, found, member⟩

theorem cons_prefix_drop_iff {char : Char} {part : List Char} {start : Nat} :
    char :: part <+: chars.drop start ↔
      chars[start]? = some char ∧ part <+: chars.drop (start + 1) := by
  rw [← List.head?_drop, ← List.tail_drop]
  cases chars.drop start with
  | nil => simp
  | cons first rest => simp [List.cons_prefix_cons, eq_comm]

/-- Rounds of a set cover the stretches of as many characters that belong to the set. -/
theorem iterate_set_iff {count start stop : Nat} :
    Iterate ((set allowed).Covers chars.toArray) count start stop ↔
      ∃ part : List Char, part.length = count ∧ (∀ char ∈ part, allowed.mem char = true) ∧
        part <+: chars.drop start ∧ stop = start + count := by
  induction count generalizing start with
  | zero =>
    simp only [Iterate, Nat.add_zero]
    constructor
    · rintro rfl
      exact ⟨[], rfl, by simp, List.nil_prefix, rfl⟩
    · rintro ⟨_, _, _, _, place⟩
      exact place.symm
  | succ count ih =>
    simp only [Iterate, covers_set_iff, ih]
    constructor
    · rintro ⟨_, ⟨char, found, member, rfl⟩, part, length, members, starts, place⟩
      refine ⟨char :: part, by simp [length], ?_, cons_prefix_drop_iff.mpr ⟨found, starts⟩, ?_⟩
      · simpa using ⟨member, members⟩
      · omega
    · rintro ⟨part, length, members, starts, place⟩
      cases part with
      | nil => simp at length
      | cons char part =>
        obtain ⟨found, starts⟩ := cons_prefix_drop_iff.mp starts
        have inside := members char (List.mem_cons_self ..)
        have others := fun other member => members other (List.mem_cons_of_mem char member)
        exact ⟨start + 1, ⟨char, found, inside, rfl⟩, part, by simpa using length, others, starts,
          by omega⟩

/-- A repetition of a set without a limit covers the stretches of enough characters that belong to
the set. -/
theorem covers_rep_set_iff {least start stop : Nat} {isLazy : Bool} :
    (rep least none isLazy (set allowed)).Covers chars.toArray start stop ↔
      ∃ part : List Char, least ≤ part.length ∧ (∀ char ∈ part, allowed.mem char = true) ∧
        part <+: chars.drop start ∧ stop = start + part.length := by
  constructor
  · rintro ⟨extra, _, rounds⟩
    obtain ⟨part, length, members, starts, place⟩ := iterate_set_iff.mp rounds
    exact ⟨part, by omega, members, starts, by omega⟩
  · rintro ⟨part, enough, members, starts, place⟩
    have rounds := iterate_set_iff.mpr ⟨part, rfl, members, starts, place⟩
    refine ⟨part.length - least, by simp, ?_⟩
    rwa [Nat.add_sub_cancel' enough]

end Expr

section Lazy

variable {text : Array Char} {step : List Nat → List Nat} {targets ahead : List Nat}
  {place stop : Nat}

/-- Rounds of a set go on by one place each. -/
theorem Trail.exactly_set (count : Nat) :
    exactly step (Expr.follow text (.set allowed)) targets count place = stay (place + count) := by
  induction count generalizing place with
  | zero => rfl
  | succ count ih =>
    have round : ∀ goals, Expr.follow text (.set allowed) place goals = stay (place + 1) :=
      fun _ => rfl
    rw [exactly, round]
    simp only [stay, ih, append, List.append_nil]
    rw [Nat.add_right_comm, Nat.add_assoc]

/-- A loop over a set that prefers few rounds stops at the first target. -/
theorem Trail.loop_set (fuel : Nat) (member : stop ∈ targets)
    (first : ∀ target ∈ targets, place ≤ target → stop ≤ target) (ahead_le : place ≤ stop)
    (enough : stop - place ≤ fuel) :
    loop step (Expr.follow text (.set allowed)) true targets fuel ahead place = stay stop := by
  induction fuel generalizing place ahead with
  | zero =>
    have arrived : place = stop := by omega
    rw [arrived, loop]
  | succ fuel ih =>
    by_cases arrived : place ∈ targets
    · have same : place = stop := Nat.le_antisymm ahead_le (first place arrived (Nat.le_refl _))
      simp [loop, goesOn, same, member]
    · have further : place + 1 ≤ stop := by
        rcases Nat.lt_or_eq_of_le ahead_le with less | same
        · exact less
        · exact absurd (same ▸ member) arrived
      have rest : ∀ goals, loop step (Expr.follow text (.set allowed)) true targets fuel goals
          (place + 1) = stay stop := fun _ =>
        ih (fun target found above => first target found (by omega)) further (by omega)
      have goes : ∀ goals, goesOn step true targets goals place = true := by
        simp [goesOn, arrived]
      let follow := Expr.follow text (.set allowed)
      calc loop step follow true targets (fuel + 1) ahead place
          = (stay (place + 1)).append
              (loop step follow true targets fuel (ahead.dropWhile (· ≤ place)) (place + 1)) := by
            rw [loop, goes, if_pos rfl]
            rfl
        _ = stay stop := by rw [rest, stay_append]

/-- A repetition of a set that prefers few rounds stops at the first target behind the rounds that
it has to make. -/
theorem Expr.follow_rep_set {least : Nat} (member : stop ∈ targets)
    (first : ∀ target ∈ targets, place + least ≤ target → stop ≤ target)
    (ahead_le : place + least ≤ stop) (enough : stop ≤ text.size) :
    follow text (rep least none true (set allowed)) place targets = .stay stop := by
  rw [follow, Trail.exactly_set, Trail.stop_stay,
    Trail.loop_set text.size member first ahead_le (by omega)]
  exact Trail.stay_append ..

end Lazy

end TextTemplate

import TextTemplate.Expr.Iterate
import TextTemplate.Expr.Places

/-!
# What sets of places hold

A step finds starts for a relation if it maps every set of places to the places from which the
relation leads into the set. Repeating such a step then finds exactly the places from which
repeated steps of the relation lead into the set. -/

namespace TextTemplate.Places

/-- The step maps a set of places to those from which the relation leads into the set. -/
def FindsStarts (step : List Nat → List Nat) (relation : Nat → Nat → Prop) : Prop :=
  ∀ targets start, start ∈ step targets ↔ ∃ stop ∈ targets, relation start stop

theorem mem_weave_iff {place entry : Nat} {rest : List Nat → List Nat} {places others : List Nat}
    (mem_rest : ∀ others, entry ∈ rest others ↔ entry ∈ places ∨ entry ∈ others) :
    entry ∈ weave place rest others ↔ entry = place ∨ entry ∈ places ∨ entry ∈ others := by
  induction others with
  | nil => simp [weave, mem_rest]
  | cons other others ih =>
    unfold weave
    split
    · simp [mem_rest]
    · split
      · simp only [List.mem_cons, ih]
        grind
      · have same : place = other := by omega
        simp only [List.mem_cons, mem_rest, same]
        grind

@[simp] theorem mem_union_iff {entry : Nat} {places others : List Nat} :
    entry ∈ union places others ↔ entry ∈ places ∨ entry ∈ others := by
  induction places generalizing others with
  | nil => simp [union]
  | cons place places ih =>
    rw [union, mem_weave_iff fun _ => ih]
    simp [or_assoc]

@[simp] theorem union_nil (places : List Nat) : union places [] = places := by
  induction places with
  | nil => rfl
  | cons place places ih => rw [union, weave, ih]

/-- No steps lead from the targets alone. -/
@[simp] theorem reach_zero (step : List Nat → List Nat) (targets : List Nat) :
    reach step 0 targets = targets :=
  union_nil targets

theorem mem_of_isListed {place : Nat} {places : List Nat} (listed : isListed place places = true) :
    place ∈ places := by
  induction places with
  | nil => simp [isListed] at listed
  | cons other others ih =>
    unfold isListed at listed
    split at listed
    · exact List.mem_cons_of_mem _ (ih listed)
    · simp_all

variable {step : List Nat → List Nat} {relation : Nat → Nat → Prop}

/-- A set that a step does not change is not changed by further ones. -/
theorem FindsStarts.iterate_iff_of_eq (finds : FindsStarts step relation) {targets : List Nat}
    (same : step targets = targets) (count start : Nat) :
    (∃ stop ∈ targets, Iterate relation count start stop) ↔ start ∈ targets := by
  induction count generalizing start with
  | zero => simp [Iterate]
  | succ count ih =>
    rw [← same, finds, same]
    constructor
    · rintro ⟨stop, member, middle, moves, rest⟩
      exact ⟨middle, (ih middle).1 ⟨stop, member, rest⟩, moves⟩
    · rintro ⟨middle, member, moves⟩
      obtain ⟨stop, stopMember, rest⟩ := (ih middle).2 member
      exact ⟨stop, stopMember, middle, moves, rest⟩

theorem FindsStarts.mem_repeatStep_iff (finds : FindsStarts step relation) {count start : Nat}
    {targets : List Nat} :
    start ∈ repeatStep step count targets ↔
      ∃ stop ∈ targets, Iterate relation count start stop := by
  induction count generalizing targets with
  | zero => simp [repeatStep, Iterate]
  | succ count ih =>
    by_cases same : step targets = targets
    · rw [repeatStep, if_pos same, finds.iterate_iff_of_eq same]
    · rw [repeatStep, if_neg same, ih]
      simp only [Iterate.succ_iff]
      constructor
      · rintro ⟨middle, member, rest⟩
        obtain ⟨stop, stopMember, moves⟩ := (finds _ _).1 member
        exact ⟨stop, stopMember, middle, rest, moves⟩
      · rintro ⟨stop, stopMember, middle, rest, moves⟩
        exact ⟨middle, (finds _ _).2 ⟨stop, stopMember, moves⟩, rest⟩

/-- A walk into `seen` either stays there from the start on or comes through `fresh`. -/
theorem mem_or_through_fresh {seen fresh : List Nat}
    (closed : ∀ start stop, relation start stop → stop ∈ seen → start ∈ seen ∨ start ∈ fresh)
    {count start stop : Nat} (walk : Iterate relation count start stop) (member : stop ∈ seen) :
    start ∈ seen ∨ ∃ fewer, fewer < count ∧ ∃ gate ∈ fresh, Iterate relation fewer start gate := by
  induction count generalizing start with
  | zero => exact .inl (walk ▸ member)
  | succ count ih =>
    obtain ⟨middle, moves, rest⟩ := walk
    rcases ih rest with inside | ⟨fewer, less, gate, gateMember, shorter⟩
    · rcases closed _ _ moves inside with inside | outside
      · exact .inl inside
      · exact .inr ⟨0, Nat.succ_pos _, start, outside, rfl⟩
    · exact .inr ⟨fewer + 1, Nat.succ_lt_succ less, gate, gateMember, middle, moves, shorter⟩

theorem FindsStarts.mem_reachFrom_iff (finds : FindsStarts step relation) {count start : Nat}
    {seen fresh : List Nat}
    (closed : ∀ start stop, relation start stop → stop ∈ seen → start ∈ seen ∨ start ∈ fresh) :
    start ∈ reachFrom step count seen fresh ↔
      start ∈ seen ∨
        ∃ steps, steps ≤ count ∧ ∃ stop ∈ fresh, Iterate relation steps start stop := by
  induction count generalizing seen fresh with
  | zero => simp [reachFrom, Iterate, or_comm]
  | succ count ih =>
    by_cases done : fresh = []
    · simp [reachFrom, done]
    · have closedNext : ∀ start stop, relation start stop → stop ∈ union fresh seen →
          start ∈ union fresh seen ∨
            start ∈ (step fresh).filter fun place => !isListed place (union fresh seen) := by
        intro start stop moves member
        rcases mem_union_iff.1 member with member | member
        · by_cases listed : isListed start (union fresh seen) = true
          · exact .inl (mem_of_isListed listed)
          · exact .inr (List.mem_filter.2
              ⟨(finds _ _).2 ⟨stop, member, moves⟩, by simpa using listed⟩)
        · exact .inl (mem_union_iff.2 (closed _ _ moves member).symm)
      rw [reachFrom, if_neg (by simpa using done), ih closedNext]
      constructor
      · rintro (member | ⟨steps, bound, stop, member, walk⟩)
        · rcases mem_union_iff.1 member with member | member
          · exact .inr ⟨0, Nat.zero_le _, start, member, rfl⟩
          · exact .inl member
        · obtain ⟨gate, gateMember, moves⟩ := (finds _ _).1 (List.mem_filter.1 member).1
          exact .inr ⟨steps + 1, Nat.succ_le_succ bound, gate, gateMember,
            Iterate.succ_iff.2 ⟨stop, walk, moves⟩⟩
      · rintro (member | ⟨steps, bound, stop, member, walk⟩)
        · exact .inl (mem_union_iff.2 (.inr member))
        · rcases mem_or_through_fresh closedNext walk (mem_union_iff.2 (.inl member)) with
            inside | ⟨fewer, less, gate, gateMember, shorter⟩
          · exact .inl inside
          · exact .inr ⟨fewer, by omega, gate, gateMember, shorter⟩

theorem FindsStarts.mem_reach_iff (finds : FindsStarts step relation) {count start : Nat}
    {targets : List Nat} :
    start ∈ reach step count targets ↔
      ∃ steps, steps ≤ count ∧ ∃ stop ∈ targets, Iterate relation steps start stop := by
  rw [reach, finds.mem_reachFrom_iff (by simp)]
  simp

end TextTemplate.Places

import TextTemplate.Proofs.Template.Decomposition

/-!
# Shadowed placeholders

A placeholder is shadowed by a token directly behind it that takes characters of any kind. What the
placeholder could stand for can be left to this token, so that in the preferred decomposition of a
text, which keeps the earlier parts short, nothing is left for the placeholder. -/

namespace TextTemplate

/-- Whether the token takes characters of any kind, and any number of further ones. -/
def Token.takesAny : Token → Bool
  | placeholder _ | wildcard => true
  | literal _ | word => false

/-- The placeholder of a name stands directly before a token that takes characters of any kind. -/
def IsShadowed (tokens : List Token) (name : String) : Prop :=
  ∃ before next later, tokens = before ++ .placeholder name :: next :: later ∧ next.takesAny = true

variable {tokens before later : List Token} {next : Token} {name : String}
  {part rest text : List Char} {parts : List (List Char)}

/-- Such a token may stand for more than it stands for. -/
theorem Token.Fits.append_left (takes : next.takesAny = true) (fits : next.Fits rest) :
    next.Fits (part ++ rest) := by
  cases next with
  | placeholder => trivial
  | wildcard => exact List.append_ne_nil_of_right_ne_nil part fits
  | literal | word => contradiction

theorem IsShadowed.mem_placeholderNames (shadowed : IsShadowed tokens name) :
    name ∈ placeholderNames tokens := by
  obtain ⟨before, next, later, rfl, _⟩ := shadowed
  exact List.mem_filterMap.mpr ⟨.placeholder name, by simp, rfl⟩

/-- Nothing is left for the first placeholder if the second token may have its part too. -/
private theorem IsPreferred.head_eq_nil (takes : next.takesAny = true)
    (preferred : IsPreferred (.placeholder name :: next :: later) (part :: parts) text) :
    part = [] := by
  obtain ⟨behind, _, rfl, others⟩ := IsDecomposition.cons_iff.mp preferred.decomposes
  cases parts with
  | nil => nomatch others.fits
  | cons second parts =>
    obtain ⟨rest, fits, rfl, last⟩ := IsDecomposition.cons_iff.mp others
    have moved : IsDecomposition (next :: later) ((part ++ second) :: parts)
        (part ++ (second ++ rest)) :=
      IsDecomposition.cons_iff.mpr ⟨rest, fits.append_left takes, (List.append_assoc ..).symm, last⟩
    have fitsNothing : (Token.placeholder name).Fits [] := trivial
    have shortest := preferred.length_head_le fitsNothing (List.nil_prefix ..) ⟨_, moved⟩
    exact List.eq_nil_of_length_eq_zero (Nat.le_zero.mp shortest)

/-- In the preferred decomposition a shadowed placeholder stands for the empty text. -/
theorem IsPreferred.eq_nil_of_isShadowed (distinct : (placeholderNames tokens).Nodup)
    (shadowed : IsShadowed tokens name) (preferred : IsPreferred tokens parts text)
    (member : (.placeholder name, part) ∈ tokens.zip parts) : part = [] := by
  obtain ⟨before, next, later, rfl, takes⟩ := shadowed
  -- The parts behind a token are preferred too; the tokens before the placeholder are dropped.
  induction before generalizing parts text with
  | nil =>
    cases parts with
    | nil => nomatch preferred.decomposes.fits
    | cons first parts =>
      rw [List.nil_append, List.zip_cons_cons, List.mem_cons] at member
      rcases member with here | behind
      · obtain ⟨_, rfl⟩ := Prod.mk.inj here
        exact preferred.head_eq_nil takes
      · have again : name ∈ placeholderNames (next :: later) :=
          List.mem_filterMap.mpr ⟨_, (List.of_mem_zip behind).1, rfl⟩
        exact absurd again (List.nodup_cons.mp distinct).1
  | cons token before ih =>
    cases parts with
    | nil => nomatch preferred.decomposes.fits
    | cons first parts =>
      have listed : name ∈ placeholderNames (before ++ .placeholder name :: next :: later) :=
        IsShadowed.mem_placeholderNames ⟨before, next, later, rfl, takes⟩
      have distinctBehind :
          (placeholderNames (before ++ .placeholder name :: next :: later)).Nodup :=
        distinct.sublist ((List.sublist_cons_self ..).filterMap _)
      rw [List.cons_append, List.zip_cons_cons, List.mem_cons] at member
      rcases member with here | behind
      · obtain ⟨rfl, _⟩ := Prod.mk.inj here
        exact absurd listed (List.nodup_cons.mp distinct).1
      · exact ih distinctBehind preferred.tail behind

end TextTemplate

import TextTemplate.Proofs.Template.Groups
import TextTemplate.Proofs.Template.NormalForm

/-!
# What an expression tells about its template

The expressions that a template spells tell which tokens they come from and which of the placeholders
may be left out. They are read off the text of the template's expression, so that this text tells the
same: two templates share it only if they have the same tokens and the same placeholders with default
values. -/

namespace TextTemplate

namespace Expr

/-- The piece of a template that an expression comes from, if it comes from one. -/
def piece? : Expr → Option Token.Piece
  | set (.range char _) => some (.char char)
  | group (.named name) _ | rep 0 _ _ (group (.named name) _) =>
    some (.token (.placeholder name))
  | rep 1 _ _ (set chars) => some (.token (if chars = .all then .wildcard else .word))
  | _ => none

/-- The name of the placeholder that an expression comes from, if its group may be left out. -/
def optionalName? : Expr → Option String
  | rep 0 _ _ (group (.named name) _) => some name
  | _ => none

end Expr

namespace Token

variable {hasDefault : String → Bool} {token : Token} {tokens : List Token}

theorem filterMap_piece?_exprs (hasDefault : String → Bool) (token : Token) :
    (token.exprs hasDefault).filterMap Expr.piece? = token.toPieces := by
  cases token with
  | literal text =>
    simp [exprs, toPieces, Expr.piece?, CharSet.single, List.filterMap_map, Function.comp_def]
  | placeholder name =>
    by_cases given : hasDefault name = true
    · simp [exprs, toPieces, Expr.piece?, given]
    · simp [exprs, toPieces, Expr.piece?, given]
  | wildcard => rfl
  | word => rfl

theorem filterMap_optionalName?_exprs (hasDefault : String → Bool) (token : Token) :
    (token.exprs hasDefault).filterMap Expr.optionalName? =
      token.name?.toList.filter hasDefault := by
  cases token with
  | literal text => simp [exprs, name?, Expr.optionalName?, List.filterMap_map, Function.comp_def]
  | placeholder name =>
    by_cases given : hasDefault name = true
    · simp [exprs, name?, Expr.optionalName?, given]
    · simp [exprs, name?, Expr.optionalName?, given]
  | wildcard => rfl
  | word => rfl

theorem IsNormal.isNamed (normal : IsNormal tokens) (member : token ∈ tokens) : token.IsNamed := by
  intro name found
  have proper := normal.proper token member
  cases token with
  | placeholder =>
    cases found
    exact proper
  | literal | wildcard | word => cases found

end Token

section Template

variable {hasDefault other : String → Bool} {tokens otherTokens : List Token}

/-- The expressions of a template come from the pieces of its tokens. -/
theorem filterMap_piece?_templateExprs (hasDefault : String → Bool) (tokens : List Token) :
    (templateExprs hasDefault tokens).filterMap Expr.piece? = tokens.flatMap Token.toPieces := by
  have inner : (tokens.flatMap (Token.exprs hasDefault)).filterMap Expr.piece? =
      tokens.flatMap Token.toPieces := by
    simp only [List.filterMap_flatMap, Token.filterMap_piece?_exprs]
  rw [templateExprs, List.filterMap_append, List.filterMap_cons_none rfl, inner]
  exact List.append_nil _

/-- The expressions that may be left out come from the placeholders with default values. -/
theorem filterMap_optionalName?_templateExprs (hasDefault : String → Bool) (tokens : List Token) :
    (templateExprs hasDefault tokens).filterMap Expr.optionalName? =
      (placeholderNames tokens).filter hasDefault := by
  have inner : (tokens.flatMap (Token.exprs hasDefault)).filterMap Expr.optionalName? =
      (placeholderNames tokens).filter hasDefault := by
    simp only [List.filterMap_flatMap, Token.filterMap_optionalName?_exprs,
      placeholderNames_eq_flatMap, List.filter_flatMap]
  rw [templateExprs, List.filterMap_append, List.filterMap_cons_none rfl, inner]
  exact List.append_nil _

theorem Reading.HasRead.exprs_unique {reading : Reading} {exprs otherExprs : List Expr}
    {names otherNames : List String} (read : reading.HasRead exprs names)
    (readOther : reading.HasRead otherExprs otherNames) : exprs = otherExprs := by
  have items := List.append_cancel_right (read.items.symm.trans readOther.items)
  exact List.reverse_injective (List.map_injective_iff.mpr (fun _ _ => Option.some.inj) items)

/-- The default values of placeholders are all that matters for the text of an expression besides the
tokens. -/
theorem templateSource_congr
    (agree : ∀ name ∈ placeholderNames tokens, hasDefault name = other name) :
    templateSource hasDefault tokens = templateSource other tokens := by
  have sources : tokens.flatMap (Token.source hasDefault) =
      tokens.flatMap (Token.source other) := by
    refine List.flatMap_congr fun token member => ?_
    cases token with
    | placeholder name =>
      have same := agree name (List.mem_filterMap.mpr ⟨_, member, rfl⟩)
      exact congrArg (fun given : Bool => "(?P<".toList ++ name.toList ++ ">.*?)".toList ++
        if given then ['?'] else []) same
    | literal | wildcard | word => rfl
  exact congrArg (fun sources => "(?s)^".toList ++ sources ++ ['$']) sources

/-- Normal lists of tokens have the same text of an expression only if they are the same and the same
placeholders have default values. -/
theorem templateSource_eq_iff (normal : Token.IsNormal tokens)
    (distinct : (placeholderNames tokens).Nodup) (normalOther : Token.IsNormal otherTokens)
    (distinctOther : (placeholderNames otherTokens).Nodup) :
    templateSource hasDefault tokens = templateSource other otherTokens ↔
      tokens = otherTokens ∧ ∀ name ∈ placeholderNames tokens, hasDefault name = other name := by
  constructor
  · intro same
    obtain ⟨final, run, read⟩ :=
      Reading.exists_run_templateSource hasDefault (fun _ => normal.isNamed) distinct
    obtain ⟨finalOther, runOther, readOther⟩ :=
      Reading.exists_run_templateSource other (fun _ => normalOther.isNamed) distinctOther
    rw [same, runOther] at run
    cases run
    have exprs := read.exprs_unique readOther
    have pieces := congrArg (List.filterMap Expr.piece?) exprs
    rw [filterMap_piece?_templateExprs, filterMap_piece?_templateExprs] at pieces
    have tokensSame : tokens = otherTokens := by
      rw [← normal.behind_gather, pieces, normalOther.behind_gather]
    subst tokensSame
    have optional := congrArg (List.filterMap Expr.optionalName?) exprs
    rw [filterMap_optionalName?_templateExprs, filterMap_optionalName?_templateExprs] at optional
    refine ⟨rfl, fun name listed => Bool.eq_iff_iff.mpr ?_⟩
    have member := congrArg (name ∈ ·) optional
    simpa [listed] using member
  · rintro ⟨rfl, agree⟩
    exact templateSource_congr agree

end Template

end TextTemplate

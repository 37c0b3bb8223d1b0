import Mathlib.Data.List.Induction
import TextTemplate.Proofs.Template.Spelling

/-!
# The groups of a template's expression

The groups that capture in the expression of a template are the placeholders of the template, in their
order, so that what is captured can be asked for by their names. -/

namespace TextTemplate

/-- The groups of a sequence are those of its parts. -/
theorem Expr.captureNames_sequence (exprs : List Expr) :
    (sequence exprs.reverse).captureNames = exprs.flatMap captureNames := by
  induction exprs using List.reverseRecOn with
  | nil => rfl
  | append_singleton exprs expr ih =>
    rw [List.reverse_append, List.flatMap_append, List.flatMap_singleton, ← ih,
      List.reverse_singleton, List.singleton_append]
    cases exprs.reverse <;> rfl

theorem Token.flatMap_captureNames_exprs (hasDefault : String → Bool) (token : Token) :
    (token.exprs hasDefault).flatMap Expr.captureNames = token.name?.toList.map some := by
  cases token with
  | literal text => simp [exprs, name?, Expr.captureNames, List.flatMap_map]
  | placeholder name =>
    by_cases given : hasDefault name = true
    · simp [exprs, name?, Expr.captureNames, given]
    · simp [exprs, name?, Expr.captureNames, given]
  | wildcard => rfl
  | word => rfl

theorem placeholderNames_eq_flatMap (tokens : List Token) :
    placeholderNames tokens = tokens.flatMap fun token => token.name?.toList := by
  unfold placeholderNames
  induction tokens with
  | nil => rfl
  | cons token tokens ih =>
    rw [List.flatMap_cons, List.filterMap_cons, ← ih]
    cases token.name? <;> rfl

/-- The groups of a template's expression are its placeholders, in their order. -/
theorem flatMap_captureNames_templateExprs (hasDefault : String → Bool) (tokens : List Token) :
    (templateExprs hasDefault tokens).flatMap Expr.captureNames =
      (placeholderNames tokens).map some := by
  have inner : (tokens.flatMap (Token.exprs hasDefault)).flatMap Expr.captureNames =
      (placeholderNames tokens).map some := by
    simp only [List.flatMap_assoc, Token.flatMap_captureNames_exprs, placeholderNames_eq_flatMap,
      List.map_flatMap]
  rw [templateExprs, List.flatMap_append, List.flatMap_cons, inner]
  exact List.append_nil _

/-- The expression of a template. -/
def templateExpr (hasDefault : String → Bool) (tokens : List Token) : Expr :=
  .sequence (templateExprs hasDefault tokens).reverse

/-- The groups of a template's expression have the numbers of its placeholders. -/
theorem captureNames_templateExpr (hasDefault : String → Bool) (tokens : List Token) :
    (templateExpr hasDefault tokens).captureNames = (placeholderNames tokens).map some := by
  rw [templateExpr, Expr.captureNames_sequence, flatMap_captureNames_templateExprs]

end TextTemplate

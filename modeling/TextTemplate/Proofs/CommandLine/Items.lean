import Mathlib.Data.List.Forall2
import TextTemplate.CommandLine.Output
import TextTemplate.Proofs.Bindings.Lookup

/-!
# Printed items

What some items are printed as is what their parts are written as, one behind the other. The values of
a match come to be printed in any order, and they are printed in the order of their names, so that the
output depends on the results alone. -/

namespace TextTemplate

theorem MatchResult.eq_of_values?_eq {result other : MatchResult}
    (same : result.values? = other.values?) : result = other := by
  cases result <;> cases other <;> simp_all [values?]

namespace CommandLine

/-- An item lists a subject with its result. The values of a match are all in it, in any order. -/
inductive OutputItem.Lists : OutputItem → String × MatchResult → Prop
  | unmatched (subject : String) : Lists (.verdict subject none) (subject, .unmatched)
  | matched (subject : String) {values : Bindings} {order : List (String × String)}
      (same : order.Perm values.entries) :
      Lists (.verdict subject (some order)) (subject, .matched values)

namespace Output

variable {items : List OutputItem} {pairs : List (String × MatchResult)}

def results (pairs : List (String × MatchResult)) : List OutputItem :=
  pairs.map fun (subject, result) => .result subject result

/-- What a run prints for some results lists them. -/
theorem lists_results (pairs : List (String × MatchResult)) :
    List.Forall₂ OutputItem.Lists (results pairs) pairs := by
  rw [results, List.forall₂_map_left_iff, List.forall₂_same]
  rintro ⟨subject, result⟩ -
  cases result with
  | unmatched => exact .unmatched subject
  | matched values => exact .matched subject (.refl _)

/-- The values of a match are sorted into the same order from any other one. -/
theorem sorted_of_perm {values : Bindings} {order : List (String × String)}
    (same : order.Perm values.entries) : sorted order = values.entries :=
  congrArg Bindings.entries (Bindings.ofList_of_perm same)

@[simp] theorem sorted_entries (values : Bindings) : sorted values.entries = values.entries :=
  sorted_of_perm (.refl _)

theorem map_sorted_entries? (result : MatchResult) :
    result.entries?.map sorted = result.entries? := by
  cases result <;> simp

/-- An item is printed in the same way whatever order the values come in. -/
theorem fragments_of_lists {item : OutputItem} {pair : String × MatchResult}
    (lists : item.Lists pair) (format : Format) :
    fragments format item = fragments format (.result pair.1 pair.2) := by
  cases lists with
  | unmatched subject => rw [OutputItem.result, MatchResult.entries?_unmatched]
  | @matched subject values order same =>
    have sameOrder : sorted order = sorted values.entries := by
      rw [sorted_of_perm same, sorted_entries]
    rw [OutputItem.result, MatchResult.entries?_matched]
    cases format with
    | human =>
      unfold fragments human
      dsimp only
      rw [sameOrder]
    | json =>
      unfold fragments json
      dsimp only
      rw [sameOrder]
    | quiet => rfl

/-- The output depends on the results alone. -/
theorem print_of_lists (lists : List.Forall₂ OutputItem.Lists items pairs) (format : Format)
    (color : Bool) : print format color items = print format color (results pairs) := by
  rw [print, print]
  congr 2
  induction lists with
  | nil => rfl
  | cons first _ ih => rw [List.flatMap_cons, fragments_of_lists first, ih]; rfl

theorem toList_print (format : Format) (color : Bool) (items : List OutputItem) :
    (print format color items).toList =
      items.flatMap fun item =>
        (fragments format item).flatMap fun fragment => (fragment.render color).toList := by
  rw [print, String.toList_join, List.flatMap_map, List.flatMap_assoc]

theorem toList_print_results (format : Format) (color : Bool)
    (pairs : List (String × MatchResult)) :
    (print format color (results pairs)).toList =
      pairs.flatMap fun pair =>
        (fragments format (.result pair.1 pair.2)).flatMap fun fragment =>
          (fragment.render color).toList := by
  rw [toList_print, results, List.flatMap_map]

end Output

end CommandLine

end TextTemplate

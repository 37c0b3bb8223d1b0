import TextTemplate.Proofs.CommandLine.Objects
import TextTemplate.Proofs.Text.Terminal

/-!
# Colours

Colours only add codes to the output, and a terminal shows with them the same characters as without.
Each style is switched off behind the sign or the name that it is for, so that subjects and values
are shown without any attribute, whatever has been printed before. -/

namespace TextTemplate.CommandLine

open Text

def Style.attribute : Style → Nat
  | .green => 32
  | .red => 31
  | .dim => 2

def OutputItem.texts : OutputItem → List String
  | source text => [text]
  | verdict subject values? =>
    subject :: (values?.getD []).flatMap fun (name, value) => [name, value]

def OutputItem.IsUnescaped (item : OutputItem) : Prop := ∀ text ∈ item.texts, '\x1b' ∉ text.toList

namespace Output

/-! ## Shown characters -/

/-- The characters of a text, all with the same attributes. -/
def painted (attributes : List Nat) (text : String) : List (Char × List Nat) :=
  text.toList.map fun char => (char, attributes)

/-- What a terminal shows of a subject with what its match has given: the sign has its colour, names
are dimmed, and nothing else has any attribute. -/
def shownHuman (subject : String) : Option (List (String × String)) → List (Char × List Nat)
  | none => painted [Style.red.attribute] "✗" ++ painted [] (" " ++ subject ++ "\n")
  | some values =>
    painted [Style.green.attribute] "✓" ++ painted [] (" " ++ subject ++ "\n") ++
      (sorted values).flatMap fun (name, value) =>
        painted [Style.dim.attribute] ("    " ++ name ++ " =") ++ painted [] (" " ++ value ++ "\n")

/-- What a terminal shows of an item. -/
def shown (format : Format) : OutputItem → List (Char × List Nat)
  | .source text => painted [] (text ++ "\n")
  | .verdict subject values? =>
    match format with
    | .human => shownHuman subject values?
    | .json => painted [] (String.ofList (json subject values?))
    | .quiet => []

/-! ## Fragments -/

/-- The characters of some fragments, each with the attributes that are on, if some are on at the
start. -/
def paint (attributes : List Nat) : List Fragment → List (Char × List Nat)
  | [] => []
  | .text content :: fragments => painted attributes content ++ paint attributes fragments
  | .style kind :: fragments => paint [kind.attribute] fragments
  | .plain :: fragments => paint [] fragments

theorem cells_plainCode (attributes : List Nat) (rest : List Char) :
    Terminal.cells attributes (Fragment.plainCode.toList ++ rest) = Terminal.cells [] rest :=
  Terminal.cells_code (by decide : ['0'].all Terminal.isParameter = true)

/-- The codes for a style switch all others off. -/
theorem cells_styleCode (kind : Style) (attributes : List Nat) (rest : List Char) :
    Terminal.cells attributes ((Fragment.styleCode kind).toList ++ rest) =
      Terminal.cells [kind.attribute] rest := by
  cases kind with
  | green =>
    rw [Fragment.styleCode, String.toList_append, List.append_assoc, cells_plainCode]
    exact Terminal.cells_code (by decide : ['3', '2'].all Terminal.isParameter = true)
  | red =>
    rw [Fragment.styleCode, String.toList_append, List.append_assoc, cells_plainCode]
    exact Terminal.cells_code (by decide : ['3', '1'].all Terminal.isParameter = true)
  | dim =>
    rw [Fragment.styleCode, String.toList_append, List.append_assoc, cells_plainCode]
    exact Terminal.cells_code (by decide : ['2'].all Terminal.isParameter = true)

/-- Fragments without escape characters in their texts are shown with the attributes of their
styles. -/
theorem cells_render {fragments : List Fragment}
    (unescaped : ∀ content, .text content ∈ fragments → '\x1b' ∉ content.toList)
    (attributes : List Nat) :
    Terminal.cells attributes (fragments.flatMap fun fragment => (fragment.render true).toList) =
      paint attributes fragments := by
  induction fragments generalizing attributes with
  | nil => rw [List.flatMap_nil, Terminal.cells, paint]
  | cons fragment fragments ih =>
    have others := ih fun content member => unescaped content (List.mem_cons_of_mem _ member)
    rw [List.flatMap_cons]
    cases fragment with
    | text content =>
      rw [Fragment.render, Terminal.cells_append (unescaped content List.mem_cons_self), others]
      rfl
    | style kind =>
      rw [Fragment.render, if_pos rfl, cells_styleCode, others]
      rfl
    | plain =>
      rw [Fragment.render, if_pos rfl, cells_plainCode, others]
      rfl

/-- Without the attributes, the characters are those of the output without colours. -/
theorem map_fst_paint (fragments : List Fragment) (attributes : List Nat) :
    (paint attributes fragments).map Prod.fst =
      fragments.flatMap fun fragment => (fragment.render false).toList := by
  induction fragments generalizing attributes with
  | nil => rfl
  | cons fragment fragments ih =>
    cases fragment with
    | text content => simp [paint, painted, ih, Fragment.render, Function.comp_def]
    | style kind => simp [paint, ih, Fragment.render]
    | plain => simp [paint, ih, Fragment.render]

/-! ## Items -/

theorem unescaped_of_text_mem_human {subject : String}
    {values? : Option (List (String × String))}
    (unescaped : (OutputItem.verdict subject values?).IsUnescaped) {content : String}
    (member : .text content ∈ human subject values?) : '\x1b' ∉ content.toList := by
  have subject' : '\x1b' ∉ subject.toList := unescaped subject List.mem_cons_self
  cases values? with
  | none =>
    simp only [human, Fragment.styled, List.cons_append, List.nil_append, List.mem_cons,
      Fragment.text.injEq, reduceCtorEq, List.not_mem_nil, false_or, or_false] at member
    rcases member with rfl | rfl <;> simp [subject']
  | some values =>
    have entries : ∀ entry ∈ sorted values,
        '\x1b' ∉ entry.1.toList ∧ '\x1b' ∉ entry.2.toList := by
      intro entry listed
      have given := Bindings.mem_of_mem_ofList listed
      have texts : ∀ text ∈ [entry.1, entry.2], '\x1b' ∉ text.toList := fun text member =>
        unescaped text (List.mem_cons_of_mem _ (List.mem_flatMap.mpr ⟨entry, given, member⟩))
      simpa using texts
    simp only [human, humanValue, Fragment.styled, List.cons_append, List.nil_append,
      List.mem_flatMap, List.mem_cons, Fragment.text.injEq, reduceCtorEq, List.not_mem_nil,
      false_or, or_false] at member
    rcases member with rfl | rfl | ⟨entry, listed, rfl | rfl⟩
    · decide
    · simp [subject']
    · simp [entries entry listed]
    · simp [entries entry listed]

/-- No text that is printed for an item has an escape character in it. -/
theorem unescaped_of_text_mem_fragments {format : Format} {item : OutputItem}
    (unescaped : item.IsUnescaped) {content : String}
    (member : .text content ∈ fragments format item) : '\x1b' ∉ content.toList := by
  cases item with
  | source text =>
    have text' : '\x1b' ∉ text.toList := unescaped text List.mem_cons_self
    obtain rfl := Fragment.text.inj (List.mem_singleton.mp member)
    simp [text']
  | verdict subject values? =>
    cases format with
    | human => exact unescaped_of_text_mem_human unescaped member
    | json =>
      obtain rfl := Fragment.text.inj (List.mem_singleton.mp member)
      rw [String.toList_ofList, json_eq, List.mem_append, not_or]
      refine ⟨fun escape => ?_, by decide⟩
      exact absurd (blank_le_of_mem_resultLine subject _ _ escape) (by decide)
    | quiet => cases member

/-- Names are dimmed, and no style is on behind a value. -/
theorem paint_humanValues (entries : List (String × String)) (others : List Fragment) :
    paint [] ((entries.flatMap fun (name, value) => humanValue name value) ++ others) =
      (entries.flatMap fun (name, value) =>
        painted [Style.dim.attribute] ("    " ++ name ++ " =") ++
          painted [] (" " ++ value ++ "\n")) ++ paint [] others := by
  induction entries with
  | nil => rfl
  | cons entry entries ih =>
    rw [List.flatMap_cons, List.append_assoc, List.flatMap_cons, List.append_assoc, ← ih]
    simp only [humanValue, Fragment.styled, List.cons_append, List.nil_append, paint,
      List.append_assoc]

/-- Every style is off behind an item. -/
theorem paint_fragments (format : Format) (item : OutputItem) (others : List Fragment) :
    paint [] (fragments format item ++ others) = shown format item ++ paint [] others := by
  cases item with
  | source text => rfl
  | verdict subject values? =>
    cases format with
    | human =>
      cases values? with
      | none =>
        simp only [fragments, human, Fragment.styled, shown, shownHuman, List.cons_append,
          List.nil_append, paint, List.append_assoc]
      | some values =>
        simp only [fragments, human, Fragment.styled, shown, shownHuman, List.cons_append,
          List.nil_append, paint, List.append_assoc, paint_humanValues]
    | json => rfl
    | quiet => rfl

theorem paint_flatMap_fragments (format : Format) (items : List OutputItem) :
    paint [] (items.flatMap (fragments format)) = items.flatMap (shown format) := by
  induction items with
  | nil => rfl
  | cons item items ih => rw [List.flatMap_cons, paint_fragments, ih, List.flatMap_cons]

/-- Only for people are there styles. -/
theorem render_eq_of_mem_fragments {format : Format} (other : format ≠ .human) {item : OutputItem}
    {fragment : Fragment} (member : fragment ∈ fragments format item) :
    fragment.render true = fragment.render false := by
  cases item with
  | source text =>
    obtain rfl := List.mem_singleton.mp member
    rfl
  | verdict subject values? =>
    cases format with
    | human => contradiction
    | json =>
      obtain rfl := List.mem_singleton.mp member
      rfl
    | quiet => cases member

/-! ## Outputs -/

/-- Without its codes, the output with colours is the output without them. A terminal shows all
subjects and values of it without any attribute, since every style is switched off before them. In
JSON, and where nothing is printed for results, there are no codes. -/
theorem print_color {items : List OutputItem} (unescaped : ∀ item ∈ items, item.IsUnescaped)
    (format : Format) :
    String.ofList (Terminal.withoutCodes (print format true items).toList) =
        print format false items ∧
      Terminal.cells [] (print format true items).toList = items.flatMap (shown format) ∧
      (format ≠ .human → print format true items = print format false items) := by
  have form : ∀ color, (print format color items).toList =
      (items.flatMap (fragments format)).flatMap fun fragment =>
        (fragment.render color).toList := by
    intro color
    rw [toList_print, List.flatMap_assoc]
  have texts : ∀ content, .text content ∈ items.flatMap (fragments format) →
      '\x1b' ∉ content.toList := by
    intro content member
    obtain ⟨item, listed, member⟩ := List.mem_flatMap.mp member
    exact unescaped_of_text_mem_fragments (unescaped item listed) member
  have shows := cells_render texts []
  rw [← form] at shows
  refine ⟨?_, ?_, fun other => ?_⟩
  · rw [Terminal.withoutCodes, shows, map_fst_paint, ← form, String.ofList_toList]
  · rw [shows, paint_flatMap_fragments]
  · rw [print, print]
    refine congrArg String.join (List.map_congr_left fun fragment member => ?_)
    obtain ⟨item, -, member⟩ := List.mem_flatMap.mp member
    exact render_eq_of_mem_fragments other member

theorem print_color_match :
    let items : List OutputItem :=
      [.source "a", .result "m[0m" (.matched (.ofList [("ab", "1")])), .result "x" .unmatched]
    (∀ item ∈ items, item.IsUnescaped) ∧
      print .human true items =
        "a\n\x1b[0m\x1b[32m✓\x1b[0m m[0m\n\x1b[0m\x1b[2m    ab =\x1b[0m 1\n" ++
          "\x1b[0m\x1b[31m✗\x1b[0m x\n" ∧
      String.ofList (Terminal.withoutCodes (print .human true items).toList) =
        "a\n✓ m[0m\n    ab = 1\n✗ x\n" ∧
      Terminal.cells [] (print .human true items).toList = items.flatMap (shown .human) := by
  intro items
  have unescaped : ∀ item ∈ items, item.IsUnescaped := by
    have texts : ∀ item ∈ items, ∀ text ∈ item.texts, '\x1b' ∉ text.toList := by decide
    exact texts
  obtain ⟨plain, shows, -⟩ := print_color unescaped .human
  refine ⟨unescaped, by decide +kernel, ?_, shows⟩
  rw [plain]
  decide +kernel

end Output

end TextTemplate.CommandLine

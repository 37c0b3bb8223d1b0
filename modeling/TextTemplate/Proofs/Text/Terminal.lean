import TextTemplate.Text.Parts

/-!
# Texts on a terminal

A terminal shows the characters of a text with attributes, such as a colour, which codes in the text
switch on. A code is an escape character and a bracket, then parameters, and a letter m. It is not
shown itself. The attributes stay on until a code switches them all off. -/

namespace TextTemplate.Text.Terminal

def isParameter (char : Char) : Bool := char.isDigit || char = ';'

/-- The parameters of the code at the start of a text, and what stands behind the code. -/
def code? : List Char → Option (List Char × List Char)
  | '\x1b' :: '[' :: text =>
    match text.dropWhile isParameter with
    | 'm' :: rest => some (text.takeWhile isParameter, rest)
    | _ => none
  | _ => none

/-- The attributes that are on behind a parameter: zero switches all of them off, and may be left
out, and another number switches one on. -/
def switch (attributes : List Nat) (parameter : List Char) : List Nat :=
  if decimal parameter = 0 then [] else attributes ++ [decimal parameter]

/-- The attributes that are on behind a code. -/
def behindCode (attributes : List Nat) (parameters : List Char) : List Nat :=
  (cut ';' parameters).foldl switch attributes

theorem length_lt_of_code? {text parameters rest : List Char}
    (code : code? text = some (parameters, rest)) : rest.length < text.length := by
  unfold code? at code
  split at code
  · next text =>
    split at code
    · next found =>
      cases code
      have shorter := (List.dropWhile_sublist (l := text) isParameter).length_le
      rw [found, List.length_cons] at shorter
      simp only [List.length_cons]
      omega
    · contradiction
  · contradiction

/-- The characters of a text that are shown, each with the attributes that are on, if some are on at
the start. -/
def cells (attributes : List Nat) : List Char → List (Char × List Nat)
  | [] => []
  | char :: text =>
    match _found : code? (char :: text) with
    | some (parameters, rest) => cells (behindCode attributes parameters) rest
    | none => (char, attributes) :: cells attributes text
termination_by text => text.length
decreasing_by
  · exact length_lt_of_code? _found
  · exact Nat.lt_succ_self _

def withoutCodes (text : List Char) : List Char := (cells [] text).map Prod.fst

variable {attributes : List Nat} {rest : List Char}

/-- The parameters of a code are taken into account. -/
theorem cells_code {parameters : List Char} (valid : parameters.all isParameter = true) :
    cells attributes ('\x1b' :: '[' :: (parameters ++ 'm' :: rest)) =
      cells (behindCode attributes parameters) rest := by
  have valid' : ∀ char ∈ parameters, isParameter char = true := by simpa using valid
  have code : code? ('\x1b' :: '[' :: (parameters ++ 'm' :: rest)) = some (parameters, rest) := by
    rw [code?, List.dropWhile_append_of_pos valid', List.takeWhile_append_of_pos valid']
    simp [isParameter]
  rw [cells]
  split
  · next found =>
    rw [code, Option.some_inj] at found
    cases found
    rfl
  · next missing =>
    rw [code] at missing
    contradiction

/-- A text without escape characters is shown as it stands. -/
theorem cells_append {text : List Char} (unescaped : '\x1b' ∉ text) :
    cells attributes (text ++ rest) =
      text.map (fun char => (char, attributes)) ++ cells attributes rest := by
  induction text with
  | nil => rfl
  | cons char text ih =>
    rw [List.mem_cons, not_or] at unescaped
    have uncoded : code? (char :: (text ++ rest)) = none := by
      unfold code?
      split
      · next same => exact absurd (List.cons.inj same).1.symm unescaped.1
      · rfl
    rw [List.cons_append, cells]
    split
    · next found =>
      rw [uncoded] at found
      contradiction
    · rw [ih unescaped.2]
      rfl

end TextTemplate.Text.Terminal

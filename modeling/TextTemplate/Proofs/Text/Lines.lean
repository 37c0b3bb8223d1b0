import TextTemplate.Text.Lines

/-!
# Cutting into lines

The lines of a text are found one after the other: a line feed ends a line, whatever follows it, so
that texts whose last line is ended can be cut one by one. A text is made of its lines and of what
ends them in one way only. It does not matter whether a text is cut before or after its signs are
encoded, as long as the marks are not in the encoding of other signs. -/

namespace TextTemplate.Text

section Cut

variable {Sign : Type} [DecidableEq Sign] {mark : Sign}

theorem cut_ne_nil (text : List Sign) : cut mark text ≠ [] := by
  unfold cut
  split
  · exact List.cons_ne_nil _ _
  · split
    · exact List.cons_ne_nil _ _
    · split <;> exact List.cons_ne_nil _ _

theorem cut_cons_of_ne {sign : Sign} (other : sign ≠ mark) {rest part : List Sign}
    {parts : List (List Sign)} (same : cut mark rest = part :: parts) :
    cut mark (sign :: rest) = (sign :: part) :: parts := by
  rw [cut, if_neg other, same]

/-- What has no mark in it belongs to the first part. -/
theorem cut_append_of_not_mem {leading : List Sign} (unmarked : mark ∉ leading)
    {rest part : List Sign} {parts : List (List Sign)} (same : cut mark rest = part :: parts) :
    cut mark (leading ++ rest) = (leading ++ part) :: parts := by
  induction leading with
  | nil => exact same
  | cons sign leading ih =>
    rw [List.mem_cons, not_or] at unmarked
    exact cut_cons_of_ne (Ne.symm unmarked.1) (ih unmarked.2)

theorem cut_of_not_mem {part : List Sign} (unmarked : mark ∉ part) : cut mark part = [part] := by
  have nothing : cut mark ([] : List Sign) = [[]] := rfl
  simpa using cut_append_of_not_mem unmarked nothing

/-- Both sides of a mark are cut on their own. -/
theorem cut_append (first rest : List Sign) :
    cut mark (first ++ mark :: rest) = cut mark first ++ cut mark rest := by
  induction first with
  | nil => exact if_pos rfl
  | cons sign first ih =>
    by_cases same : sign = mark
    · simp only [List.cons_append, cut, if_pos same, ih]
    · obtain ⟨part, parts, form⟩ : ∃ part parts, cut mark first = part :: parts :=
        List.exists_cons_of_ne_nil (cut_ne_nil first)
      rw [form, List.cons_append] at ih
      rw [List.cons_append, cut_cons_of_ne same ih, cut_cons_of_ne same form, List.cons_append]

/-- Texts that are each ended by a mark are the parts before the last one, which is empty. -/
theorem cut_ended {texts : List (List Sign)} (unmarked : ∀ text ∈ texts, mark ∉ text) :
    cut mark (texts.flatMap (· ++ [mark])) = texts ++ [[]] := by
  induction texts with
  | nil => rfl
  | cons text texts ih =>
    rw [List.forall_mem_cons] at unmarked
    rw [List.flatMap_cons, List.append_assoc, List.singleton_append, cut_append,
      cut_of_not_mem unmarked.1, ih unmarked.2]
    rfl

/-- Texts that are each ended by a mark can be told from all others. -/
theorem ended_injective {texts others : List (List Sign)} (unmarked : ∀ text ∈ texts, mark ∉ text)
    (unmarked' : ∀ text ∈ others, mark ∉ text)
    (same : texts.flatMap (· ++ [mark]) = others.flatMap (· ++ [mark])) : texts = others := by
  have parts := congrArg (cut mark) same
  rw [cut_ended unmarked, cut_ended unmarked'] at parts
  exact List.append_cancel_right parts

end Cut

namespace Lines

section Split

variable {Sign : Type} [DecidableEq Sign] {feed ret : Sign}

theorem withoutReturn_of_ne {line : List Sign} (bare : line.getLast? ≠ some ret) :
    withoutReturn ret line = line := if_neg bare

/-- All parts are ended lines that have others behind them. -/
theorem ofParts_append (parts : List (List Sign)) {others : List (List Sign)}
    (more : others ≠ []) :
    ofParts ret (parts ++ others) = parts.map (withoutReturn ret) ++ ofParts ret others := by
  induction parts with
  | nil => rfl
  | cons line parts ih =>
    have behind : parts ++ others ≠ [] := List.append_ne_nil_of_right_ne_nil parts more
    rw [List.cons_append, ofParts_cons behind, ih]
    rfl

/-- What has no line feed is one line as it stands. -/
theorem split_of_not_mem {last : List Sign} (unmarked : feed ∉ last) (filled : last ≠ []) :
    split feed ret last = [last] := by
  rw [split, cut_of_not_mem unmarked, ofParts, if_neg (by simpa using filled)]

/-- A line feed ends all lines before it, and the lines after it are those of the rest. -/
theorem split_append_feed (first rest : List Sign) :
    split feed ret (first ++ feed :: rest) =
      (cut feed first).map (withoutReturn ret) ++ split feed ret rest := by
  rw [split, cut_append, ofParts_append _ (cut_ne_nil rest)]
  rfl

/-- Behind a text that is empty or ends with a line feed, other lines begin. -/
theorem split_append {first : List Sign} (ended : first = [] ∨ first.getLast? = some feed)
    (rest : List Sign) :
    split feed ret (first ++ rest) = split feed ret first ++ split feed ret rest := by
  rcases ended with rfl | ended
  · rfl
  · obtain ⟨before, rfl⟩ := List.getLast?_eq_some_iff.mp ended
    rw [List.append_assoc, List.singleton_append, split_append_feed, split_append_feed]
    simp [split, cut, ofParts]

theorem split_eq_nil_iff {text : List Sign} : split feed ret text = [] ↔ text = [] := by
  by_cases marked : feed ∈ text
  · obtain ⟨first, rest, rfl⟩ := List.append_of_mem marked
    simp [split_append_feed, cut_ne_nil]
  · by_cases filled : text = []
    · simp [filled, split, cut, ofParts]
    · simp [split_of_not_mem marked filled, filled]

/-- A text is made of lines. Each of them is ended by a line feed or by exactly one carriage return
and a line feed, but the last one, if it is not empty, may come without an end, and is kept as it
stands. -/
inductive IsMadeOf (feed ret : Sign) : List Sign → List (List Sign) → Prop
  | nil : IsMadeOf feed ret [] []
  | last {line : List Sign} (unmarked : feed ∉ line) (filled : line ≠ []) :
      IsMadeOf feed ret line [line]
  | feed {line rest : List Sign} {lines : List (List Sign)} (unmarked : feed ∉ line)
      (bare : line.getLast? ≠ some ret) (others : IsMadeOf feed ret rest lines) :
      IsMadeOf feed ret (line ++ feed :: rest) (line :: lines)
  | returnFeed {line rest : List Sign} {lines : List (List Sign)} (unmarked : feed ∉ line)
      (others : IsMadeOf feed ret rest lines) :
      IsMadeOf feed ret (line ++ ret :: feed :: rest) (line :: lines)

/-- The first line feed ends the first line. -/
theorem split_cons_of_not_mem {line : List Sign} (unmarked : feed ∉ line) (rest : List Sign) :
    split feed ret (line ++ feed :: rest) = withoutReturn ret line :: split feed ret rest := by
  rw [split_append_feed, cut_of_not_mem unmarked]
  rfl

theorem withoutReturn_append (line : List Sign) : withoutReturn ret (line ++ [ret]) = line := by
  simp [withoutReturn]

theorem isMadeOf_split (text : List Sign) : IsMadeOf feed ret text (split feed ret text) := by
  induction length : text.length using Nat.strongRecOn generalizing text with
  | ind length' ih =>
    by_cases marked : feed ∈ text
    · obtain ⟨line, rest, rfl, unmarked⟩ := List.eq_append_cons_of_mem marked
      have shorter : rest.length < length' := by
        rw [← length, List.length_append, List.length_cons]
        omega
      have others := ih rest.length shorter rest rfl
      rw [split_cons_of_not_mem unmarked]
      by_cases last : line.getLast? = some ret
      · obtain ⟨before, rfl⟩ := List.getLast?_eq_some_iff.mp last
        rw [withoutReturn_append, List.append_assoc, List.singleton_append]
        exact .returnFeed (fun member => unmarked (List.mem_append_left _ member)) others
      · rw [withoutReturn_of_ne last]
        exact .feed unmarked last others
    · by_cases filled : text = []
      · subst filled
        exact .nil
      · rw [split_of_not_mem marked filled]
        exact .last marked filled

/-- The lines that a text is made of are found. -/
theorem IsMadeOf.split_eq (apart : feed ≠ ret) {text : List Sign} {lines : List (List Sign)}
    (made : IsMadeOf feed ret text lines) : split feed ret text = lines := by
  induction made with
  | nil => rfl
  | last unmarked filled => exact split_of_not_mem unmarked filled
  | feed unmarked bare _ ih =>
    rw [split_cons_of_not_mem unmarked, withoutReturn_of_ne bare, ih]
  | @returnFeed line rest lines unmarked _ ih =>
    have unmarked' : feed ∉ line ++ [ret] := by simp [unmarked, apart]
    have found : split feed ret (line ++ [ret] ++ feed :: rest) =
        withoutReturn ret (line ++ [ret]) :: split feed ret rest :=
      split_cons_of_not_mem unmarked' rest
    rwa [List.append_assoc, List.singleton_append, withoutReturn_append, ih] at found

omit [DecidableEq Sign] in
/-- No line has a line feed in it. -/
theorem IsMadeOf.not_mem {text : List Sign} {lines : List (List Sign)}
    (made : IsMadeOf feed ret text lines) : ∀ line ∈ lines, feed ∉ line := by
  induction made with
  | nil => exact fun _ member => absurd member List.not_mem_nil
  | last unmarked _ => exact List.forall_mem_singleton.mpr unmarked
  | feed unmarked _ _ ih => exact List.forall_mem_cons.mpr ⟨unmarked, ih⟩
  | returnFeed unmarked _ ih => exact List.forall_mem_cons.mpr ⟨unmarked, ih⟩

end Split

end Lines

/-! ## Encoded texts -/

section Encoded

variable {Sign Code : Type} [DecidableEq Sign] [DecidableEq Code] {encode : Sign → List Code}

/-- A sign is encoded by a code that is in the encoding of no other sign. -/
structure IsCodeOf (encode : Sign → List Code) (sign : Sign) (code : Code) : Prop where
  encode_eq : encode sign = [code]
  eq_of_mem : ∀ other, code ∈ encode other → other = sign

variable {mark feed ret : Sign} {markCode feedCode retCode : Code}

/-- The parts of an encoded text are the encoded parts of the text. -/
theorem cut_flatMap (isMark : IsCodeOf encode mark markCode) (text : List Sign) :
    cut markCode (text.flatMap encode) = (cut mark text).map (·.flatMap encode) := by
  induction text with
  | nil => rfl
  | cons sign text ih =>
    by_cases same : sign = mark
    · simp [cut, same, isMark.encode_eq, ih]
    · obtain ⟨part, parts, form⟩ : ∃ part parts, cut mark text = part :: parts :=
        List.exists_cons_of_ne_nil (cut_ne_nil text)
      have unmarked : markCode ∉ encode sign := fun member => same (isMark.eq_of_mem sign member)
      rw [form, List.map_cons] at ih
      rw [List.flatMap_cons, cut_append_of_not_mem unmarked ih, cut_cons_of_ne same form]
      rfl

namespace Lines

theorem withoutReturn_flatMap (isReturn : IsCodeOf encode ret retCode)
    (filled : ∀ sign, encode sign ≠ []) (line : List Sign) :
    withoutReturn retCode (line.flatMap encode) = (withoutReturn ret line).flatMap encode := by
  cases last : line.getLast? with
  | none => rw [List.getLast?_eq_none_iff.mp last]; rfl
  | some sign =>
    obtain ⟨before, rfl⟩ := List.getLast?_eq_some_iff.mp last
    by_cases same : sign = ret
    · simp [withoutReturn, same, isReturn.encode_eq]
    · have other : (encode sign).getLast? ≠ some retCode := by
        intro last
        exact same (isReturn.eq_of_mem sign (List.mem_of_getLast? last))
      have bare : ((before ++ [sign]).flatMap encode).getLast? ≠ some retCode := by
        rw [List.flatMap_append, List.flatMap_singleton, List.getLast?_append,
          Option.or_of_isSome (by simp [filled])]
        exact other
      rw [withoutReturn_of_ne bare, withoutReturn_of_ne (by simpa using same)]

/-- The lines of an encoded text are the encoded lines of the text. -/
theorem split_flatMap (isFeed : IsCodeOf encode feed feedCode)
    (isReturn : IsCodeOf encode ret retCode) (filled : ∀ sign, encode sign ≠ [])
    (text : List Sign) :
    split feedCode retCode (text.flatMap encode) =
      (split feed ret text).map (·.flatMap encode) := by
  rw [split, split, cut_flatMap isFeed]
  induction cut feed text with
  | nil => rfl
  | cons line parts ih =>
    by_cases more : parts = []
    · cases line <;> simp [more, ofParts, filled]
    · have more' : parts.map (·.flatMap encode) ≠ [] := by simpa using more
      rw [List.map_cons, ofParts_cons more', ofParts_cons more, ih, List.map_cons,
        withoutReturn_flatMap isReturn filled]

end Lines

end Encoded

end TextTemplate.Text

import TextTemplate.Expr.Compile
import TextTemplate.Proofs.Reading.Run
import TextTemplate.Proofs.Template.Names
import TextTemplate.Template.Source

/-!
# Reading the expression of a template

The text that a template spells is read as one expression for each of its tokens, between the start
and the end of the text. No piece runs into its neighbour: a literal sign is escaped whenever it
would have a meaning, and nothing behind a piece can be taken for a repetition of it. -/

namespace TextTemplate

/-- The flags in force behind the start of a template's expression. -/
def Flags.ofTemplate : Flags := { dotAll := true }

/-- The characters that a plus in a template stands for. -/
def CharSet.plus : CharSet :=
  .ofList [.range '0' '9', .range 'A' 'Z', .range 'a' 'z', .single '_']

namespace Token

/-- The expressions that a token spells, one after the other. -/
def exprs (hasDefault : String → Bool) : Token → List Expr
  | literal text => text.toList.map fun char => .set (.single char)
  | placeholder name =>
    let captured : Expr := .group (.named name) (.rep 0 none true (.set .all))
    [if hasDefault name then .rep 0 (some 1) false captured else captured]
  | wildcard => [.rep 1 none true (.set .all)]
  | word => [.rep 1 none true (.set .plus)]

end Token

/-- The expressions that a template spells, one after the other. -/
def templateExprs (hasDefault : String → Bool) (tokens : List Token) : List Expr :=
  .look .textStart :: tokens.flatMap (Token.exprs hasDefault) ++ [.look .textEnd]

namespace Reading

/-- The reading is outside of all groups and brackets of a template's expression, and it has read
some expressions and names of groups there. -/
structure HasRead (exprs : List Expr) (names : List String) (reading : Reading) : Prop where
  flags : reading.flags = .ofTemplate
  branches : reading.level.branches = []
  /-- The parts on the level are the expressions, behind the part that sets the flags. -/
  items : reading.level.items.map (·.expr) = exprs.reverse.map some ++ [none]
  shallow : ∀ item ∈ reading.level.items, item.spine.length ≤ 3
  groups : reading.groups = []
  brackets : reading.brackets = []
  names : reading.names.map Prod.fst = names.reverse
  late : reading.late = none

variable {exprs : List Expr} {names : List String} {reading : Reading}

theorem HasRead.add (read : reading.HasRead exprs names) (expr : Expr) (start : Nat)
    (spine : Spine) (shallow : spine.length ≤ 3) :
    (reading.add ⟨some expr, start, spine⟩ none).HasRead (exprs ++ [expr]) names := by
  obtain ⟨flags, branches, items, few, groups, brackets, named, late⟩ := read
  refine ⟨flags, branches, ?_, ?_, groups, brackets, named, ?_⟩
  · simp [Reading.add, Level.add, items]
  · simp only [Reading.add, Level.add, List.mem_cons]
    rintro item (rfl | member)
    · exact shallow
    · exact few item member
  · simp [Reading.add, late]

theorem HasRead.eq_mk (read : reading.HasRead exprs names) :
    reading = ⟨.ofTemplate, reading.level, [], [], reading.names, none⟩ := by
  obtain ⟨flags, _, _, _, groups, brackets, _, late⟩ := read
  obtain ⟨_, _, _, _, _, _⟩ := reading
  simp_all

/-! ## Signs of a template's expression -/

section Signs

variable {level : Level} {groups : List OpenGroup} {names : List (String × Span)} {offset : Nat}
  {rest : List Char}

private theorem step_metaChar {char : Char} (escaped : char ∈ metaChars) :
    step ⟨offset, '\\' :: char :: rest⟩ ⟨.ofTemplate, level, groups, [], names, none⟩ =
      .ok (⟨.ofTemplate, level.add ⟨some (.set (.single char)), offset, []⟩, groups, [], names, none⟩,
        ⟨offset + 2, rest⟩) := by
  simp only [metaChars, List.mem_cons, List.not_mem_nil, or_false] at escaped
  rcases escaped with rfl | rfl | rfl | rfl | rfl | rfl | rfl | rfl | rfl | rfl | rfl | rfl | rfl |
    rfl | rfl | rfl | rfl | rfl <;> rfl

private theorem read_literal {char : Char} (plain : char ∉ metaChars) :
    Atom.read false ⟨offset, char :: rest⟩ =
      .ok (⟨.char char false, ⟨offset, offset + 1⟩⟩, ⟨offset + 1, rest⟩) := by
  have sign : Atom.ofChar char = .char char false := by
    unfold Atom.ofChar
    split <;> simp_all [metaChars]
  unfold Atom.read
  split
  · contradiction
  · simp_all [Cursor.peek?, metaChars]
  · next found =>
    cases found
    rw [sign]
    rfl

private theorem step_literal {char : Char} (plain : char ∉ metaChars) :
    step ⟨offset, char :: rest⟩ ⟨.ofTemplate, level, groups, [], names, none⟩ =
      .ok (⟨.ofTemplate, level.add ⟨some (.set (.single char)), offset, []⟩, groups, [], names, none⟩,
        ⟨offset + 1, rest⟩) := by
  have sign : readSign ⟨offset, char :: rest⟩ ⟨.ofTemplate, level, groups, [], names, none⟩ =
      readAtom ⟨offset, char :: rest⟩ ⟨.ofTemplate, level, groups, [], names, none⟩ := by
    unfold readSign
    split <;> simp_all [metaChars]
  calc step ⟨offset, char :: rest⟩ ⟨.ofTemplate, level, groups, [], names, none⟩
      = readSign ⟨offset, char :: rest⟩ ⟨.ofTemplate, level, groups, [], names, none⟩ := rfl
    _ = readAtom ⟨offset, char :: rest⟩ ⟨.ofTemplate, level, groups, [], names, none⟩ := sign
    _ = _ := by
      simp only [readAtom, Flags.ofTemplate, read_literal plain]
      rfl

private theorem takes_wildcard :
    Takes ⟨.ofTemplate, level, groups, [], names, none⟩
      ⟨.ofTemplate, level.add ⟨some (.rep 1 none true (.set .all)), offset,
        [⟨offset, offset + 3⟩]⟩, groups, [], names, none⟩ offset ".+?".toList := by
  intro rest _
  refine (runFrom_append ['.'] ('+' :: '?' :: rest) offset (by simp) rfl).trans ?_
  exact runFrom_append ['+', '?'] rest (offset + 1) (by simp) rfl

private theorem takes_word :
    Takes ⟨.ofTemplate, level, groups, [], names, none⟩
      ⟨.ofTemplate, level.add ⟨some (.rep 1 none true (.set .plus)), offset,
        [⟨offset, offset + 14⟩, ⟨offset, offset + 12⟩, ⟨offset + 1, offset + 11⟩]⟩,
        groups, [], names, none⟩ offset "[0-9A-Za-z_]+?".toList := by
  intro rest _
  refine (runFrom_append ['['] _ offset (by simp) rfl).trans ?_
  refine (runFrom_append ['0', '-', '9'] _ (offset + 1) (by simp) rfl).trans ?_
  refine (runFrom_append ['A', '-', 'Z'] _ (offset + 4) (by simp) rfl).trans ?_
  refine (runFrom_append ['a', '-', 'z'] _ (offset + 7) (by simp) rfl).trans ?_
  refine (runFrom_append ['_'] _ (offset + 10) (by simp) rfl).trans ?_
  refine (runFrom_append [']'] _ (offset + 11) (by simp) rfl).trans ?_
  exact runFrom_append ['+', '?'] rest (offset + 12) (by simp) rfl

/-! ## Names of groups -/

private theorem isAscii_of_isAlphanum {char : Char} (alphanum : char.isAlphanum = true) :
    Unicode.isAscii char = true := by
  delta Char.isAlphanum Char.isAlpha Char.isUpper Char.isLower Char.isDigit at alphanum
  simp only [Bool.or_eq_true, Bool.and_eq_true, decide_eq_true_eq, ge_iff_le,
    UInt32.le_iff_toNat_le] at alphanum
  simp only [Unicode.isAscii, Char.toNat, decide_eq_true_eq]
  rcases alphanum with (⟨_, upper⟩ | ⟨_, lower⟩) | ⟨_, digit⟩
  · exact Nat.lt_of_le_of_lt upper (by decide)
  · exact Nat.lt_of_le_of_lt lower (by decide)
  · exact Nat.lt_of_le_of_lt digit (by decide)

/-- What the name of a placeholder holds, the name of a group holds. -/
theorem isNameChar_of_template {char : Char} (proper : Token.isNameChar char = true) :
    Opening.isNameChar char = true := by
  simp only [Token.isNameChar, Bool.or_eq_true, decide_eq_true_eq] at proper
  rcases proper with alphanum | rfl
  · simp [Opening.isNameChar, Unicode.isAlphanumeric, isAscii_of_isAlphanum alphanum, alphanum]
  · rfl

/-- The name of a group starts with whatever the name of a placeholder starts with. -/
theorem isNameStart_of_template {char : Char} (proper : Token.isNameStart char = true) :
    Opening.isNameStart char = true := by
  simp only [Token.isNameStart, Bool.or_eq_true, decide_eq_true_eq] at proper
  rcases proper with alpha | rfl
  · have ascii : Unicode.isAscii char = true :=
      isAscii_of_isAlphanum (Bool.or_eq_true_iff.mpr (.inl alpha))
    simp [Opening.isNameStart, Unicode.isAlphabetic, ascii, alpha]
  · rfl

private theorem readName_name {name : List Char} (proper : Token.IsName name) :
    Opening.readName ⟨offset, name ++ '>' :: rest⟩ =
      .ok (.capture (some (String.ofList name, ⟨offset, offset + name.length⟩)),
        ⟨offset + name.length + 1, rest⟩) := by
  obtain ⟨first, second, more, rfl, start, chars⟩ := proper
  have begins := isNameStart_of_template start
  unfold Opening.readName
  rw [Cursor.takeWhile_append (fun char member => isNameChar_of_template (chars char member))
    (by rfl)]
  simp [Cursor.peek?, begins, Cursor.since, Cursor.next, Cursor.drop, Cursor.dropFrom, pure,
    Except.pure]

private theorem step_opening {name : List Char} (proper : Token.IsName name)
    (absent : names.lookup (String.ofList name) = none) :
    step ⟨offset, "(?P<".toList ++ (name ++ '>' :: rest)⟩
        ⟨.ofTemplate, level, groups, [], names, none⟩ =
      .ok (⟨.ofTemplate, .starting (offset + 4 + name.length + 1),
          ⟨⟨offset, offset + 1⟩, .named (String.ofList name), .ofTemplate, level⟩ :: groups, [],
          (String.ofList name, ⟨offset + 4, offset + 4 + name.length⟩) :: names, none⟩,
        ⟨offset + 4 + name.length + 1, rest⟩) := by
  have opening : Opening.read false ⟨offset, "(?P<".toList ++ (name ++ '>' :: rest)⟩ =
      .ok (.capture (some (String.ofList name, ⟨offset + 4, offset + 4 + name.length⟩)),
        ⟨offset + 4 + name.length + 1, rest⟩) := readName_name proper
  change readOpening ⟨offset, "(?P<".toList ++ (name ++ '>' :: rest)⟩ _ = _
  simp only [readOpening, Flags.ofTemplate, opening, bind, Except.bind, absent]
  rfl

private theorem runFrom_opening {name : List Char} (proper : Token.IsName name)
    (absent : names.lookup (String.ofList name) = none) :
    runFrom ⟨.ofTemplate, level, groups, [], names, none⟩
        ⟨offset, "(?P<".toList ++ (name ++ '>' :: rest)⟩ =
      runFrom ⟨.ofTemplate, .starting (offset + 4 + name.length + 1),
          ⟨⟨offset, offset + 1⟩, .named (String.ofList name), .ofTemplate, level⟩ :: groups, [],
          (String.ofList name, ⟨offset + 4, offset + 4 + name.length⟩) :: names, none⟩
        ⟨offset + 4 + name.length + 1, rest⟩ := by
  apply runFrom_of_step _ _ (step_opening proper absent)
  · refine ⟨"(?P<".toList ++ (name ++ ['>']), by simp, ?_⟩
    simp only [List.length_append, List.length_singleton]
    change _ = offset + (4 + _)
    omega
  · simp
    omega

private theorem runFrom_placeholder {name : List Char} (proper : Token.IsName name)
    (absent : names.lookup (String.ofList name) = none) :
    runFrom ⟨.ofTemplate, level, groups, [], names, none⟩
        ⟨offset, "(?P<".toList ++ (name ++ (">.*?)".toList ++ rest))⟩ =
      runFrom ⟨.ofTemplate, level.add
          ⟨some (.group (.named (String.ofList name)) (.rep 0 none true (.set .all))), offset,
            [⟨offset, offset + 4 + name.length + 1 + 4⟩,
              ⟨offset + 4 + name.length + 1, offset + 4 + name.length + 1 + 3⟩]⟩,
          groups, [],
          (String.ofList name, ⟨offset + 4, offset + 4 + name.length⟩) :: names, none⟩
        ⟨offset + 4 + name.length + 1 + 4, rest⟩ := by
  refine (runFrom_opening proper absent).trans ?_
  generalize offset + 4 + name.length + 1 = inside
  refine (runFrom_append ['.'] _ inside (by simp) rfl).trans ?_
  refine (runFrom_append ['*', '?'] _ (inside + 1) (by simp) rfl).trans ?_
  exact runFrom_append [')'] rest (inside + 3) (by simp) rfl

private theorem runFrom_optional {expr : Expr} {start : Nat} {spine : Spine}
    (apart : rest.head? ≠ some '?') :
    runFrom ⟨.ofTemplate, level.add ⟨some expr, start, spine⟩, groups, [], names, none⟩
        ⟨offset, '?' :: rest⟩ =
      runFrom ⟨.ofTemplate, level.add ⟨some (.rep 0 (some 1) false expr), start,
        ⟨start, offset + 1⟩ :: spine⟩, groups, [], names, none⟩ ⟨offset + 1, rest⟩ := by
  have greedy : Count.readLazy ⟨offset + 1, rest⟩ = (false, ⟨offset + 1, rest⟩) := if_neg apart
  have read : Count.read false ⟨offset, '?' :: rest⟩ =
      .ok (⟨0, some 1⟩, false, ⟨offset + 1, rest⟩) := by
    rw [← greedy]
    rfl
  apply runFrom_append ['?'] rest offset (by simp)
  change readRepetition ⟨offset, '?' :: rest⟩
    ⟨.ofTemplate, level.add ⟨some expr, start, spine⟩, groups, [], names, none⟩ = _
  simp only [readRepetition, Level.add, Flags.ofTemplate, read]
  rfl

end Signs

/-! ## Tokens -/

variable {exprs : List Expr} {names : List String} {reading : Reading} {offset : Nat}
  {rest : List Char}

/-- Escaped text does not start with a question mark, which would be taken for a repetition. -/
theorem head?_escapeText_ne (text : List Char) : (escapeText text).head? ≠ some '?' := by
  cases text with
  | nil => simp [escapeText]
  | cons char chars =>
    by_cases escaped : char ∈ metaChars
    · simp [escapeText, escaped]
    · have different : char ≠ '?' := by
        rintro rfl
        exact escaped (by decide)
      simp [escapeText, escaped, different]

theorem HasRead.text (read : reading.HasRead exprs names) (text : List Char) (offset : Nat) :
    ∃ next : Reading, reading.Takes next offset (escapeText text) ∧
      next.HasRead (exprs ++ text.map fun char => .set (.single char)) names := by
  induction text generalizing exprs reading offset with
  | nil => exact ⟨reading, Takes.nil reading offset, by simpa using read⟩
  | cons char text ih =>
    have added := read.add (.set (.single char)) offset [] (Nat.zero_le 3)
    obtain ⟨next, takes, holds⟩ := ih added (offset + (escapeText [char]).length)
    refine ⟨next, ?_, by simpa using holds⟩
    have split : escapeText (char :: text) = escapeText [char] ++ escapeText text := by
      simp [escapeText]
    rw [split]
    refine Takes.append ?_ (head?_escapeText_ne text) takes
    rw [read.eq_mk]
    by_cases escaped : char ∈ metaChars
    · have spelled : escapeText [char] = ['\\', char] := by simp [escapeText, escaped]
      rw [spelled]
      exact takes_of_step (by simp) fun rest _ => step_metaChar escaped
    · have spelled : escapeText [char] = [char] := by simp [escapeText, escaped]
      rw [spelled]
      exact takes_of_step (by simp) fun rest _ => step_literal escaped

theorem HasRead.named (read : reading.HasRead exprs names) (name : String) (span : Span) :
    ({ reading with names := (name, span) :: reading.names } : Reading).HasRead exprs
      (names ++ [name]) := by
  obtain ⟨flags, branches, items, few, groups, brackets, named, late⟩ := read
  exact ⟨flags, branches, items, few, groups, brackets, by simp [named], late⟩

theorem HasRead.lookup_eq_none (read : reading.HasRead exprs names) {name : String}
    (fresh : name ∉ names) : reading.names.lookup name = none := by
  rw [List.lookup_eq_none_iff]
  intro entry member
  have known : entry.1 ∈ reading.names.map Prod.fst := List.mem_map_of_mem member
  rw [read.names, List.mem_reverse] at known
  have different : name ≠ entry.1 := fun same => fresh (same ▸ known)
  simpa using different

private theorem source_placeholder (name : String) (hasDefault : String → Bool) (rest : List Char) :
    (Token.placeholder name).source hasDefault ++ rest =
      "(?P<".toList ++ (name.toList ++ (">.*?)".toList ++
        ((if hasDefault name then ['?'] else []) ++ rest))) := by
  change ("(?P<".toList ++ name.toList ++ ">.*?)".toList ++ (if hasDefault name then ['?'] else []))
    ++ rest = _
  simp only [List.append_assoc]

theorem HasRead.placeholder (read : reading.HasRead exprs names) {name : String}
    (proper : Token.IsName name.toList) (fresh : name ∉ names) (offset : Nat)
    (hasDefault : String → Bool) :
    ∃ next : Reading, reading.Takes next offset ((Token.placeholder name).source hasDefault) ∧
      next.HasRead (exprs ++ (Token.placeholder name).exprs hasDefault) (names ++ [name]) := by
  have absent : reading.names.lookup (String.ofList name.toList) = none := by
    rw [String.ofList_toList]
    exact read.lookup_eq_none fresh
  have called := read.named name ⟨offset + 4, offset + 4 + name.toList.length⟩
  have length : ((Token.placeholder name).source hasDefault).length =
      4 + name.toList.length + 1 + 4 + if hasDefault name then 1 else 0 := by
    rw [← List.append_nil ((Token.placeholder name).source hasDefault), source_placeholder]
    split <;> simp <;> omega
  by_cases optional : hasDefault name = true
  · have added := called.add
      (.rep 0 (some 1) false (.group (.named name) (.rep 0 none true (.set .all)))) offset
      [⟨offset, offset + 4 + name.toList.length + 1 + 4 + 1⟩,
        ⟨offset, offset + 4 + name.toList.length + 1 + 4⟩,
        ⟨offset + 4 + name.toList.length + 1, offset + 4 + name.toList.length + 1 + 3⟩]
      (Nat.le_refl 3)
    refine ⟨_, fun rest apart => ?_, by rw [Token.exprs, if_pos optional]; exact added⟩
    rw [length, source_placeholder, read.eq_mk, runFrom_placeholder proper absent,
      String.ofList_toList, if_pos optional, if_pos optional, List.singleton_append,
      runFrom_optional apart]
    congr 2
    omega
  · have added := called.add (.group (.named name) (.rep 0 none true (.set .all))) offset
      [⟨offset, offset + 4 + name.toList.length + 1 + 4⟩,
        ⟨offset + 4 + name.toList.length + 1, offset + 4 + name.toList.length + 1 + 3⟩]
      (Nat.le_succ 2)
    refine ⟨_, fun rest _ => ?_, by rw [Token.exprs, if_neg optional]; exact added⟩
    rw [length, source_placeholder, read.eq_mk, runFrom_placeholder proper absent,
      String.ofList_toList, if_neg optional, if_neg optional, List.nil_append]
    congr 2
    omega

/-- A token is read as the expressions that it spells. -/
theorem HasRead.token {token : Token} (read : reading.HasRead exprs names) (proper : token.IsNamed)
    (fresh : ∀ name ∈ token.name?, name ∉ names) (offset : Nat) (hasDefault : String → Bool) :
    ∃ next : Reading, reading.Takes next offset (token.source hasDefault) ∧
      next.HasRead (exprs ++ token.exprs hasDefault) (names ++ token.name?.toList) := by
  cases token with
  | literal text =>
    obtain ⟨next, takes, holds⟩ := read.text text.toList offset
    exact ⟨next, takes, by simpa [Token.exprs, Token.name?] using holds⟩
  | placeholder name => exact read.placeholder (proper name rfl) (fresh name rfl) offset _
  | wildcard =>
    have added := read.add (.rep 1 none true (.set .all)) offset [⟨offset, offset + 3⟩] (by simp)
    refine ⟨_, ?_, by simpa [Token.exprs, Token.name?] using added⟩
    rw [read.eq_mk]
    exact takes_wildcard
  | word =>
    have added := read.add (.rep 1 none true (.set .plus)) offset
      [⟨offset, offset + 14⟩, ⟨offset, offset + 12⟩, ⟨offset + 1, offset + 11⟩] (by simp)
    refine ⟨_, ?_, by simpa [Token.exprs, Token.name?] using added⟩
    rw [read.eq_mk]
    exact takes_word

/-- No token's text starts with a question mark, which would be taken for a repetition. -/
theorem head?_sources_ne (hasDefault : String → Bool) (tokens : List Token) :
    (tokens.flatMap (Token.source hasDefault)).head? ≠ some '?' := by
  induction tokens with
  | nil => simp
  | cons token tokens ih =>
    rw [List.flatMap_cons]
    cases token with
    | literal text =>
      change (escapeText text.toList ++ _).head? ≠ _
      have apart := head?_escapeText_ne text.toList
      cases escaped : escapeText text.toList with
      | nil => exact ih
      | cons char chars => rwa [escaped] at apart
    | placeholder name =>
      change some '(' ≠ some '?'
      decide
    | wildcard =>
      change some '.' ≠ some '?'
      decide
    | word =>
      change some '[' ≠ some '?'
      decide

/-- The tokens of a template are read one after the other. -/
theorem HasRead.tokens {tokens : List Token} (read : reading.HasRead exprs names)
    (proper : ∀ token ∈ tokens, token.IsNamed)
    (distinct : (names ++ placeholderNames tokens).Nodup) (offset : Nat)
    (hasDefault : String → Bool) :
    ∃ next : Reading, reading.Takes next offset (tokens.flatMap (Token.source hasDefault)) ∧
      next.HasRead (exprs ++ tokens.flatMap (Token.exprs hasDefault))
        (names ++ placeholderNames tokens) := by
  induction tokens generalizing exprs names reading offset with
  | nil => exact ⟨reading, Takes.nil reading offset, by simpa [placeholderNames] using read⟩
  | cons token tokens ih =>
    have split : placeholderNames (token :: tokens) =
        token.name?.toList ++ placeholderNames tokens := by
      cases found : token.name? <;> simp [placeholderNames, found]
    rw [split, ← List.append_assoc] at distinct ⊢
    have fresh : ∀ name ∈ token.name?, name ∉ names := by
      intro name found member
      have apart := (List.nodup_append.mp (List.nodup_append.mp distinct).1).2.2
      exact apart name member name (Option.mem_toList.mpr found) rfl
    obtain ⟨middle, takes, passed⟩ := read.token (proper token (List.mem_cons_self ..)) fresh
      offset hasDefault
    obtain ⟨next, later, holds⟩ := ih passed
      (fun other member => proper other (List.mem_cons_of_mem _ member)) distinct
      (offset + (token.source hasDefault).length)
    exact ⟨next, takes.append (head?_sources_ne hasDefault tokens) later, by simpa using holds⟩

/-! ## The whole expression -/

theorem length_mergeAll_le {parts : List Spine} {limit : Nat}
    (short : ∀ part ∈ parts, part.length ≤ limit) : (Spine.mergeAll parts).length ≤ limit := by
  have general : ∀ merged : Spine, merged.length ≤ limit →
      (parts.foldl (fun merged part => Spine.merge part merged) merged).length ≤ limit := by
    induction parts with
    | nil => exact fun _ bound => bound
    | cons part parts ih =>
      intro merged bound
      apply ih (fun other member => short other (List.mem_cons_of_mem _ member))
      have first := short part (List.mem_cons_self ..)
      simp only [Spine.merge, List.length_append, List.length_drop]
      omega
  exact general [] (Nat.zero_le _)

/-- What has been read is the whole expression. -/
theorem HasRead.finish (read : reading.HasRead exprs names) (several : 2 ≤ exprs.length)
    (stop : Nat) : reading.finish stop = .ok (.sequence exprs.reverse) := by
  obtain ⟨flags, branches, items, few, groups, brackets, named, late⟩ := read
  obtain ⟨_, ⟨start, _, branchStart, parts⟩, _, _, names, _⟩ := reading
  dsimp only at flags branches items few groups brackets named late
  subst flags branches groups brackets late
  have found : parts.filterMap (·.expr) = exprs.reverse := by
    simpa [List.filterMap_map] using congrArg (List.filterMap id) items
  have long : parts.length = exprs.length + 1 := by simpa using congrArg List.length items
  have branch : Level.branch stop ⟨start, [], branchStart, parts⟩ =
      ⟨.sequence exprs.reverse, ⟨branchStart, stop⟩ :: Spine.mergeAll (parts.map (·.spine))⟩ := by
    unfold Level.branch
    split
    · simp_all
    · simp_all
    · rw [found]
  have levels : (Spine.mergeAll (parts.map (·.spine))).length ≤ 3 := by
    apply length_mergeAll_le
    simpa using few
  have flat : Spine.fault? (⟨branchStart, stop⟩ :: Spine.mergeAll (parts.map (·.spine))) = none := by
    rw [Spine.fault?, List.getElem?_eq_none, Option.map_none]
    rw [List.length_cons, nestingLimit]
    omega
  unfold Reading.finish
  simp only [Level.content, branch, flat]
  rfl

/-! ## Borders -/

/-- The text of a template's expression up to the border behind some of its tokens. -/
def textBefore (hasDefault : String → Bool) (before : List Token) : List Char :=
  "(?s)^".toList ++ before.flatMap (Token.source hasDefault)

/-- The text of a template's expression from the border before some of its tokens on. -/
def textBehind (hasDefault : String → Bool) (later : List Token) : List Char :=
  later.flatMap (Token.source hasDefault) ++ ['$']

theorem templateSource_append (hasDefault : String → Bool) (before later : List Token) :
    templateSource hasDefault (before ++ later) =
      textBefore hasDefault before ++ textBehind hasDefault later := by
  change "(?s)^".toList ++ (before ++ later).flatMap (Token.source hasDefault) ++ ['$'] =
    ("(?s)^".toList ++ before.flatMap (Token.source hasDefault)) ++
      (later.flatMap (Token.source hasDefault) ++ ['$'])
  rw [List.flatMap_append, List.append_assoc, List.append_assoc, List.append_assoc]

/-- What is behind a border says nothing about the token before it. -/
theorem head?_textBehind_ne (hasDefault : String → Bool) (later : List Token) :
    (textBehind hasDefault later).head? ≠ some '?' := by
  have apart := head?_sources_ne hasDefault later
  unfold textBehind
  cases sources : later.flatMap (Token.source hasDefault) with
  | nil => simp
  | cons char chars => rwa [sources] at apart

/-- Up to a border the tokens before it have been read, and nothing else. -/
theorem exists_takes_textBefore (hasDefault : String → Bool) {before : List Token}
    (proper : ∀ token ∈ before, token.IsNamed) (distinct : (placeholderNames before).Nodup) :
    ∃ middle : Reading, initial.Takes middle 0 (textBefore hasDefault before) ∧
      middle.HasRead (.look .textStart :: before.flatMap (Token.exprs hasDefault))
        (placeholderNames before) := by
  let start : Reading := ⟨.ofTemplate, ⟨0, [], 0, [⟨none, 0, []⟩]⟩, [], [], [], none⟩
  have started : start.HasRead [] [] := by
    refine ⟨rfl, rfl, rfl, ?_, rfl, rfl, rfl, rfl⟩
    simp [start]
  have begun := started.add (.look .textStart) 4 [] (Nat.zero_le 3)
  have flags : initial.Takes start 0 "(?s)".toList := takes_of_step (by simp) fun _ _ => rfl
  have anchor : start.Takes (start.add ⟨some (.look .textStart), 4, []⟩ none) 4 ['^'] :=
    takes_of_step (by simp) fun _ _ => rfl
  obtain ⟨middle, takes, passed⟩ := begun.tokens proper distinct 5 hasDefault
  exact ⟨middle, (flags.append (by simp) anchor).append (head?_sources_ne hasDefault before) takes,
    passed⟩

/-- The text of a template's expression is read to its end without a fault. -/
theorem exists_run_templateSource (hasDefault : String → Bool) {tokens : List Token}
    (proper : ∀ token ∈ tokens, token.IsNamed) (distinct : (placeholderNames tokens).Nodup) :
    ∃ final : Reading, initial.runFrom ⟨0, templateSource hasDefault tokens⟩ = .ok final ∧
      final.HasRead (templateExprs hasDefault tokens) (placeholderNames tokens) := by
  obtain ⟨middle, takes, passed⟩ := exists_takes_textBefore hasDefault proper distinct
  have ended := passed.add (.look .textEnd) (textBefore hasDefault tokens).length [] (Nat.zero_le 3)
  refine ⟨_, ?_, ended⟩
  change initial.runFrom ⟨0, textBefore hasDefault tokens ++ ['$']⟩ = _
  rw [takes ['$'] (by simp), Nat.zero_add, passed.eq_mk]
  refine Takes.runFrom_eq (takes_of_step (by simp) fun _ _ => rfl)

end Reading

/-- The text of a template is read as the expressions of its tokens. -/
theorem read_templateSource (hasDefault : String → Bool) {tokens : List Token}
    (proper : ∀ token ∈ tokens, token.IsNamed) (distinct : (placeholderNames tokens).Nodup) :
    Expr.read (templateSource hasDefault tokens) =
      .ok (.sequence (templateExprs hasDefault tokens).reverse) := by
  obtain ⟨final, run, ended⟩ := Reading.exists_run_templateSource hasDefault proper distinct
  have ran : Reading.run 0 0 (templateSource hasDefault tokens) .initial = .ok final := run
  rw [Expr.read, ran]
  exact ended.finish (by simp [templateExprs]) _

end TextTemplate

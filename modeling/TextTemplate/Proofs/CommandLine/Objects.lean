import TextTemplate.Proofs.CommandLine.Items
import TextTemplate.Proofs.Text.Json
import TextTemplate.Proofs.Text.Lines

/-!
# Results as objects

Printed as JSON, each result is an object on a line of its own: line feeds are escaped in all texts,
so that the only ones that are printed end the lines. The objects are read back as what they tell,
and no two lists of results look the same. -/

namespace TextTemplate.CommandLine.Output

open Text

/-! ## Objects of results -/

def valueMembers (entries : List (String × String)) : List Json.Member :=
  entries.map fun (name, value) => ⟨name, Json.encode value.toList, .text value⟩

/-- The members of the object for a subject with what its match has given, the values in order. -/
def resultMembers (subject : String) (values? : Option (List (String × String))) :
    List Json.Member :=
  let subject := ⟨"subject", Json.encode subject.toList, .text subject⟩
  match values? with
  | none => [⟨"matched", ['f', 'a', 'l', 's', 'e'], .bool false⟩, subject]
  | some entries =>
    [⟨"matched", ['t', 'r', 'u', 'e'], .bool true⟩, subject,
      ⟨"values", Json.encodeObject entries,
        .object ((valueMembers entries).map fun member => (member.name, member.value))⟩]

def resultLine (subject : String) (values? : Option (List (String × String))) : List Char :=
  '\x7b' :: Json.memberTexts (resultMembers subject values?) ++ ['\x7d']

theorem encodeObject_eq (entries : List (String × String)) :
    Json.encodeObject entries = '\x7b' :: Json.memberTexts (valueMembers entries) ++ ['\x7d'] := by
  have members : Json.encodeMembers entries = Json.memberTexts (valueMembers entries) := by
    induction entries with
    | nil => rfl
    | cons entry entries ih =>
      cases entries with
      | nil => rfl
      | cons next entries =>
        rw [Json.encodeMembers, ih]
        rfl
  rw [Json.encodeObject, members]

theorem json_eq (subject : String) (values? : Option (List (String × String))) :
    json subject values? = resultLine subject (values?.map sorted) ++ ['\n'] := by
  have unmatched : "\x7b\"matched\":false,\"subject\":".toList =
      '\x7b' :: (Json.encode "matched".toList ++ ':' :: 'f' :: 'a' :: 'l' :: 's' :: 'e' :: ',' ::
        (Json.encode "subject".toList ++ [':'])) := by decide
  have matched : "\x7b\"matched\":true,\"subject\":".toList =
      '\x7b' :: (Json.encode "matched".toList ++ ':' :: 't' :: 'r' :: 'u' :: 'e' :: ',' ::
        (Json.encode "subject".toList ++ [':'])) := by decide
  have values : ",\"values\":".toList = ',' :: (Json.encode "values".toList ++ [':']) := by decide
  cases values? with
  | none =>
    have line := congrArg (· ++ Json.encode subject.toList ++ ['\x7d', '\n']) unmatched
    refine Eq.trans line ?_
    simp only [Option.map, resultLine, resultMembers, Json.memberTexts, List.append_assoc, List.cons_append,
      List.nil_append]
  | some entries =>
    have line := congrArg₂ (fun opening behind => opening ++ Json.encode subject.toList ++ behind ++
      Json.encodeObject (sorted entries) ++ ['\x7d', '\n']) matched values
    refine Eq.trans line ?_
    simp only [Option.map, resultLine, resultMembers, Json.memberTexts, List.append_assoc, List.cons_append,
      List.nil_append]

theorem spells_of_mem_valueMembers {entries : List (String × String)} {member : Json.Member}
    (listed : member ∈ valueMembers entries) : Json.Spells member.spelling member.value := by
  obtain ⟨entry, _, rfl⟩ := List.mem_map.mp listed
  exact Json.spells_encode entry.2

theorem spells_of_mem_resultMembers {subject : String}
    {values? : Option (List (String × String))} {member : Json.Member}
    (listed : member ∈ resultMembers subject values?) :
    Json.Spells member.spelling member.value := by
  cases values? with
  | none =>
    simp only [resultMembers, List.mem_cons, List.not_mem_nil, or_false] at listed
    rcases listed with rfl | rfl
    · exact Json.spells_false
    · exact Json.spells_encode subject
  | some entries =>
    simp only [resultMembers, List.mem_cons, List.not_mem_nil, or_false] at listed
    rcases listed with rfl | rfl | rfl
    · exact Json.spells_true
    · exact Json.spells_encode subject
    · rw [encodeObject_eq]
      exact Json.spells_object fun member => spells_of_mem_valueMembers

/-- The line for a result is decoded as the object of its members. -/
theorem decode?_resultLine (subject : String) (values? : Option (List (String × String))) :
    Json.decode? (resultLine subject values?) =
      some (.object ((resultMembers subject values?).map fun member =>
        (member.name, member.value))) :=
  (Json.spells_object fun _ => spells_of_mem_resultMembers).decode?

/-- No control character below the blank stands for itself in an object, if none does in the values
of its members. -/
theorem blank_le_of_mem_object {members : List Json.Member}
    (printed : ∀ member ∈ members, ∀ letter ∈ member.spelling, 0x20 ≤ letter.toNat) :
    ∀ letter ∈ '\x7b' :: Json.memberTexts members ++ ['\x7d'], 0x20 ≤ letter.toNat :=
  List.forall_mem_append.mpr ⟨List.forall_mem_cons.mpr
    ⟨by decide, Json.blank_le_of_mem_memberTexts printed⟩, by simp⟩

theorem blank_le_of_mem_encodeObject (entries : List (String × String)) :
    ∀ letter ∈ Json.encodeObject entries, 0x20 ≤ letter.toNat := by
  rw [encodeObject_eq]
  apply blank_le_of_mem_object
  intro member listed
  obtain ⟨entry, _, rfl⟩ := List.mem_map.mp listed
  exact fun _ => Json.blank_le_of_mem_encode

theorem blank_le_of_mem_resultLine (subject : String)
    (values? : Option (List (String × String))) :
    ∀ letter ∈ resultLine subject values?, 0x20 ≤ letter.toNat := by
  have subject' : ∀ letter ∈ Json.encode subject.toList, 0x20 ≤ letter.toNat :=
    fun _ => Json.blank_le_of_mem_encode
  apply blank_le_of_mem_object
  cases values? with
  | none =>
    simp only [resultMembers, List.forall_mem_cons, List.not_mem_nil, false_imp_iff, implies_true,
      and_true]
    exact ⟨by decide, subject'⟩
  | some entries =>
    simp only [resultMembers, List.forall_mem_cons, List.not_mem_nil, false_imp_iff, implies_true,
      and_true]
    exact ⟨by decide, subject', blank_le_of_mem_encodeObject entries⟩

theorem feed_not_mem_resultLine (subject : String)
    (values? : Option (List (String × String))) : '\n' ∉ resultLine subject values? := by
  intro member
  exact absurd (blank_le_of_mem_resultLine subject values? '\n' member) (by decide)

/-! ## Lists of results -/

/-- An object tells the result for a subject: its members have different names, and there are values
among them exactly for a match, which are the entries of its bindings, each with a name of its
own. -/
structure Tells (members : List (String × Json.Value)) (subject : String) (result : MatchResult) :
    Prop where
  distinct : (members.map Prod.fst).Nodup
  subject : members.lookup "subject" = some (.text subject)
  matched : members.lookup "matched" = some (.bool result.isMatched)
  values : members.lookup "values" = result.values?.map fun values =>
    .object (values.entries.map fun (name, value) => (name, .text value))
  unmerged : ∀ values, members.lookup "values" = some (.object values) →
    (values.map Prod.fst).Nodup

theorem tells_resultMembers (subject : String) (result : MatchResult) :
    Tells ((resultMembers subject result.entries?).map fun member => (member.name, member.value))
      subject result := by
  cases result with
  | unmatched => exact ⟨by simp [resultMembers], rfl, rfl, rfl, fun _ missing => nomatch missing⟩
  | matched values =>
    refine ⟨by simp [resultMembers], rfl, rfl, ?_, fun told found => ?_⟩
    · change some (Json.Value.object _) = some (Json.Value.object _)
      simp [valueMembers]
    · obtain rfl := Json.Value.object.inj (Option.some.inj found)
      simpa [valueMembers, Function.comp_def] using values.nodup_names

/-- An object tells one result for one subject. -/
theorem Tells.unique {members : List (String × Json.Value)} {subject subject' : String}
    {result result' : MatchResult} (tells : Tells members subject result)
    (tells' : Tells members subject' result') : subject = subject' ∧ result = result' := by
  have subjects := tells.subject.symm.trans tells'.subject
  have values := tells.values.symm.trans tells'.values
  have entry : Function.Injective fun entry : String × String =>
      (entry.1, Json.Value.text entry.2) := by
    intro entry other same
    cases entry
    cases other
    simpa using same
  have object : Function.Injective fun values : Bindings =>
      Json.Value.object (values.entries.map fun (name, value) => (name, .text value)) := by
    intro values other same
    have entries := List.map_injective_iff.mpr entry (Json.Value.object.inj same)
    cases values
    cases other
    simpa using entries
  refine ⟨by simpa using subjects, MatchResult.eq_of_values?_eq ?_⟩
  exact Option.map_injective object values

/-- The output in JSON has one line for each result, in their order, and no line feeds but those at
the ends of the lines. Each line is decoded as an object that tells its result: the subject,
whether it matches, and exactly for a match all values. Different lists of results are therefore
printed differently. -/
theorem print_json_lines (color : Bool) (pairs : List (String × MatchResult)) :
    (∃ lines : List (List Char),
      (print .json color (results pairs)).toList = lines.flatMap (· ++ ['\n']) ∧
        (∀ line ∈ lines, '\n' ∉ line) ∧
        List.Forall₂ (fun line pair => ∃ members,
          Json.decode? line = some (.object members) ∧ Tells members pair.1 pair.2) lines pairs) ∧
      ∀ others : List (String × MatchResult),
        print .json color (results others) = print .json color (results pairs) ↔
          others = pairs := by
  have form : ∀ pairs : List (String × MatchResult),
      (print .json color (results pairs)).toList =
        (pairs.map fun pair => resultLine pair.1 pair.2.entries?).flatMap (· ++ ['\n']) := by
    intro pairs
    simp [toList_print_results, OutputItem.result, fragments, Fragment.render, json_eq,
      map_sorted_entries?, List.flatMap_map]
  have unfed : ∀ pairs : List (String × MatchResult),
      ∀ line ∈ pairs.map fun pair => resultLine pair.1 pair.2.entries?, '\n' ∉ line := by
    intro pairs line member
    obtain ⟨pair, _, rfl⟩ := List.mem_map.mp member
    exact feed_not_mem_resultLine pair.1 pair.2.entries?
  refine ⟨⟨_, form pairs, unfed pairs, ?_⟩, fun others => ⟨fun same => ?_, ?_⟩⟩
  · rw [List.forall₂_map_left_iff, List.forall₂_same]
    exact fun pair _ => ⟨_, decode?_resultLine pair.1 pair.2.entries?, tells_resultMembers pair.1 pair.2⟩
  · have texts := congrArg String.toList same
    rw [form, form] at texts
    have lines := ended_injective (unfed others) (unfed pairs) texts
    refine List.map_injective_iff.mpr ?_ lines
    intro pair other line
    have line' : resultLine pair.1 pair.2.entries? = resultLine other.1 other.2.entries? := line
    have decoded := decode?_resultLine pair.1 pair.2.entries?
    rw [line', decode?_resultLine, Option.some_inj, Json.Value.object.injEq] at decoded
    have tells := tells_resultMembers pair.1 pair.2
    rw [← decoded] at tells
    obtain ⟨subjects, outcomes⟩ := tells.unique (tells_resultMembers other.1 other.2)
    exact Prod.ext subjects outcomes
  · rintro rfl
    rfl

end TextTemplate.CommandLine.Output

import Mathlib.Data.List.Induction
import TextTemplate.Bindings

/-!
# Looking up names

Bindings are determined by the values that they give to names: an insertion or an erasure changes the
value of one name, and bindings with the same values for all names are equal. The order of insertions
for different names therefore does not matter. -/

namespace TextTemplate.Bindings

private theorem lookup_cons_ite (name value key : String) (rest : List (String × String)) :
    ((name, value) :: rest).lookup key = if key = name then some value else rest.lookup key := by
  by_cases same : key = name
  · simp [same]
  · simp [same, List.lookup_cons, beq_eq_false_iff_ne.mpr same]

private theorem lookup_insertEntry {name value key : String} {entries : List (String × String)} :
    (insertEntry name value entries).lookup key =
      if key = name then some value else entries.lookup key := by
  induction entries with
  | nil => rw [insertEntry, lookup_cons_ite]
  | cons entry rest ih =>
    obtain ⟨other, held⟩ := entry
    unfold insertEntry
    split
    · simp only [lookup_cons_ite]
    · split
      · next found =>
        subst found
        simp only [lookup_cons_ite]
        split <;> rfl
      · next different =>
        simp only [lookup_cons_ite, ih]
        by_cases same : key = name
        · simp [same, different]
        · simp [same]

/-- An insertion changes the value of its name only. -/
@[simp] theorem find?_insert (name value key : String) (bindings : Bindings) :
    (bindings.insert name value).find? key =
      if key = name then some value else bindings.find? key :=
  lookup_insertEntry

def erase (name : String) (bindings : Bindings) : Bindings where
  entries := bindings.entries.filter fun entry => entry.1 ≠ name
  ascending := bindings.ascending.sublist (List.filter_sublist.map Prod.fst)

@[simp] theorem find?_erase (name key : String) (bindings : Bindings) :
    (bindings.erase name).find? key = if key = name then none else bindings.find? key := by
  have general : ∀ entries : List (String × String),
      (entries.filter fun entry => entry.1 ≠ name).lookup key =
        if key = name then none else entries.lookup key := by
    intro entries
    induction entries with
    | nil => simp
    | cons entry rest ih =>
      obtain ⟨other, held⟩ := entry
      by_cases erased : other = name
      · rw [List.filter_cons_of_neg (by simp [erased]), ih, lookup_cons_ite, erased]
        split <;> rfl
      · rw [List.filter_cons_of_pos (by simp [erased]), lookup_cons_ite, ih, lookup_cons_ite]
        by_cases here : key = other
        · simp [here, erased]
        · simp [here]
  exact general bindings.entries

/-- Gives a value to a name or takes its value away. -/
def assign (name : String) (value? : Option String) (bindings : Bindings) : Bindings :=
  match value? with
  | some value => bindings.insert name value
  | none => bindings.erase name

@[simp] theorem find?_assign (name key : String) (value? : Option String) (bindings : Bindings) :
    (bindings.assign name value?).find? key =
      if key = name then value? else bindings.find? key := by
  cases value? with
  | some value => exact find?_insert name value key bindings
  | none => exact find?_erase name key bindings

@[simp] theorem find?_empty (key : String) : empty.find? key = none := rfl

/-- Insertions for distinct names give them their values and leave the others alone. -/
theorem find?_foldl_insert {pairs : List (String × String)} (distinct : (pairs.map Prod.fst).Nodup)
    (bindings : Bindings) (key : String) :
    (pairs.foldl (fun bindings pair => bindings.insert pair.1 pair.2) bindings).find? key =
      (pairs.lookup key).or (bindings.find? key) := by
  induction pairs generalizing bindings with
  | nil => rfl
  | cons pair pairs ih =>
    obtain ⟨name, value⟩ := pair
    rw [List.map_cons, List.nodup_cons] at distinct
    rw [List.foldl_cons, ih distinct.2, find?_insert, lookup_cons_ite]
    by_cases same : key = name
    · have absent : pairs.lookup name = none := by
        rw [List.lookup_eq_none_iff]
        intro entry member
        have different : name ≠ entry.1 := by
          rintro rfl
          exact distinct.1 (List.mem_map.mpr ⟨entry, member, rfl⟩)
        simpa using different
      simp [same, absent]
    · simp [same]

/-- Pairs with distinct names give these names their values. -/
theorem find?_ofList {pairs : List (String × String)} (distinct : (pairs.map Prod.fst).Nodup)
    (key : String) : (ofList pairs).find? key = pairs.lookup key := by
  rw [ofList, find?_foldl_insert distinct, find?_empty, Option.or_none]

/-- Insertions give each name the value that was given to it last. -/
theorem find?_ofList_eq_last (pairs : List (String × String)) (key : String) :
    (ofList pairs).find? key = pairs.reverse.lookup key := by
  induction pairs using List.reverseRecOn with
  | nil => rfl
  | append_singleton pairs pair ih =>
    rw [ofList, List.foldl_append, ← ofList, List.reverse_append]
    change ((ofList pairs).insert pair.1 pair.2).find? key =
      ((pair.1, pair.2) :: pairs.reverse).lookup key
    rw [find?_insert, lookup_cons_ite, ih]

/-- No name has two entries. -/
theorem nodup_names (bindings : Bindings) : (bindings.entries.map Prod.fst).Nodup := by
  refine bindings.ascending.imp fun less same => ?_
  subst same
  exact String.lt_irrefl _ less

private theorem mem_iff_lookup {entries : List (String × String)}
    (distinct : (entries.map Prod.fst).Nodup) {name value : String} :
    (name, value) ∈ entries ↔ entries.lookup name = some value := by
  induction entries with
  | nil => simp
  | cons entry rest ih =>
    obtain ⟨other, held⟩ := entry
    rw [List.map_cons, List.nodup_cons] at distinct
    have behind := ih distinct.2
    rw [List.mem_cons, lookup_cons_ite, behind]
    by_cases same : name = other
    · subst same
      have absent : rest.lookup name ≠ some value := by
        intro found
        exact distinct.1 (List.mem_map.mpr ⟨_, behind.mpr found, rfl⟩)
      simp [absent, eq_comm]
    · simp [same]

/-- The entries are the names with their values. -/
theorem mem_entries_iff {bindings : Bindings} {name value : String} :
    (name, value) ∈ bindings.entries ↔ bindings.find? name = some value :=
  mem_iff_lookup bindings.nodup_names

theorem mem_of_mem_ofList {pairs : List (String × String)} {entry : String × String}
    (member : entry ∈ (ofList pairs).entries) : entry ∈ pairs := by
  have found := mem_entries_iff.mp member
  rw [find?_ofList_eq_last, List.lookup_eq_some_iff] at found
  obtain ⟨later, earlier, split, -⟩ := found
  have listed : entry ∈ pairs.reverse := split ▸ List.mem_append_right later List.mem_cons_self
  exact List.mem_reverse.mp listed

private theorem lookup_eq_none_of_forall_lt {key : String} {entries : List (String × String)}
    (above : ∀ other ∈ entries.map Prod.fst, key < other) : entries.lookup key = none := by
  rw [List.lookup_eq_none_iff]
  intro entry member
  have less := above entry.1 (List.mem_map_of_mem member)
  have different : key ≠ entry.1 := fun same => String.lt_irrefl _ (same ▸ less)
  simpa using different

private theorem lookup_below_head (value : String) {key name : String}
    {rest : List (String × String)} (less : key < name)
    (above : ∀ other ∈ rest.map Prod.fst, name < other) :
    ((name, value) :: rest).lookup key = none := by
  apply lookup_eq_none_of_forall_lt
  simp only [List.map_cons, List.mem_cons]
  rintro other (rfl | member)
  · exact less
  · exact String.lt_trans less (above other member)

/-- Two ascending lists that give the same values have the same entries: neither of them can start
with a name that the other one lacks. -/
private theorem entries_eq_of_lookup {left right : List (String × String)}
    (leftAscending : (left.map Prod.fst).Pairwise (· < ·))
    (rightAscending : (right.map Prod.fst).Pairwise (· < ·))
    (same : ∀ key, left.lookup key = right.lookup key) : left = right := by
  induction left generalizing right with
  | nil =>
    cases right with
    | nil => rfl
    | cons entry rest =>
      have found := same entry.1
      rw [lookup_cons_ite entry.1 entry.2] at found
      simp at found
  | cons first leftRest ih =>
    obtain ⟨leftName, leftValue⟩ := first
    cases right with
    | nil =>
      have found := same leftName
      simp at found
    | cons entry rightRest =>
      obtain ⟨rightName, rightValue⟩ := entry
      simp only [List.map_cons, List.pairwise_cons] at leftAscending rightAscending
      have heads : leftName = rightName := by
        rcases Std.lt_trichotomy leftName rightName with less | same | greater
        · have absent := lookup_below_head rightValue less rightAscending.1
          simpa [absent, lookup_cons_ite] using same leftName
        · exact same
        · have absent := lookup_below_head leftValue greater leftAscending.1
          simpa [absent, lookup_cons_ite] using same rightName
      subst heads
      have values : leftValue = rightValue := by simpa [lookup_cons_ite] using same leftName
      subst values
      congr 1
      apply ih leftAscending.2 rightAscending.2
      intro key
      by_cases first : key = leftName
      · rw [first, lookup_eq_none_of_forall_lt leftAscending.1,
          lookup_eq_none_of_forall_lt rightAscending.1]
      · simpa [lookup_cons_ite, first] using same key

/-- Bindings that give the same values to all names are equal. -/
theorem ext_find? {left right : Bindings} (same : ∀ key, left.find? key = right.find? key) :
    left = right := by
  obtain ⟨leftEntries, leftAscending⟩ := left
  obtain ⟨rightEntries, rightAscending⟩ := right
  have entries := entries_eq_of_lookup leftAscending rightAscending same
  subst entries
  rfl

/-- The entries of bindings make the same bindings again, in whatever order they come. -/
theorem ofList_of_perm {pairs : List (String × String)} {bindings : Bindings}
    (order : pairs.Perm bindings.entries) : ofList pairs = bindings := by
  have distinct : (pairs.map Prod.fst).Nodup :=
    (order.map Prod.fst).nodup_iff.mpr bindings.nodup_names
  apply ext_find?
  intro key
  ext value
  rw [find?_ofList distinct, ← mem_iff_lookup distinct, order.mem_iff, mem_entries_iff]

/-- A value for a name that has none is in place after other insertions too, unless one of them has
replaced it. -/
theorem foldl_insert_insert {pairs : List (String × String)} (distinct : (pairs.map Prod.fst).Nodup)
    {bindings : Bindings} {name : String} (absent : bindings.find? name = none) (value : String) :
    pairs.foldl (fun bindings pair => bindings.insert pair.1 pair.2) (bindings.insert name value) =
      let values := pairs.foldl (fun bindings pair => bindings.insert pair.1 pair.2) bindings
      if values.contains name then values else values.insert name value := by
  have found := find?_foldl_insert distinct bindings
  apply ext_find?
  intro key
  rw [find?_foldl_insert distinct, find?_insert]
  generalize pairs.foldl (fun bindings pair => bindings.insert pair.1 pair.2) bindings = values
    at found ⊢
  have here : values.find? name = pairs.lookup name := by rw [found, absent, Option.or_none]
  by_cases given : values.contains name = true
  · obtain ⟨held, replaced⟩ := Option.isSome_iff_exists.mp given
    rw [if_pos given, found]
    by_cases same : key = name
    · subst same
      rw [← here, replaced, Option.some_or, Option.some_or]
    · rw [if_neg same]
  · have kept : values.find? name = none := Option.not_isSome_iff_eq_none.mp given
    rw [if_neg given, find?_insert, found]
    by_cases same : key = name
    · subst same
      rw [if_pos rfl, if_pos rfl, ← here, kept, Option.none_or]
    · rw [if_neg same, if_neg same]

/-- Bindings that agree up to the value of a name still do after insertions for other names. -/
theorem foldl_insert_eq_assign {pairs : List (String × String)}
    (distinct : (pairs.map Prod.fst).Nodup) {name : String} (absent : pairs.lookup name = none)
    {bindings other : Bindings} (agree : ∀ key, key ≠ name → other.find? key = bindings.find? key) :
    pairs.foldl (fun bindings pair => bindings.insert pair.1 pair.2) other =
      (pairs.foldl (fun bindings pair => bindings.insert pair.1 pair.2) bindings).assign name
        (other.find? name) := by
  apply ext_find?
  intro key
  rw [find?_assign, find?_foldl_insert distinct, find?_foldl_insert distinct]
  by_cases same : key = name
  · rw [if_pos same, same, absent, Option.none_or]
  · rw [if_neg same, agree key same]

end TextTemplate.Bindings

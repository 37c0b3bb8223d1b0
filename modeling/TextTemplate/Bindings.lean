/-!
# Bindings

Bindings give values to names: the validators and default values of a pattern, and the values that a
match extracts. They are kept in ascending order of the names, so that two bindings with the same
values for the same names are equal, in whatever order they were made. -/

namespace TextTemplate

namespace Bindings

/-- Gives a value to a name in an ascending list, in place of the value that it had. -/
def insertEntry (name value : String) : List (String × String) → List (String × String)
  | [] => [(name, value)]
  | (other, held) :: rest =>
    if name < other then (name, value) :: (other, held) :: rest
    else if name = other then (name, value) :: rest
    else (other, held) :: insertEntry name value rest

theorem mem_keys_insertEntry {name value key : String} {entries : List (String × String)} :
    key ∈ (insertEntry name value entries).map Prod.fst ↔
      key = name ∨ key ∈ entries.map Prod.fst := by
  induction entries with
  | nil => simp [insertEntry]
  | cons entry rest ih =>
    obtain ⟨other, held⟩ := entry
    unfold insertEntry
    split
    · simp
    · split
      · next same => simp [same]
      · simp only [List.map_cons, List.mem_cons, ih]
        grind

theorem pairwise_insertEntry {name value : String} {entries : List (String × String)}
    (ascending : (entries.map Prod.fst).Pairwise (· < ·)) :
    ((insertEntry name value entries).map Prod.fst).Pairwise (· < ·) := by
  induction entries with
  | nil => simp [insertEntry]
  | cons entry rest ih =>
    obtain ⟨other, held⟩ := entry
    simp only [List.map_cons, List.pairwise_cons] at ascending
    unfold insertEntry
    split
    · next less =>
      simp only [List.map_cons, List.pairwise_cons, List.mem_cons]
      exact ⟨fun key member =>
          member.elim (· ▸ less) fun member => String.lt_trans less (ascending.1 key member),
        ascending.1, ascending.2⟩
    · next notLess =>
      split
      · next same => simpa [same] using ascending
      · next different =>
        simp only [List.map_cons, List.pairwise_cons]
        refine ⟨fun key member => ?_, ih ascending.2⟩
        rcases mem_keys_insertEntry.1 member with rfl | member
        · have := String.not_lt.1 notLess
          grind
        · exact ascending.1 key member

end Bindings

/-- Values for names. Each name comes once, in ascending order. -/
structure Bindings where
  entries : List (String × String)
  ascending : (entries.map Prod.fst).Pairwise (· < ·)
deriving DecidableEq, Repr

namespace Bindings

def empty : Bindings := ⟨[], by simp⟩

instance : Inhabited Bindings := ⟨empty⟩

/-- Gives a value to a name, in place of the value that it had. -/
def insert (name value : String) (bindings : Bindings) : Bindings :=
  ⟨insertEntry name value bindings.entries, pairwise_insertEntry bindings.ascending⟩

def find? (bindings : Bindings) (name : String) : Option String := bindings.entries.lookup name

def contains (bindings : Bindings) (name : String) : Bool := (bindings.find? name).isSome

/-- The bindings that some pairs of names and values make, the later ones replacing the earlier
ones. -/
def ofList (pairs : List (String × String)) : Bindings :=
  pairs.foldl (fun bindings pair => bindings.insert pair.1 pair.2) empty

end Bindings

end TextTemplate

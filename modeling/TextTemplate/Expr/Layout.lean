import TextTemplate.Expr.Slots
import TextTemplate.Unicode.Encoding

/-!
# Layouts of automata

An automaton that recognizes an expression is laid out state by state, in one of two directions:
forwards, reading the bytes of a text as they come, or backwards. What is kept of it is how many
states there are and how many bytes they hold besides, so that its size is known at any time; a
layout that grows beyond the limit is given up. -/

namespace TextTemplate

open Unicode (ByteRange)

/-- The direction in which an automaton reads: from the start of the text or from its end. -/
inductive Direction
  | forwards
  | backwards
deriving DecidableEq, Repr

/-- How much of an automaton has been laid out: the number of its states, which are numbered from
zero on, and of the bytes that they hold besides. -/
structure Layout where
  states : Nat
  held : Nat
deriving DecidableEq, Repr

namespace Layout

/-- The size that an automaton must not exceed, in bytes. -/
def sizeLimit : Nat := 10485760

def stateSize : Nat := 32

/-- The size of a transition on a range of bytes, where a state holds several of them. -/
def transitionSize : Nat := 8

/-- The size of a reference to a state that can be gone to without reading. -/
def referenceSize : Nat := 4

def empty : Layout := ⟨0, 0⟩

def size (layout : Layout) : Nat := stateSize * layout.states + layout.held

/-- The layout with some more states, which hold `held` bytes together; there is none beyond the
limit. -/
def grow (states held : Nat) (layout : Layout) : Option Layout :=
  let next : Layout := ⟨layout.states + states, layout.held + held⟩
  if next.size ≤ sizeLimit then some next else none

def beside (layout other : Layout) : Layout :=
  ⟨layout.states + other.states, layout.held + other.held⟩

/-- The number of bytes that a state with `count` transitions on single bytes holds besides; it
holds a single one itself. -/
def heldBy (count : Nat) : Nat := if count = 1 then 0 else transitionSize * count

def addState (layout : Layout) : Option Layout := layout.grow 1 0

/-- Adds a state from which `count` states can be gone to without reading. -/
def addFork (count : Nat) (layout : Layout) : Option Layout :=
  layout.grow 1 (referenceSize * count)

def addTransitions (count : Nat) (layout : Layout) : Option Layout :=
  layout.grow 1 (transitionSize * count)

end Layout

/-- A transition: the bytes that it reads, and the number of the state that it leads to. -/
abbrev Transition := ByteRange × Nat

namespace Transition

/-- Mixes a number into a hash value of 64 bits. -/
def mix (hash : UInt64) (number : Nat) : UInt64 :=
  (hash ^^^ UInt64.ofNat number) * 1099511628211

/-- The hash value before anything is mixed into it. -/
def hashStart : UInt64 := 14695981039346656037

def hashAll (transitions : List Transition) : UInt64 :=
  transitions.foldl (fun hash (range, next) => mix (mix (mix hash range.first) range.last) next)
    hashStart

def hashStep (range : ByteRange) (next : Nat) : UInt64 :=
  mix (mix (mix hashStart next) range.first) range.last

end Transition

/-! ## Sets of characters, forwards

States that have the same transitions are shared, as far as they are remembered: a state is kept in
a slot that its hash value chooses, and displaces the one that was there. -/

/-- The states of a set of characters that are remembered, with their transitions, and the
layout. -/
structure Sharing where
  slots : Slots (List Transition × Nat)
  layout : Layout

namespace Sharing

def slotCount : Nat := 10000

def slotBits : Nat := 14

/-- Gives the number of a state with the given transitions, which is added if none is remembered. -/
def place (transitions : List Transition) (sharing : Sharing) : Option (Nat × Sharing) :=
  let slot := (Transition.hashAll transitions).toNat % slotCount
  match sharing.slots.get? slot with
  | some (known, state) =>
    if known = transitions then some (state, sharing) else add slot
  | none => add slot
where
  /-- Adds the state and remembers it. -/
  add (slot : Nat) : Option (Nat × Sharing) := do
    let state := sharing.layout.states
    let layout ← sharing.layout.addTransitions transitions.length
    return (state, ⟨sharing.slots.set slotBits slot (transitions, state), layout⟩)

/-- Sequences of byte ranges by their first range: neighbours with the same one are put together. -/
def byFirst (sequences : List (List ByteRange)) : List (ByteRange × List (List ByteRange)) :=
  sequences.foldr
    (fun sequence groups =>
      match sequence, groups with
      | [], _ => groups
      | range :: rest, (other, rests) :: others =>
        if range = other then (other, rest :: rests) :: others
        else (range, [rest]) :: (other, rests) :: others
      | range :: rest, [] => [(range, [rest])])
    []

/-- Gives the number of a state from which the sequences lead to the state `target`; the sequences
have at most `depth` ranges. -/
def placeSequences (target : Nat) :
    (depth : Nat) → List (List ByteRange) → Sharing → Option (Nat × Sharing)
  | 0, _, sharing => some (target, sharing)
  | depth + 1, sequences, sharing => do
    if sequences.all List.isEmpty then return (target, sharing)
    let (transitions, sharing) ← (byFirst sequences).foldlM
      (fun (transitions, sharing) (range, rests) => do
        let (next, sharing) ← placeSequences target depth rests sharing
        return ((range, next) :: transitions, sharing))
      (([] : List Transition), sharing)
    sharing.place transitions.reverse

end Sharing

/-! ## Sets of characters, backwards

Backwards the sequences are laid out one by one from their first range on, each step leading to the
one before; steps to the same state are shared, as far as they are remembered. -/

/-- A step backwards: the bytes that it reads, the state that it leads to, and its own state. -/
structure BackStep where
  range : ByteRange
  next : Nat
  state : Nat

/-- The steps of a set of characters that are remembered, and the layout. -/
structure BackSharing where
  slots : Slots BackStep
  layout : Layout

namespace BackSharing

def slotCount : Nat := 1000

def slotBits : Nat := 10

/-- Gives the number of the state of a step, which is added if none is remembered. -/
def place (range : ByteRange) (next : Nat) (sharing : BackSharing) : Option (Nat × BackSharing) :=
  let slot := (Transition.hashStep range next).toNat % slotCount
  match sharing.slots.get? slot with
  | some step =>
    if step.range = range ∧ step.next = next then some (step.state, sharing) else add slot
  | none => add slot
where
  /-- Adds the step and remembers it. -/
  add (slot : Nat) : Option (Nat × BackSharing) := do
    let state := sharing.layout.states
    let layout ← sharing.layout.addState
    return (state, ⟨sharing.slots.set slotBits slot ⟨range, next, state⟩, layout⟩)

/-- Lays out sequences of byte ranges that lead to the state `target`. -/
def placeSequences (target : Nat) (sequences : List (List ByteRange)) (sharing : BackSharing) :
    Option BackSharing :=
  sequences.foldlM
    (fun sharing sequence => do
      let (_, sharing) ← sequence.foldlM
        (fun (next, sharing) range => sharing.place range next) (target, sharing)
      return sharing)
    sharing

end BackSharing

namespace Layout

/-- Lays out a set of characters. A set of ASCII characters is a single state with a transition for
every interval. -/
def placeChars (direction : Direction) (intervals : List (Nat × Nat))
    (encodings : List (List ByteRange)) (layout : Layout) : Option Layout :=
  if intervals.all fun interval => interval.2 ≤ 0x7F then do
    (← layout.addState).addTransitions intervals.length
  else
    match direction with
    | .forwards => do
      let target := layout.states
      let sharing : Sharing := ⟨.empty, ← layout.addState⟩
      let (_, sharing) ← sharing.placeSequences target 4 encodings
      return sharing.layout
    | .backwards => do
      let layout ← layout.addFork encodings.length
      let target := layout.states
      let sharing : BackSharing := ⟨.empty, ← layout.addState⟩
      let sharing ← sharing.placeSequences target encodings
      return sharing.layout

end Layout

end TextTemplate

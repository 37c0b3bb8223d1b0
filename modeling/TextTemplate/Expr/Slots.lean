/-!
# Numbered slots

A store of values in numbered slots, most of which are empty. A slot is found by the bits of its
number, the lowest one first. -/

namespace TextTemplate

/-- Values in numbered slots. A fork has the slots whose next bit is not set and those where it is,
and a value stands in the slot that the bits before lead to. -/
inductive Slots (α : Type)
  | empty
  | value (content : α)
  | fork (even odd : Slots α)

namespace Slots

variable {α : Type}

def get? : Slots α → (slot : Nat) → Option α
  | empty, _ => none
  | value content, _ => some content
  | fork even odd, slot => if slot % 2 = 0 then even.get? (slot / 2) else odd.get? (slot / 2)

/-- The slots whose next bit is not set, and those where it is. -/
def halves : Slots α → Slots α × Slots α
  | fork even odd => (even, odd)
  | _ => (empty, empty)

/-- Puts a value into a slot, where the numbers of all slots have the given count of bits. -/
def set : (bits : Nat) → Slots α → (slot : Nat) → α → Slots α
  | 0, _, _, content => value content
  | bits + 1, slots, slot, content =>
    let (even, odd) := slots.halves
    if slot % 2 = 0 then fork (set bits even (slot / 2) content) odd
    else fork even (set bits odd (slot / 2) content)

end Slots

end TextTemplate

import TextTemplate.Expr.Reader

/-!
# What has been read, without places

The places in a text matter for faults and for the levels of parts inside parts only. What a reading
keeps besides them does not depend on where in a text it has been read. -/

namespace TextTemplate

/-- Whether there is a fault that is to be reported at the end, whichever it is. -/
def Fault.unplaced (late : Option Fault) : Option Fault := late.map fun _ => ⟨.nesting, default⟩

@[simp] theorem Fault.unplaced_or (late other : Option Fault) :
    unplaced (late.or other) = (unplaced late).or (unplaced other) := by
  cases late <;> rfl

@[simp] theorem Fault.unplaced_unplaced (late : Option Fault) :
    unplaced (unplaced late) = unplaced late := by
  cases late <;> rfl

theorem Fault.unplaced_eq_none_iff {late : Option Fault} : unplaced late = none ↔ late = none :=
  Option.map_eq_none_iff

/-! ## Classes in brackets -/

def Member.unplaced (member : Member) : Member := ⟨member.set, default, []⟩

@[simp] theorem Member.unplaced_unplaced (member : Member) :
    member.unplaced.unplaced = member.unplaced := rfl

namespace Bracket

def unplaced (bracket : Bracket) : Bracket :=
  ⟨0, default, bracket.negated, 0, bracket.members.map (·.unplaced),
    bracket.left.map fun (op, member) => (op, member.unplaced)⟩

theorem unplaced_add (member : Member) (bracket : Bracket) :
    (bracket.add member).unplaced = bracket.unplaced.add member.unplaced := rfl

theorem right_set (bracket : Bracket) : bracket.right.set = bracket.unplaced.right.set := by
  unfold right unplaced
  rcases bracket.members with _ | ⟨_, _ | _⟩
  · rfl
  · rfl
  · simp [Member.unplaced, Function.comp_def]

theorem content_set (flags : Flags) (bracket : Bracket) :
    (bracket.content flags).set = (bracket.unplaced.content flags).set := by
  have right := bracket.right_set
  unfold content
  cases found : bracket.left with
  | none => simpa [unplaced, found] using right
  | some left => simp [right, unplaced, found, Member.unplaced]

theorem unplaced_operate (flags : Flags) (op : SetOp) (first : Nat) (bracket : Bracket) :
    (bracket.operate flags op first).unplaced = (bracket.unplaced.operate flags op 0).unplaced := by
  simp only [operate, unplaced, Option.map_some, Member.unplaced]
  rw [content_set]
  rfl

theorem close_unplaced (flags : Flags) (stop : Nat) (bracket : Bracket) :
    (bracket.close flags stop).1.unplaced = (bracket.unplaced.close flags 0).1.unplaced ∧
      Fault.unplaced (bracket.close flags stop).2 =
        Fault.unplaced (bracket.unplaced.close flags 0).2 := by
  constructor
  · have same := bracket.content_set flags
    simp only [close, Member.unplaced, same]
    rfl
  · have same : bracket.unplaced.negated = bracket.negated := rfl
    simp only [close, same]
    split <;> rfl

@[simp] theorem unplaced_unplaced (bracket : Bracket) :
    bracket.unplaced.unplaced = bracket.unplaced := by
  simp only [unplaced, List.map_map, Option.map_map, mk.injEq, true_and]
  exact ⟨rfl, rfl⟩

/-- What a step inside brackets leads to, without places. -/
def Progress.unplaced (progress : Progress) : Progress :=
  ⟨progress.brackets.map (·.unplaced), progress.closed.map (·.unplaced),
    Fault.unplaced progress.late⟩

@[simp] theorem Progress.unplaced_unplaced (progress : Progress) :
    progress.unplaced.unplaced = progress.unplaced := by
  simp [unplaced, Function.comp_def]

end Bracket

/-! ## Levels -/

def Item.unplaced (item : Item) : Item := ⟨item.expr, 0, []⟩

@[simp] theorem Item.unplaced_unplaced (item : Item) : item.unplaced.unplaced = item.unplaced := rfl

def Branch.unplaced (branch : Branch) : Branch := ⟨branch.expr, []⟩

@[simp] theorem Branch.unplaced_unplaced (branch : Branch) :
    branch.unplaced.unplaced = branch.unplaced := rfl

namespace Level

def unplaced (level : Level) : Level :=
  ⟨0, level.branches.map (·.unplaced), 0, level.items.map (·.unplaced)⟩

theorem branch_expr (stop : Nat) (level : Level) :
    (level.branch stop).expr = (level.unplaced.branch 0).expr := by
  unfold branch unplaced
  rcases level.items with _ | ⟨_, _ | _⟩
  · rfl
  · rfl
  · simp only [List.map_cons, Item.unplaced, List.filterMap_cons, List.filterMap_map]
    rfl

theorem unplaced_nextBranch (bar start : Nat) (level : Level) :
    (level.nextBranch bar start).unplaced = (level.unplaced.nextBranch 0 0).unplaced := by
  have last := level.branch_expr bar
  simp [nextBranch, unplaced, last, Branch.unplaced, Function.comp_def]

theorem content_expr (stop : Nat) (level : Level) :
    (level.content stop).expr = (level.unplaced.content 0).expr := by
  have last := level.branch_expr stop
  unfold content
  cases found : level.branches with
  | nil => simpa [unplaced, found] using last
  | cons => simp [unplaced, found, last, Branch.unplaced, Function.comp_def]

@[simp] theorem unplaced_unplaced (level : Level) : level.unplaced.unplaced = level.unplaced := by
  simp [unplaced, Function.comp_def]

end Level

/-! ## Readings -/

def OpenGroup.unplaced (group : OpenGroup) : OpenGroup :=
  ⟨default, group.kind, group.flags, group.around.unplaced⟩

@[simp] theorem OpenGroup.unplaced_unplaced (group : OpenGroup) :
    group.unplaced.unplaced = group.unplaced := by
  simp [unplaced]

namespace Reading

def unplaced (reading : Reading) : Reading :=
  ⟨reading.flags, reading.level.unplaced, reading.groups.map (·.unplaced),
    reading.brackets.map (·.unplaced), reading.names.map fun (name, _) => (name, default),
    Fault.unplaced reading.late⟩

theorem unplaced_add (item : Item) (late : Option Fault) (reading : Reading) :
    (reading.add item late).unplaced =
      reading.unplaced.add item.unplaced (Fault.unplaced late) := by
  simp [add, unplaced, Level.add, Level.unplaced]

@[simp] theorem unplaced_unplaced (reading : Reading) :
    reading.unplaced.unplaced = reading.unplaced := by
  simp [unplaced, Function.comp_def]

end Reading

end TextTemplate

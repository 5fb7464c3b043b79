/-!
# Grouping join rows

A one-to-many join lists a parent once for every child, and once without a child when it has none. Grouping turns such
rows back into parents with their children: one group for every distinct key of a parent, in the order in which the keys
first occur, with the children in the order in which they first occur and without repeats. Nothing is sorted.
-/

namespace BasinRegister

/-- Types whose values are told apart by a key when rows are grouped. -/
class GroupKey (π : Type) (κ : outParam Type) where
  /-- What tells a parent apart from others; its children have no part in it. -/
  key : π → κ

/-- Types that hold the children of a join as a list. -/
class Assemble (π : Type) (γ : outParam Type) where
  /-- The parent with the given children in the place of its own. -/
  assemble : π → List γ → π

/-- A row of a join: a parent and at most one child. -/
structure JoinRow (π γ : Type) where
  /-- The parent. -/
  parent : π
  /-- The child, if the row has one. -/
  child : Option γ
  deriving DecidableEq, Repr

/-- A parent with the children that its rows had. -/
structure Group (π γ : Type) where
  /-- The parent as the first row gave it. -/
  parent : π
  /-- The children in order, without repeats. -/
  children : List γ
  deriving DecidableEq, Repr

/-- The parent of a group with the children put in. -/
def Group.assemble {π γ : Type} [Assemble π γ] (g : Group π γ) : π :=
  Assemble.assemble g.parent g.children

/-- The rows of a group: one for every child, or one without a child. -/
def Group.rows {π γ : Type} (g : Group π γ) : List (JoinRow π γ) :=
  match g.children with
  | [] => [⟨g.parent, none⟩]
  | children => children.map fun c => ⟨g.parent, some c⟩

/-- The rows of groups, one group after the other. -/
def flattenGroups {π γ : Type} (groups : List (Group π γ)) : List (JoinRow π γ) :=
  groups.flatMap Group.rows

/-- What was looked up as one thing turned out to be several. -/
structure IntegrityViolation where
  /-- What was looked up. -/
  what : String
  /-- How many there are. -/
  found : Nat
  deriving DecidableEq, Repr

/-- The wording of a violation. -/
def IntegrityViolation.message (v : IntegrityViolation) : String :=
  s!"integrity violation: expected at most one {v.what}, found {v.found}"

/-- The groups that rows have opened so far. -/
structure RowGrouper (π γ : Type) where
  /-- The groups in the order in which they were opened. -/
  groups : List (Group π γ)
  deriving DecidableEq, Repr

namespace RowGrouper

variable {π γ κ : Type}

/-- A grouper without groups. -/
def empty : RowGrouper π γ := ⟨[]⟩

instance : Inhabited (RowGrouper π γ) := ⟨empty⟩

/-- The number of groups. -/
def size (g : RowGrouper π γ) : Nat := g.groups.length

/-- Children with one more behind them, unless they hold it already. -/
def addChild [DecidableEq γ] (children : List γ) : Option γ → List γ
  | none => children
  | some c => if c ∈ children then children else children ++ [c]

variable [GroupKey π κ] [DecidableEq κ]

/-- Whether a parent's key has a group. -/
def contains (g : RowGrouper π γ) (parent : π) : Bool :=
  g.groups.any fun group => GroupKey.key group.parent = GroupKey.key parent

variable [DecidableEq γ]

/-- Groups with a row put into the group of its key, or into a new one at the end. -/
def insertRow (row : JoinRow π γ) : List (Group π γ) → List (Group π γ)
  | [] => [⟨row.parent, addChild [] row.child⟩]
  | g :: gs =>
    if GroupKey.key g.parent = GroupKey.key row.parent then { g with children := addChild g.children row.child } :: gs
    else g :: insertRow row gs

omit [DecidableEq γ] in
/-- Whether a row opens a group behind others. -/
def opensGroup (row : JoinRow π γ) : List (Group π γ) → Bool
  | [] => true
  | g :: gs => if GroupKey.key g.parent = GroupKey.key row.parent then false else opensGroup row gs

/-- The grouper with one more row. -/
def push (g : RowGrouper π γ) (row : JoinRow π γ) : RowGrouper π γ :=
  ⟨insertRow row g.groups⟩

/-- Whether a row opens a group, and the grouper with it. -/
def enter (g : RowGrouper π γ) (row : JoinRow π γ) : Bool × RowGrouper π γ :=
  (opensGroup row g.groups, g.push row)

/-- The grouper with more rows. -/
def pushAll (g : RowGrouper π γ) (rows : List (JoinRow π γ)) : RowGrouper π γ :=
  rows.foldl push g

omit [GroupKey π κ] [DecidableEq κ] [DecidableEq γ] in
/-- The only group, or none. -/
def finishSingle (g : RowGrouper π γ) (what : String) : Except IntegrityViolation (Option (Group π γ)) :=
  match g.groups with
  | [] => .ok none
  | [group] => .ok (some group)
  | groups => .error ⟨what, groups.length⟩

end RowGrouper

section

variable {π γ κ : Type} [GroupKey π κ] [DecidableEq κ] [DecidableEq γ]

/-- The groups of rows. -/
def groupRows (rows : List (JoinRow π γ)) : List (Group π γ) :=
  (RowGrouper.empty.pushAll rows).groups

/-- The group of rows that describe at most one parent. -/
def groupSingle (what : String) (rows : List (JoinRow π γ)) : Except IntegrityViolation (Option (Group π γ)) :=
  (RowGrouper.empty.pushAll rows).finishSingle what

end

end BasinRegister

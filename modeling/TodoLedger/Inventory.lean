import TodoLedger.Issue

/-! The inventory: which titles have an issue, and whether it is open. -/

namespace TodoLedger

/-- How a title stands to the issues that exist. -/
inductive Classification where
  | new
  | duplicateOpen
  | duplicateClosed
deriving DecidableEq, Repr

/-- The states of existing issues by the fingerprints of their titles, each fingerprint once. -/
structure Inventory where
  entries : List (Text × IssueState)
deriving DecidableEq, Repr

namespace Inventory

def empty : Inventory := ⟨[]⟩

/-- Enters an issue; of several with one title an open one counts. -/
def add (inventory : Inventory) (issue : ExistingIssue) : Inventory :=
  let f := fingerprint issue.title
  match inventory.entries.lookup f, issue.state with
  | none, state => ⟨inventory.entries ++ [(f, state)]⟩
  | some _, .closed => inventory
  | some _, .isOpen => ⟨inventory.entries.map fun (g, state) => if g = f then (g, .isOpen) else (g, state)⟩

def ofIssues (issues : List ExistingIssue) : Inventory := issues.foldl add empty

/-- The state of the issue with a fingerprint. -/
def state? (inventory : Inventory) (f : Text) : Option IssueState := inventory.entries.lookup f

def classify (inventory : Inventory) (f : Text) : Classification :=
  match inventory.state? f with
  | none => .new
  | some .isOpen => .duplicateOpen
  | some .closed => .duplicateClosed

/-- How many titles have an issue. -/
def size (inventory : Inventory) : Nat := inventory.entries.length

end Inventory
end TodoLedger

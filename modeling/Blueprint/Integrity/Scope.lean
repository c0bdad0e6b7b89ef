import Blueprint.Schema.Reference
import Blueprint.Tree

/-!
# What a scope admits

A scope is settled for the record that holds the reference: it reaches the target
records under every parent, under one parent, or none at all. `Reach.names` lists
the names that may be meant, `Reach.meets` asks the same from the side of the
target.
-/

namespace Blueprint

/-- The parents under which a reference may find its target. -/
inductive Reach
  | everywhere
  | under (parent : String)
  | nowhere
  deriving DecidableEq

namespace Reach

/-- Under a parent if there is one, otherwise everywhere. -/
def ofParent : Option String → Reach
  | none => everywhere
  | some parent => under parent

/-- Under the parent that a field names, nowhere if the field is empty. -/
def ofField (r : Record) (field : String) : Reach :=
  match r.filled? field with
  | some parent => under parent
  | none => nowhere

/-- The names of the records of a kind that are reached. -/
def names (reach : Reach) (t : Tree) (kind : Kind) : List String :=
  match reach with
  | everywhere => t.names kind none
  | under parent => t.names kind (some parent)
  | nowhere => []

/-- Whether a target under `parent` is reached. A target without a parent is
reached from wherever anything is. -/
def meets (reach : Reach) (parent : Option String) : Bool :=
  match reach with
  | everywhere => true
  | under p => parent.isNone || parent = some p
  | nowhere => false

end Reach

/-- What a scope reaches for a holder of a kind, stored under a parent. -/
def Scope.reach (scope : Scope) (t : Tree) (kind : Kind) (parent : Option String)
    (holder : Record) : Reach :=
  match scope with
  | anywhere => .everywhere
  | sibling => .ofParent parent
  | underField field => .ofField holder field
  | underParentField field =>
      match kind.parent, parent with
      | some parentKind, some name =>
          match t.find? parentKind none name with
          | some r => .ofField r field
          | none => .nowhere
      | _, _ => .nowhere

end Blueprint

import Blueprint.Integrity.Verdict
import Blueprint.Integrity.Scope
import Blueprint.Schema.Registry

/-!
# Cascades

What a renamed or removed record means for the references to it. A name is
followed wherever its reference could mean the record, and the count tells how
many references were affected.
-/

namespace Blueprint

namespace Tree

/-- Whether a reference in a holder could mean a record under `target`. -/
def mayReach (t : Tree) (kind : Kind) (parent : Option String) (holder : Record)
    (reference : Reference) (target : Option String) : Bool :=
  (reference.scope.reach t kind parent holder).meets target

/-- Passes a verdict on one reference in all records of a kind. Scopes are settled
in the tree `before`. -/
def reviseHolders (before : Tree) (target : Option String) (judge : String → Verdict)
    (state : Nat × Tree) (place : Kind × Reference) : Nat × Tree :=
  let (kind, reference) := place
  state.2.visit kind
    (fun count parent holder =>
      if before.mayReach kind parent holder reference target &&
          reference.touches judge holder then
        (count + 1, reference.revise judge holder)
      else (count, holder))
    state.1

/-- Passes a verdict on every reference that could mean a record of a kind under
`target`. -/
def reviseReferences (t : Tree) (kind : Kind) (target : Option String)
    (judge : String → Verdict) : Nat × Tree :=
  kind.referencedBy.foldl (t.reviseHolders target judge) (0, t)

/-- Renames a record in the references to it. -/
def renameReferences (t : Tree) (kind : Kind) (parent : Option String) (old new : String) :
    Nat × Tree :=
  t.reviseReferences kind parent (.rename old new)

/-- Clears the references to a record. -/
def dropReferences (t : Tree) (kind : Kind) (parent : Option String) (name : String) :
    Nat × Tree :=
  t.reviseReferences kind parent (.remove name)

end Tree

/-- The names of the records of a child kind that a record holds. -/
def Kind.namesIn (child : Kind) (holder : Record) : List String :=
  match child.holdingField with
  | some field => (holder.records field).filterMap Record.name?
  | none => []

/-- The records that go with a removed one, with their kinds and parents: first
those it holds, last itself. -/
def Kind.removedWith (kind : Kind) (parent : Option String) (name : String)
    (removed : Record) : List (Kind × Option String × String) :=
  (kind.children.flatMap fun child =>
    (child.namesIn removed).map fun childName => (child, some name, childName)) ++
    [(kind, parent, name)]

/-- Clears the references to a removed record and to the records it held. -/
def Tree.dropAllReferences (t : Tree) (kind : Kind) (parent : Option String) (removed : Record) :
    Nat × Tree :=
  match removed.name? with
  | none => (0, t)
  | some name =>
      (kind.removedWith parent name removed).foldl
        (fun (count, t) (kind, parent, name) =>
          let (cleared, t) := t.dropReferences kind parent name
          (count + cleared, t))
        (0, t)

end Blueprint

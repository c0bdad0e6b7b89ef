import Blueprint.Schema.Registry

/-!
# Default trees

A tree is complete when it has the key of every top-level kind. What is missing
is filled with the seed of the kind, or with an empty list.
-/

namespace Blueprint

/-- What a new tree holds under the tag of a top-level kind. -/
def Kind.startingValue (kind : Kind) : Option Value :=
  match kind.schema.seed, kind.location with
  | some seed, _ => some seed
  | none, .collection => some (.list [])
  | none, _ => none

namespace Tree

/-- Fills in the key of a kind if it is missing. -/
def fill (t : Tree) (kind : Kind) : Tree :=
  if t.root.has kind.tag then t
  else
    match kind.startingValue with
    | some value => t.set kind.tag value
    | none => t

/-- Fills in the missing keys of the top-level kinds. -/
def withDefaults (t : Tree) : Tree := (Kind.all.filter Kind.isTopLevel).foldl fill t

def default : Tree := empty.withDefaults

end Tree

end Blueprint

import Blueprint.Kind

/-!
# References

A reference declares that a place in the records of one kind holds names of
records of another kind, and which of those records it may mean.
-/

namespace Blueprint

/-- Where in a record names are held. -/
inductive Path
  /-- In a field. -/
  | field (name : String)
  /-- In a field of the record that a field holds. -/
  | inside (object field : String)
  /-- In a field of each record in the list that a field holds. -/
  | each (list field : String)
  deriving DecidableEq

/-- The field of the record that a path starts from. -/
def Path.root : Path → String
  | field name => name
  | inside object _ => object
  | each list _ => list

/-- Whether a place holds one name or a list of names. -/
inductive Arity
  | one
  | many
  deriving DecidableEq

/-- The records that a name may mean. -/
inductive Scope
  /-- Every record of the target kind. -/
  | anywhere
  /-- The records with the same parent as the holder. -/
  | sibling
  /-- The records under the parent that a field of the holder names. -/
  | underField (field : String)
  /-- The records under the parent that a field of the holder's parent names. -/
  | underParentField (field : String)
  deriving DecidableEq

structure Reference where
  path : Path
  target : Kind
  arity : Arity := .one
  scope : Scope := .anywhere
  /-- A value that is not a name and never dangles. -/
  keep : Option String := none
  deriving DecidableEq

namespace Reference

/-- One name in a field. -/
def one (field : String) (target : Kind) : Reference := { path := .field field, target }

/-- A list of names in a field. -/
def many (field : String) (target : Kind) : Reference :=
  { path := .field field, target, arity := .many }

def under (r : Reference) (scope : Scope) : Reference := { r with scope }

end Reference

end Blueprint

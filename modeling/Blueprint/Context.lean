/-!
# Operation contexts

What an operation on a record is told besides the record: the stored name of the
record being edited, the name of its parent, and limits for numeric fields that
take the place of the usual ones.
-/

namespace Blueprint

/-- Whole-number limits, both included. -/
structure Limits where
  min : Int
  max : Int
  deriving DecidableEq

structure Context where
  /-- The stored name of the edited record; a new record has none. -/
  name : Option String
  /-- The name of the record that holds the edited one. -/
  parent : Option String
  /-- Limits by field. -/
  limits : List (String × Limits)

namespace Context

/-- The context of a new record at the top level. -/
def blank : Context := ⟨none, none, []⟩

/-- The context of an existing record, with its parent if it is a nested one. -/
def editing (name : String) (parent : Option String) : Context := ⟨some name, parent, []⟩

/-- The limits given for a field, or else the usual ones. -/
def limitsOr (c : Context) (field : String) (usual : Limits) : Limits :=
  (c.limits.lookup field).getD usual

end Context

end Blueprint

import Blueprint.Kind

/-!
# Store errors

Why an operation on a store is refused.
-/

namespace Blueprint

inductive StoreError
  /-- A sibling has the name. -/
  | duplicateName (kind : Kind) (name : String)
  /-- The record has no name. -/
  | missingName (kind : Kind)
  /-- The record, or the parent it is kept under, does not exist. -/
  | notFound (kind : Kind) (name : String)
  /-- A nested record is addressed without its parent. -/
  | missingParent (kind : Kind)
  /-- Records of the kind cannot be created or deleted. -/
  | unsupported (kind : Kind) (operation : String)
  /-- The observer failed on this change. -/
  | observerFailed
  /-- The tree was lost when an observer failed. -/
  | poisoned
  deriving DecidableEq

namespace StoreError

def message : StoreError → String
  | duplicateName kind name => kind.tag ++ " named " ++ name ++ " already exists"
  | missingName kind => kind.tag ++ " records require a string name"
  | notFound kind name => kind.tag ++ " named " ++ name ++ " not found"
  | missingParent kind => kind.tag ++ " requires a parent record"
  | unsupported kind operation => operation ++ " is not supported for " ++ kind.tag
  | observerFailed => "observer panicked"
  | poisoned => "configuration store lock poisoned"

end StoreError

end Blueprint

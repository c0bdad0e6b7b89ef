import Blueprint.Schema.Registry

/-!
# Findings

What is wrong with the records of a tree: those that could not be saved as they
are, those without a name, and those that share a name with a record before them
under the same parent.
-/

namespace Blueprint

inductive Problem
  | saveDisabled
  | missingName
  | duplicateName
  deriving DecidableEq

namespace Problem

def message : Problem → String
  | saveDisabled => "save disabled"
  | missingName => "missing name"
  | duplicateName => "duplicate name"

end Problem

/-- A problem of one record. -/
structure Finding where
  kind : Kind
  parent : Option String
  name : String
  problem : Problem
  deriving DecidableEq

namespace Finding

/-- Which record it is; one without a name goes by its kind alone. -/
def label (f : Finding) : String :=
  if f.name.isEmpty then f.kind.tag
  else
    match f.parent with
    | some parent => f.kind.tag ++ " " ++ parent ++ "/" ++ f.name
    | none => f.kind.tag ++ " " ++ f.name

def message (f : Finding) : String := f.label ++ ": " ++ f.problem.message

end Finding

namespace Tree

/-- The records of a kind that could not be saved as they are. -/
def unsavableOf (t : Tree) (kind : Kind) : List Finding :=
  (t.located kind).filterMap fun entry =>
    let name := entry.record.label
    if kind.blocksSave entry.record t (.editing name entry.parent) then
      some ⟨kind, entry.parent, name, .saveDisabled⟩
    else none

/-- Every record that could not be saved as it is. -/
def unsavable (t : Tree) : List Finding := Kind.all.flatMap t.unsavableOf

/-- The naming problems of located records, given the names before them with those
of their parents. -/
def namingProblemsIn (kind : Kind) : (seen : List (Option String × String)) →
    List Located → List Finding
  | _, [] => []
  | seen, entry :: rest =>
      match entry.record.name? with
      | none => ⟨kind, entry.parent, "", .missingName⟩ :: namingProblemsIn kind seen rest
      | some name =>
          let key := (entry.parent, name)
          let problems := namingProblemsIn kind (key :: seen) rest
          if seen.contains key then ⟨kind, entry.parent, name, .duplicateName⟩ :: problems
          else problems

/-- The naming problems of the records of a kind; a single record needs no name. -/
def namingProblemsOf (t : Tree) (kind : Kind) : List Finding :=
  match kind.location with
  | .single => []
  | .collection | .nested _ _ => namingProblemsIn kind [] (t.located kind)

/-- Every naming problem. -/
def namingProblems (t : Tree) : List Finding := Kind.all.flatMap t.namingProblemsOf

/-- Everything that is wrong with the records of a tree. -/
def findings (t : Tree) : List Finding := t.unsavable ++ t.namingProblems

end Tree

end Blueprint

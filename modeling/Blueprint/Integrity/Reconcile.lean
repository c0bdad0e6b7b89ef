import Blueprint.Integrity.Verdict
import Blueprint.Integrity.Scope
import Blueprint.Schema.Registry

/-!
# Reconciliation

Clears the names that mean nothing: a name stays only if its reference reaches a
record of that name. The references of a record are settled in the order of its
schema, so a reference sees the fields that the ones before it cleared. Every
function tells whether it changed anything.
-/

namespace Blueprint

/-- Keeps the sentinel and the names that are reached. -/
def Reference.judgeDangling (reference : Reference) (reached : List String) (name : String) :
    Verdict :=
  if reference.keep = some name || reached.contains name then .keep else .drop

namespace Tree

/-- The names that a reference in a record may hold. -/
def reached (t : Tree) (kind : Kind) (parent : Option String) (holder : Record)
    (reference : Reference) : List String :=
  (reference.scope.reach t kind parent holder).names t reference.target

def reconcileReference (t : Tree) (kind : Kind) (parent : Option String)
    (state : Bool × Record) (reference : Reference) : Bool × Record :=
  let judge := reference.judgeDangling (t.reached kind parent state.2 reference)
  (state.1 || reference.touches judge state.2, reference.revise judge state.2)

/-- Clears the dangling references of one record of a kind, stored under a parent
or to be stored there. -/
def reconcileRecord (t : Tree) (kind : Kind) (parent : Option String) (r : Record) :
    Bool × Record :=
  kind.schema.references.foldl (t.reconcileReference kind parent) (false, r)

/-- Reconciles the records of a kind whose parent satisfies `admits`, all of them
against the tree as it is before. -/
def reconcileKind (admits : Option String → Bool) (kind : Kind) (t : Tree) : Bool × Tree :=
  t.visit kind
    (fun changed parent r =>
      if admits parent then
        let (touched, r) := t.reconcileRecord kind parent r
        (changed || touched, r)
      else (changed, r))
    false

/-- Reconciles the records of several kinds, one kind after another. -/
def reconcileKinds (admits : Option String → Bool) (kinds : List Kind) (t : Tree) :
    Bool × Tree :=
  kinds.foldl
    (fun (changed, t) kind =>
      let (touched, t) := t.reconcileKind admits kind
      (changed || touched, t))
    (false, t)

/-- Reconciles every record. -/
def reconcileAll (t : Tree) : Bool × Tree := t.reconcileKinds (fun _ => true) Kind.all

/-- Reconciles the records under the records of a kind with a given name. -/
def reconcileChildren (t : Tree) (kind : Kind) (name : String) : Bool × Tree :=
  t.reconcileKinds (fun parent => parent = some name) kind.children

end Tree

end Blueprint

import Blueprint.Store.Defaults
import Blueprint.Store.Mutation

/-!
# Stores

A store keeps a tree and shows every new tree to an observer. An operation that
is refused changes nothing and shows nothing; one that succeeds shows the new
tree once. If the observer fails on it the tree is lost, and whatever needs the
tree is refused from then on.
-/

namespace Blueprint

/-- What is done with a new tree, given what was kept from the ones before;
nothing comes back if the observer fails. -/
abbrev Observer (σ : Type) := σ → Tree → Option σ

structure Store (σ : Type) where
  /-- The tree, unless it was lost. -/
  tree : Option Tree
  observer : Option (Observer σ)
  /-- What the observer kept. -/
  seen : σ

namespace Store

variable {σ α : Type}

/-- A store around a loaded tree, which is completed but not reconciled. -/
def ofTree (t : Tree) (seen : σ) : Store σ := ⟨some t.withDefaults, none, seen⟩

/-- A store that holds the default tree. -/
def new (seen : σ) : Store σ := ofTree .empty seen

/-- Registers an observer in place of the previous one. -/
def observe (s : Store σ) (observer : Observer σ) : Store σ :=
  { s with observer := some observer }

/-- Looks at the tree. -/
def read (s : Store σ) (f : Tree → α) : Except StoreError α :=
  match s.tree with
  | some t => .ok (f t)
  | none => .error .poisoned

/-- Keeps a new tree and shows it to the observer. -/
def commit (s : Store σ) (answer : α) (t : Tree) : Except StoreError α × Store σ :=
  match s.observer with
  | none => (.ok answer, { s with tree := some t })
  | some observer =>
      match observer s.seen t with
      | some seen => (.ok answer, { s with tree := some t, seen })
      | none => (.error .observerFailed, { s with tree := none })

/-- Changes the tree by a function that may refuse. -/
def update (s : Store σ) (f : Tree → Except StoreError (α × Tree)) :
    Except StoreError α × Store σ :=
  match s.tree with
  | none => (.error .poisoned, s)
  | some t =>
      match f t with
      | .ok (answer, t) => s.commit answer t
      | .error e => (.error e, s)

/-! ## Operations -/

def snapshot (s : Store σ) : Except StoreError Tree := s.read id

/-- Whether a record of a kind must not be saved as it is. -/
def blocksSave (s : Store σ) (kind : Kind) (r : Record) (op : Context) :
    Except StoreError Bool :=
  s.read fun t => kind.blocksSave r t op

/-- Stores a new record made of the kind's defaults and the given fields. -/
def create (s : Store σ) (kind : Kind) (fields : Record) (op : Context) :
    Except StoreError Unit × Store σ :=
  match Draft.ofFields kind fields op with
  | .error e => (.error e, s)
  | .ok draft => s.update fun t => (t.append kind draft).map ((), ·)

/-- Merges fields into the record that the context names. -/
def save (s : Store σ) (kind : Kind) (fields : Record) (op : Context) :
    Except StoreError Unit × Store σ :=
  s.update fun t => (t.save kind fields op).map ((), ·)

/-- Removes the record that the context names. -/
def delete (s : Store σ) (kind : Kind) (op : Context) : Except StoreError Unit × Store σ :=
  match Tree.deletionParent kind op with
  | .error e => (.error e, s)
  | .ok parent => s.update fun t => .ok ((), t.erase kind parent (op.name.getD ""))

/-- Clears every dangling reference and tells whether there was one. -/
def reconcile (s : Store σ) : Except StoreError Bool × Store σ :=
  s.update fun t => .ok t.reconcileAll

end Store

end Blueprint

import Blueprint.Store

/-!
# Editing in place

The operations of a store step by step, in the order in which they read and write the
tree where it stands. A step that is refused ends its operation, and nothing that was
written before it is put back.
-/

namespace Blueprint

/-- Steps that read and write a tree and may be refused. -/
abbrev Edit (α : Type) := ExceptT StoreError (StateM Tree) α

namespace Edit

variable {α : Type}

/-- Goes through the steps on a tree: the answer or the refusal, and the tree as it is
then. -/
def on (edit : Edit α) (t : Tree) : Except StoreError α × Tree := (ExceptT.run edit).run t

/-- Refuses what must not be. -/
def refuseIf (p : Prop) [Decidable p] (e : StoreError) : Edit Unit :=
  if p then throw e else pure ()

/-- Refuses to go on without a value. -/
def require (value : Option α) (e : StoreError) : Edit α :=
  match value with
  | some a => pure a
  | none => throw e

/-- Opens the list that holds the records of a kind under a parent. A list that is not
there is created. -/
def openList (kind : Kind) (parent : Option String) : Edit (Option (List Value)) := do
  match (← get).items? kind parent with
  | some items =>
      modify fun t => t.setItems kind parent items
      return some items
  | none => return none

/-- Stores a new record behind its siblings. -/
def append (kind : Kind) (draft : Draft) : Edit Unit := do
  refuseIf (draft.name ∈ (← get).names kind draft.parent) (.duplicateName kind draft.name)
  let items ← require (← openList kind draft.parent) (.noCollection kind draft.parent)
  modify fun t => t.setItems kind draft.parent (items ++ [.object draft.record])

/-- Lets the kind of a saved record write to the tree and to the record. -/
def prepare (kind : Kind) (stored merged : Record) : Edit Record := do
  let prepared := kind.schema.saved (← get) stored merged
  set prepared.1
  return prepared.2

/-- Saves the record of a kind that has a single one. -/
def saveSingle (kind : Kind) (fields : Record) : Edit Unit := do
  let stored := ((← get).single? kind).getD []
  let merged ← prepare kind stored (stored.extend fields)
  modify fun t => t.set kind.tag (.object (t.reconcileRecord kind none merged).2)

/-- Puts a saved record back and carries its name and fields to where they matter. -/
def store (kind : Kind) (parent : Option String) (index : Nat) (old : String) (draft : Draft) :
    Edit Unit := do
  let reconciled := ((← get).reconcileRecord kind parent draft.record).2
  let r := if draft.name ≠ old then Tree.linkHeldRecords kind draft.name reconciled
    else reconciled
  let items ← require (← openList kind parent) (.noCollection kind parent)
  modify fun t => t.setItems kind parent (Tree.replaceRecord r index items)
  if draft.name ≠ old then
    modify fun t => (t.renameReferences kind parent old draft.name).2
  modify fun t => (t.reconcileChildren kind draft.name).2

/-- Saves a record that was found among its siblings. -/
def saveFound (kind : Kind) (fields : Record) (parent : Option String) (old : String)
    (index : Nat) (stored : Record) : Edit Unit := do
  let merged := stored.extend fields
  let name ← require merged.name? (.missingName kind)
  refuseIf (name ≠ old ∧ name ∈ (← get).names kind parent) (.duplicateName kind name)
  let record ← prepare kind stored merged
  store kind parent index old { parent, name, record }

/-- Saves the record that an operation names. -/
def saveNamed (kind : Kind) (fields : Record) (op : Context) : Edit Unit := do
  match op.addressed kind with
  | .error e => throw e
  | .ok parent =>
      let old := op.name.getD ""
      let siblings := (← get).collection kind parent
      let index ← require (siblings.findIdx? fun r => r.name? = some old) (.notFound kind old)
      saveFound kind fields parent old index (siblings[index]?.getD [])

def save (kind : Kind) (fields : Record) (op : Context) : Edit Unit :=
  if kind.location = .single then saveSingle kind fields else saveNamed kind fields op

/-- Removes a record and the references to it. -/
def erase (kind : Kind) (parent : Option String) (name : String) : Edit Unit := do
  if name ∈ (← get).names kind parent then
    match ← openList kind parent with
    | none => return ()
    | some items =>
        match Tree.takeNamed name items with
        | none => return ()
        | some (removed, rest) =>
            modify fun t => t.setItems kind parent rest
            modify fun t => (t.dropAllReferences kind parent removed).2

/-- Clears every dangling reference and tells whether there was one. -/
def reconcile : Edit Bool := do
  let reconciled := (← get).reconcileAll
  set reconciled.2
  return reconciled.1

end Edit

namespace Store

variable {σ α : Type}

/-- Edits the tree where it stands and shows it, unless a step was refused. -/
def edit (s : Store σ) (edit : Edit α) : Except StoreError α × Store σ :=
  match s.tree with
  | none => (.error .poisoned, s)
  | some t =>
      match edit.on t with
      | (.ok answer, t) => s.commit answer t
      | (.error e, t) => (.error e, { s with tree := some t })

def createInPlace (s : Store σ) (kind : Kind) (fields : Record) (op : Context) :
    Except StoreError Unit × Store σ :=
  match Draft.ofFields kind fields op with
  | .error e => (.error e, s)
  | .ok draft => s.edit (Edit.append kind draft)

def saveInPlace (s : Store σ) (kind : Kind) (fields : Record) (op : Context) :
    Except StoreError Unit × Store σ := s.edit (Edit.save kind fields op)

def deleteInPlace (s : Store σ) (kind : Kind) (op : Context) :
    Except StoreError Unit × Store σ :=
  match Tree.deletionParent kind op with
  | .error e => (.error e, s)
  | .ok parent => s.edit (Edit.erase kind parent (op.name.getD ""))

def reconcileInPlace (s : Store σ) : Except StoreError Bool × Store σ := s.edit Edit.reconcile

end Store

end Blueprint

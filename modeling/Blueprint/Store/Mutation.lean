import Blueprint.Integrity.Cascade
import Blueprint.Integrity.Reconcile
import Blueprint.Store.Error

/-!
# Mutations

Creating, saving and deleting records, as functions from trees to trees. Names
are unique among siblings: a record is refused if its name is taken. A saved
record gives up its dangling references, a new name is carried to the references
and to the children, and the references to a deleted record are cleared.
-/

namespace Blueprint

/-- The parent that an operation addresses: none at the top level, and for nested
kinds the one it is told. -/
def Context.addressed (op : Context) (kind : Kind) : Except StoreError (Option String) :=
  match kind.location with
  | .nested _ _ =>
      match op.parent with
      | some parent => .ok (some parent)
      | none => .error (.missingParent kind)
  | .collection | .single => .ok none

/-- The error for a list of records that is not there. -/
def StoreError.noCollection (kind : Kind) (parent : Option String) : StoreError :=
  .notFound (kind.parent.getD kind) (parent.getD "")

/-! ## Creating -/

/-- A record to be stored under a parent, with its name. -/
structure Draft where
  parent : Option String
  name : String
  record : Record

namespace Draft

/-- The record that a kind's defaults and the given fields make up. -/
def recordOf (kind : Kind) (fields : Record) (parent : Option String) : Record :=
  let schema := kind.schema
  let merged := schema.defaultRecord.extend fields
  schema.created (match schema.parentLink, parent with
    | some link, some parent => merged.insert link (.text parent)
    | _, _ => merged)

def ofFields (kind : Kind) (fields : Record) (op : Context) : Except StoreError Draft :=
  if kind.location = .single then .error (.unsupported kind "create")
  else do
    let parent ← op.addressed kind
    let record := recordOf kind fields parent
    match record.name? with
    | some name => .ok { parent, name, record }
    | none => .error (.missingName kind)

end Draft

namespace Tree

/-- Stores a new record behind its siblings. -/
def append (t : Tree) (kind : Kind) (draft : Draft) : Except StoreError Tree :=
  if (t.names kind draft.parent).contains draft.name then
    .error (.duplicateName kind draft.name)
  else
    match t.items? kind draft.parent with
    | some items => .ok (t.setItems kind draft.parent (items ++ [.object draft.record]))
    | none => .error (.noCollection kind draft.parent)

def create (t : Tree) (kind : Kind) (fields : Record) (op : Context) :
    Except StoreError Tree := do
  t.append kind (← Draft.ofFields kind fields op)

/-! ## Saving -/

/-- Replaces one of the records in a list of values, counted among the records
only. -/
def replaceRecord (new : Record) : Nat → List Value → List Value
  | _, [] => []
  | 0, .object _ :: rest => .object new :: rest
  | index + 1, .object r :: rest => .object r :: replaceRecord new index rest
  | index, item :: rest => item :: replaceRecord new index rest

/-- Writes the name of a record into the links of the records it holds. -/
def linkHeldRecords (kind : Kind) (name : String) (r : Record) : Record :=
  kind.children.foldl
    (fun r child =>
      match child.holdingField, child.schema.parentLink with
      | some field, some link =>
          (r.visitField field (fun _ held => ((), held.insert link (.text name))) ()).2
      | _, _ => r)
    r

/-- Saves the record of a kind that has a single one. -/
def saveSingle (t : Tree) (kind : Kind) (fields : Record) : Tree :=
  let stored := (t.single? kind).getD []
  let (t, merged) := kind.schema.saved t stored (stored.extend fields)
  t.set kind.tag (.object (t.reconcileRecord kind none merged).2)

/-- What saving leaves in a tree once its record is accepted: the record is put
back at its place, and its name and fields are carried to where they matter. -/
def store (t : Tree) (kind : Kind) (parent : Option String) (index : Nat) (old : String)
    (draft : Draft) : Except StoreError Tree :=
  let reconciled := (t.reconcileRecord kind parent draft.record).2
  let renamed := draft.name ≠ old
  let r := if renamed then linkHeldRecords kind draft.name reconciled else reconciled
  match t.items? kind parent with
  | none => .error (.noCollection kind parent)
  | some items =>
      let t := t.setItems kind parent (replaceRecord r index items)
      let t := if renamed then (t.renameReferences kind parent old draft.name).2 else t
      .ok (t.reconcileChildren kind draft.name).2

/-- Saves the record that an operation names. -/
def saveNamed (t : Tree) (kind : Kind) (fields : Record) (op : Context) :
    Except StoreError Tree := do
  let parent ← op.addressed kind
  let old := op.name.getD ""
  let siblings := t.collection kind parent
  match siblings.findIdx? (fun r => r.name? = some old) with
  | none => .error (.notFound kind old)
  | some index =>
      let stored := siblings[index]?.getD []
      let merged := stored.extend fields
      match merged.name? with
      | none => .error (.missingName kind)
      | some name =>
          if name ≠ old && (t.names kind parent).contains name then
            .error (.duplicateName kind name)
          else
            let (t, record) := kind.schema.saved t stored merged
            t.store kind parent index old { parent, name, record }

def save (t : Tree) (kind : Kind) (fields : Record) (op : Context) : Except StoreError Tree :=
  if kind.location = .single then .ok (t.saveSingle kind fields)
  else t.saveNamed kind fields op

/-! ## Deleting -/

/-- Splits off the first record with a given name. -/
def takeNamed (name : String) : List Value → Option (Record × List Value)
  | [] => none
  | .object r :: rest =>
      if Record.name? r = some name then some (r, rest)
      else (takeNamed name rest).map fun (taken, rest) => (taken, .object r :: rest)
  | item :: rest => (takeNamed name rest).map fun (taken, rest) => (taken, item :: rest)

/-- Removes a record and the references to it. An absent record changes nothing. -/
def erase (t : Tree) (kind : Kind) (parent : Option String) (name : String) : Tree :=
  if (t.names kind parent).contains name then
    match t.items? kind parent with
    | none => t
    | some items =>
        match takeNamed name items with
        | some (removed, rest) =>
            ((t.setItems kind parent rest).dropAllReferences kind parent removed).2
        | none => t.setItems kind parent items
  else t

/-- The parent that a deletion addresses. -/
def deletionParent (kind : Kind) (op : Context) : Except StoreError (Option String) :=
  if kind.location = .single then .error (.unsupported kind "delete")
  else op.addressed kind

def delete (t : Tree) (kind : Kind) (op : Context) : Except StoreError Tree := do
  let parent ← deletionParent kind op
  return t.erase kind parent (op.name.getD "")

end Tree

end Blueprint

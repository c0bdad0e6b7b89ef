import Blueprint.Kind
import Blueprint.Value

/-!
# Deployment trees

A tree is a record keyed by the tags of the top-level kinds. `located` lists the
records of a kind together with the records that hold them, and `visit` walks
the same records in the same order and replaces each of them; entries of a list
that are not records are passed over by both.
-/

namespace Blueprint

/-- A deployment description. -/
structure Tree where
  root : Record
  deriving DecidableEq, Inhabited

/-- A record with the record that holds it, if its kind is a nested one. -/
structure Located where
  holder : Option Record
  record : Record

namespace Located

/-- The name of the holding record. -/
def parent (entry : Located) : Option String := entry.holder.bind Record.name?

end Located

/-- Walks the records in a list of values from left to right, carrying a state,
and replaces each of them. -/
def visitRecords {σ : Type} (f : σ → Record → σ × Record) (state : σ) :
    List Value → σ × List Value
  | [] => (state, [])
  | .object r :: rest =>
      let (state, r) := f state r
      let (state, rest) := visitRecords f state rest
      (state, .object r :: rest)
  | item :: rest =>
      let (state, rest) := visitRecords f state rest
      (state, item :: rest)

namespace Record

/-- Walks the records in the list that a field holds. -/
def visitField {σ : Type} (field : String) (f : σ → Record → σ × Record) (state : σ) :
    Record → σ × Record
  | [] => (state, [])
  | (key, value) :: rest =>
      if field = key then
        match value with
        | .list items =>
            let (state, items) := visitRecords f state items
            (state, (key, .list items) :: rest)
        | value => (state, (key, value) :: rest)
      else
        let (state, rest) := visitField field f state rest
        (state, (key, value) :: rest)

/-- Visits the record that a field holds. -/
def visitObject {σ : Type} (field : String) (f : σ → Record → σ × Record) (state : σ) :
    Record → σ × Record
  | [] => (state, [])
  | (key, value) :: rest =>
      if field = key then
        match value with
        | .object r =>
            let (state, r) := f state r
            (state, (key, .object r) :: rest)
        | value => (state, (key, value) :: rest)
      else
        let (state, rest) := visitObject field f state rest
        (state, (key, value) :: rest)

end Record

namespace Tree

def empty : Tree := ⟨[]⟩

def get? (t : Tree) (key : String) : Option Value := t.root.get? key

def set (t : Tree) (key : String) (value : Value) : Tree := ⟨t.root.insert key value⟩

/-- The record of a kind that has a single one. -/
def single? (t : Tree) (kind : Kind) : Option Record := t.root.object? kind.tag

/-- The records in the list under the tag of a kind. -/
def topLevel (t : Tree) (kind : Kind) : List Record := t.root.records kind.tag

/-- Every record of a kind with its holder, in stored order. -/
def located (t : Tree) (kind : Kind) : List Located :=
  match kind.location with
  | .single => (t.single? kind).toList.map fun r => ⟨none, r⟩
  | .collection => (t.topLevel kind).map fun r => ⟨none, r⟩
  | .nested parent field =>
      (t.topLevel parent).flatMap fun holder =>
        (holder.records field).map fun r => ⟨some holder, r⟩

/-- The records of a kind under a parent, or under any parent. -/
def collection (t : Tree) (kind : Kind) (parent : Option String) : List Record :=
  ((t.located kind).filter fun entry =>
    parent.isNone || entry.parent = parent).map (·.record)

/-- The names of the records of a kind under a parent, or under any parent. -/
def names (t : Tree) (kind : Kind) (parent : Option String) : List String :=
  (t.collection kind parent).filterMap Record.name?

/-- Walks every record of a kind in stored order, carrying a state, and replaces
each of them. The walk is told the name of the record's parent. -/
def visit {σ : Type} (t : Tree) (kind : Kind) (f : σ → Option String → Record → σ × Record)
    (state : σ) : σ × Tree :=
  let (state, root) := match kind.location with
    | .single => t.root.visitObject kind.tag (fun state r => f state none r) state
    | .collection => t.root.visitField kind.tag (fun state r => f state none r) state
    | .nested parent field =>
        t.root.visitField parent.tag
          (fun state holder =>
            holder.visitField field (fun state r => f state holder.name? r) state)
          state
  (state, ⟨root⟩)

/-- Changes the first record in a list of values that has a given name. -/
def modifyNamed (name : String) (f : Record → Record) : List Value → Option (List Value)
  | [] => none
  | .object r :: rest =>
      if Record.name? r = some name then some (.object (f r) :: rest)
      else (modifyNamed name f rest).map (.object r :: ·)
  | item :: rest => (modifyNamed name f rest).map (item :: ·)

/-- Changes the first top-level record of a kind that has a given name. -/
def modifyRecord? (t : Tree) (kind : Kind) (name : String) (f : Record → Record) :
    Option Tree := do
  let items ← t.root.list? kind.tag
  let items ← modifyNamed name f items
  return t.set kind.tag (.list items)

/-- Changes the record of a kind that has a single one. -/
def modifySingle? (t : Tree) (kind : Kind) (f : Record → Record) : Option Tree := do
  let r ← t.single? kind
  return t.set kind.tag (.object (f r))

/-- The list that a field holds, an absent field counting as an empty list. -/
def itemsIn? (field : String) (r : Record) : Option (List Value) :=
  match r.get? field with
  | none => some []
  | some value => value.list?

/-- The list that holds the records of a kind under a parent, which has to
exist. -/
def items? (t : Tree) (kind : Kind) (parent : Option String) : Option (List Value) :=
  match kind.location with
  | .single => none
  | .collection => itemsIn? kind.tag t.root
  | .nested parentKind field => do
      let parent ← parent
      let holder ← (t.topLevel parentKind).find? fun r => r.name? = some parent
      itemsIn? field holder

/-- Replaces the list that holds the records of a kind under a parent. -/
def setItems (t : Tree) (kind : Kind) (parent : Option String) (items : List Value) : Tree :=
  match kind.location, parent with
  | .collection, _ => t.set kind.tag (.list items)
  | .nested parentKind field, some parent =>
      (t.modifyRecord? parentKind parent (·.insert field (.list items))).getD t
  | _, _ => t

/-- The first record of a kind with a given name, under a parent or under any
parent. -/
def find? (t : Tree) (kind : Kind) (parent : Option String) (name : String) : Option Record :=
  (t.collection kind parent).find? fun r => r.name? = some name

/-- Whether the record that a name denotes exists outside the deployment and is
only looked up. A name that denotes nothing counts as part of the deployment. -/
def isImported (t : Tree) (kind : Kind) (name : String) : Bool :=
  match t.find? kind none name with
  | some r => r.flag "use_data"
  | none => false

end Tree

end Blueprint

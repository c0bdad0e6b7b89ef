import Blueprint.Context
import Blueprint.Grammar.Name
import Blueprint.Grammar.Quantity
import Blueprint.Schema.Reference
import Blueprint.Tree

/-!
# Schemas

What is known about the records of a kind: their fields with rules, the names
they hold, the values they start with, what creating and saving them entails,
and the requirements that a record has to meet before it may be saved.
-/

namespace Blueprint

/-- What a field rule may look at besides the record. -/
structure Situation where
  kind : Kind
  tree : Tree
  op : Context

/-- The rules of one field. -/
structure Field where
  name : String
  /-- The value that a form starts with. -/
  initial : Option Value := none
  /-- Whether the field may be left empty. -/
  optional : Bool := false
  /-- Whether the field's value is wrong. -/
  invalid : Record → Situation → Bool := fun _ _ => false
  /-- What to tell about a wrong value. -/
  invalidText : Record → Situation → String := fun _ _ => "Invalid " ++ name
  /-- What to tell while the field is edited. -/
  helperText : Option (Record → Situation → String) := none
  /-- Whether the form leaves the field out. -/
  hidden : Record → Bool := fun _ => false
  /-- The values to choose from; none if any value may be entered. -/
  choices : Record → Situation → List String := fun _ _ => []
  /-- What changes in the record when the field is edited. -/
  entered : Record → Record := id
  /-- How the field's value is shown. -/
  shown : Record → String := fun r => r.textOr name ""

/-- What a record has to meet before it may be saved. -/
inductive Requirement
  /-- The fields are filled. -/
  | filled (fields : List String)
  /-- The fields are filled unless a field is set to true. -/
  | filledUnless (flag : String) (fields : List String)
  /-- The rules of the fields find nothing wrong. -/
  | valid (fields : List String)
  /-- A test of its own passes. -/
  | passes (test : Record → Bool)

structure Schema where
  kind : Kind
  /-- The field of a nested record that names its parent. -/
  parentLink : Option String := none
  /-- The values that a new record starts with. -/
  defaults : List (String × Value) := []
  /-- What a new tree holds under the kind's tag. -/
  seed : Option Value := none
  /-- What creating a record changes in it. -/
  created : Record → Record := id
  /-- What saving a record changes in the tree and in it, given the stored one. -/
  saved : Tree → Record → Record → Tree × Record := fun tree _ merged => (tree, merged)
  references : List Reference := []
  fields : List Field := []
  requirements : List Requirement := []

namespace Schema

def field? (s : Schema) (name : String) : Option Field :=
  s.fields.find? fun field => field.name = name

def defaultRecord (s : Schema) : Record := Record.ofFields s.defaults

/-- Whether the rule of a field, if the schema has the field, finds it wrong. -/
def fieldInvalid (s : Schema) (name : String) (r : Record) (situation : Situation) : Bool :=
  (s.field? name).any fun field => field.invalid r situation

/-- Whether a record fails a requirement. -/
def fails (s : Schema) (r : Record) (situation : Situation) : Requirement → Bool
  | .filled fields => fields.any r.isMissing
  | .filledUnless flag fields => !r.flag flag && fields.any r.isMissing
  | .valid fields => fields.any fun name => s.fieldInvalid name r situation
  | .passes test => !test r

/-- Whether a record must not be saved as it is. -/
def blocks (s : Schema) (r : Record) (situation : Situation) : Bool :=
  s.requirements.any (s.fails r situation)

end Schema

/-! ## Names -/

/-- Whether the name is in use by a sibling of the edited record. -/
def nameTaken (name : String) (situation : Situation) : Bool :=
  Grammar.isTaken (situation.tree.names situation.kind situation.op.parent) name
    situation.op.name

/-- Whether a record's name has the wrong form for its kind or is taken. -/
def nameInvalid (r : Record) (situation : Situation) : Bool :=
  let wellFormed :=
    if situation.kind = .dnsZone then Grammar.isZoneName r.label
    else Grammar.isRecordName r.label
  !wellFormed || nameTaken r.label situation

def nameText (r : Record) (situation : Situation) : String :=
  Grammar.nameAdvice r.label (nameTaken r.label situation)

/-- The name of a record as it is deployed, after the prefix of the options. -/
def deployedName (r : Record) (situation : Situation) : String :=
  let start := ((situation.tree.single? .options).bind (·.text? "prefix")).getD ""
  start ++ "-" ++ r.label

/-- The names of the records of a kind under all parents. -/
def namesOf (kind : Kind) (_ : Record) (situation : Situation) : List String :=
  situation.tree.names kind none

/-- The names of the records of a kind under the parent that a field names, none
if the field holds no text. -/
def namesUnder (kind : Kind) (field : String) (r : Record) (situation : Situation) :
    List String :=
  match r.text? field with
  | some parent => situation.tree.names kind (some parent)
  | none => []

/-! ## Fields found in many schemas -/

namespace Field

def named : Field :=
  { name := "name", invalid := nameInvalid, invalidText := nameText }

def namedWithHelp : Field := { named with helperText := some deployedName }

/-- A field set to true or false. -/
def switch (name : String) (initial : Bool) : Field := { name, initial := some (.bool initial) }

/-- A field that starts with a text. -/
def entry (name : String) (initial : String) : Field := { name, initial := some (.text initial) }

/-- A field with fixed choices. -/
def choice (name : String) (choices : List String) : Field :=
  { name, choices := fun _ _ => choices }

/-- The choice of a record of a kind by name. -/
def selector (name : String) (kind : Kind) : Field :=
  { name, initial := some .null, choices := namesOf kind }

/-- A field for whole numbers within limits. -/
def quantity (name : String) (limits : Limits) : Field :=
  { name
    invalid := fun r _ => !limits.accepts (r.get? name)
    invalidText := fun _ _ => limits.advice }

/-- A field for whole numbers within limits that the context may replace. -/
def boundedQuantity (name : String) (usual : Limits) : Field :=
  { name
    invalid := fun r situation => !(situation.op.limitsOr name usual).accepts (r.get? name)
    invalidText := fun _ situation => (situation.op.limitsOr name usual).advice }

def resourceGroup : Field := selector "resource_group" .resourceGroup

/-- The resource group of a service, which has to be chosen. -/
def requiredResourceGroup : Field :=
  { resourceGroup with
    invalid := fun r _ => r.isUnset "resource_group"
    invalidText := fun _ _ => "Select a resource group" }

def imported : Field := switch "use_data" false

end Field

namespace Reference

def resourceGroup : Reference := one "resource_group" .resourceGroup

end Reference

end Blueprint

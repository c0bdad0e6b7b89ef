import Blueprint.Number.Decimal
import Blueprint.Terraform.Resolution
import Blueprint.Terraform.Section
import Blueprint.Text.Blank

/-!
# Cloud databases

One section of all databases. Memory, disk and processors are allocated in a
group, which is there if anything is allocated.
-/

namespace Blueprint.Terraform.Databases

/-- What is allocated in a field: a positive number, or the numeral of one. -/
def allocation? (database : Record) (field : String) : Option Expression :=
  match database.get? field with
  | some (.number amount) => if amount.toDouble.isPositive then some (.number amount) else none
  | some (.text entered) =>
      let numeral := Text.trimChars entered.toList
      match Decimal.readDouble numeral with
      | some amount =>
          if amount.isPositive then some (.verbatim (String.ofList numeral)) else none
      | none => none
  | _ => none

/-- A resource to allocate with the unit it is allocated in. -/
def allocated (database : Record) (entry : String × String) : List Item :=
  match allocation? database entry.1 with
  | some amount => [.nested entry.1 [.attr ("allocation_" ++ entry.2) amount]]
  | none => []

def group (database : Record) : List Item :=
  let parts := [("memory", "mb"), ("disk", "mb"), ("cpu", "count")].flatMap
    (allocated database)
  if parts.isEmpty then []
  else [
    .nested "group"
      (.attr "group_id" (.text (database.textOr "group_id" "member")) :: parts)]

def block (t : Tree) (database : Record) : Block :=
  let keyManagement := database.filled? "kms"
  .defining (.ofRecord database "ibm_database" (snakeCase database.label)) <| [
    .attr "name" (nameOf database),
    .attr "service" (.text (database.textOr "service" "")),
    .attr "plan" (.text (database.textOr "plan" "standard")),
    .attr "location" regionVariable,
    .attr "resource_group_id" (t.resourceGroupOf database)] ++
    Item.ofText database "version" ++
    Item.optional "key_protect_instance"
      (keyManagement.map fun name => t.keyManagementGuid name) ++
    Item.optional "key_protect_key"
      ((database.filled? "encryption_key").map fun key =>
        t.encryptionKeyCrn keyManagement key) ++
    .attr "tags" t.tags :: group database ++
    [.timeouts [("create", "120m"), ("update", "120m"), ("delete", "15m")]]

def sections (t : Tree) : List Section :=
  Section.ofBlocks "Cloud Databases" ((t.topLevel .database).map (block t))

end Blueprint.Terraform.Databases

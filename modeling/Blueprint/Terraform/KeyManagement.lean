import Blueprint.Terraform.Resolution
import Blueprint.Terraform.Section
import Blueprint.Text.Order

/-!
# Key management

A section for each key management instance with its key rings and keys, and the
authorization that lets another service read keys.
-/

namespace Blueprint.Terraform.KeyManagement

def service (keyManagement : Record) : String :=
  if keyManagement.flag "use_hs_crypto" then "hs-crypto" else "kms"

/-- The service of an instance by its name. -/
def serviceOf (t : Tree) (name : String) : String :=
  match t.lookup? .keyManagement name with
  | some r => service r
  | none => "kms"

def roles : Item := .attr "roles" (.texts ["Reader"])

/-- The authorization of a service instance to read keys of an instance. -/
def authorization (t : Tree) (label sourceService : String) (source : Expression)
    (keyManagement : String) : Block :=
  .defining (.resource "ibm_iam_authorization_policy" label) [
    .attr "source_service_name" (.text sourceService),
    .attr "source_resource_instance_id" source,
    roles,
    .attr "description" (.text "Allow service instance to read from KMS instance"),
    .attr "target_service_name" (.text (serviceOf t keyManagement)),
    .attr "target_resource_instance_id" (t.keyManagementGuid keyManagement)]

/-! ## Instances -/

def block (t : Tree) (keyManagement : Record) : Block :=
  .defining (.keyManagement keyManagement) <| [
    .attr "name" (nameOf keyManagement),
    .attr "resource_group_id" (t.resourceGroupOf keyManagement),
    .attr "service" (.text (service keyManagement))] ++
    if keyManagement.flag "use_data" then []
    else [
      .attr "plan" (.text "tiered-pricing"),
      .attr "location" regionVariable,
      .attr "tags" t.tags]

/-- The authorization of block storage to read keys. -/
def volumeAuthorization (t : Tree) (keyManagement : Record) : Block :=
  let label := snakeCase keyManagement.label ++ "_server_protect_policy"
  .defining (.resource "ibm_iam_authorization_policy" label) [
    .attr "source_service_name" (.text "server-protect"),
    .attr "description"
      (.text "Allow block storage volumes to be encrypted by KMS instance"),
    roles,
    .attr "target_service_name" (.text (service keyManagement)),
    .attr "target_resource_instance_id" (t.keyManagementGuid keyManagement.label)]

def instanceBlocks (t : Tree) (keyManagement : Record) : List Block :=
  block t keyManagement ::
    if keyManagement.flag "authorize_vpc_reader_role" then
      [volumeAuthorization t keyManagement]
    else []

/-! ## Keys -/

def instanceId (t : Tree) (keyManagement : String) : Item :=
  .attr "instance_id" (t.keyManagementGuid keyManagement)

/-- The key rings that keys are put in, in ascending order. -/
def rings (keyManagement : Record) : List String :=
  Text.distinct ((keyManagement.records "keys").filterMap (·.filled? "key_ring"))

def ringBlock (t : Tree) (keyManagement ring : String) : Block :=
  .defining (.keyRing keyManagement ring) [
    instanceId t keyManagement,
    .attr "key_ring_id" (variableName ring)]

def ringBlocks (t : Tree) (keyManagement : Record) : List Block :=
  (rings keyManagement).map (ringBlock t keyManagement.label)

def keyBlock (t : Tree) (keyManagement : String) (key : Record) : Block :=
  let ring := (key.filled? "key_ring").map fun ring =>
    Expression.output (.keyRing keyManagement ring) "key_ring_id"
  .defining (.encryptionKey keyManagement key.label) <| [
    instanceId t keyManagement,
    .attr "key_name" (variableName key.label),
    .attr "standard_key" (.bool (!key.flag "root_key"))] ++
    Item.optional "key_ring_id" ring ++ [
    .attr "force_delete" (.bool (key.flag "force_delete")),
    .attr "endpoint_type" (.text "public")]

/-- The rotation of a key every so many months. -/
def rotationBlock (t : Tree) (keyManagement : String) (key : Record) (months : Int) : Block :=
  let label := encryptionKeyLabel keyManagement key.label ++ "_policy"
  .defining (.resource "ibm_kms_key_policies" label) [
    instanceId t keyManagement,
    .attr "key_id" (.output (.encryptionKey keyManagement key.label) "key_id"),
    .nested "rotation" [.attr "interval_month" (.ofInt months)],
    .nested "dual_auth_delete" [.attr "enabled" (.bool (key.flag "dual_auth_delete"))]]

def keyBlocks (t : Tree) (keyManagement : String) (key : Record) : List Block :=
  keyBlock t keyManagement key ::
    match (key.int? "rotation").filter (0 < ·) with
    | some months => [rotationBlock t keyManagement key months]
    | none => []

def blocks (t : Tree) (keyManagement : Record) : List Block :=
  instanceBlocks t keyManagement ++ ringBlocks t keyManagement ++
    (keyManagement.records "keys").flatMap (keyBlocks t keyManagement.label)

def sections (t : Tree) : List Section :=
  (t.topLevel .keyManagement).map fun keyManagement =>
    ⟨titleCase keyManagement.label ++ " Key Management", blocks t keyManagement⟩

end Blueprint.Terraform.KeyManagement

import Blueprint.Terraform.Amount
import Blueprint.Terraform.Resolution
import Blueprint.Terraform.Section

/-!
# Event streams

One section of all event streams instances.
-/

namespace Blueprint.Terraform.EventStreams

/-- The addresses that are let in: the texts of a list, or what stands between the
commas of a text. -/
def allowedAddresses : Value → List String
  | .list items => items.filterMap Value.text?
  | .text entered =>
      (((entered.toList.splitOn ',').map Text.trimChars).filter (!·.isEmpty)).map String.ofList
  | _ => []

/-- The addresses that are let in as one text, if there are any. -/
def allowlist (value : Value) : Option String :=
  let addresses := allowedAddresses value
  if addresses.isEmpty then none else some ("[" ++ Text.join "," addresses ++ "]")

/-- A parameter that is there only if it has a text. -/
def parameter (name : String) (value : Option String) : List (String × Expression) :=
  (value.map fun text => (name, .text text)).toList

def parameters (streams : Record) : List (String × Expression) :=
  ("service-endpoints", .text (streams.textOr "endpoints" "private")) ::
    parameter "private_ip_allowlist" ((streams.get? "private_ip_allowlist").bind allowlist) ++
    parameter "throughput" ((streams.filled? "throughput").map throughput) ++
    parameter "storage_size" ((streams.filled? "storage_size").map storageSize)

def block (t : Tree) (streams : Record) : Block :=
  .defining (.resource "ibm_resource_instance" (snakeCase streams.label ++ "_es")) [
    .attr "name" (t.deploymentName streams.label),
    .attr "service" (.text "messagehub"),
    .attr "plan" (.text (streams.textOr "plan" "")),
    .attr "location" (.text t.region),
    .attr "resource_group_id" (t.resourceGroupOf streams),
    .map "parameters" (parameters streams),
    .timeouts [("create", "3h"), ("update", "1h"), ("delete", "1h")]]

def sections (t : Tree) : List Section :=
  Section.ofBlocks "Event Streams" ((t.topLevel .eventStreams).map (block t))

end Blueprint.Terraform.EventStreams

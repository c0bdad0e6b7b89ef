import Blueprint.Schema.Storage
import Blueprint.Grammar.Network

/-!
# Platform services

Resource groups, databases, event streams and App ID instances with their keys.
-/

namespace Blueprint

namespace ResourceGroup

/-- The groups of a new deployment. -/
def initialNames : List String := ["service-rg", "management-rg", "workload-rg"]

def initialGroup (name : String) : Value :=
  .object [("name", .text name), ("use_data", .bool false), ("use_prefix", .bool true)]

def schema : Schema :=
  { kind := .resourceGroup
    seed := some (.list (initialNames.map initialGroup))
    fields := [
      { Field.named with
        helperText := some fun r situation =>
          if r.flag "use_prefix" then deployedName r situation else r.label },
      .switch "use_prefix" true,
      .imported]
    requirements := [.valid ["name"]] }

end ResourceGroup

namespace Database

def services : List String := [
  "databases-for-postgresql", "databases-for-etcd", "databases-for-redis",
  "databases-for-mongodb", "databases-for-mysql", "messages-for-rabbitmq",
  "databases-for-elasticsearch"]

/-- Gigabytes of memory. -/
def memory : Limits := ⟨1, 112⟩

/-- Gigabytes of disk. -/
def disk : Limits := ⟨5, 4096⟩

/-- Dedicated cores. -/
def cpu : Limits := ⟨0, 28⟩

/-- An allocation, where zero counts as nothing. -/
def allocation (name : String) (usual : Limits) : Field :=
  { Field.boundedQuantity name usual with
    optional := true
    invalid := fun r situation =>
      !(r.get? name).any Value.isZeroQuantity &&
        !(situation.op.limitsOr name usual).accepts (r.get? name) }

def schema : Schema :=
  { kind := .database
    references := [.resourceGroup, .keyManagement, .encryptionKey]
    fields := [
      .namedWithHelp,
      .imported,
      .requiredResourceGroup,
      { Field.choice "service" services with entered := fun r => r.insert "version" .null },
      .entry "plan" "standard",
      .entry "group_id" "member",
      allocation "memory" memory,
      allocation "disk" disk,
      allocation "cpu" cpu,
      .keyManagement,
      .encryptionKey,
      { name := "version", optional := true }]
    requirements := [
      .filled ["resource_group", "service"],
      .valid ["name", "memory", "disk", "cpu"]] }

end Database

namespace EventStreams

def throughputs : List String := ["150MB/s", "300MB/s", "450MB/s"]

def storageSizes : List String := ["2TB", "6TB", "12TB"]

/-- Whether the settings of the enterprise plan are left out. -/
def isBelowEnterprise (r : Record) : Bool := r.text? "plan" ≠ some "enterprise"

/-- A size that is one of the offered ones, if anything. -/
def offered (name : String) (sizes : List String) : Field :=
  { Field.choice name sizes with
    invalid := fun r _ => (r.filled? name).any fun size => !sizes.contains size
    hidden := isBelowEnterprise }

def schema : Schema :=
  { kind := .eventStreams
    references := [.resourceGroup]
    fields := [
      .namedWithHelp,
      .choice "plan" ["lite", "standard", "enterprise"],
      .requiredResourceGroup,
      { Field.choice "endpoints" ["public", "private", "public-and-private"] with
        initial := some (.text "private")
        hidden := isBelowEnterprise },
      { name := "private_ip_allowlist"
        optional := true
        invalid := fun r _ => !Grammar.isAddressList (r.textOr "private_ip_allowlist" "")
        invalidText := fun _ _ => "Enter a comma separated list of IP addresses or CIDR blocks"
        hidden := isBelowEnterprise },
      offered "throughput" throughputs,
      offered "storage_size" storageSizes]
    requirements := [
      .filled ["resource_group", "plan"],
      .valid ["name", "private_ip_allowlist", "throughput", "storage_size"]] }

end EventStreams

namespace AppId

def schema : Schema :=
  { kind := .appId
    defaults := [("keys", .list [])]
    references := [.resourceGroup]
    fields := [.namedWithHelp, .imported, .requiredResourceGroup]
    requirements := [.valid ["name"], .filled ["resource_group"]] }

def keySchema : Schema :=
  { kind := .appIdKey
    fields := [.namedWithHelp]
    requirements := [.valid ["name"]] }

end AppId

end Blueprint

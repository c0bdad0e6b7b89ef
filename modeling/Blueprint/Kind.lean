/-!
# Resource kinds

The closed list of record kinds in a deployment description. Every kind has a
tag and a place: a list under its tag, a single record under its tag, or a list
in a field of each record of another kind. A kind comes after the kind that holds
its records.
-/

namespace Blueprint

inductive Kind
  | options
  | resourceGroup
  | keyManagement
  | encryptionKey
  | objectStorage
  | bucket
  | storageKey
  | secretsManager
  | vpc
  | subnet
  | securityGroup
  | securityRule
  | sshKey
  | transitGateway
  | dns
  | dnsZone
  | dnsRecord
  | dnsResolver
  | database
  | eventStreams
  | accessGroup
  | accessPolicy
  | dynamicPolicy
  | accountSettings
  | appId
  | appIdKey
  | activityTracker
  | classicSshKey
  | classicVlan
  deriving DecidableEq, Inhabited

/-- Where the records of a kind are kept. -/
inductive Location
  | collection
  | single
  | nested (parent : Kind) (field : String)
  deriving DecidableEq

namespace Kind

/-- Every kind, holders before what they hold. -/
def all : List Kind := [
  options, resourceGroup, keyManagement, encryptionKey, objectStorage, bucket, storageKey,
  secretsManager, vpc, subnet, securityGroup, securityRule, sshKey, transitGateway, dns,
  dnsZone, dnsRecord, dnsResolver, database, eventStreams, accessGroup, accessPolicy,
  dynamicPolicy, accountSettings, appId, appIdKey, activityTracker, classicSshKey,
  classicVlan]

theorem mem_all (kind : Kind) : kind ∈ all := by
  cases kind <;> decide

theorem nodup_all : all.Nodup := by decide

/-- The tag of a kind, which is also its key in a description when its records
are kept at the top. -/
def tag : Kind → String
  | options => "_options"
  | resourceGroup => "resource_groups"
  | keyManagement => "key_management"
  | encryptionKey => "encryption_keys"
  | objectStorage => "object_storage"
  | bucket => "buckets"
  | storageKey => "cos_keys"
  | secretsManager => "secrets_manager"
  | vpc => "vpcs"
  | subnet => "subnets"
  | securityGroup => "security_groups"
  | securityRule => "sg_rules"
  | sshKey => "ssh_keys"
  | transitGateway => "transit_gateways"
  | dns => "dns"
  | dnsZone => "zones"
  | dnsRecord => "records"
  | dnsResolver => "custom_resolvers"
  | database => "icd"
  | eventStreams => "event_streams"
  | accessGroup => "access_groups"
  | accessPolicy => "policies"
  | dynamicPolicy => "dynamic_policies"
  | accountSettings => "iam_account_settings"
  | appId => "appid"
  | appIdKey => "appid_key"
  | activityTracker => "atracker"
  | classicSshKey => "classic_ssh_keys"
  | classicVlan => "classic_vlans"

def location : Kind → Location
  | options | accountSettings | activityTracker => .single
  | encryptionKey => .nested keyManagement "keys"
  | bucket => .nested objectStorage "buckets"
  | storageKey => .nested objectStorage "keys"
  | subnet => .nested vpc "subnets"
  | securityRule => .nested securityGroup "rules"
  | dnsZone => .nested dns "zones"
  | dnsRecord => .nested dns "records"
  | dnsResolver => .nested dns "custom_resolvers"
  | accessPolicy => .nested accessGroup "policies"
  | dynamicPolicy => .nested accessGroup "dynamic_policies"
  | appIdKey => .nested appId "keys"
  | resourceGroup | keyManagement | objectStorage | secretsManager | vpc | securityGroup
  | sshKey | transitGateway | dns | database | eventStreams | accessGroup | appId
  | classicSshKey | classicVlan => .collection

/-- The kind whose records hold the records of a kind. -/
def parent (kind : Kind) : Option Kind :=
  match kind.location with
  | .nested parent _ => some parent
  | .collection | .single => none

/-- The field of a parent record that holds the records of a kind. -/
def holdingField (kind : Kind) : Option String :=
  match kind.location with
  | .nested _ field => some field
  | .collection | .single => none

/-- Whether the records of a kind are kept at the top of a description. -/
def isTopLevel (kind : Kind) : Bool := kind.parent.isNone

/-- The kinds whose records are held by the records of a kind. -/
def children (kind : Kind) : List Kind := all.filter fun child => child.parent = some kind

/-- The kind with a given tag. -/
def ofTag? (tag : String) : Option Kind := all.find? fun kind => kind.tag = tag

theorem ofTag?_tag (kind : Kind) : ofTag? kind.tag = some kind := by
  cases kind <;> decide

/-- A holder keeps its own records in a list at the top. -/
theorem location_of_parent {kind parent : Kind} (h : kind.parent = some parent) :
    parent.location = .collection := by
  cases kind <;> simp [Kind.parent, location] at h <;> subst h <;> rfl

end Kind

end Blueprint

import Blueprint.Schema.Classic
import Blueprint.Schema.Dns
import Blueprint.Schema.Identity
import Blueprint.Schema.Network
import Blueprint.Schema.Options
import Blueprint.Schema.Platform

/-!
# Registry

The schema of every kind, the references that mean records of a kind, and the
consistency of the tables: a schema is registered under its own kind, declares
each field once, and refers to parents only where there are parents.
-/

namespace Blueprint

/-- The schema of a kind. -/
def Kind.schema : Kind → Schema
  | options => Options.schema
  | resourceGroup => ResourceGroup.schema
  | keyManagement => KeyManagement.schema
  | encryptionKey => KeyManagement.keySchema
  | objectStorage => ObjectStorage.schema
  | bucket => ObjectStorage.bucketSchema
  | storageKey => ObjectStorage.keySchema
  | secretsManager => SecretsManager.schema
  | vpc => Vpc.schema
  | subnet => Vpc.subnetSchema
  | securityGroup => SecurityGroup.schema
  | securityRule => SecurityGroup.ruleSchema
  | sshKey => SshKey.schema
  | transitGateway => TransitGateway.schema
  | dns => Dns.schema
  | dnsZone => Dns.zoneSchema
  | dnsRecord => Dns.recordSchema
  | dnsResolver => Dns.resolverSchema
  | database => Database.schema
  | eventStreams => EventStreams.schema
  | accessGroup => AccessGroup.schema
  | accessPolicy => AccessGroup.policySchema
  | dynamicPolicy => AccessGroup.ruleSchema
  | accountSettings => AccountSettings.schema
  | appId => AppId.schema
  | appIdKey => AppId.keySchema
  | activityTracker => ActivityTracker.schema
  | classicSshKey => Classic.keySchema
  | classicVlan => Classic.vlanSchema

namespace Kind

/-- The places that hold names of records of a kind, with the kinds they are
in. -/
def referencedBy (target : Kind) : List (Kind × Reference) :=
  all.flatMap fun kind =>
    (kind.schema.references.filter fun reference => reference.target = target).map
      fun reference => (kind, reference)

/-- Whether a record of a kind must not be saved as it is. -/
def blocksSave (kind : Kind) (r : Record) (tree : Tree) (op : Context) : Bool :=
  kind.schema.blocks r ⟨kind, tree, op⟩

/-! ## Consistency -/

/-- Whether a scope can tell the parent of the records it admits. -/
def scopeIsSound (holder target : Kind) : Scope → Bool
  | .anywhere => true
  | .sibling => target.parent.isSome && target.parent = holder.parent
  | .underField _ => target.parent.isSome
  | .underParentField _ => target.parent.isSome && holder.parent.isSome

/-- Whether a kind's schema agrees with the place of its records. -/
def locationIsSound (kind : Kind) : Bool :=
  match kind.location with
  | .single => kind.schema.seed.isSome && kind.schema.parentLink.isNone
  | .collection => kind.schema.parentLink.isNone
  | .nested parent _ => kind.schema.seed.isNone && parent.location = .collection

def schemaIsSound (kind : Kind) : Bool :=
  kind.schema.kind = kind &&
    decide (kind.schema.fields.map (·.name)).Nodup &&
    locationIsSound kind &&
    kind.schema.references.all fun reference =>
      (kind.schema.field? reference.path.root).isSome &&
        scopeIsSound kind reference.target reference.scope

/-- Whether the tables are consistent. -/
def registryIsSound : Bool := all.all schemaIsSound

theorem registryIsSound_eq_true : registryIsSound = true := by decide

theorem schema_kind (kind : Kind) : kind.schema.kind = kind := by
  cases kind <;> rfl

end Kind

end Blueprint

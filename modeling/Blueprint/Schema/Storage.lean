import Blueprint.Schema.Field

/-!
# Keys and storage

Key management instances with their encryption keys, object storage instances
with their buckets and credentials, secrets managers, and the activity tracker
that writes to a bucket.
-/

namespace Blueprint

namespace Reference

def keyManagement : Reference := one "kms" .keyManagement

/-- An encryption key of the key management instance that the record names. -/
def encryptionKey : Reference :=
  (one "encryption_key" .encryptionKey).under (.underField "kms")

end Reference

namespace Field

def keyManagement : Field := selector "kms" .keyManagement

/-- The choice of a key of the chosen key management instance. -/
def encryptionKey : Field :=
  { name := "encryption_key"
    initial := some .null
    choices := namesUnder .encryptionKey "kms" }

end Field

namespace KeyManagement

def schema : Schema :=
  { kind := .keyManagement
    defaults := [("keys", .list [])]
    references := [.resourceGroup]
    fields := [
      .namedWithHelp,
      .requiredResourceGroup,
      .imported,
      .switch "use_hs_crypto" false,
      .switch "authorize_vpc_reader_role" true]
    requirements := [.valid ["name"], .filled ["resource_group"]] }

/-- Months between rotations of a key. -/
def rotation : Limits := ⟨1, 12⟩

def keySchema : Schema :=
  { kind := .encryptionKey
    fields := [
      .namedWithHelp,
      .switch "root_key" true,
      { name := "key_ring"
        optional := true
        invalid := fun r _ => (r.filled? "key_ring").any fun ring => !Grammar.isRecordName ring
        invalidText := fun _ _ => "Invalid key ring name" },
      .switch "force_delete" false,
      .switch "dual_auth_delete" false,
      { Field.quantity "rotation" rotation with initial := some (.ofInt 1) }]
    requirements := [.valid ["name", "key_ring", "rotation"]] }

end KeyManagement

namespace ObjectStorage

def schema : Schema :=
  { kind := .objectStorage
    defaults := [("buckets", .list []), ("keys", .list [])]
    references := [.resourceGroup, .keyManagement]
    fields := [
      .namedWithHelp,
      .imported,
      .requiredResourceGroup,
      .keyManagement,
      .entry "plan" "standard",
      .switch "use_random_suffix" true]
    requirements := [.valid ["name"], .filled ["kms", "resource_group"]] }

/-- Whether a bucket names no key that it may use. It may use the keys of its
instance's key management, and any key while its instance is not known. -/
def bucketKeyInvalid (r : Record) (situation : Situation) : Bool :=
  match r.filled? "kms_key" with
  | none => true
  | some key =>
      match situation.op.parent with
      | none => !(situation.tree.names .encryptionKey none).contains key
      | some parent =>
          let storage := situation.tree.find? .objectStorage none parent
          match storage.bind (·.text? "kms") with
          | some kms => (situation.tree.find? .encryptionKey (some kms) key).isNone
          | none => true

def bucketSchema : Schema :=
  { kind := .bucket
    references := [(Reference.one "kms_key" .encryptionKey).under (.underParentField "kms")]
    fields := [
      .namedWithHelp,
      { Field.choice "storage_class" ["standard", "vault", "cold", "smart"] with
        initial := some (.text "standard") },
      { name := "kms_key"
        initial := some .null
        invalid := bucketKeyInvalid
        invalidText := fun _ _ => "Select an encryption key" },
      .switch "force_delete" false,
      .entry "endpoint" "public"]
    requirements := [.valid ["name", "kms_key"]] }

def keyRoles : List String :=
  ["Object Writer", "Object Reader", "Content Reader", "Reader", "Writer", "Manager"]

def keySchema : Schema :=
  { kind := .storageKey
    fields := [
      .namedWithHelp,
      { Field.choice "role" keyRoles with initial := some (.text "Writer") },
      .switch "enable_hmac" false]
    requirements := [.valid ["name"]] }

end ObjectStorage

namespace SecretsManager

def schema : Schema :=
  { kind := .secretsManager
    references := [.resourceGroup, .keyManagement, .encryptionKey]
    fields := [
      .namedWithHelp,
      .requiredResourceGroup,
      .keyManagement,
      .encryptionKey,
      { Field.choice "plan" ["standard", "trial"] with initial := some (.text "standard") }]
    requirements := [.valid ["name"], .filled ["encryption_key", "resource_group"]] }

end SecretsManager

namespace ActivityTracker

def schema : Schema :=
  { kind := .activityTracker
    seed := some (.object (Record.ofFields [
      ("enabled", .bool false), ("type", .text "cos"), ("name", .text "atracker"),
      ("bucket", .null), ("cos_key", .null), ("add_route", .bool true),
      ("locations", .texts ["global", "us-south"])]))
    references := [.one "bucket" .bucket, .one "cos_key" .storageKey]
    fields := [
      .switch "enabled" false,
      .entry "type" "cos",
      .entry "name" "atracker",
      .selector "bucket" .bucket,
      .selector "cos_key" .storageKey,
      .switch "add_route" true,
      { name := "locations", initial := some (.texts ["global", "us-south"]) }]
    requirements := [.filled ["bucket", "cos_key", "locations"]] }

end ActivityTracker

end Blueprint

import Blueprint.Terraform.KeyManagement

/-!
# Object storage

A section for each object storage instance with its buckets and service
credentials. An instance may carry a random suffix, which then ends the names of
all of them.
-/

namespace Blueprint.Terraform.ObjectStorage

def suffixBlock (storage : Record) : Block :=
  .defining (.randomSuffix storage.label) [
    .attr "length" (.ofInt 8),
    .attr "special" (.bool false),
    .attr "upper" (.bool false)]

/-- The random suffix of an instance, the empty text if it has none. -/
def suffix (storage : Record) : String :=
  if storage.flag "use_random_suffix" then
    "-" ++ interpolated ((Address.randomSuffix storage.label).text ++ ".result")
  else ""

def suffixedName (storage : Record) (name : String) : Expression :=
  variableName (name ++ suffix storage)

def block (t : Tree) (storage : Record) : Block :=
  let name := storage.label
  let imported := storage.flag "use_data"
  .defining (.objectStorage storage) <| [
    .attr "name"
      (if imported then .text name else suffixedName storage (name ++ "-object-storage")),
    .attr "resource_group_id" (t.resourceGroupOf storage),
    .attr "service" (.text "cloud-object-storage")] ++
    if imported then []
    else [
      .attr "location" (.text "global"),
      .attr "plan" (.text (storage.textOr "plan" "standard")),
      .attr "tags" t.tags]

/-- The authorization of an instance to read keys, if it uses any. -/
def authorization (t : Tree) (storage : Record) : List Block :=
  match storage.filled? "kms" with
  | none => []
  | some keyManagement =>
      let label := labelOf [storage.label, "cos to", keyManagement, "kms policy"]
      [KeyManagement.authorization t label "cloud-object-storage"
        (t.objectStorageOutput storage.label "guid") keyManagement]

def instanceBlocks (t : Tree) (storage : Record) : List Block :=
  (if storage.flag "use_random_suffix" then [suffixBlock storage] else []) ++
    block t storage :: authorization t storage

def bucketBlock (t : Tree) (storage bucket : Record) : Block :=
  .defining (.bucket storage.label bucket.label) [
    .attr "bucket_name" (suffixedName storage bucket.label),
    .attr "resource_instance_id" (t.objectStorageOutput storage.label "id"),
    .attr "storage_class" (.text (bucket.textOr "storage_class" "standard")),
    .attr "endpoint_type" (.text (bucket.textOr "endpoint" "public")),
    .attr "force_delete" (.bool (bucket.flag "force_delete")),
    .attr "region_location" regionVariable,
    .attr "key_protect"
      (t.encryptionKeyCrn (storage.text? "kms") (bucket.text? "kms_key"))]

def keyBlock (t : Tree) (storage key : Record) : Block :=
  .defining (.storageKey storage.label key.label) <| [
    .attr "name" (suffixedName storage key.label),
    .attr "resource_instance_id" (t.objectStorageOutput storage.label "id"),
    .attr "role" (.text (key.textOr "role" "Writer")),
    .attr "tags" t.tags] ++
    if key.flag "enable_hmac" then [.map "parameters" [("HMAC", .bool true)]] else []

def blocks (t : Tree) (storage : Record) : List Block :=
  instanceBlocks t storage ++ (storage.records "buckets").map (bucketBlock t storage) ++
    (storage.records "keys").map (keyBlock t storage)

def sections (t : Tree) : List Section :=
  (t.topLevel .objectStorage).map fun storage =>
    ⟨titleCase storage.label ++ " Object Storage", blocks t storage⟩

end Blueprint.Terraform.ObjectStorage

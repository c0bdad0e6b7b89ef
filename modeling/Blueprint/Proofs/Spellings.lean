import Blueprint.Proofs.Emission
import Blueprint.Proofs.NameWords
import Mathlib.Data.List.Perm.Basic

/-!
# Spellings of addresses

An address read word by word: its type, whether it belongs to a data source, and the words
of its label. The blocks for a record are told by the names in it, type by type, whatever
else is in their bodies.
-/

namespace Blueprint

def Record.nameWords (r : Record) : List String := Terraform.nameWords r.label

namespace Terraform

/-- The type of an address, whether it belongs to a data source, and the words of its
label. -/
abbrev Spelling := String × Bool × List String

def Address.spelling : Address → Spelling
  | .resource type label => (type, false, nameWords label)
  | .data type label => (type, true, nameWords label)
  | .module label => ("module", false, nameWords label)

/-- A block is told by its keyword and its labels. -/
def Block.spelling (b : Block) : Spelling :=
  match b.labels with
  | [type, label] => (type, b.keyword = "data", nameWords label)
  | labels => (b.keyword, false, labels.flatMap nameWords)

@[simp] theorem Block.spelling_defining (address : Address) (body : List Item) :
    (defining address body).spelling = address.spelling := by
  cases address <;> simp [defining, spelling, Address.spelling]

/-- What labels add to the names that they are made of. -/
@[simp] theorem nameWords_fixed :
    nameWords "_" = [] ∧ nameWords "vpc" = ["vpc"] ∧ nameWords "sg" = ["sg"] ∧
    nameWords "_vpc" = ["vpc"] ∧ nameWords "_prefix" = ["prefix"] ∧
    nameWords "_flow_log_collector" = ["flow", "log", "collector"] ∧
    nameWords "_rule_" = ["rule"] ∧ nameWords "data_" = ["data"] ∧ nameWords "_to_" = ["to"] ∧
    nameWords "_connection" = ["connection"] ∧ nameWords "_ssh_key" = ["ssh", "key"] ∧
    nameWords "classic_ssh_key_" = ["classic", "ssh", "key"] ∧
    nameWords "classic_vlan_" = ["classic", "vlan"] ∧
    nameWords "_dns_instance" = ["dns", "instance"] ∧ nameWords "dns zone" = ["dns", "zone"] ∧
    nameWords "dns permitted network" = ["dns", "permitted", "network"] ∧
    nameWords "dns record" = ["dns", "record"] ∧ nameWords "dns resolver" = ["dns", "resolver"] ∧
    nameWords "_server_protect_policy" = ["server", "protect", "policy"] ∧
    nameWords "ring" = ["ring"] ∧ nameWords "key" = ["key"] ∧ nameWords "_policy" = ["policy"] ∧
    nameWords "_random_suffix" = ["random", "suffix"] ∧
    nameWords "_object_storage" = ["object", "storage"] ∧
    nameWords "cos to" = ["cos", "to"] ∧ nameWords "kms policy" = ["kms", "policy"] ∧
    nameWords "object storage" = ["object", "storage"] ∧ nameWords "bucket" = ["bucket"] ∧
    nameWords "object storage key" = ["object", "storage", "key"] ∧ nameWords "_es" = ["es"] ∧
    nameWords "secrets manager to" = ["secrets", "manager", "to"] ∧
    nameWords "_secrets_manager" = ["secrets", "manager"] ∧
    nameWords "iam_account_settings" = ["iam", "account", "settings"] ∧
    nameWords "_access_group" = ["access", "group"] ∧ nameWords "policy" = ["policy"] ∧
    nameWords "dynamic rule" = ["dynamic", "rule"] ∧ nameWords "_invites" = ["invites"] ∧
    nameWords "_cos_target" = ["cos", "target"] ∧ nameWords "_route" = ["route"] := by
  decide +kernel

/-! ## Labels of one record -/

/-- The words that the label of a top-level record begins with. -/
def leadingWords (kind : Kind) (r : Record) : List String :=
  match kind with
  | .securityGroup => nameWords (r.textOr "vpc" "") ++ "vpc" :: r.nameWords
  | _ => r.nameWords

/-- The words that tell the service of an instance behind its name. Key management and
App ID instances have none. -/
def serviceWords : Kind → List String
  | .dns => ["dns", "instance"]
  | .objectStorage => ["object", "storage"]
  | .eventStreams => ["es"]
  | .secretsManager => ["secrets", "manager"]
  | _ => []

/-- The words between the name of a record and that of the record that holds it. -/
def linkWords : Kind → List String
  | .securityRule => ["sg", "rule"]
  | .dnsZone => ["dns", "zone"]
  | .dnsRecord => ["dns", "record"]
  | .dnsResolver => ["dns", "resolver"]
  | .bucket => ["object", "storage"]
  | .storageKey => ["object", "storage", "key"]
  | .appIdKey => ["key"]
  | _ => []

/-- The words of the labels of the records that a record holds for a kind, as far as the
names go. -/
def heldWords (kind parentKind : Kind) (field : String) (holder : Record) :
    List (List String) :=
  (holder.records field).map fun r =>
    leadingWords parentKind holder ++ linkWords kind ++ r.nameWords

/-- Resources, one for each label with certain words and others at the end. -/
def resources (ending : List String) (labels : List (List String)) : List (Bool × List String) :=
  labels.map fun words => (false, words ++ ending)

/-- A resource, if some condition holds. -/
def resourceIf (condition : Bool) (words : List String) : List (Bool × List String) :=
  if condition then [(false, words)] else []

theorem flatMap_if {α β : Type} (items : List α) (condition : α → Bool) (f : α → β) :
    (items.flatMap fun a => if condition a then [f a] else []) =
      (items.filter condition).map f := by
  induction items with
  | nil => rfl
  | cons a rest ih =>
      rw [List.flatMap_cons, ih, List.filter_cons]
      cases condition a <;> rfl

def logsFlow (vpc : Record) : Bool :=
  ((vpc.filled? "bucket").filter (· ≠ Vpc.logsDisabled)).isSome

def rotates (key : Record) : Bool := ((key.int? "rotation").filter (0 < ·)).isSome

/-- The words of the label of an authorization to read keys, as far as the names go. -/
def authorizationWords (link : List String) (r : Record) : List (List String) :=
  ((r.filled? "kms").map fun keyManagement =>
    r.nameWords ++ link ++ nameWords keyManagement).toList

def connectionWords (connection : Record) : List String :=
  nameWords (connection.textOr "tgw" "") ++
    "to" :: nameWords (TransitGateways.Peer.ofConnection connection).label

/-- The words of the labels of a service's permitted networks. -/
def networkWords (dns : Record) : List (List String) :=
  (dns.records "zones").flatMap fun zone => (zone.texts "vpcs").map fun vpc =>
    dns.nameWords ++ ["dns", "permitted", "network"] ++ zone.nameWords ++ nameWords vpc

/-- What is told of the addresses for a record of a kind, type by type. -/
def labelWords : Kind → List (String × (Record → List (Bool × List String)))
  | .resourceGroup => [("ibm_resource_group", fun r => [(r.flag "use_data", r.nameWords)])]
  | .vpc => [
      ("module", fun r => [(false, r.nameWords ++ ["vpc"])]),
      ("ibm_is_vpc_address_prefix", fun r => resources ["prefix"] <|
        (r.records "address_prefixes").map fun entry => r.nameWords ++ entry.nameWords),
      ("ibm_is_subnet", fun r => resources [] (heldWords .subnet .vpc "subnets" r)),
      ("ibm_is_flow_log", fun r =>
        resourceIf (logsFlow r) (r.nameWords ++ ["flow", "log", "collector"]))]
  | .securityGroup => [
      ("ibm_is_security_group", fun r => [(false, leadingWords .securityGroup r ++ ["sg"])]),
      ("ibm_is_security_group_rule", fun r =>
        resources [] (heldWords .securityRule .securityGroup "rules" r))]
  | .transitGateway => [
      ("ibm_tg_gateway", fun r => [(r.flag "use_data",
        if r.flag "use_data" then "data" :: r.nameWords else r.nameWords)]),
      ("ibm_tg_connection", fun r =>
        resources ["connection"] ((TransitGateways.connections r).map connectionWords))]
  | .classicSshKey => [("ibm_compute_ssh_key", fun r =>
      resourceIf (r.text? "datacenter").isSome (["classic", "ssh", "key"] ++ r.nameWords))]
  | .classicVlan => [("ibm_network_vlan", fun r =>
      resourceIf (r.text? "datacenter").isSome (["classic", "vlan"] ++ r.nameWords))]
  | .dns => [
      ("ibm_resource_instance", fun r => [(false, r.nameWords ++ serviceWords .dns)]),
      ("ibm_dns_zone", fun r => resources [] (heldWords .dnsZone .dns "zones" r)),
      ("ibm_dns_permitted_network", fun r => resources [] (networkWords r)),
      ("ibm_dns_resource_record", fun r => resources [] (heldWords .dnsRecord .dns "records" r)),
      ("ibm_dns_custom_resolver", fun r =>
        resources [] (heldWords .dnsResolver .dns "custom_resolvers" r))]
  | .sshKey => [
      ("ibm_is_ssh_key", fun r => [(r.flag "use_data", r.nameWords ++ ["ssh", "key"])])]
  | .keyManagement => [
      ("ibm_resource_instance", fun r =>
        [(r.flag "use_data", r.nameWords ++ serviceWords .keyManagement)]),
      ("ibm_iam_authorization_policy", fun r =>
        resourceIf (r.flag "authorize_vpc_reader_role")
          (r.nameWords ++ ["server", "protect", "policy"])),
      ("ibm_kms_key_rings", fun r => resources ["ring"] <|
        (KeyManagement.rings r).map fun ring => r.nameWords ++ nameWords ring),
      ("ibm_kms_key", fun r =>
        resources ["key"] (heldWords .encryptionKey .keyManagement "keys" r)),
      ("ibm_kms_key_policies", fun r => resources ["key", "policy"] <|
        ((r.records "keys").filter rotates).map fun key => r.nameWords ++ key.nameWords)]
  | .objectStorage => [
      ("random_string", fun r =>
        resourceIf (r.flag "use_random_suffix") (r.nameWords ++ ["random", "suffix"])),
      ("ibm_resource_instance", fun r =>
        [(r.flag "use_data", r.nameWords ++ serviceWords .objectStorage)]),
      ("ibm_iam_authorization_policy", fun r =>
        resources ["kms", "policy"] (authorizationWords ["cos", "to"] r)),
      ("ibm_cos_bucket", fun r =>
        resources ["bucket"] (heldWords .bucket .objectStorage "buckets" r)),
      ("ibm_resource_key", fun r =>
        resources [] (heldWords .storageKey .objectStorage "keys" r))]
  | .database => [("ibm_database", fun r => [(r.flag "use_data", r.nameWords)])]
  | .eventStreams => [
      ("ibm_resource_instance", fun r => [(false, r.nameWords ++ serviceWords .eventStreams)])]
  | .secretsManager => [
      ("ibm_iam_authorization_policy", fun r =>
        resources ["kms", "policy"] (authorizationWords ["secrets", "manager", "to"] r)),
      ("ibm_resource_instance", fun r =>
        [(false, r.nameWords ++ serviceWords .secretsManager)])]
  | .appId => [
      ("ibm_resource_instance", fun r =>
        [(r.flag "use_data", r.nameWords ++ serviceWords .appId)]),
      ("ibm_resource_key", fun r => resources [] (heldWords .appIdKey .appId "keys" r))]
  | .accountSettings => [("ibm_iam_account_settings", fun r =>
      resourceIf (r.flag "enable") ["iam", "account", "settings"])]
  | .accessGroup => [
      ("ibm_iam_access_group", fun r => [(false, r.nameWords ++ ["access", "group"])]),
      ("ibm_iam_access_group_policy", fun r =>
        resources ["policy"] (heldWords .accessPolicy .accessGroup "policies" r)),
      ("ibm_iam_access_group_dynamic_rule", fun r => resources ["dynamic", "rule"]
        (heldWords .dynamicPolicy .accessGroup "dynamic_policies" r)),
      ("ibm_iam_user_invite", fun r => resourceIf (!(AccessGroups.invitedUsers r).isEmpty)
        (r.nameWords ++ ["invites"]))]
  | .activityTracker => [
      ("ibm_atracker_target", fun r => resourceIf (r.flag "enabled")
        (nameWords (ActivityTracker.nameOf r) ++ ["cos", "target"])),
      ("ibm_atracker_route", fun r => resourceIf (r.flag "enabled" && r.flag "add_route")
        (nameWords (ActivityTracker.nameOf r) ++ ["route"]))]
  | .options | .encryptionKey | .bucket | .storageKey | .subnet | .securityRule | .dnsZone
  | .dnsRecord | .dnsResolver | .accessPolicy | .dynamicPolicy | .appIdKey => []

/-- What is told of the addresses for a record of a kind. -/
def spellings (kind : Kind) (r : Record) : List Spelling :=
  (labelWords kind).flatMap fun entry => (entry.2 r).map (entry.1, ·)

theorem spelling_ofRecord (r : Record) (type label : String) :
    (Address.ofRecord r type label).spelling = (type, r.flag "use_data", nameWords label) := by
  unfold Address.ofRecord
  cases r.flag "use_data" <;> rfl

/-! ## Blocks of one record -/

variable (t : Tree)

theorem ResourceGroups.spelling_block (group : Record) :
    (block t group).spelling =
      ("ibm_resource_group", group.flag "use_data", group.nameWords) := by
  simp [block, Address.resourceGroup, spelling_ofRecord, Record.nameWords]

namespace Vpcs

theorem spelling_block (vpc : Record) :
    (block t vpc).spelling = ("module", false, vpc.nameWords ++ ["vpc"]) := by
  rw [block, Block.spelling_defining, Address.vpc]
  simp (disch := decide) [Address.spelling, nameWords_append, Record.nameWords]

theorem spelling_addressPrefix (vpc entry : Record) :
    (addressPrefix t vpc entry).spelling = ("ibm_is_vpc_address_prefix", false,
      vpc.nameWords ++ entry.nameWords ++ ["prefix"]) := by
  rw [addressPrefix, Block.spelling_defining]
  simp (disch := decide) [Address.spelling, nameWords_append, nameWords_append_append,
    Record.nameWords]

theorem spelling_subnet (vpc entry : Record) :
    (subnet t vpc entry).spelling =
      ("ibm_is_subnet", false, vpc.nameWords ++ entry.nameWords) := by
  rw [subnet, Block.spelling_defining, Address.subnet, subnetLabel]
  simp [Address.spelling, Record.nameWords]

theorem spellings_flowLogs (vpc : Record) :
    (flowLogs t vpc).map Block.spelling = (resourceIf (logsFlow vpc)
      (vpc.nameWords ++ ["flow", "log", "collector"])).map ("ibm_is_flow_log", ·) := by
  unfold flowLogs logsFlow resourceIf
  split
  · next hbucket => rw [hbucket]; rfl
  · next bucket hbucket =>
      rw [hbucket]
      simp (disch := decide) [List.map_cons, Address.spelling, nameWords_append, Record.nameWords]

theorem spellings_blocks (vpc : Record) :
    (blocks t vpc).map Block.spelling = spellings .vpc vpc := by
  simp [blocks, spellings, labelWords, List.map_append, List.map_map,
    spelling_block, spelling_addressPrefix, spelling_subnet, spellings_flowLogs,
    Function.comp_def, resources, heldWords, leadingWords, linkWords]

end Vpcs

namespace SecurityGroups

theorem spelling_block (group : Record) :
    (block t group).spelling =
      ("ibm_is_security_group", false, leadingWords .securityGroup group ++ ["sg"]) := by
  rw [block, Block.spelling_defining, Address.securityGroup]
  simp [Address.spelling, leadingWords, Record.nameWords]

theorem spelling_rule (group entry : Record) :
    (rule group entry).spelling = ("ibm_is_security_group_rule", false,
      leadingWords .securityGroup group ++ ["sg", "rule"] ++ entry.nameWords) := by
  rw [rule, Block.spelling_defining, ruleLabel]
  simp (disch := decide) [Address.spelling, nameWords_append_append, leadingWords, Record.nameWords]

theorem spellings_blocks (group : Record) :
    (blocks t group).map Block.spelling = spellings .securityGroup group := by
  simp [blocks, spellings, labelWords, List.map_map,
    spelling_block, spelling_rule, Function.comp_def, resources, heldWords, linkWords]

end SecurityGroups

namespace TransitGateways

theorem spelling_block (gateway : Record) :
    (block t gateway).spelling = ("ibm_tg_gateway", gateway.flag "use_data",
      if gateway.flag "use_data" then "data" :: gateway.nameWords else gateway.nameWords) := by
  rw [block, Block.spelling_defining, Address.transitGateway]
  cases gateway.flag "use_data" with
  | true =>
      simp (disch := decide) [Address.spelling, nameWords_append_of_getLast?, Record.nameWords]
  | false => simp [Address.spelling, Record.nameWords]

theorem spelling_connectionBlock (connection : Record) :
    (connectionBlock t connection).spelling =
      ("ibm_tg_connection", false, connectionWords connection ++ ["connection"]) := by
  rw [connectionBlock, Block.spelling_defining]
  simp (disch := decide) [Address.spelling, nameWords_append, nameWords_append_append,
    connectionWords]

theorem spellings_blocks (gateway : Record) :
    (blocks t gateway).map Block.spelling = spellings .transitGateway gateway := by
  simp [blocks, spellings, labelWords, List.map_map,
    spelling_block, spelling_connectionBlock, Function.comp_def, resources]

end TransitGateways

namespace Classic

theorem spelling_keyBlock (key : Record) : (keyBlock key).spelling =
    ("ibm_compute_ssh_key", false, ["classic", "ssh", "key"] ++ key.nameWords) := by
  rw [keyBlock, Block.spelling_defining]
  simp (disch := decide) [Address.spelling, nameWords_append_of_getLast?, Record.nameWords]

theorem spelling_vlanBlock (vlan : Record) : (vlanBlock t vlan).spelling =
    ("ibm_network_vlan", false, ["classic", "vlan"] ++ vlan.nameWords) := by
  rw [vlanBlock, Block.spelling_defining, Address.classicVlan]
  simp (disch := decide) [Address.spelling, nameWords_append_of_getLast?, Record.nameWords]

end Classic

namespace Dns

theorem spelling_block (dns : Record) : (block t dns).spelling =
    ("ibm_resource_instance", false, dns.nameWords ++ serviceWords .dns) := by
  rw [block, Block.spelling_defining, Address.dns]
  simp (disch := decide) [Address.spelling, nameWords_append, serviceWords, Record.nameWords]

theorem spelling_permittedNetwork (dns zone vpc : String) :
    (permittedNetwork t dns zone vpc).spelling = ("ibm_dns_permitted_network", false,
      nameWords dns ++ ["dns", "permitted", "network"] ++ nameWords zone ++ nameWords vpc) := by
  rw [permittedNetwork, Block.spelling_defining]
  simp [Address.spelling]

theorem spelling_recordBlock (dns : String) (r : Record) :
    (recordBlock t dns r).spelling = ("ibm_dns_resource_record", false,
      nameWords dns ++ ["dns", "record"] ++ r.nameWords) := by
  rw [recordBlock, Block.spelling_defining]
  simp [Address.spelling, Record.nameWords]

theorem spelling_resolverBlock (dns : String) (resolver : Record) :
    (resolverBlock dns resolver).spelling = ("ibm_dns_custom_resolver", false,
      nameWords dns ++ ["dns", "resolver"] ++ resolver.nameWords) := by
  rw [resolverBlock, Block.spelling_defining]
  simp [Address.spelling, Record.nameWords]

theorem spellings_zoneBlocks (dns : String) (zone : Record) :
    (zoneBlocks t dns zone).map Block.spelling =
      ("ibm_dns_zone", false, nameWords dns ++ ["dns", "zone"] ++ zone.nameWords) ::
        (zone.texts "vpcs").map fun vpc => ("ibm_dns_permitted_network", false,
          nameWords dns ++ ["dns", "permitted", "network"] ++ zone.nameWords ++
            nameWords vpc) := by
  simp [zoneBlocks, List.map_map,
    spelling_permittedNetwork, Address.dnsZone, Address.spelling, Record.nameWords]

/-- Networks are told behind all zones, and not each behind its own. -/
theorem spellings_blocks (dns : Record) :
    ((blocks t dns).map Block.spelling).Perm (spellings .dns dns) := by
  have hzones : (((dns.records "zones").flatMap (zoneBlocks t dns.label)).map
      Block.spelling).Perm
        ((resources [] (heldWords .dnsZone .dns "zones" dns)).map ("ibm_dns_zone", ·) ++
          (resources [] (networkWords dns)).map ("ibm_dns_permitted_network", ·)) := by
    simp only [List.map_flatMap, spellings_zoneBlocks]
    refine (List.map_append_flatMap_perm _ _ _).symm.trans (List.Perm.of_eq ?_)
    simp [resources, heldWords, leadingWords, linkWords, networkWords, List.map_flatMap,
      Function.comp_def, Record.nameWords]
  have hothers : ((dns.records "records").map (recordBlock t dns.label) ++
      (dns.records "custom_resolvers").map (resolverBlock dns.label)).map
        Block.spelling =
      (resources [] (heldWords .dnsRecord .dns "records" dns)).map
          ("ibm_dns_resource_record", ·) ++
        (resources [] (heldWords .dnsResolver .dns "custom_resolvers" dns)).map
          ("ibm_dns_custom_resolver", ·) := by
    simp [List.map_map, spelling_recordBlock, spelling_resolverBlock,
      Function.comp_def, resources, heldWords, leadingWords, linkWords, Record.nameWords]
  rw [blocks, List.append_assoc, List.cons_append, List.map_cons, spelling_block,
    List.map_append, hothers]
  refine ((hzones.append_right _).cons _).trans (List.Perm.of_eq ?_)
  simp [spellings, labelWords]

end Dns

theorem SshKeys.spelling_block (key : Record) : (block t key).spelling =
    ("ibm_is_ssh_key", key.flag "use_data", key.nameWords ++ ["ssh", "key"]) := by
  rw [block, Block.spelling_defining, Address.sshKey, spelling_ofRecord]
  simp (disch := decide) [nameWords_append, Record.nameWords]

namespace KeyManagement

theorem spelling_authorization (label sourceService : String) (source : Expression)
    (keyManagement : String) :
    (authorization t label sourceService source keyManagement).spelling =
      ("ibm_iam_authorization_policy", false, nameWords label) := by
  rw [authorization, Block.spelling_defining]
  rfl

theorem spelling_block (keyManagement : Record) : (block t keyManagement).spelling =
    ("ibm_resource_instance", keyManagement.flag "use_data",
      keyManagement.nameWords ++ serviceWords .keyManagement) := by
  rw [block, Block.spelling_defining, Address.keyManagement, spelling_ofRecord]
  simp [serviceWords, Record.nameWords]

theorem spelling_volumeAuthorization (keyManagement : Record) :
    (volumeAuthorization t keyManagement).spelling = ("ibm_iam_authorization_policy",
      false, keyManagement.nameWords ++ ["server", "protect", "policy"]) := by
  rw [volumeAuthorization, Block.spelling_defining]
  simp (disch := decide) [Address.spelling, nameWords_append, Record.nameWords]

theorem spelling_ringBlock (keyManagement ring : String) :
    (ringBlock t keyManagement ring).spelling = ("ibm_kms_key_rings", false,
      nameWords keyManagement ++ nameWords ring ++ ["ring"]) := by
  rw [ringBlock, Block.spelling_defining, Address.keyRing]
  simp [Address.spelling]

theorem nameWords_encryptionKeyLabel (keyManagement key : String) :
    nameWords (encryptionKeyLabel keyManagement key) =
      nameWords keyManagement ++ nameWords key ++ ["key"] := by
  simp [encryptionKeyLabel]

theorem spellings_keyBlocks (keyManagement : String) (key : Record) :
    (keyBlocks t keyManagement key).map Block.spelling =
      ("ibm_kms_key", false, nameWords keyManagement ++ key.nameWords ++ ["key"]) ::
        (resourceIf (rotates key) (nameWords keyManagement ++ key.nameWords ++
          ["key", "policy"])).map ("ibm_kms_key_policies", ·) := by
  have hkey : (keyBlock t keyManagement key).spelling = ("ibm_kms_key", false,
      nameWords keyManagement ++ key.nameWords ++ ["key"]) := by
    rw [keyBlock, Block.spelling_defining, Address.encryptionKey]
    simp [Address.spelling, nameWords_encryptionKeyLabel, Record.nameWords]
  have hrotation (months : Int) : (rotationBlock t keyManagement key months).spelling =
      ("ibm_kms_key_policies", false,
        nameWords keyManagement ++ key.nameWords ++ ["key", "policy"]) := by
    rw [rotationBlock, Block.spelling_defining]
    simp (disch := decide) [Address.spelling, nameWords_append,
      nameWords_encryptionKeyLabel, Record.nameWords]
  unfold keyBlocks rotates resourceIf
  split
  · next months hmonths => simp [hmonths, hkey, hrotation]
  · next hmonths => simp [hmonths, hkey]

theorem spellings_blocks (keyManagement : Record) :
    ((blocks t keyManagement).map Block.spelling).Perm
      (spellings .keyManagement keyManagement) := by
  have hinstance : (instanceBlocks t keyManagement ++ ringBlocks t keyManagement).map
      Block.spelling =
      ("ibm_resource_instance", keyManagement.flag "use_data",
        keyManagement.nameWords ++ serviceWords .keyManagement) ::
      (resourceIf (keyManagement.flag "authorize_vpc_reader_role")
        (keyManagement.nameWords ++ ["server", "protect", "policy"])).map
          ("ibm_iam_authorization_policy", ·) ++
      (resources ["ring"] ((rings keyManagement).map fun ring =>
        keyManagement.nameWords ++ nameWords ring)).map ("ibm_kms_key_rings", ·) := by
    unfold instanceBlocks resourceIf
    split <;> simp [ringBlocks, List.map_map, spelling_block,
      spelling_volumeAuthorization, spelling_ringBlock, Function.comp_def, resources,
      Record.nameWords]
  have hkeys : (((keyManagement.records "keys").flatMap
      (keyBlocks t keyManagement.label)).map Block.spelling).Perm
        ((resources ["key"] (heldWords .encryptionKey .keyManagement "keys" keyManagement)).map
            ("ibm_kms_key", ·) ++
          (resources ["key", "policy"] (((keyManagement.records "keys").filter rotates).map
            fun key => keyManagement.nameWords ++ key.nameWords)).map
              ("ibm_kms_key_policies", ·)) := by
    simp only [List.map_flatMap, spellings_keyBlocks]
    refine (List.map_append_flatMap_perm _ _ _).symm.trans (List.Perm.of_eq ?_)
    rw [← List.map_flatMap]
    simp only [resourceIf, flatMap_if]
    simp [resources, heldWords, leadingWords, linkWords, Function.comp_def, Record.nameWords]
  rw [blocks, List.map_append, hinstance]
  refine (hkeys.append_left _).trans (List.Perm.of_eq ?_)
  simp [spellings, labelWords]

end KeyManagement

namespace ObjectStorage

theorem spelling_suffixBlock (storage : Record) : (suffixBlock storage).spelling =
    ("random_string", false, storage.nameWords ++ ["random", "suffix"]) := by
  rw [suffixBlock, Block.spelling_defining, Address.randomSuffix]
  simp (disch := decide) [Address.spelling, nameWords_append, Record.nameWords]

theorem spelling_block (storage : Record) : (block t storage).spelling =
    ("ibm_resource_instance", storage.flag "use_data",
      storage.nameWords ++ serviceWords .objectStorage) := by
  rw [block, Block.spelling_defining, Address.objectStorage, spelling_ofRecord]
  simp (disch := decide) [nameWords_append, serviceWords, Record.nameWords]

theorem spellings_authorization (storage : Record) :
    (authorization t storage).map Block.spelling =
      (resources ["kms", "policy"] (authorizationWords ["cos", "to"] storage)).map
        ("ibm_iam_authorization_policy", ·) := by
  unfold authorization authorizationWords
  cases storage.filled? "kms" with
  | none => rfl
  | some keyManagement =>
      simp [KeyManagement.spelling_authorization, resources, Record.nameWords]

theorem spelling_bucketBlock (storage bucket : Record) :
    (bucketBlock t storage bucket).spelling = ("ibm_cos_bucket", false,
      storage.nameWords ++ ["object", "storage"] ++ bucket.nameWords ++ ["bucket"]) := by
  rw [bucketBlock, Block.spelling_defining, Address.bucket, bucketLabel]
  simp [Address.spelling, Record.nameWords]

theorem spelling_keyBlock (storage key : Record) :
    (keyBlock t storage key).spelling = ("ibm_resource_key", false,
      storage.nameWords ++ ["object", "storage", "key"] ++ key.nameWords) := by
  rw [keyBlock, Block.spelling_defining, Address.storageKey, storageKeyLabel]
  simp [Address.spelling, Record.nameWords]

theorem spellings_blocks (storage : Record) :
    (blocks t storage).map Block.spelling = spellings .objectStorage storage := by
  have hsuffix : (if storage.flag "use_random_suffix" then [suffixBlock storage]
      else []).map Block.spelling = (resourceIf (storage.flag "use_random_suffix")
        (storage.nameWords ++ ["random", "suffix"])).map ("random_string", ·) := by
    unfold resourceIf
    split <;> simp [spelling_suffixBlock]
  simp [blocks, instanceBlocks, hsuffix, spellings, labelWords, List.map_append,
    List.map_map, spelling_block, spellings_authorization,
    spelling_bucketBlock, spelling_keyBlock, Function.comp_def, resources, heldWords,
    leadingWords, linkWords]

end ObjectStorage

theorem Databases.spelling_block (database : Record) : (block t database).spelling =
    ("ibm_database", database.flag "use_data", database.nameWords) := by
  rw [block, Block.spelling_defining, spelling_ofRecord]
  simp [Record.nameWords]

theorem EventStreams.spelling_block (streams : Record) : (block t streams).spelling =
    ("ibm_resource_instance", false, streams.nameWords ++ serviceWords .eventStreams) := by
  rw [block, Block.spelling_defining]
  simp (disch := decide) [Address.spelling, nameWords_append, serviceWords, Record.nameWords]

namespace SecretsManager

theorem spellings_authorization (manager : Record) :
    (authorization t manager).map Block.spelling =
      (resources ["kms", "policy"] (authorizationWords ["secrets", "manager", "to"] manager)).map
        ("ibm_iam_authorization_policy", ·) := by
  unfold authorization authorizationWords
  cases manager.filled? "kms" with
  | none => rfl
  | some keyManagement =>
      simp [KeyManagement.spelling_authorization, resources, Record.nameWords]

theorem spelling_block (manager : Record) : (block t manager).spelling =
    ("ibm_resource_instance", false,
      manager.nameWords ++ serviceWords .secretsManager) := by
  rw [block, Block.spelling_defining, Address.secretsManager]
  simp (disch := decide) [Address.spelling, nameWords_append, serviceWords, Record.nameWords]

theorem spellings_blocks (manager : Record) :
    (blocks t manager).map Block.spelling = spellings .secretsManager manager := by
  simp [blocks, spellings, labelWords, List.map_append, spellings_authorization, spelling_block]

end SecretsManager

namespace AppId

theorem spelling_block (appId : Record) : (block t appId).spelling =
    ("ibm_resource_instance", appId.flag "use_data",
      appId.nameWords ++ serviceWords .appId) := by
  rw [block, Block.spelling_defining, Address.appId, spelling_ofRecord]
  simp [serviceWords, Record.nameWords]

theorem spelling_keyBlock (appId key : Record) : (keyBlock t appId key).spelling =
    ("ibm_resource_key", false, appId.nameWords ++ ["key"] ++ key.nameWords) := by
  rw [keyBlock, Block.spelling_defining]
  simp [Address.spelling, Record.nameWords]

theorem spellings_blocks (appId : Record) :
    (blocks t appId).map Block.spelling = spellings .appId appId := by
  simp [blocks, spellings, labelWords, List.map_map,
    spelling_block, spelling_keyBlock, Function.comp_def, resources, heldWords,
    leadingWords, linkWords]

end AppId

theorem AccountSettings.spellings_blocks (account : Record) :
    (blocks account).map Block.spelling = spellings .accountSettings account := by
  unfold blocks
  split <;> simp_all [spellings, labelWords, resourceIf,
    Address.spelling]

namespace AccessGroups

theorem spelling_block (group : Record) : (block group).spelling =
    ("ibm_iam_access_group", false, group.nameWords ++ ["access", "group"]) := by
  rw [block, Block.spelling_defining, Address.accessGroup]
  simp (disch := decide) [Address.spelling, nameWords_append, Record.nameWords]

theorem spelling_policyBlock (group : String) (policy : Record) :
    (policyBlock t group policy).spelling = ("ibm_iam_access_group_policy", false,
      nameWords group ++ policy.nameWords ++ ["policy"]) := by
  rw [policyBlock, Block.spelling_defining]
  simp [Address.spelling, Record.nameWords]

theorem spelling_ruleBlock (group : String) (entry : Record) :
    (ruleBlock group entry).spelling = ("ibm_iam_access_group_dynamic_rule", false,
      nameWords group ++ entry.nameWords ++ ["dynamic", "rule"]) := by
  rw [ruleBlock, Block.spelling_defining]
  simp [Address.spelling, Record.nameWords]

theorem spellings_invites (group : Record) :
    (invites group).map Block.spelling =
      (resourceIf (!(invitedUsers group).isEmpty) (group.nameWords ++ ["invites"])).map
        ("ibm_iam_user_invite", ·) := by
  unfold invites resourceIf
  generalize invitedUsers group = users
  cases users with
  | nil => rfl
  | cons user others =>
      simp (disch := decide) [List.map_cons, Address.spelling, nameWords_append, Record.nameWords]

theorem spellings_blocks (group : Record) :
    (blocks t group).map Block.spelling = spellings .accessGroup group := by
  simp [blocks, spellings, labelWords, List.map_append,
    List.map_map, spelling_block, spelling_policyBlock, spelling_ruleBlock,
    spellings_invites, Function.comp_def, resources, heldWords, leadingWords, linkWords,
    Record.nameWords]

end AccessGroups

namespace ActivityTracker

theorem spelling_target (tracker : Record) : (target t tracker).spelling =
    ("ibm_atracker_target", false, nameWords (nameOf tracker) ++ ["cos", "target"]) := by
  rw [target, Block.spelling_defining, Address.trackingTarget]
  simp (disch := decide) [Address.spelling, nameWords_append]

theorem spelling_route (tracker : Record) : (route tracker).spelling =
    ("ibm_atracker_route", false, nameWords (nameOf tracker) ++ ["route"]) := by
  rw [route, Block.spelling_defining]
  simp (disch := decide) [Address.spelling, nameWords_append]

theorem spellings_blocks (tracker : Record) :
    (blocks t tracker).map Block.spelling = spellings .activityTracker tracker := by
  cases henabled : tracker.flag "enabled" <;> cases hroute : tracker.flag "add_route" <;>
    simp [blocks, spellings, labelWords, resourceIf, henabled, hroute, spelling_target,
      spelling_route]

end ActivityTracker

/-! ## Blocks of all records -/

/-- The blocks for a record are told by the table of its kind. -/
theorem spellings_blocksOf (kind : Kind) (r : Record) :
    ((blocksOf t kind r).map Block.spelling).Perm (spellings kind r) := by
  cases kind with
  | dns => exact Dns.spellings_blocks t r
  | keyManagement => exact KeyManagement.spellings_blocks t r
  | vpc => exact .of_eq (Vpcs.spellings_blocks t r)
  | securityGroup => exact .of_eq (SecurityGroups.spellings_blocks t r)
  | transitGateway => exact .of_eq (TransitGateways.spellings_blocks t r)
  | objectStorage => exact .of_eq (ObjectStorage.spellings_blocks t r)
  | secretsManager => exact .of_eq (SecretsManager.spellings_blocks t r)
  | appId => exact .of_eq (AppId.spellings_blocks t r)
  | accountSettings => exact .of_eq (AccountSettings.spellings_blocks r)
  | accessGroup => exact .of_eq (AccessGroups.spellings_blocks t r)
  | activityTracker => exact .of_eq (ActivityTracker.spellings_blocks t r)
  | classicSshKey | classicVlan =>
      apply List.Perm.of_eq
      cases hplaced : (r.text? "datacenter").isSome <;>
        simp [blocksOf, spellings, labelWords, resourceIf, hplaced,
          Classic.spelling_keyBlock, Classic.spelling_vlanBlock]
  | resourceGroup | sshKey | database | eventStreams =>
      apply List.Perm.of_eq
      simp [blocksOf, spellings, labelWords, ResourceGroups.spelling_block,
        SshKeys.spelling_block, Databases.spelling_block, EventStreams.spelling_block]
  | _ => exact .refl []

end Terraform

end Blueprint

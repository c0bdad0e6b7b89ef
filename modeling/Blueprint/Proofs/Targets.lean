import Blueprint.Terraform.Document

/-!
# What blocks refer to

The targets of a block are the addresses that its expressions refer to, in the order
they are written; a reference without a target counts as nothing. For every block of
a document this says which look-ups its targets come from.
-/

namespace Blueprint

namespace Terraform

/-! ## Targets -/

namespace Expression

mutual

/-- The addresses that an expression refers to, and nothing for the unfound marker. -/
def targets : Expression → List (Option Address)
  | text _ | verbatim _ | bool _ | number _ => []
  | list items => targetsAll items
  | output address _ => [some address]
  | call _ arguments => targetsAll arguments
  | unfound => [none]

def targetsAll : List Expression → List (Option Address)
  | [] => []
  | item :: rest => item.targets ++ targetsAll rest

end

@[simp] theorem targetsAll_eq (items : List Expression) :
    targetsAll items = items.flatMap targets := by
  induction items with
  | nil => rfl
  | cons item rest ih => rw [targetsAll, ih, List.flatMap_cons]

attribute [simp] targets

@[simp] theorem targets_ofInt (value : Int) : (ofInt value).targets = [] := rfl

@[simp] theorem targets_texts (items : List String) : (texts items).targets = [] := by
  simp [texts, List.flatMap_map]

mutual

theorem targets_ofValue? (value : Value) : ∀ e ∈ ofValue? value, e.targets = [] :=
  match value with
  | .null => by simp [ofValue?]
  | .bool _ | .number _ | .text _ | .object _ => by simp [ofValue?]
  | .list items => by simpa [ofValue?] using targets_ofValues items

theorem targets_ofValues (items : List Value) : ∀ e ∈ ofValues items, e.targets = [] :=
  match items with
  | [] => by simp [ofValues]
  | item :: rest => by
      have hitem := targets_ofValue? item
      have hrest := targets_ofValues rest
      unfold ofValues
      split
      · next e he => simpa using ⟨hitem e he, hrest⟩
      · exact hrest

end

theorem targets_ofField? (r : Record) (field : String) :
    ∀ e ∈ ofField? r field, e.targets = [] := by
  intro e he
  obtain ⟨value, _, hvalue⟩ := Option.bind_eq_some_iff.mp he
  exact targets_ofValue? value e hvalue

theorem targets_ofFilled? (r : Record) (field : String) :
    ∀ e ∈ ofFilled? r field, e.targets = [] := by
  intro e he
  obtain ⟨value, _, hvalue⟩ := Option.bind_eq_some_iff.mp he
  exact targets_ofValue? value e hvalue

end Expression

namespace Item

mutual

def targets : Item → List (Option Address)
  | attr _ value => value.targets
  | map _ entries => entries.flatMap fun entry => entry.2.targets
  | block _ _ body => targetsAll body

def targetsAll : List Item → List (Option Address)
  | [] => []
  | item :: rest => item.targets ++ targetsAll rest

end

@[simp] theorem targetsAll_eq (items : List Item) : targetsAll items = items.flatMap targets := by
  induction items with
  | nil => rfl
  | cons item rest ih => rw [targetsAll, ih, List.flatMap_cons]

attribute [simp] targets

@[simp] theorem targets_nested (keyword : String) (body : List Item) :
    (nested keyword body).targets = body.flatMap targets := by
  simp [nested]

@[simp] theorem targets_timeouts (entries : List (String × String)) :
    (timeouts entries).targets = [] := by
  simp [timeouts, List.flatMap_map]

theorem flatMap_optional_eq_nil {key : String} {value : Option Expression}
    (h : ∀ e ∈ value, e.targets = []) : (optional key value).flatMap targets = [] := by
  cases value with
  | none => rfl
  | some e => simpa [optional] using h e rfl

@[simp] theorem flatMap_ofField (r : Record) (field : String) :
    (ofField r field).flatMap targets = [] :=
  flatMap_optional_eq_nil (Expression.targets_ofField? r field)

@[simp] theorem flatMap_ofFilled (r : Record) (field : String) :
    (ofFilled r field).flatMap targets = [] :=
  flatMap_optional_eq_nil (Expression.targets_ofFilled? r field)

@[simp] theorem flatMap_ofText (r : Record) (field : String) :
    (ofText r field).flatMap targets = [] :=
  flatMap_optional_eq_nil (by simp)

end Item

namespace Block

/-- The addresses that the expressions of a block refer to. -/
def targets (b : Block) : List (Option Address) := b.body.flatMap Item.targets

@[simp] theorem targets_defining (address : Address) (body : List Item) :
    (defining address body).targets = body.flatMap Item.targets := by
  cases address <;> rfl

end Block

/-! ## Texts, names and options -/

@[simp] theorem targets_variableName (name : String) : (variableName name).targets = [] := by
  simp [variableName]

@[simp] theorem targets_nameOf (r : Record) : (nameOf r).targets = [] := by
  unfold nameOf
  split <;> simp

@[simp] theorem targets_regionVariable : regionVariable.targets = [] := by
  simp [regionVariable]

@[simp] theorem targets_zoneName (zone : Int) : (zoneName zone).targets = [] := by
  simp [zoneName]

end Terraform

open Terraform

namespace Tree

variable (t : Tree)

@[simp] theorem targets_tags : t.tags.targets = [] := by
  simp [tags]

@[simp] theorem targets_deploymentName (name : String) : (t.deploymentName name).targets = [] := by
  simp [deploymentName]

/-! ## Look-ups -/

theorem targets_outputOf (kind : Kind) (name : Option String) (address : Record → Address)
    (output : String) :
    (t.outputOf kind name address output).targets = [(t.lookup? kind name).map address] := by
  unfold outputOf
  cases t.lookup? kind name <;> simp

theorem targets_resourceGroupId (name : Option String) :
    (t.resourceGroupId name).targets = [(t.lookup? .resourceGroup name).map .resourceGroup] :=
  t.targets_outputOf ..

theorem targets_vpcOutput (name : Option String) (output : String) :
    (t.vpcOutput name output).targets =
      [(t.lookup? .vpc name).map fun r => .vpc r.label] :=
  t.targets_outputOf ..

theorem targets_keyManagementGuid (name : Option String) :
    (t.keyManagementGuid name).targets = [(t.lookup? .keyManagement name).map .keyManagement] :=
  t.targets_outputOf ..

theorem targets_objectStorageOutput (name : Option String) (output : String) :
    (t.objectStorageOutput name output).targets =
      [(t.lookup? .objectStorage name).map .objectStorage] :=
  t.targets_outputOf ..

end Tree

namespace Terraform

/-! ## Blocks -/

variable (t : Tree)

theorem ResourceGroups.targets_block (group : Record) :
    (ResourceGroups.block t group).targets = [] := by
  unfold ResourceGroups.block
  dsimp only
  split
  · simp
  · split <;> simp

namespace Vpcs

theorem targets_block (vpc : Record) : (block t vpc).targets = (t.resourceGroupOf vpc).targets := by
  have hnames : (Vpc.optionalNames.flatMap (optionalName vpc)).flatMap Item.targets = [] := by
    rw [List.flatMap_assoc]
    simp [optionalName, Item.flatMap_optional_eq_nil]
  simp [block, hnames, List.flatMap_map]

theorem targets_addressPrefix (vpc entry : Record) :
    (addressPrefix t vpc entry).targets = (t.vpcOutput vpc.label "id").targets := by
  simp [addressPrefix]

theorem targets_subnet (vpc entry : Record) :
    (subnet t vpc entry).targets =
      (t.vpcOutput vpc.label "id").targets ++ (t.resourceGroupOf vpc).targets ++
        if entry.flag "public_gateway" then [some (.vpc vpc.label)] else [] := by
  unfold subnet publicGateway
  split <;> simp [Item.optional]

theorem targets_of_mem_flowLogs {vpc : Record} {b : Block} (h : b ∈ flowLogs t vpc) :
    ∃ bucket, vpc.filled? "bucket" = some bucket ∧ bucket ≠ Vpc.logsDisabled ∧
      b.targets = (t.vpcOutput vpc.label "id").targets ++
        (t.bucketOutput bucket "bucket_name").targets ++ (t.resourceGroupOf vpc).targets := by
  unfold flowLogs at h
  split at h
  · cases h
  · next bucket hbucket =>
      obtain ⟨hfilled, hlogged⟩ := Option.filter_eq_some_iff.mp hbucket
      obtain rfl := List.mem_singleton.mp h
      exact ⟨bucket, hfilled, of_decide_eq_true hlogged, by simp⟩

end Vpcs

namespace SecurityGroups

theorem targets_block (group : Record) :
    (block t group).targets =
      (t.vpcOutput (group.text? "vpc") "id").targets ++ (t.resourceGroupOf group).targets := by
  simp [block]

theorem targets_rule (group entry : Record) :
    (rule group entry).targets = [some (.securityGroup group)] := by
  have hitems (protocol : String) : (protocolItems protocol entry).flatMap Item.targets = [] := by
    unfold protocolItems
    dsimp only
    split
    · rfl
    · simp [List.flatMap_assoc]
  simp [rule, hitems]

end SecurityGroups

namespace TransitGateways

theorem targets_block (gateway : Record) :
    (block t gateway).targets =
      if gateway.flag "use_data" then [] else (t.resourceGroupOf gateway).targets := by
  unfold block
  dsimp only
  split <;> simp [timeouts]

theorem targets_connectionBlock (connection : Record) :
    (connectionBlock t connection).targets =
      some (gatewayAddress t (connection.textOr "tgw" "")) ::
        ((connection.filled? "vpc").map fun (name : String) =>
          (t.vpcOutput name "crn").targets).getD [] := by
  have hpeer : ((Peer.ofConnection connection).items t connection).flatMap Item.targets =
      ((connection.filled? "vpc").map fun (name : String) =>
        (t.vpcOutput name "crn").targets).getD [] := by
    unfold Peer.ofConnection
    cases connection.filled? "vpc" with
    | some name => simp [Peer.items]
    | none =>
        cases connection.filled? "crn" with
        | some crn => simp [Peer.items]
        | none => cases connection.filled? "power" <;> simp [Peer.items]
  simp [connectionBlock, timeouts, hpeer]

end TransitGateways

namespace Classic

theorem targets_keyBlock (key : Record) : (keyBlock key).targets = [] := by
  simp [keyBlock, provider]

theorem targets_vlanBlock (vlan : Record) :
    (vlanBlock t vlan).targets =
      (vlan.filled? "router_hostname").toList.map fun name => some (.classicVlan name) := by
  cases h : vlan.filled? "router_hostname" <;>
    simp [vlanBlock, provider, h, Item.optional, frontendRouter]

end Classic

namespace Dns

@[simp] theorem targets_instanceId (dns : String) :
    (instanceId dns).targets = [some (.dns dns)] := by
  simp [instanceId]

theorem targets_block (dns : Record) : (block t dns).targets = (t.resourceGroupOf dns).targets := by
  simp [block]

theorem targets_permittedNetwork (dns zone vpc : String) :
    (permittedNetwork t dns zone vpc).targets =
      some (.dns dns) :: some (.dnsZone dns zone) :: (t.vpcOutput vpc "crn").targets := by
  simp [permittedNetwork]

theorem targets_recordBlock (dns : String) (r : Record) :
    (recordBlock t dns r).targets =
      some (.dns dns) :: (zoneId t dns (r.text? "dns_zone")).targets := by
  have hdata : (recordData r).targets = [] := by
    unfold recordData
    split <;> simp
  simp [recordBlock, hdata, List.flatMap_assoc]

theorem targets_resolverBlock (dns : String) (resolver : Record) :
    (resolverBlock dns resolver).targets =
      some (.dns dns) :: (resolver.texts "subnets").map fun subnet =>
        some (.subnet (resolver.textOr "vpc" "") subnet) := by
  simp [resolverBlock, resolverLocation, List.flatMap_map, ← List.map_eq_flatMap]

theorem mem_zoneBlocks {dns : String} {zone : Record} {b : Block} (h : b ∈ zoneBlocks t dns zone) :
    b.targets = [some (.dns dns)] ∨
      ∃ vpc ∈ zone.texts "vpcs", b = permittedNetwork t dns zone.label vpc := by
  rcases List.mem_cons.mp h with rfl | hnetwork
  · exact .inl (by simp)
  · obtain ⟨vpc, hvpc, rfl⟩ := List.mem_map.mp hnetwork
    exact .inr ⟨vpc, hvpc, rfl⟩

end Dns

theorem SshKeys.targets_block (key : Record) :
    (SshKeys.block t key).targets =
      if key.flag "use_data" then [] else (t.resourceGroupOf key).targets := by
  unfold SshKeys.block
  dsimp only
  split <;> simp

namespace KeyManagement

@[simp] theorem targets_roles : roles.targets = [] := by
  simp [roles]

@[simp] theorem targets_instanceId (keyManagement : String) :
    (instanceId t keyManagement).targets = (t.keyManagementGuid keyManagement).targets := by
  simp [instanceId]

theorem targets_authorization (label sourceService : String) (source : Expression)
    (keyManagement : String) :
    (authorization t label sourceService source keyManagement).targets =
      source.targets ++ (t.keyManagementGuid keyManagement).targets := by
  simp [authorization]

theorem targets_block (keyManagement : Record) :
    (block t keyManagement).targets = (t.resourceGroupOf keyManagement).targets := by
  unfold block
  split <;> simp

theorem targets_volumeAuthorization (keyManagement : Record) :
    (volumeAuthorization t keyManagement).targets =
      (t.keyManagementGuid keyManagement.label).targets := by
  simp [volumeAuthorization]

theorem targets_ringBlock (keyManagement ring : String) :
    (ringBlock t keyManagement ring).targets = (t.keyManagementGuid keyManagement).targets := by
  simp [ringBlock]

theorem targets_keyBlock (keyManagement : String) (key : Record) :
    (keyBlock t keyManagement key).targets =
      (t.keyManagementGuid keyManagement).targets ++
        (key.filled? "key_ring").toList.map fun ring => some (.keyRing keyManagement ring) := by
  cases h : key.filled? "key_ring" <;> simp [keyBlock, h, Item.optional]

theorem targets_rotationBlock (keyManagement : String) (key : Record) (months : Int) :
    (rotationBlock t keyManagement key months).targets =
      (t.keyManagementGuid keyManagement).targets ++
        [some (.encryptionKey keyManagement key.label)] := by
  simp [rotationBlock]

end KeyManagement

namespace ObjectStorage

theorem targets_suffixBlock (storage : Record) : (suffixBlock storage).targets = [] := by
  simp [suffixBlock]

@[simp] theorem targets_suffixedName (storage : Record) (name : String) :
    (suffixedName storage name).targets = [] :=
  targets_variableName _

theorem targets_block (storage : Record) :
    (block t storage).targets = (t.resourceGroupOf storage).targets := by
  unfold block
  dsimp only
  split <;> simp

theorem targets_bucketBlock (storage bucket : Record) :
    (bucketBlock t storage bucket).targets =
      (t.objectStorageOutput storage.label "id").targets ++
        (t.encryptionKeyCrn (storage.text? "kms") (bucket.text? "kms_key")).targets := by
  simp [bucketBlock]

theorem targets_keyBlock (storage key : Record) :
    (keyBlock t storage key).targets = (t.objectStorageOutput storage.label "id").targets := by
  unfold keyBlock
  split <;> simp

theorem targets_of_mem_authorization {storage : Record} {b : Block}
    (h : b ∈ authorization t storage) :
    ∃ keyManagement, storage.filled? "kms" = some keyManagement ∧
      b.targets = (t.objectStorageOutput storage.label "guid").targets ++
        (t.keyManagementGuid keyManagement).targets := by
  unfold authorization at h
  split at h
  · cases h
  · next keyManagement hfilled =>
      obtain rfl := List.mem_singleton.mp h
      exact ⟨keyManagement, hfilled, KeyManagement.targets_authorization ..⟩

end ObjectStorage

namespace Databases

theorem targets_allocation? (database : Record) (field : String) :
    ∀ e ∈ allocation? database field, e.targets = [] := by
  unfold allocation?
  split
  · split <;> simp
  · dsimp only
    split
    · split <;> simp
    · simp
  · simp

theorem flatMap_group (database : Record) : (group database).flatMap Item.targets = [] := by
  have hallocated (entry : String × String) :
      (allocated database entry).flatMap Item.targets = [] := by
    unfold allocated
    split
    · next amount hamount => simpa using targets_allocation? database entry.1 amount hamount
    · rfl
  unfold group
  dsimp only
  split
  · rfl
  · simp [hallocated]

theorem targets_block (database : Record) :
    (block t database).targets =
      (t.resourceGroupOf database).targets ++
        ((database.filled? "kms").map fun (name : String) =>
          (t.keyManagementGuid name).targets).getD [] ++
        ((database.filled? "encryption_key").map fun (key : String) =>
          (t.encryptionKeyCrn (database.filled? "kms") key).targets).getD [] := by
  cases hkms : database.filled? "kms" <;> cases hkey : database.filled? "encryption_key" <;>
    simp [block, Item.optional, flatMap_group, hkms, hkey]

end Databases

namespace EventStreams

theorem targets_block (streams : Record) :
    (block t streams).targets = (t.resourceGroupOf streams).targets := by
  have hparameter (name : String) (value : Option String) :
      (parameter name value).flatMap (fun entry => entry.2.targets) = [] := by
    cases value <;> simp [parameter]
  simp [block, parameters, hparameter]

end EventStreams

namespace SecretsManager

theorem targets_block (manager : Record) :
    (block t manager).targets =
      (t.resourceGroupOf manager).targets ++
        (t.encryptionKeyCrn (manager.filled? "kms")
          (manager.filled? "encryption_key")).targets := by
  simp [block]

theorem targets_of_mem_authorization {manager : Record} {b : Block}
    (h : b ∈ authorization t manager) :
    ∃ keyManagement, manager.filled? "kms" = some keyManagement ∧
      b.targets = some (.secretsManager manager.label) ::
        (t.keyManagementGuid keyManagement).targets := by
  unfold authorization at h
  split at h
  · cases h
  · next keyManagement hfilled =>
      obtain rfl := List.mem_singleton.mp h
      exact ⟨keyManagement, hfilled, KeyManagement.targets_authorization ..⟩

end SecretsManager

theorem AccountSettings.targets_of_mem_blocks {account : Record} {b : Block}
    (h : b ∈ AccountSettings.blocks account) : b.targets = [] := by
  unfold AccountSettings.blocks at h
  split at h
  · obtain rfl := List.mem_singleton.mp h
    simp [List.flatMap_assoc]
  · cases h

namespace AppId

theorem targets_block (appId : Record) :
    (block t appId).targets = (t.resourceGroupOf appId).targets := by
  unfold block
  split <;> simp

theorem targets_keyBlock (appId key : Record) :
    (keyBlock t appId key).targets = [some (.appId appId)] := by
  simp [keyBlock]

end AppId

namespace AccessGroups

theorem targets_block (group : Record) : (block group).targets = [] := by
  simp [block]

theorem targets_policyBlock (group : String) (policy : Record) :
    (policyBlock t group policy).targets =
      some (.accessGroup group) ::
        (((policy.object? "resources").bind (Record.filled? · "resource_group")).map
          fun (name : String) => (t.resourceGroupId name).targets).getD [] := by
  cases hresources : policy.object? "resources" with
  | none => simp [policyBlock, groupId, hresources]
  | some resources =>
      cases hgroup : resources.filled? "resource_group" <;>
        simp [policyBlock, groupId, hresources, policyResources, Item.optional, hgroup]

theorem targets_ruleBlock (group : String) (entry : Record) :
    (ruleBlock group entry).targets = [some (.accessGroup group)] := by
  simp [ruleBlock, groupId, condition]

theorem targets_of_mem_invites {group : Record} {b : Block} (h : b ∈ invites group) :
    b.targets = [some (.accessGroup group.label)] := by
  unfold invites at h
  dsimp only at h
  split at h
  · cases h
  · obtain rfl := List.mem_singleton.mp h
    simp [groupId]

end AccessGroups

namespace ActivityTracker

theorem targets_target (tracker : Record) :
    (target t tracker).targets =
      (t.objectStorageOutput (t.bucketOwner (tracker.filled? "bucket")) "crn").targets ++
        (t.bucketOutput (tracker.filled? "bucket") "bucket_name").targets ++
        (credential t tracker).targets := by
  simp [target]

theorem targets_route (tracker : Record) :
    (route tracker).targets = [some (.trackingTarget (nameOf tracker))] := by
  simp [route]

end ActivityTracker

namespace Provider

theorem targets_power (zone : String) : (power t zone).targets = [] := by
  have hregion : (powerRegion zone t.region).targets = [] := by
    unfold powerRegion
    split
    · simp
    · split
      · simp
      · split
        · simp
        · split <;> simp
  simp [power, Block.targets, Block.provider, timeout, hregion]

theorem targets_of_mem_blocks {b : Block} (h : b ∈ blocks t) : b.targets = [] := by
  simp only [blocks, List.cons_append, List.mem_cons, List.mem_append] at h
  rcases h with rfl | hclassic | hpower
  · simp [regional, Block.targets, Block.provider, timeout]
  · split at hclassic
    · obtain rfl := List.mem_singleton.mp hclassic
      simp [classic, Block.targets, Block.provider, timeout]
    · cases hclassic
  · split at hpower
    · obtain ⟨zone, _, rfl⟩ := List.mem_map.mp hpower
      exact targets_power t zone
    · cases hpower

end Provider

end Terraform

end Blueprint

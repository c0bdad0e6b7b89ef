import Blueprint.Proofs.Emission
import Blueprint.Proofs.Lookups

/-!
# Definitions

Every address that a document refers to is defined by one of its blocks. Where a name
is looked up this needs nothing of the tree: what is found has a block. Where a block
takes an address from names that it holds itself, the tree has to be reconciled: the
subnets of a resolver, the router of a VLAN, the gateway of a connection.
-/

namespace Blueprint

open Terraform

namespace Tree

variable {t : Tree}

/-- Whether a block of the document of a tree defines an address. -/
def Defines (t : Tree) (address : Address) : Prop :=
  ∃ body, Block.defining address body ∈ t.blocks

/-- Whether the document of a tree defines all addresses among some targets. -/
def Anchors (t : Tree) (targets : List (Option Address)) : Prop :=
  ∀ address, some address ∈ targets → t.Defines address

@[simp] theorem anchors_nil : t.Anchors [] :=
  fun _ h => absurd h List.not_mem_nil

@[simp] theorem anchors_cons (target : Option Address) (rest : List (Option Address)) :
    t.Anchors (target :: rest) ↔ (∀ address ∈ target, t.Defines address) ∧ t.Anchors rest := by
  simp only [Anchors, List.mem_cons, Option.mem_def, or_imp, forall_and, eq_comm]

@[simp] theorem anchors_append (first second : List (Option Address)) :
    t.Anchors (first ++ second) ↔ t.Anchors first ∧ t.Anchors second := by
  simp only [Anchors, List.mem_append, or_imp, forall_and]

theorem anchors_singleton (address : Address) : t.Anchors [some address] ↔ t.Defines address := by
  simp

theorem anchors_map {α : Type} (items : List α) (f : α → Address) :
    t.Anchors (items.map fun item => some (f item)) ↔ ∀ item ∈ items, t.Defines (f item) := by
  simp [Anchors]

theorem anchors_getD {α : Type} {held : Option α} {f : α → List (Option Address)}
    (h : ∀ a ∈ held, t.Anchors (f a)) : t.Anchors ((held.map f).getD []) := by
  cases held with
  | none => exact anchors_nil
  | some a => exact h a rfl

/-! ## What is defined -/

theorem Defines.of_tops {kind : Kind} {r : Record} (hr : r ∈ t.tops kind) {b : Block}
    (hb : b ∈ blocksOf t kind r) {address : Address} (h : ∃ body, Block.defining address body = b) :
    t.Defines address := by
  obtain ⟨body, rfl⟩ := h
  exact ⟨body, mem_blocks.mpr (.inr ⟨kind, r, hr, hb⟩)⟩

theorem Defines.of_topLevel {kind : Kind} (hkind : kind.location = .collection) {r : Record}
    (hr : r ∈ t.topLevel kind) {b : Block} (hb : b ∈ blocksOf t kind r) {address : Address}
    (h : ∃ body, Block.defining address body = b) : t.Defines address :=
  .of_tops (tops_eq_topLevel t hkind ▸ hr) hb h

theorem defines_resourceGroup {group : Record} (h : group ∈ t.topLevel .resourceGroup) :
    t.Defines (.resourceGroup group) :=
  .of_topLevel rfl h List.mem_cons_self ⟨_, rfl⟩

theorem defines_vpc {vpc : Record} (h : vpc ∈ t.topLevel .vpc) : t.Defines (.vpc vpc.label) := by
  have hb : Vpcs.block t vpc ∈ Vpcs.blocks t vpc :=
    List.mem_append_left _ (List.mem_append_left _ List.mem_cons_self)
  exact .of_topLevel rfl h hb ⟨_, rfl⟩

theorem defines_subnet {vpc subnet : Record} (h : vpc ∈ t.topLevel .vpc)
    (hsubnet : subnet ∈ vpc.records "subnets") : t.Defines (.subnet vpc.label subnet.label) := by
  have hb : Vpcs.subnet t vpc subnet ∈ Vpcs.blocks t vpc :=
    List.mem_append_left _ (List.mem_append_right _ (List.mem_map_of_mem hsubnet))
  exact .of_topLevel rfl h hb ⟨_, rfl⟩

theorem defines_securityGroup {group : Record} (h : group ∈ t.topLevel .securityGroup) :
    t.Defines (.securityGroup group) := by
  have hb : SecurityGroups.block t group ∈ SecurityGroups.blocks t group := List.mem_cons_self
  exact .of_topLevel rfl h hb ⟨_, rfl⟩

theorem defines_transitGateway {gateway : Record} (h : gateway ∈ t.topLevel .transitGateway) :
    t.Defines (.transitGateway (gateway.flag "use_data") gateway.label) := by
  have hb : TransitGateways.block t gateway ∈ TransitGateways.blocks t gateway :=
    List.mem_cons_self
  exact .of_topLevel rfl h hb ⟨_, rfl⟩

theorem defines_classicVlan {vlan : Record} (h : vlan ∈ t.topLevel .classicVlan)
    (hplaced : (vlan.text? "datacenter").isSome) : t.Defines (.classicVlan vlan.label) := by
  have hb : Classic.vlanBlock t vlan ∈ blocksOf t .classicVlan vlan := by
    simp [blocksOf, hplaced]
  exact .of_topLevel rfl h hb ⟨_, rfl⟩

theorem defines_dns {dns : Record} (h : dns ∈ t.topLevel .dns) : t.Defines (.dns dns.label) := by
  have hb : Dns.block t dns ∈ Dns.blocks t dns := List.mem_cons_self
  exact .of_topLevel rfl h hb ⟨_, rfl⟩

theorem defines_dnsZone {dns zone : Record} (h : dns ∈ t.topLevel .dns)
    (hzone : zone ∈ dns.records "zones") : t.Defines (.dnsZone dns.label zone.label) := by
  have hfirst : Block.defining (.dnsZone dns.label zone.label) _ ∈
      Dns.zoneBlocks t dns.label zone := List.mem_cons_self
  have hb : Block.defining (.dnsZone dns.label zone.label) _ ∈ Dns.blocks t dns :=
    List.mem_append_left _ <| List.mem_append_left _ <|
      List.mem_cons_of_mem _ (List.mem_flatMap_of_mem hzone hfirst)
  exact .of_topLevel rfl h hb ⟨_, rfl⟩

theorem defines_keyManagement {keyManagement : Record}
    (h : keyManagement ∈ t.topLevel .keyManagement) : t.Defines (.keyManagement keyManagement) := by
  have hb : KeyManagement.block t keyManagement ∈ KeyManagement.blocks t keyManagement :=
    List.mem_append_left _ (List.mem_append_left _ List.mem_cons_self)
  exact .of_topLevel rfl h hb ⟨_, rfl⟩

theorem defines_keyRing {keyManagement key : Record} {ring : String}
    (h : keyManagement ∈ t.topLevel .keyManagement) (hkey : key ∈ keyManagement.records "keys")
    (hring : key.filled? "key_ring" = some ring) :
    t.Defines (.keyRing keyManagement.label ring) := by
  have hlisted : ring ∈ KeyManagement.rings keyManagement := by
    simpa [KeyManagement.rings] using ⟨key, hkey, hring⟩
  have hb : KeyManagement.ringBlock t keyManagement.label ring ∈
      KeyManagement.blocks t keyManagement :=
    List.mem_append_left _ (List.mem_append_right _ (List.mem_map_of_mem hlisted))
  exact .of_topLevel rfl h hb ⟨_, rfl⟩

theorem defines_encryptionKey {keyManagement key : Record}
    (h : keyManagement ∈ t.topLevel .keyManagement) (hkey : key ∈ keyManagement.records "keys") :
    t.Defines (.encryptionKey keyManagement.label key.label) := by
  have hfirst : KeyManagement.keyBlock t keyManagement.label key ∈
      KeyManagement.keyBlocks t keyManagement.label key := List.mem_cons_self
  have hb : KeyManagement.keyBlock t keyManagement.label key ∈
      KeyManagement.blocks t keyManagement :=
    List.mem_append_right _ (List.mem_flatMap_of_mem hkey hfirst)
  exact .of_topLevel rfl h hb ⟨_, rfl⟩

theorem defines_objectStorage {storage : Record} (h : storage ∈ t.topLevel .objectStorage) :
    t.Defines (.objectStorage storage) := by
  have hb : ObjectStorage.block t storage ∈ ObjectStorage.blocks t storage :=
    List.mem_append_left _ (List.mem_append_left _ (List.mem_append_right _ List.mem_cons_self))
  exact .of_topLevel rfl h hb ⟨_, rfl⟩

/-- The random suffix that the names of an instance end in. -/
theorem defines_randomSuffix {storage : Record} (h : storage ∈ t.topLevel .objectStorage)
    (hsuffix : ObjectStorage.suffix storage ≠ "") : t.Defines (.randomSuffix storage.label) := by
  have hflag : storage.flag "use_random_suffix" = true := by
    by_contra hunset
    exact hsuffix (if_neg hunset)
  have hb : ObjectStorage.suffixBlock storage ∈ ObjectStorage.blocks t storage :=
    (ObjectStorage.mem_blocks t).mpr (.inl ⟨hflag, rfl⟩)
  exact .of_topLevel rfl h hb ⟨_, rfl⟩

theorem defines_bucket {storage bucket : Record} (h : storage ∈ t.topLevel .objectStorage)
    (hbucket : bucket ∈ storage.records "buckets") :
    t.Defines (.bucket storage.label bucket.label) := by
  have hb : ObjectStorage.bucketBlock t storage bucket ∈ ObjectStorage.blocks t storage :=
    List.mem_append_left _ (List.mem_append_right _ (List.mem_map_of_mem hbucket))
  exact .of_topLevel rfl h hb ⟨_, rfl⟩

theorem defines_storageKey {storage key : Record} (h : storage ∈ t.topLevel .objectStorage)
    (hkey : key ∈ storage.records "keys") : t.Defines (.storageKey storage.label key.label) := by
  have hb : ObjectStorage.keyBlock t storage key ∈ ObjectStorage.blocks t storage :=
    List.mem_append_right _ (List.mem_map_of_mem hkey)
  exact .of_topLevel rfl h hb ⟨_, rfl⟩

theorem defines_secretsManager {manager : Record} (h : manager ∈ t.topLevel .secretsManager) :
    t.Defines (.secretsManager manager.label) := by
  have hb : SecretsManager.block t manager ∈ SecretsManager.blocks t manager :=
    List.mem_append_right _ List.mem_cons_self
  exact .of_topLevel rfl h hb ⟨_, rfl⟩

theorem defines_appId {appId : Record} (h : appId ∈ t.topLevel .appId) :
    t.Defines (.appId appId) := by
  have hb : AppId.block t appId ∈ AppId.blocks t appId := List.mem_cons_self
  exact .of_topLevel rfl h hb ⟨_, rfl⟩

theorem defines_accessGroup {group : Record} (h : group ∈ t.topLevel .accessGroup) :
    t.Defines (.accessGroup group.label) := by
  have hb : AccessGroups.block group ∈ AccessGroups.blocks t group :=
    List.mem_append_left _ (List.mem_append_left _ List.mem_cons_self)
  exact .of_topLevel rfl h hb ⟨_, rfl⟩

theorem defines_trackingTarget {tracker : Record} (h : t.single? .activityTracker = some tracker)
    (henabled : tracker.flag "enabled" = true) :
    t.Defines (.trackingTarget (ActivityTracker.nameOf tracker)) := by
  have hb : ActivityTracker.target t tracker ∈ ActivityTracker.blocks t tracker := by
    simp [ActivityTracker.blocks, henabled]
  have hmem : tracker ∈ t.tops .activityTracker := by
    rw [tops_eq_single t rfl, h]
    exact List.mem_cons_self
  exact .of_tops hmem hb ⟨_, rfl⟩

/-! ## What is looked up -/

theorem anchors_lookup? {kind : Kind} (hkind : kind.location = .collection)
    {address : Record → Address} (h : ∀ r ∈ t.topLevel kind, t.Defines (address r))
    (name : Option String) : t.Anchors [(t.lookup? kind name).map address] := by
  intro target htarget
  obtain ⟨r, hr, rfl⟩ := Option.map_eq_some_iff.mp (List.mem_singleton.mp htarget).symm
  exact h r (mem_topLevel_of_lookup? hkind hr)

theorem anchors_resourceGroupId (name : Option String) :
    t.Anchors (t.resourceGroupId name).targets := by
  rw [targets_resourceGroupId]
  exact anchors_lookup? rfl (fun _ => defines_resourceGroup) name

theorem anchors_resourceGroupOf (r : Record) : t.Anchors (t.resourceGroupOf r).targets :=
  anchors_resourceGroupId _

theorem anchors_vpcOutput (name : Option String) (output : String) :
    t.Anchors (t.vpcOutput name output).targets := by
  rw [targets_vpcOutput]
  exact anchors_lookup? rfl (fun _ => defines_vpc) name

theorem anchors_keyManagementGuid (name : Option String) :
    t.Anchors (t.keyManagementGuid name).targets := by
  rw [targets_keyManagementGuid]
  exact anchors_lookup? rfl (fun _ => defines_keyManagement) name

theorem anchors_objectStorageOutput (name : Option String) (output : String) :
    t.Anchors (t.objectStorageOutput name output).targets := by
  rw [targets_objectStorageOutput]
  exact anchors_lookup? rfl (fun _ => defines_objectStorage) name

theorem anchors_encryptionKeyCrn (keyManagement key : Option String) :
    t.Anchors (t.encryptionKeyCrn keyManagement key).targets := by
  unfold encryptionKeyCrn
  split
  · next parent name =>
      split
      · next hfound =>
          obtain ⟨holder, hholder, hparent, r, hr, hname⟩ := exists_holder_of_find? rfl hfound
          have hdefines := defines_encryptionKey hholder hr
          rw [Record.label_eq hparent, Record.label_eq hname] at hdefines
          exact (anchors_singleton _).mpr hdefines
      · simp
  · simp

theorem anchors_bucketOutput (name : Option String) (output : String) :
    t.Anchors (t.bucketOutput name output).targets := by
  unfold bucketOutput
  split
  · next storage name howner =>
      obtain ⟨holder, hholder, hparent, r, hr, hname⟩ := exists_holder_of_ownerOf rfl howner
      have hdefines := defines_bucket hholder hr
      rw [Record.label_eq hparent, Record.label_eq hname] at hdefines
      exact (anchors_singleton _).mpr hdefines
  · simp

theorem anchors_credential (tracker : Record) :
    t.Anchors (ActivityTracker.credential t tracker).targets := by
  unfold ActivityTracker.credential
  split
  · next storage key howner hkey =>
      rw [(Record.filled?_eq_some_iff.mp hkey).1] at howner
      obtain ⟨holder, hholder, hparent, r, hr, hname⟩ := exists_holder_of_ownerOf rfl howner
      have hdefines := defines_storageKey hholder hr
      rw [Record.label_eq hparent, Record.label_eq hname] at hdefines
      exact (anchors_singleton _).mpr hdefines
  · simp

theorem anchors_zoneId (dns : String) (zone : Option String) :
    t.Anchors (Dns.zoneId t dns zone).targets := by
  unfold Dns.zoneId
  split
  · next name hfilter =>
      obtain ⟨_, hfound⟩ := Option.filter_eq_some_iff.mp hfilter
      obtain ⟨holder, hholder, hparent, r, hr, hname⟩ := exists_holder_of_find? rfl hfound
      have hdefines := defines_dnsZone hholder hr
      rw [Record.label_eq hparent, Record.label_eq hname] at hdefines
      exact (anchors_singleton _).mpr hdefines
  · simp

/-! ## Families that look up what they refer to -/

theorem anchors_vpcs {vpc : Record} (h : vpc ∈ t.topLevel .vpc) {b : Block}
    (hb : b ∈ Vpcs.blocks t vpc) : t.Anchors b.targets := by
  have hgroup := anchors_resourceGroupOf (t := t) vpc
  have hself (output : String) := anchors_vpcOutput (t := t) vpc.label output
  simp only [Vpcs.blocks, List.cons_append, List.mem_cons, List.mem_append, List.mem_map] at hb
  rcases hb with rfl | (⟨entry, _, rfl⟩ | ⟨entry, _, rfl⟩) | hlogs
  · rw [Vpcs.targets_block]
    exact hgroup
  · rw [Vpcs.targets_addressPrefix]
    exact hself _
  · rw [Vpcs.targets_subnet, anchors_append, anchors_append]
    refine ⟨⟨hself _, hgroup⟩, ?_⟩
    split
    · exact (anchors_singleton _).mpr (defines_vpc h)
    · exact anchors_nil
  · obtain ⟨bucket, _, _, htargets⟩ := Vpcs.targets_of_mem_flowLogs t hlogs
    rw [htargets, anchors_append, anchors_append]
    exact ⟨⟨hself _, anchors_bucketOutput _ _⟩, hgroup⟩

theorem anchors_securityGroups {group : Record} (h : group ∈ t.topLevel .securityGroup) {b : Block}
    (hb : b ∈ SecurityGroups.blocks t group) : t.Anchors b.targets := by
  simp only [SecurityGroups.blocks, List.mem_cons, List.mem_map] at hb
  rcases hb with rfl | ⟨entry, _, rfl⟩
  · rw [SecurityGroups.targets_block, anchors_append]
    exact ⟨anchors_vpcOutput _ _, anchors_resourceGroupOf group⟩
  · rw [SecurityGroups.targets_rule, anchors_singleton]
    exact defines_securityGroup h

theorem anchors_sshKeys (key : Record) : t.Anchors (SshKeys.block t key).targets := by
  rw [SshKeys.targets_block]
  split
  · exact anchors_nil
  · exact anchors_resourceGroupOf key

theorem anchors_keyManagement {keyManagement : Record}
    (h : keyManagement ∈ t.topLevel .keyManagement) {b : Block}
    (hb : b ∈ KeyManagement.blocks t keyManagement) : t.Anchors b.targets := by
  have hself := anchors_keyManagementGuid (t := t) keyManagement.label
  rcases (KeyManagement.mem_blocks t).mp hb with
    rfl | ⟨_, rfl⟩ | ⟨ring, _, rfl⟩ | ⟨key, hkey, hblock⟩
  · rw [KeyManagement.targets_block]
    exact anchors_resourceGroupOf keyManagement
  · rw [KeyManagement.targets_volumeAuthorization]
    exact hself
  · rw [KeyManagement.targets_ringBlock]
    exact hself
  · rcases (KeyManagement.mem_keyBlocks t).mp hblock with rfl | ⟨months, _, rfl⟩
    · rw [KeyManagement.targets_keyBlock, anchors_append, anchors_map]
      refine ⟨hself, fun ring hring => ?_⟩
      exact defines_keyRing h hkey (Option.mem_toList.mp hring)
    · rw [KeyManagement.targets_rotationBlock, anchors_append, anchors_singleton]
      exact ⟨hself, defines_encryptionKey h hkey⟩

theorem anchors_objectStorage {storage : Record} {b : Block}
    (hb : b ∈ ObjectStorage.blocks t storage) : t.Anchors b.targets := by
  have hself (output : String) := anchors_objectStorageOutput (t := t) storage.label output
  rcases (ObjectStorage.mem_blocks t).mp hb with
    ⟨_, rfl⟩ | rfl | hauthorization | ⟨bucket, _, rfl⟩ | ⟨key, _, rfl⟩
  · rw [ObjectStorage.targets_suffixBlock]
    exact anchors_nil
  · rw [ObjectStorage.targets_block]
    exact anchors_resourceGroupOf storage
  · obtain ⟨keyManagement, _, htargets⟩ :=
      ObjectStorage.targets_of_mem_authorization t hauthorization
    rw [htargets, anchors_append]
    exact ⟨hself _, anchors_keyManagementGuid _⟩
  · rw [ObjectStorage.targets_bucketBlock, anchors_append]
    exact ⟨hself _, anchors_encryptionKeyCrn _ _⟩
  · rw [ObjectStorage.targets_keyBlock]
    exact hself _

theorem anchors_databases (database : Record) : t.Anchors (Databases.block t database).targets := by
  rw [Databases.targets_block, anchors_append, anchors_append]
  exact ⟨⟨anchors_resourceGroupOf database,
    anchors_getD fun name _ => anchors_keyManagementGuid name⟩,
    anchors_getD fun key _ => anchors_encryptionKeyCrn _ key⟩

theorem anchors_eventStreams (streams : Record) :
    t.Anchors (EventStreams.block t streams).targets := by
  rw [EventStreams.targets_block]
  exact anchors_resourceGroupOf streams

theorem anchors_secretsManager {manager : Record} (h : manager ∈ t.topLevel .secretsManager)
    {b : Block} (hb : b ∈ SecretsManager.blocks t manager) : t.Anchors b.targets := by
  rcases List.mem_append.mp hb with hauthorization | hblock
  · obtain ⟨keyManagement, _, htargets⟩ :=
      SecretsManager.targets_of_mem_authorization t hauthorization
    rw [htargets, anchors_cons]
    exact ⟨by simpa using defines_secretsManager h, anchors_keyManagementGuid _⟩
  · obtain rfl := List.mem_singleton.mp hblock
    rw [SecretsManager.targets_block, anchors_append]
    exact ⟨anchors_resourceGroupOf manager, anchors_encryptionKeyCrn _ _⟩

theorem anchors_appId {appId : Record} (h : appId ∈ t.topLevel .appId) {b : Block}
    (hb : b ∈ AppId.blocks t appId) : t.Anchors b.targets := by
  simp only [AppId.blocks, List.mem_cons, List.mem_map] at hb
  rcases hb with rfl | ⟨key, _, rfl⟩
  · rw [AppId.targets_block]
    exact anchors_resourceGroupOf appId
  · rw [AppId.targets_keyBlock, anchors_singleton]
    exact defines_appId h

theorem anchors_accessGroups {group : Record} (h : group ∈ t.topLevel .accessGroup) {b : Block}
    (hb : b ∈ AccessGroups.blocks t group) : t.Anchors b.targets := by
  have hself := defines_accessGroup h
  simp only [AccessGroups.blocks, List.cons_append, List.mem_cons, List.mem_append,
    List.mem_map] at hb
  rcases hb with rfl | (⟨policy, _, rfl⟩ | ⟨entry, _, rfl⟩) | hinvites
  · rw [AccessGroups.targets_block]
    exact anchors_nil
  · rw [AccessGroups.targets_policyBlock, anchors_cons]
    exact ⟨by simpa using hself, anchors_getD fun name _ => anchors_resourceGroupId name⟩
  · rw [AccessGroups.targets_ruleBlock, anchors_singleton]
    exact hself
  · rw [AccessGroups.targets_of_mem_invites hinvites, anchors_singleton]
    exact hself

theorem anchors_activityTracker {tracker : Record}
    (h : t.single? .activityTracker = some tracker) {b : Block}
    (hb : b ∈ ActivityTracker.blocks t tracker) : t.Anchors b.targets := by
  obtain ⟨henabled, rfl | ⟨_, rfl⟩⟩ := (ActivityTracker.mem_blocks t).mp hb
  · rw [ActivityTracker.targets_target, anchors_append, anchors_append]
    exact ⟨⟨anchors_objectStorageOutput _ _, anchors_bucketOutput _ _⟩, anchors_credential tracker⟩
  · rw [ActivityTracker.targets_route, anchors_singleton]
    exact defines_trackingTarget h henabled

/-! ## Families that take addresses from the names they hold -/

/-- Whether no list that is declared to hold names holds the empty text. -/
def ListsFilled (t : Tree) : Prop :=
  ∀ kind : Kind, ∀ entry ∈ t.entries kind, ∀ reference ∈ kind.schema.references,
    reference.arity = .many → "" ∉ entry.2.texts reference.path.root

theorem defines_resolverSubnet (h : t.Consistent) (hlists : t.ListsFilled) {dns resolver : Record}
    (hdns : dns ∈ t.topLevel .dns) (hresolver : resolver ∈ dns.records "custom_resolvers")
    {subnet : String} (hsubnet : subnet ∈ resolver.texts "subnets") :
    t.Defines (.subnet (resolver.textOr "vpc" "") subnet) := by
  let reference := (Reference.many "subnets" .subnet).under (.underField "vpc")
  have hmem : reference ∈ Kind.dnsResolver.schema.references := by decide
  have hentry : (dns.name?, resolver) ∈ t.entries .dnsResolver :=
    mem_entries_of_held rfl hdns hresolver
  have hne : subnet ≠ "" := fun hempty => hlists _ _ hentry reference hmem rfl (hempty ▸ hsubnet)
  have hmention : subnet ∈ reference.mentions resolver :=
    Reference.mem_mentions_of_texts rfl rfl hsubnet hne
  have hreached : subnet ∈ (Reach.ofField resolver "vpc").names t .subnet :=
    h.mem_reached_of_plain hmem hentry hmention rfl
  -- without a VPC nothing is reached, so no subnet would have stayed
  obtain ⟨vpc, hvpc, hnamed⟩ := mem_names_ofField.mp hreached
  obtain ⟨holder, hholder, hparent, held, hheld, hname⟩ :=
    exists_holder_of_find? rfl (isSome_find?_iff.mpr hnamed)
  have hdefines := defines_subnet hholder hheld
  rw [Record.label_eq hparent, Record.label_eq hname] at hdefines
  rwa [Record.textOr, (Record.filled?_eq_some_iff.mp hvpc).1, Option.getD_some]

theorem anchors_dns (h : t.Consistent) (hlists : t.ListsFilled) {dns : Record}
    (hdns : dns ∈ t.topLevel .dns) {b : Block} (hb : b ∈ Dns.blocks t dns) :
    t.Anchors b.targets := by
  have hself := defines_dns hdns
  simp only [Dns.blocks, List.cons_append, List.mem_cons, List.mem_append, List.mem_flatMap,
    List.mem_map] at hb
  rcases hb with rfl | (⟨zone, hzone, hblock⟩ | ⟨r, _, rfl⟩) | ⟨resolver, hresolver, rfl⟩
  · rw [Dns.targets_block]
    exact anchors_resourceGroupOf dns
  · rcases Dns.mem_zoneBlocks t hblock with htargets | ⟨vpc, _, rfl⟩
    · rw [htargets, anchors_singleton]
      exact hself
    · rw [Dns.targets_permittedNetwork, anchors_cons, anchors_cons]
      exact ⟨by simpa using hself, by simpa using defines_dnsZone hdns hzone, anchors_vpcOutput _ _⟩
  · rw [Dns.targets_recordBlock, anchors_cons]
    exact ⟨by simpa using hself, anchors_zoneId _ _⟩
  · rw [Dns.targets_resolverBlock, anchors_cons, anchors_map]
    exact ⟨by simpa using hself, fun subnet => defines_resolverSubnet h hlists hdns hresolver⟩

/-- Whether the connections of every transit gateway carry its name. -/
def ConnectionsNamed (t : Tree) : Prop :=
  ∀ gateway ∈ t.topLevel .transitGateway, ∀ connection ∈ gateway.records "connections",
    connection.text? "tgw" = gateway.name?

/-- The gateway of a connection is the one that has it, imported or not. -/
theorem gatewayAddress_label (h : t.Settled) {gateway : Record}
    (hgateway : gateway ∈ t.topLevel .transitGateway) :
    TransitGateways.gatewayAddress t gateway.label =
      .transitGateway (gateway.flag "use_data") gateway.label := by
  rw [TransitGateways.gatewayAddress, h.lookup?_label rfl hgateway, Option.any_some]

theorem anchors_transitGateways (h : t.Settled) (hnamed : t.ConnectionsNamed) {gateway : Record}
    (hgateway : gateway ∈ t.topLevel .transitGateway) {b : Block}
    (hb : b ∈ TransitGateways.blocks t gateway) : t.Anchors b.targets := by
  rcases List.mem_cons.mp hb with rfl | hmade
  · rw [TransitGateways.targets_block]
    split
    · exact anchors_nil
    · exact anchors_resourceGroupOf gateway
  · obtain ⟨connection, hconnection, rfl⟩ := List.mem_map.mp hmade
    have htgw : connection.textOr "tgw" "" = gateway.label := by
      rcases TransitGateways.mem_connections hconnection with hstored | ⟨crn, rfl⟩
      · rw [Record.textOr, hnamed gateway hgateway connection hstored]
        rfl
      · exact TransitGateways.tgw_remoteConnection gateway.label crn
    rw [TransitGateways.targets_connectionBlock, htgw, gatewayAddress_label h hgateway,
      anchors_cons]
    exact ⟨by simpa using defines_transitGateway hgateway,
      anchors_getD fun name _ => anchors_vpcOutput name _⟩

/-- Whether every classic VLAN is in a datacenter. -/
def VlansPlaced (t : Tree) : Prop :=
  ∀ vlan ∈ t.topLevel .classicVlan, (vlan.text? "datacenter").isSome

theorem anchors_vlanBlock (h : t.Consistent) (hplaced : t.VlansPlaced) {vlan : Record}
    (hvlan : vlan ∈ t.topLevel .classicVlan) : t.Anchors (Classic.vlanBlock t vlan).targets := by
  rw [Classic.targets_vlanBlock, anchors_map]
  intro name hname
  have hexists : name ∈ t.names .classicVlan none :=
    h.mem_names_of_filled (by decide) (mem_entries_of_topLevel rfl hvlan)
      (Option.mem_toList.mp hname)
  obtain ⟨other, hother, hothername⟩ := List.mem_filterMap.mp hexists
  rw [collection_of_top t rfl, tops_eq_topLevel t rfl] at hother
  rw [← Record.label_eq hothername]
  exact defines_classicVlan hother (hplaced other hother)

/-! ## Documents -/

theorem anchors_blocksOf (h : t.Settled) (hlists : t.ListsFilled) (hnamed : t.ConnectionsNamed)
    (hplaced : t.VlansPlaced) {kind : Kind} {r : Record} (hr : r ∈ t.tops kind) {b : Block}
    (hb : b ∈ blocksOf t kind r) : t.Anchors b.targets := by
  have htop (hkind : kind.location = .collection) : r ∈ t.topLevel kind :=
    tops_eq_topLevel t hkind ▸ hr
  cases kind with
  | resourceGroup =>
      obtain rfl := List.mem_singleton.mp hb
      rw [ResourceGroups.targets_block]
      exact anchors_nil
  | vpc => exact anchors_vpcs (htop rfl) hb
  | securityGroup => exact anchors_securityGroups (htop rfl) hb
  | transitGateway => exact anchors_transitGateways h hnamed (htop rfl) hb
  | classicSshKey =>
      obtain ⟨_, rfl⟩ : _ ∧ b = Classic.keyBlock r := by simpa [blocksOf] using hb
      rw [Classic.targets_keyBlock]
      exact anchors_nil
  | classicVlan =>
      obtain ⟨_, rfl⟩ : _ ∧ b = Classic.vlanBlock t r := by simpa [blocksOf] using hb
      exact anchors_vlanBlock h.consistent hplaced (htop rfl)
  | dns => exact anchors_dns h.consistent hlists (htop rfl) hb
  | sshKey =>
      obtain rfl := List.mem_singleton.mp hb
      exact anchors_sshKeys r
  | keyManagement => exact anchors_keyManagement (htop rfl) hb
  | objectStorage => exact anchors_objectStorage hb
  | database =>
      obtain rfl := List.mem_singleton.mp hb
      exact anchors_databases r
  | eventStreams =>
      obtain rfl := List.mem_singleton.mp hb
      exact anchors_eventStreams r
  | secretsManager => exact anchors_secretsManager (htop rfl) hb
  | appId => exact anchors_appId (htop rfl) hb
  | accountSettings =>
      rw [AccountSettings.targets_of_mem_blocks hb]
      exact anchors_nil
  | accessGroup => exact anchors_accessGroups (htop rfl) hb
  | activityTracker =>
      rw [tops_eq_single t rfl] at hr
      exact anchors_activityTracker (Option.mem_toList.mp hr) hb
  | _ => exact absurd hb List.not_mem_nil

end Tree

/-- Every address that a block of a document refers to is defined by a block of the
document: by a data source if it is the address of one, and by a resource or a module
otherwise. -/
theorem addresses_defined {t : Tree} (h : t.Settled) (hlists : t.ListsFilled)
    (hnamed : t.ConnectionsNamed) (hplaced : t.VlansPlaced) :
    ∀ b ∈ t.blocks, ∀ address, some address ∈ b.targets →
      ∃ body, Block.defining address body ∈ t.blocks := by
  intro b hb address haddress
  have hanchors : t.Anchors b.targets := by
    rcases Tree.mem_blocks.mp hb with hprovider | ⟨kind, r, hr, hmade⟩
    · rw [Provider.targets_of_mem_blocks t hprovider]
      exact Tree.anchors_nil
    · exact Tree.anchors_blocksOf h hlists hnamed hplaced hr hmade
  exact hanchors address haddress

/-- The connection of a gateway from outside the deployment refers to the data source. -/
theorem addresses_defined_hub :
    some (.data "ibm_tg_gateway" "data_hub") ∈ servicesTree.blocks.flatMap Block.targets ∧
      ∃ body, Block.defining (.data "ibm_tg_gateway" "data_hub") body ∈ servicesTree.blocks := by
  have hsettled := servicesTree_settled
  obtain ⟨hlists, hnamed, hplaced, hmention⟩ :
      (Kind.all.all fun kind => (servicesTree.entries kind).all fun entry =>
        kind.schema.references.all fun reference =>
          reference.arity ≠ .many || !(entry.2.texts reference.path.root).contains "") = true ∧
      ((servicesTree.topLevel .transitGateway).all fun gateway =>
        (gateway.records "connections").all fun connection =>
          connection.text? "tgw" = gateway.name?) = true ∧
      ((servicesTree.topLevel .classicVlan).all fun vlan =>
        (vlan.text? "datacenter").isSome) = true ∧
      some (.data "ibm_tg_gateway" "data_hub") ∈ servicesTree.blocks.flatMap Block.targets := by
    decide +kernel
  generalize servicesTree = t at hsettled hlists hnamed hplaced hmention ⊢
  refine ⟨hmention, ?_⟩
  obtain ⟨b, hb, haddress⟩ := List.mem_flatMap.mp hmention
  refine addresses_defined hsettled ?_ ?_ ?_ b hb _ haddress
  · intro kind entry hentry reference hmem harity
    have hfilled := List.all_eq_true.mp (List.all_eq_true.mp
      (List.all_eq_true.mp hlists kind kind.mem_all) entry hentry) reference hmem
    simpa [harity] using hfilled
  · intro gateway hgateway connection hconnection
    have hname := List.all_eq_true.mp (List.all_eq_true.mp hnamed gateway hgateway) connection
      hconnection
    simpa using hname
  · exact List.all_eq_true.mp hplaced

end Blueprint

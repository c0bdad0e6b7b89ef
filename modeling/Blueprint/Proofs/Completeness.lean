import Blueprint.Proofs.Emission
import Blueprint.Proofs.Lookups

/-!
# Completeness

A reconciled tree whose records fill the references that are always written leaves no
unfound marker in its document. What reconciliation takes for a meaning of a name is
found by the look-up of the block, also for names that are looked up under the parent
that another field names. References that are written only where they are filled need
no condition.
-/

namespace Blueprint

open Terraform

/-- The references of a record that are written whether they are filled or not. -/
def Kind.writtenReferences (kind : Kind) (r : Record) : List String :=
  match kind with
  | .vpc | .dns | .keyManagement | .database | .eventStreams | .appId => ["resource_group"]
  | .securityGroup => ["resource_group", "vpc"]
  | .transitGateway | .sshKey => if r.flag "use_data" then [] else ["resource_group"]
  | .objectStorage =>
      "resource_group" :: if (r.records "buckets").isEmpty then [] else ["kms"]
  | .bucket => ["kms_key"]
  | .secretsManager => ["resource_group", "kms", "encryption_key"]
  | .dnsRecord => ["dns_zone"]
  | .activityTracker => if r.flag "enabled" then ["bucket", "cos_key"] else []
  | .options | .resourceGroup | .encryptionKey | .storageKey | .subnet | .securityRule
  | .dnsZone | .dnsResolver | .accessGroup | .accessPolicy | .dynamicPolicy
  | .accountSettings | .appIdKey | .classicSshKey | .classicVlan => []

theorem Kind.resourceGroup_mem_references {kind : Kind} {r : Record}
    (h : "resource_group" ∈ kind.writtenReferences r) :
    Reference.resourceGroup ∈ kind.schema.references := by
  cases kind
  case options | resourceGroup | encryptionKey | bucket | storageKey | subnet | securityRule
      | dnsZone | dnsRecord | dnsResolver | accessGroup | accessPolicy | dynamicPolicy
      | accountSettings | appIdKey | activityTracker | classicSshKey | classicVlan =>
    simp [writtenReferences] at h
  all_goals decide

namespace Tree

variable {t : Tree}

/-- Whether every record fills the references that are always written. -/
def Complete (t : Tree) : Prop :=
  ∀ kind : Kind, ∀ entry ∈ t.entries kind, ∀ field ∈ kind.writtenReferences entry.2,
    (entry.2.filled? field).isSome

/-- Whether no zone lists the empty text among its VPCs. -/
def ZonesFilled (t : Tree) : Prop :=
  ∀ entry ∈ t.entries .dnsZone, "" ∉ entry.2.texts "vpcs"

/-! ## Look-ups that succeed -/

theorem found_outputOf {kind : Kind} {name : Option String} {address : Record → Address}
    {output : String} (h : (t.lookup? kind name).isSome) :
    none ∉ (t.outputOf kind name address output).targets := by
  obtain ⟨r, hr⟩ := Option.isSome_iff_exists.mp h
  simp [targets_outputOf, hr]

theorem found_of_filled (h : t.Consistent) {kind target : Kind} {field : String}
    (hmem : Reference.one field target ∈ kind.schema.references) {parent : Option String}
    {r : Record} (hentry : (parent, r) ∈ t.entries kind) (hfilled : (r.filled? field).isSome)
    (address : Record → Address) (output : String) :
    none ∉ (t.outputOf target (r.text? field) address output).targets := by
  obtain ⟨name, hname⟩ := Option.isSome_iff_exists.mp hfilled
  rw [(Record.filled?_eq_some_iff.mp hname).1]
  exact found_outputOf (h.isSome_lookup?_of_filled hmem hentry hname)

theorem found_resourceGroupOf (h : t.Settled) (hcomplete : t.Complete) {kind : Kind}
    (hkind : kind.location = .collection) {r : Record} (hr : r ∈ t.topLevel kind)
    (hwritten : "resource_group" ∈ kind.writtenReferences r) :
    none ∉ (t.resourceGroupOf r).targets := by
  have hentry := mem_entries_of_topLevel hkind hr
  exact found_of_filled h.consistent (Kind.resourceGroup_mem_references hwritten) hentry
    (hcomplete kind _ hentry _ hwritten) _ _

theorem found_label (h : t.Settled) {kind : Kind} (hkind : kind.location = .collection)
    {r : Record} (hr : r ∈ t.topLevel kind) (address : Record → Address) (output : String) :
    none ∉ (t.outputOf kind r.label address output).targets := by
  apply found_outputOf
  rw [h.lookup?_label hkind hr]
  rfl

theorem found_encryptionKeyCrn {keyManagement key : String}
    (h : key ∈ t.names .encryptionKey (some keyManagement)) :
    none ∉ (t.encryptionKeyCrn keyManagement key).targets := by
  simp [encryptionKeyCrn, isSome_find?_iff.mpr h]

/-- A key is one of the key management that the record names beside it. -/
theorem Consistent.exists_keyManagement (h : t.Consistent) {kind : Kind}
    (hmem : Reference.encryptionKey ∈ kind.schema.references) {parent : Option String} {r : Record}
    (hentry : (parent, r) ∈ t.entries kind) {key : String}
    (hkey : r.filled? "encryption_key" = some key) :
    ∃ keyManagement, r.filled? "kms" = some keyManagement ∧
      key ∈ t.names .encryptionKey (some keyManagement) := by
  have hreached : key ∈ (Reach.ofField r "kms").names t .encryptionKey :=
    h.mem_reached_of_plain hmem hentry (Reference.mem_mentions_of_filled rfl rfl hkey) rfl
  exact mem_names_ofField.mp hreached

theorem reach_underParentField {kind parentKind : Kind} (hparent : kind.parent = some parentKind)
    {name : String} {above : Record} (hfind : t.find? parentKind none name = some above)
    (field : String) (holder : Record) :
    (Scope.underParentField field).reach t kind (some name) holder = .ofField above field := by
  simp only [Scope.reach, hparent, hfind]

theorem Settled.exists_keyManagement (h : t.Settled) {storage bucket : Record}
    (hstorage : storage ∈ t.topLevel .objectStorage) (hbucket : bucket ∈ storage.records "buckets")
    {key : String} (hkey : bucket.filled? "kms_key" = some key) :
    ∃ keyManagement, storage.filled? "kms" = some keyManagement ∧
      key ∈ t.names .encryptionKey (some keyManagement) := by
  let reference := (Reference.one "kms_key" .encryptionKey).under (.underParentField "kms")
  have hmem : reference ∈ Kind.bucket.schema.references := by decide
  have hentry : (storage.name?, bucket) ∈ t.entries .bucket :=
    mem_entries_of_held rfl hstorage hbucket
  obtain ⟨name, hname, _, _⟩ := h.exists_name rfl hstorage
  -- names are kept apart, so the scope looks at the instance that holds the bucket
  have hfind : t.find? .objectStorage none name = some storage := by
    refine h.keyed.find?_eq_some (by simp [Kind.location]) (Kind.addresses_none rfl) ?_ hname
    exact mem_collection.mpr ⟨none, mem_entries_of_topLevel rfl hstorage, .inl rfl⟩
  have hreached : key ∈ t.reached .bucket storage.name? bucket reference :=
    h.consistent.mem_reached_of_plain hmem hentry
      (Reference.mem_mentions_of_filled rfl rfl hkey) rfl
  have hreach : reference.scope.reach t .bucket storage.name? bucket = .ofField storage "kms" := by
    rw [hname]
    exact reach_underParentField rfl hfind "kms" bucket
  rw [reached, hreach] at hreached
  exact mem_names_ofField.mp hreached

theorem found_bucketOutput (h : t.Settled) {bucket : String}
    (hbucket : bucket ∈ t.names .bucket none) (output : String) :
    none ∉ (t.bucketOutput bucket output).targets := by
  obtain ⟨owner, howner, _⟩ := h.exists_owner rfl hbucket
  simp [bucketOutput, bucketOwner, howner]

theorem Settled.found_zoneId (h : t.Settled) (hcomplete : t.Complete) {dns r : Record}
    (hdns : dns ∈ t.topLevel .dns) (hr : r ∈ dns.records "records") :
    none ∉ (Dns.zoneId t dns.label (r.text? "dns_zone")).targets := by
  let reference := (Reference.one "dns_zone" .dnsZone).under .sibling
  have hmem : reference ∈ Kind.dnsRecord.schema.references := by decide
  have hentry : (dns.name?, r) ∈ t.entries .dnsRecord := mem_entries_of_held rfl hdns hr
  obtain ⟨zone, hzone⟩ := Option.isSome_iff_exists.mp
    (hcomplete _ _ hentry "dns_zone" (by simp [Kind.writtenReferences]))
  obtain ⟨name, hname, _, _⟩ := h.exists_name rfl hdns
  have hreached : zone ∈ (Reach.ofParent dns.name?).names t .dnsZone :=
    h.consistent.mem_reached_of_plain hmem hentry
      (Reference.mem_mentions_of_filled rfl rfl hzone) rfl
  rw [hname] at hreached
  have hfound : (t.find? .dnsZone (some name) zone).isSome := isSome_find?_iff.mpr hreached
  have hkept : (some zone).filter (fun zone => (t.find? .dnsZone (some name) zone).isSome) =
      some zone := Option.filter_some_pos hfound
  rw [Dns.zoneId, (Record.filled?_eq_some_iff.mp hzone).1, Record.label_eq hname, hkept]
  simp

theorem found_getD {α : Type} {held : Option α} {f : α → List (Option Address)}
    (h : ∀ a ∈ held, none ∉ f a) : none ∉ (held.map f).getD [] := by
  cases held with
  | none => simp
  | some a => exact h a rfl

/-! ## Families -/

theorem found_vpcs (h : t.Settled) (hcomplete : t.Complete) {vpc : Record}
    (hvpc : vpc ∈ t.topLevel .vpc) {b : Block} (hb : b ∈ Vpcs.blocks t vpc) : none ∉ b.targets := by
  have hentry := mem_entries_of_topLevel rfl hvpc
  have hgroup := found_resourceGroupOf h hcomplete rfl hvpc (by simp [Kind.writtenReferences])
  have hself (output : String) : none ∉ (t.vpcOutput vpc.label output).targets :=
    found_label h rfl hvpc _ output
  simp only [Vpcs.blocks, List.cons_append, List.mem_cons, List.mem_append, List.mem_map] at hb
  rcases hb with rfl | (⟨entry, _, rfl⟩ | ⟨entry, _, rfl⟩) | hlogs
  · rw [Vpcs.targets_block]
    exact hgroup
  · rw [Vpcs.targets_addressPrefix]
    exact hself _
  · rw [Vpcs.targets_subnet]
    simp only [List.mem_append, not_or]
    refine ⟨⟨hself _, hgroup⟩, ?_⟩
    split <;> simp
  · obtain ⟨bucket, hfilled, hlogged, htargets⟩ := Vpcs.targets_of_mem_flowLogs t hlogs
    let reference : Reference :=
      { Reference.one "bucket" .bucket with keep := some Vpc.logsDisabled }
    have hmem : reference ∈ Kind.vpc.schema.references := by decide
    have hexists : bucket ∈ t.names .bucket none :=
      h.consistent.mem_reached hmem hentry (Reference.mem_mentions_of_filled rfl rfl hfilled)
        fun hkeep => hlogged (Option.some.inj hkeep).symm
    rw [htargets]
    simp only [List.mem_append, not_or]
    exact ⟨⟨hself _, found_bucketOutput h hexists _⟩, hgroup⟩

theorem found_securityGroups (h : t.Settled) (hcomplete : t.Complete) {group : Record}
    (hgroup : group ∈ t.topLevel .securityGroup) {b : Block}
    (hb : b ∈ SecurityGroups.blocks t group) : none ∉ b.targets := by
  have hentry := mem_entries_of_topLevel rfl hgroup
  simp only [SecurityGroups.blocks, List.mem_cons, List.mem_map] at hb
  rcases hb with rfl | ⟨entry, _, rfl⟩
  · have hvpc : (group.filled? "vpc").isSome :=
      hcomplete _ _ hentry "vpc" (by simp [Kind.writtenReferences])
    rw [SecurityGroups.targets_block, List.mem_append, not_or]
    exact ⟨found_of_filled h.consistent (by decide) hentry hvpc _ _,
      found_resourceGroupOf h hcomplete rfl hgroup (by simp [Kind.writtenReferences])⟩
  · simp [SecurityGroups.targets_rule]

theorem found_transitGateways (h : t.Settled) (hcomplete : t.Complete) {gateway : Record}
    (hgateway : gateway ∈ t.topLevel .transitGateway) {b : Block}
    (hb : b ∈ TransitGateways.blocks t gateway) : none ∉ b.targets := by
  have hentry := mem_entries_of_topLevel rfl hgateway
  rcases List.mem_cons.mp hb with rfl | hmade
  · rw [TransitGateways.targets_block]
    split
    · simp
    · next himported =>
        exact found_resourceGroupOf h hcomplete rfl hgateway
          (by simp [Kind.writtenReferences, himported])
  · obtain ⟨connection, hconnection, rfl⟩ := List.mem_map.mp hmade
    rw [TransitGateways.targets_connectionBlock]
    refine List.not_mem_cons_of_ne_of_not_mem (by simp) (found_getD fun name hname => ?_)
    rcases TransitGateways.mem_connections hconnection with hstored | ⟨crn, rfl⟩
    · let reference : Reference := { path := .each "connections" "vpc", target := .vpc }
      have hmem : reference ∈ Kind.transitGateway.schema.references := by decide
      have hexists : name ∈ t.names .vpc none :=
        h.consistent.mem_reached_of_plain hmem hentry
          (Reference.mem_mentions_of_each rfl hstored hname) rfl
      exact found_outputOf (isSome_lookup? hexists (Record.filled?_eq_some_iff.mp hname).2)
    · cases hname

theorem found_dns (h : t.Settled) (hcomplete : t.Complete) (hzones : t.ZonesFilled) {dns : Record}
    (hdns : dns ∈ t.topLevel .dns) {b : Block} (hb : b ∈ Dns.blocks t dns) : none ∉ b.targets := by
  simp only [Dns.blocks, List.cons_append, List.mem_cons, List.mem_append, List.mem_flatMap,
    List.mem_map] at hb
  rcases hb with rfl | (⟨zone, hzone, hblock⟩ | ⟨r, hr, rfl⟩) | ⟨resolver, _, rfl⟩
  · rw [Dns.targets_block]
    exact found_resourceGroupOf h hcomplete rfl hdns (by simp [Kind.writtenReferences])
  · rcases Dns.mem_zoneBlocks t hblock with htargets | ⟨vpc, hvpc, rfl⟩
    · simp [htargets]
    · have hentry : (dns.name?, zone) ∈ t.entries .dnsZone := mem_entries_of_held rfl hdns hzone
      have hne : vpc ≠ "" := fun hempty => hzones _ hentry (hempty ▸ hvpc)
      have hmem : Reference.many "vpcs" .vpc ∈ Kind.dnsZone.schema.references := by decide
      have hexists : vpc ∈ t.names .vpc none :=
        h.consistent.mem_reached_of_plain hmem hentry
          (Reference.mem_mentions_of_texts rfl rfl hvpc hne) rfl
      have hfound : none ∉ (t.vpcOutput vpc "crn").targets :=
        found_outputOf (isSome_lookup? hexists hne)
      simpa [Dns.targets_permittedNetwork] using hfound
  · have hfound := h.found_zoneId hcomplete hdns hr
    simpa [Dns.targets_recordBlock] using hfound
  · simp [Dns.targets_resolverBlock]

theorem found_sshKeys (h : t.Settled) (hcomplete : t.Complete) {key : Record}
    (hkey : key ∈ t.topLevel .sshKey) : none ∉ (SshKeys.block t key).targets := by
  rw [SshKeys.targets_block]
  split
  · simp
  · next himported =>
      exact found_resourceGroupOf h hcomplete rfl hkey
        (by simp [Kind.writtenReferences, himported])

theorem found_keyManagement (h : t.Settled) (hcomplete : t.Complete) {keyManagement : Record}
    (hkeyManagement : keyManagement ∈ t.topLevel .keyManagement) {b : Block}
    (hb : b ∈ KeyManagement.blocks t keyManagement) : none ∉ b.targets := by
  have hself : none ∉ (t.keyManagementGuid keyManagement.label).targets :=
    found_label h rfl hkeyManagement _ _
  rcases (KeyManagement.mem_blocks t).mp hb with
    rfl | ⟨_, rfl⟩ | ⟨ring, _, rfl⟩ | ⟨key, _, hblock⟩
  · rw [KeyManagement.targets_block]
    exact found_resourceGroupOf h hcomplete rfl hkeyManagement (by simp [Kind.writtenReferences])
  · rw [KeyManagement.targets_volumeAuthorization]
    exact hself
  · rw [KeyManagement.targets_ringBlock]
    exact hself
  · rcases (KeyManagement.mem_keyBlocks t).mp hblock with rfl | ⟨months, _, rfl⟩
    · simpa [KeyManagement.targets_keyBlock] using hself
    · simpa [KeyManagement.targets_rotationBlock] using hself

theorem found_objectStorage (h : t.Settled) (hcomplete : t.Complete) {storage : Record}
    (hstorage : storage ∈ t.topLevel .objectStorage) {b : Block}
    (hb : b ∈ ObjectStorage.blocks t storage) : none ∉ b.targets := by
  have hentry := mem_entries_of_topLevel rfl hstorage
  have hself (output : String) : none ∉ (t.objectStorageOutput storage.label output).targets :=
    found_label h rfl hstorage _ output
  rcases (ObjectStorage.mem_blocks t).mp hb with
    ⟨_, rfl⟩ | rfl | hauthorization | ⟨bucket, hbucket, rfl⟩ | ⟨key, _, rfl⟩
  · simp [ObjectStorage.targets_suffixBlock]
  · rw [ObjectStorage.targets_block]
    exact found_resourceGroupOf h hcomplete rfl hstorage (by simp [Kind.writtenReferences])
  · obtain ⟨keyManagement, hkms, htargets⟩ :=
      ObjectStorage.targets_of_mem_authorization t hauthorization
    rw [htargets, List.mem_append, not_or]
    exact ⟨hself _,
      found_outputOf (h.consistent.isSome_lookup?_of_filled (by decide) hentry hkms)⟩
  · have hheld : (storage.name?, bucket) ∈ t.entries .bucket :=
      mem_entries_of_held rfl hstorage hbucket
    obtain ⟨key, hkey⟩ := Option.isSome_iff_exists.mp
      (hcomplete _ _ hheld "kms_key" (by simp [Kind.writtenReferences]))
    obtain ⟨keyManagement, hkms, hexists⟩ := h.exists_keyManagement hstorage hbucket hkey
    rw [ObjectStorage.targets_bucketBlock, (Record.filled?_eq_some_iff.mp hkms).1,
      (Record.filled?_eq_some_iff.mp hkey).1, List.mem_append, not_or]
    exact ⟨hself _, found_encryptionKeyCrn hexists⟩
  · rw [ObjectStorage.targets_keyBlock]
    exact hself _

theorem found_databases (h : t.Settled) (hcomplete : t.Complete) {database : Record}
    (hdatabase : database ∈ t.topLevel .database) :
    none ∉ (Databases.block t database).targets := by
  have hentry := mem_entries_of_topLevel rfl hdatabase
  rw [Databases.targets_block, List.mem_append, List.mem_append, not_or, not_or]
  refine ⟨⟨?_, found_getD fun name hname => ?_⟩, found_getD fun key hkey => ?_⟩
  · exact found_resourceGroupOf h hcomplete rfl hdatabase (by simp [Kind.writtenReferences])
  · exact found_outputOf (h.consistent.isSome_lookup?_of_filled (by decide) hentry hname)
  · obtain ⟨keyManagement, hkms, hexists⟩ :=
      h.consistent.exists_keyManagement (by decide) hentry hkey
    rw [hkms]
    exact found_encryptionKeyCrn hexists

theorem found_eventStreams (h : t.Settled) (hcomplete : t.Complete) {streams : Record}
    (hstreams : streams ∈ t.topLevel .eventStreams) :
    none ∉ (EventStreams.block t streams).targets := by
  rw [EventStreams.targets_block]
  exact found_resourceGroupOf h hcomplete rfl hstreams (by simp [Kind.writtenReferences])

theorem found_secretsManager (h : t.Settled) (hcomplete : t.Complete) {manager : Record}
    (hmanager : manager ∈ t.topLevel .secretsManager) {b : Block}
    (hb : b ∈ SecretsManager.blocks t manager) : none ∉ b.targets := by
  have hentry := mem_entries_of_topLevel rfl hmanager
  rcases List.mem_append.mp hb with hauthorization | hblock
  · obtain ⟨keyManagement, hkms, htargets⟩ :=
      SecretsManager.targets_of_mem_authorization t hauthorization
    have hfound : none ∉ (t.keyManagementGuid keyManagement).targets :=
      found_outputOf (h.consistent.isSome_lookup?_of_filled (by decide) hentry hkms)
    simpa [htargets] using hfound
  · obtain rfl := List.mem_singleton.mp hblock
    obtain ⟨key, hkey⟩ := Option.isSome_iff_exists.mp
      (hcomplete _ _ hentry "encryption_key" (by simp [Kind.writtenReferences]))
    obtain ⟨keyManagement, hkms, hexists⟩ :=
      h.consistent.exists_keyManagement (by decide) hentry hkey
    rw [SecretsManager.targets_block, hkms, hkey, List.mem_append, not_or]
    exact ⟨found_resourceGroupOf h hcomplete rfl hmanager (by simp [Kind.writtenReferences]),
      found_encryptionKeyCrn hexists⟩

theorem found_appId (h : t.Settled) (hcomplete : t.Complete) {appId : Record}
    (happId : appId ∈ t.topLevel .appId) {b : Block} (hb : b ∈ AppId.blocks t appId) :
    none ∉ b.targets := by
  simp only [AppId.blocks, List.mem_cons, List.mem_map] at hb
  rcases hb with rfl | ⟨key, _, rfl⟩
  · rw [AppId.targets_block]
    exact found_resourceGroupOf h hcomplete rfl happId (by simp [Kind.writtenReferences])
  · simp [AppId.targets_keyBlock]

theorem found_accessGroups (h : t.Settled) {group : Record}
    (hgroup : group ∈ t.topLevel .accessGroup) {b : Block}
    (hb : b ∈ AccessGroups.blocks t group) : none ∉ b.targets := by
  simp only [AccessGroups.blocks, List.cons_append, List.mem_cons, List.mem_append,
    List.mem_map] at hb
  rcases hb with rfl | (⟨policy, hpolicy, rfl⟩ | ⟨entry, _, rfl⟩) | hinvites
  · simp [AccessGroups.targets_block]
  · rw [AccessGroups.targets_policyBlock]
    refine List.not_mem_cons_of_ne_of_not_mem (by simp) (found_getD fun name hname => ?_)
    obtain ⟨resources, hresources, hfilled⟩ := Option.bind_eq_some_iff.mp hname
    let reference : Reference :=
      { path := .inside "resources" "resource_group", target := .resourceGroup }
    have hmem : reference ∈ Kind.accessPolicy.schema.references := by decide
    have hentry : (group.name?, policy) ∈ t.entries .accessPolicy :=
      mem_entries_of_held rfl hgroup hpolicy
    have hexists : name ∈ t.names .resourceGroup none :=
      h.consistent.mem_reached_of_plain hmem hentry
        (Reference.mem_mentions_of_inside rfl rfl hresources hfilled) rfl
    exact found_outputOf (isSome_lookup? hexists (Record.filled?_eq_some_iff.mp hfilled).2)
  · simp [AccessGroups.targets_ruleBlock]
  · simp [AccessGroups.targets_of_mem_invites hinvites]

theorem found_activityTracker (h : t.Settled) (hcomplete : t.Complete) {tracker : Record}
    (htracker : t.single? .activityTracker = some tracker) {b : Block}
    (hb : b ∈ ActivityTracker.blocks t tracker) : none ∉ b.targets := by
  have hentry := mem_entries_of_single rfl htracker
  obtain ⟨henabled, rfl | ⟨_, rfl⟩⟩ := (ActivityTracker.mem_blocks t).mp hb
  · have hfilled (field : String) (hfield : field = "bucket" ∨ field = "cos_key") :
        (tracker.filled? field).isSome :=
      hcomplete _ _ hentry field (by simpa [Kind.writtenReferences, henabled] using hfield)
    obtain ⟨bucket, hbucket⟩ := Option.isSome_iff_exists.mp (hfilled "bucket" (.inl rfl))
    obtain ⟨key, hkey⟩ := Option.isSome_iff_exists.mp (hfilled "cos_key" (.inr rfl))
    have hbucketExists : bucket ∈ t.names .bucket none :=
      h.consistent.mem_names_of_filled (by decide) hentry hbucket
    have hkeyExists : key ∈ t.names .storageKey none :=
      h.consistent.mem_names_of_filled (by decide) hentry hkey
    obtain ⟨owner, howner, hfound⟩ := h.exists_owner rfl hbucketExists
    obtain ⟨keyOwner, hkeyOwner, _⟩ := h.exists_owner rfl hkeyExists
    rw [ActivityTracker.targets_target, List.mem_append, List.mem_append, not_or, not_or, hbucket,
      bucketOwner, howner]
    refine ⟨⟨found_outputOf hfound, found_bucketOutput h hbucketExists _⟩, ?_⟩
    simp [ActivityTracker.credential, storageKeyOwner, (Record.filled?_eq_some_iff.mp hkey).1,
      hkeyOwner, hkey]
  · simp [ActivityTracker.targets_route]

/-! ## Documents -/

theorem found_blocksOf (h : t.Settled) (hcomplete : t.Complete) (hzones : t.ZonesFilled)
    {kind : Kind} {r : Record} (hr : r ∈ t.tops kind) {b : Block} (hb : b ∈ blocksOf t kind r) :
    none ∉ b.targets := by
  have htop (hkind : kind.location = .collection) : r ∈ t.topLevel kind :=
    tops_eq_topLevel t hkind ▸ hr
  cases kind with
  | resourceGroup =>
      obtain rfl := List.mem_singleton.mp hb
      simp [ResourceGroups.targets_block]
  | vpc => exact found_vpcs h hcomplete (htop rfl) hb
  | securityGroup => exact found_securityGroups h hcomplete (htop rfl) hb
  | transitGateway => exact found_transitGateways h hcomplete (htop rfl) hb
  | classicSshKey =>
      obtain ⟨_, rfl⟩ : _ ∧ b = Classic.keyBlock r := by simpa [blocksOf] using hb
      simp [Classic.targets_keyBlock]
  | classicVlan =>
      obtain ⟨_, rfl⟩ : _ ∧ b = Classic.vlanBlock t r := by simpa [blocksOf] using hb
      simp [Classic.targets_vlanBlock]
  | dns => exact found_dns h hcomplete hzones (htop rfl) hb
  | sshKey =>
      obtain rfl := List.mem_singleton.mp hb
      exact found_sshKeys h hcomplete (htop rfl)
  | keyManagement => exact found_keyManagement h hcomplete (htop rfl) hb
  | objectStorage => exact found_objectStorage h hcomplete (htop rfl) hb
  | database =>
      obtain rfl := List.mem_singleton.mp hb
      exact found_databases h hcomplete (htop rfl)
  | eventStreams =>
      obtain rfl := List.mem_singleton.mp hb
      exact found_eventStreams h hcomplete (htop rfl)
  | secretsManager => exact found_secretsManager h hcomplete (htop rfl) hb
  | appId => exact found_appId h hcomplete (htop rfl) hb
  | accountSettings => simp [AccountSettings.targets_of_mem_blocks hb]
  | accessGroup => exact found_accessGroups h (htop rfl) hb
  | activityTracker =>
      rw [tops_eq_single t rfl] at hr
      exact found_activityTracker h hcomplete (Option.mem_toList.mp hr) hb
  | _ => exact absurd hb List.not_mem_nil

end Tree

/-- No block of the document of a complete tree holds the unfound marker. -/
theorem no_unfound {t : Tree} (h : t.Settled) (hcomplete : t.Complete) (hzones : t.ZonesFilled) :
    ∀ b ∈ t.blocks, none ∉ b.targets := by
  intro b hb
  rcases Tree.mem_blocks.mp hb with hprovider | ⟨kind, r, hr, hmade⟩
  · simp [Provider.targets_of_mem_blocks t hprovider]
  · exact Tree.found_blocksOf h hcomplete hzones hr hmade

theorem no_unfound_services :
    servicesTree.Settled ∧ servicesTree.Complete ∧ servicesTree.ZonesFilled ∧
      ∀ b ∈ servicesTree.blocks, none ∉ b.targets := by
  have hsettled := servicesTree_settled
  obtain ⟨hcomplete, hzones⟩ :
      (Kind.all.all fun kind => (servicesTree.entries kind).all fun entry =>
        (kind.writtenReferences entry.2).all fun field => (entry.2.filled? field).isSome) = true ∧
      ((servicesTree.entries .dnsZone).all fun entry =>
        !(entry.2.texts "vpcs").contains "") = true := by
    decide +kernel
  generalize servicesTree = t at hsettled hcomplete hzones ⊢
  have hfilled : t.Complete := fun kind entry hentry =>
    List.all_eq_true.mp (List.all_eq_true.mp (List.all_eq_true.mp hcomplete kind kind.mem_all)
      entry hentry)
  have hlisted : t.ZonesFilled := fun entry hentry => by
    simpa using List.all_eq_true.mp hzones entry hentry
  exact ⟨hsettled, hfilled, hlisted, no_unfound hsettled hfilled hlisted⟩

end Blueprint

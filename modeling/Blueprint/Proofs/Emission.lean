import Blueprint.Proofs.MergedConnections
import Blueprint.Proofs.Targets
import Blueprint.Proofs.Walks

/-!
# The blocks of a document

Apart from the providers a document is made record by record: its blocks are those of
the top-level records, whatever family they are in.
-/

namespace Blueprint

namespace Terraform

variable (t : Tree)

/-! ## Blocks of one record -/

namespace TransitGateways

theorem tgw_remoteConnection (gateway crn : String) :
    (remoteConnection gateway crn).textOr "tgw" "" = gateway := by
  rfl

theorem mem_connections {gateway connection : Record} (h : connection ∈ connections gateway) :
    connection ∈ gateway.records "connections" ∨
      ∃ crn, connection = remoteConnection gateway.label crn := by
  obtain ⟨added, heq, _⟩ := exists_connections_eq gateway
  rw [heq, List.mem_append, List.mem_map] at h
  rcases h with hstored | ⟨crn, _, rfl⟩
  · exact .inl hstored
  · exact .inr ⟨crn, rfl⟩

end TransitGateways

namespace KeyManagement

theorem mem_keyBlocks {keyManagement : String} {key : Record} {b : Block} :
    b ∈ keyBlocks t keyManagement key ↔
      b = keyBlock t keyManagement key ∨
      ∃ months, (key.int? "rotation").filter (0 < ·) = some months ∧
        b = rotationBlock t keyManagement key months := by
  unfold keyBlocks
  split
  · next months hmonths => simp [hmonths]
  · next hmonths => simp [hmonths]

theorem mem_blocks {keyManagement : Record} {b : Block} :
    b ∈ blocks t keyManagement ↔
      b = block t keyManagement ∨
      (keyManagement.flag "authorize_vpc_reader_role" = true ∧
        b = volumeAuthorization t keyManagement) ∨
      (∃ ring ∈ rings keyManagement, ringBlock t keyManagement.label ring = b) ∨
      ∃ key ∈ keyManagement.records "keys", b ∈ keyBlocks t keyManagement.label key := by
  simp only [blocks, instanceBlocks, ringBlocks, List.mem_append, List.mem_ite_nil_right,
    List.mem_cons, List.mem_map, List.mem_flatMap, List.not_mem_nil, or_false, or_assoc]

end KeyManagement

namespace ObjectStorage

theorem mem_blocks {storage : Record} {b : Block} :
    b ∈ blocks t storage ↔
      (storage.flag "use_random_suffix" = true ∧ b = suffixBlock storage) ∨
      b = block t storage ∨ b ∈ authorization t storage ∨
      (∃ bucket ∈ storage.records "buckets", bucketBlock t storage bucket = b) ∨
      ∃ key ∈ storage.records "keys", keyBlock t storage key = b := by
  simp only [blocks, instanceBlocks, List.mem_append, List.mem_ite_nil_right, List.mem_cons,
    List.mem_map, List.not_mem_nil, or_false, or_assoc]

end ObjectStorage

namespace ActivityTracker

theorem mem_blocks {tracker : Record} {b : Block} :
    b ∈ blocks t tracker ↔
      tracker.flag "enabled" = true ∧
        (b = target t tracker ∨ tracker.flag "add_route" = true ∧ b = route tracker) := by
  simp only [blocks, List.mem_ite_nil_right, List.mem_cons, List.not_mem_nil, or_false]

end ActivityTracker

/-! ## Blocks of top-level records -/

/-- The blocks for a record and for what it holds. A classic record without a datacenter
has none. -/
def blocksOf (t : Tree) (kind : Kind) (r : Record) : List Block :=
  match kind with
  | .resourceGroup => [ResourceGroups.block t r]
  | .vpc => Vpcs.blocks t r
  | .securityGroup => SecurityGroups.blocks t r
  | .transitGateway => TransitGateways.blocks t r
  | .classicSshKey => if (r.text? "datacenter").isSome then [Classic.keyBlock r] else []
  | .classicVlan => if (r.text? "datacenter").isSome then [Classic.vlanBlock t r] else []
  | .dns => Dns.blocks t r
  | .sshKey => [SshKeys.block t r]
  | .keyManagement => KeyManagement.blocks t r
  | .objectStorage => ObjectStorage.blocks t r
  | .database => [Databases.block t r]
  | .eventStreams => [EventStreams.block t r]
  | .secretsManager => SecretsManager.blocks t r
  | .appId => AppId.blocks t r
  | .accountSettings => AccountSettings.blocks r
  | .accessGroup => AccessGroups.blocks t r
  | .activityTracker => ActivityTracker.blocks t r
  | .options | .encryptionKey | .bucket | .storageKey | .subnet | .securityRule | .dnsZone
  | .dnsRecord | .dnsResolver | .accessPolicy | .dynamicPolicy | .appIdKey => []

@[simp] theorem Section.flatMap_ofBlocks (title : String) (blocks : List Block) :
    (Section.ofBlocks title blocks).flatMap Section.blocks = blocks := by
  cases blocks <;> simp [Section.ofBlocks]

namespace Family

/-- The blocks of a family. -/
def blocks (t : Tree) (family : Family) : List Block :=
  (family.sections t).flatMap Section.blocks

/-- The kind whose records a family is about, if it is about one kind. -/
def kind? : Family → Option Kind
  | resourceGroups => some .resourceGroup
  | vpcs => some .vpc
  | securityGroups => some .securityGroup
  | transitGateways => some .transitGateway
  | dns => some .dns
  | sshKeys => some .sshKey
  | keyManagement => some .keyManagement
  | objectStorage => some .objectStorage
  | databases => some .database
  | eventStreams => some .eventStreams
  | secretsManager => some .secretsManager
  | appId => some .appId
  | accountSettings => some .accountSettings
  | accessGroups => some .accessGroup
  | activityTracker => some .activityTracker
  | provider | classic => none

theorem blocks_eq (t : Tree) {family : Family} {kind : Kind} (h : family.kind? = some kind) :
    family.blocks t = (t.tops kind).flatMap (blocksOf t kind) := by
  have hmade (title : Record → String) (made : Record → List Block) (records : List Record) :
      (records.map fun r => (⟨title r, made r⟩ : Section)).flatMap Section.blocks =
        records.flatMap made := by
    simp [List.flatMap_map]
  have hmap (made : Record → Block) (records : List Record) :
      records.map made = records.flatMap fun r => [made r] := List.map_eq_flatMap
  -- families differ in where they cut sections, not in the blocks
  cases family <;> cases h
  case accountSettings | activityTracker =>
    rw [Tree.tops_eq_single t rfl]
    exact Section.flatMap_ofBlocks ..
  case vpcs | securityGroups | transitGateways | dns | keyManagement | objectStorage
      | accessGroups =>
    rw [Tree.tops_eq_topLevel t rfl]
    exact hmade ..
  case secretsManager | appId =>
    rw [Tree.tops_eq_topLevel t rfl]
    exact Section.flatMap_ofBlocks ..
  case resourceGroups | sshKeys | databases | eventStreams =>
    rw [Tree.tops_eq_topLevel t rfl]
    exact (Section.flatMap_ofBlocks ..).trans (hmap ..)

/-- The datacenters that sections are made for are those of the records. -/
theorem mem_blocks_classic {t : Tree} {b : Block} :
    b ∈ classic.blocks t ↔
      (∃ key ∈ t.tops .classicSshKey, b ∈ blocksOf t .classicSshKey key) ∨
        ∃ vlan ∈ t.tops .classicVlan, b ∈ blocksOf t .classicVlan vlan := by
  have hkeys : t.tops .classicSshKey = t.topLevel .classicSshKey := t.tops_eq_topLevel rfl
  have hvlans : t.tops .classicVlan = t.topLevel .classicVlan := t.tops_eq_topLevel rfl
  have hdatacenters (datacenter : String) : datacenter ∈ Classic.datacenters t ↔
      (∃ key ∈ t.topLevel .classicSshKey, key.text? "datacenter" = some datacenter) ∨
        ∃ vlan ∈ t.topLevel .classicVlan, vlan.text? "datacenter" = some datacenter := by
    simp [Classic.datacenters]
  simp only [blocks, sections, Classic.sections, Classic.datacenterSections, List.flatMap_assoc,
    List.flatMap_append, Section.flatMap_ofBlocks, List.mem_flatMap, List.mem_append,
    List.mem_map, Classic.located, List.mem_filter, decide_eq_true_eq, hdatacenters,
    hkeys, hvlans, blocksOf, List.mem_ite_nil_right, List.mem_singleton, Option.isSome_iff_exists]
  constructor
  · rintro ⟨datacenter, _, ⟨key, ⟨hkey, hplaced⟩, rfl⟩ | ⟨vlan, ⟨hvlan, hplaced⟩, rfl⟩⟩
    · exact .inl ⟨key, hkey, ⟨datacenter, hplaced⟩, rfl⟩
    · exact .inr ⟨vlan, hvlan, ⟨datacenter, hplaced⟩, rfl⟩
  · rintro (⟨key, hkey, ⟨datacenter, hplaced⟩, rfl⟩ | ⟨vlan, hvlan, ⟨datacenter, hplaced⟩, rfl⟩)
    · exact ⟨datacenter, .inl ⟨key, hkey, hplaced⟩, .inl ⟨key, ⟨hkey, hplaced⟩, rfl⟩⟩
    · exact ⟨datacenter, .inr ⟨vlan, hvlan, hplaced⟩, .inr ⟨vlan, ⟨hvlan, hplaced⟩, rfl⟩⟩

theorem exists_of_mem_blocksOf {t : Tree} {kind : Kind} {r : Record} {b : Block}
    (h : b ∈ blocksOf t kind r) :
    (∃ family ∈ all, family.kind? = some kind) ∨ kind = .classicSshKey ∨ kind = .classicVlan := by
  cases kind
  case options | encryptionKey | bucket | storageKey | subnet | securityRule | dnsZone
      | dnsRecord | dnsResolver | accessPolicy | dynamicPolicy | appIdKey =>
    exact absurd h List.not_mem_nil
  case classicSshKey | classicVlan => simp
  all_goals exact .inl (by decide)

end Family

end Terraform

open Terraform

namespace Tree

/-- Every block of the document of a tree. -/
def blocks (t : Tree) : List Block := Family.all.flatMap fun family => family.blocks t

/-- A document consists of the blocks for its providers and for its top-level records. -/
theorem mem_blocks {t : Tree} {b : Block} :
    b ∈ t.blocks ↔
      b ∈ Provider.blocks t ∨ ∃ kind, ∃ r ∈ t.tops kind, b ∈ blocksOf t kind r := by
  have hprovider : Family.provider.blocks t = Provider.blocks t :=
    Section.flatMap_ofBlocks "IBM Cloud Provider" (Provider.blocks t)
  simp only [blocks, List.mem_flatMap]
  constructor
  · rintro ⟨family, _, hfamily⟩
    cases hkind : family.kind? with
    | some kind =>
        rw [Family.blocks_eq t hkind, List.mem_flatMap] at hfamily
        exact .inr ⟨kind, hfamily⟩
    | none =>
        cases family with
        | provider => exact .inl (hprovider ▸ hfamily)
        | classic => exact .inr ((Family.mem_blocks_classic.mp hfamily).elim (⟨_, ·⟩) (⟨_, ·⟩))
        | _ => cases hkind
  · rintro (hb | ⟨kind, r, hr, hb⟩)
    · exact ⟨.provider, Family.mem_all _, hprovider ▸ hb⟩
    · rcases Family.exists_of_mem_blocksOf hb with ⟨family, hfamily, hkind⟩ | rfl | rfl
      · refine ⟨family, hfamily, ?_⟩
        rw [Family.blocks_eq t hkind]
        exact List.mem_flatMap_of_mem hr hb
      · exact ⟨.classic, Family.mem_all _, Family.mem_blocks_classic.mpr (.inl ⟨r, hr, hb⟩)⟩
      · exact ⟨.classic, Family.mem_all _, Family.mem_blocks_classic.mpr (.inr ⟨r, hr, hb⟩)⟩

end Tree

end Blueprint

import Blueprint.Proofs.FamilyTexts
import Blueprint.Store.Defaults

/-!
# Footprints

The text of a family is made from a few records of the tree: its own, and those that its
look-ups go through. Two trees that have the same under the tags of these kinds get the
same text, so an edit elsewhere cannot change it. Every function that is told the tree gets
a lemma of its own here, with the kinds it reads as hypotheses.
-/

namespace Blueprint

/-- The kind under whose tag the records of a kind are kept. -/
def Kind.home (kind : Kind) : Kind := kind.parent.getD kind

namespace Tree

/-- Two trees have the same under the tag of a kind. -/
def SameAt (kind : Kind) (t u : Tree) : Prop := t.get? kind.tag = u.get? kind.tag

variable {t u : Tree} {kind : Kind}

/-! ## Look-ups -/

theorem single?_congr (h : SameAt kind t u) : t.single? kind = u.single? kind := by
  have hget : t.root.get? kind.tag = u.root.get? kind.tag := h
  simp only [single?, Record.object?, hget]

theorem topLevel_congr (h : SameAt kind t u) : t.topLevel kind = u.topLevel kind := by
  have hget : t.root.get? kind.tag = u.root.get? kind.tag := h
  simp only [topLevel, Record.records, Record.list?, hget]

theorem located_congr (h : SameAt kind.home t u) : t.located kind = u.located kind := by
  unfold located
  cases hlocation : kind.location with
  | single =>
      have hhome : kind.home = kind := by simp [Kind.home, Kind.parent, hlocation]
      simp only [single?_congr (hhome ▸ h)]
  | collection =>
      have hhome : kind.home = kind := by simp [Kind.home, Kind.parent, hlocation]
      simp only [topLevel_congr (hhome ▸ h)]
  | nested parent field =>
      have hhome : kind.home = parent := by simp [Kind.home, Kind.parent, hlocation]
      simp only [topLevel_congr (hhome ▸ h)]

theorem find?_congr (kind : Kind) (h : SameAt kind.home t u) : t.find? kind = u.find? kind := by
  funext parent name
  simp only [find?, collection, located_congr h]

theorem lookup?_congr (kind : Kind) (h : SameAt kind.home t u) :
    t.lookup? kind = u.lookup? kind := by
  funext name
  simp only [lookup?, find?_congr kind h]

theorem outputOf_congr (kind : Kind) (h : SameAt kind.home t u) :
    t.outputOf kind = u.outputOf kind := by
  funext name address output
  simp only [outputOf, lookup?_congr kind h]

theorem ownerOf_congr (kind : Kind) (h : SameAt kind.home t u) :
    t.ownerOf kind = u.ownerOf kind := by
  funext name
  simp only [ownerOf, located_congr h]

section Options

variable (h : SameAt .options t u)
include h

theorem deploymentName_congr : t.deploymentName = u.deploymentName := by
  funext name
  simp only [deploymentName, deployment, single?_congr h]

theorem region_congr : t.region = u.region := by
  simp only [region, single?_congr h]

theorem tags_congr : t.tags = u.tags := by
  simp only [tags, single?_congr h]

theorem hasOption_congr : t.hasOption = u.hasOption := by
  funext name
  simp only [hasOption, single?_congr h]

end Options

theorem resourceGroupId_congr (h : SameAt .resourceGroup t u) :
    t.resourceGroupId = u.resourceGroupId := by
  funext name
  simp only [resourceGroupId, outputOf_congr .resourceGroup h]

theorem resourceGroupOf_congr (h : SameAt .resourceGroup t u) :
    t.resourceGroupOf = u.resourceGroupOf := by
  funext r
  simp only [resourceGroupOf, resourceGroupId_congr h]

theorem vpcOutput_congr (h : SameAt .vpc t u) : t.vpcOutput = u.vpcOutput := by
  funext name output
  simp only [vpcOutput, outputOf_congr .vpc h]

theorem keyManagementGuid_congr (h : SameAt .keyManagement t u) :
    t.keyManagementGuid = u.keyManagementGuid := by
  funext name
  simp only [keyManagementGuid, outputOf_congr .keyManagement h]

theorem encryptionKeyCrn_congr (h : SameAt .keyManagement t u) :
    t.encryptionKeyCrn = u.encryptionKeyCrn := by
  funext keyManagement key
  simp only [encryptionKeyCrn, find?_congr .encryptionKey h]

theorem objectStorageOutput_congr (h : SameAt .objectStorage t u) :
    t.objectStorageOutput = u.objectStorageOutput := by
  funext name output
  simp only [objectStorageOutput, outputOf_congr .objectStorage h]

theorem bucketOwner_congr (h : SameAt .objectStorage t u) : t.bucketOwner = u.bucketOwner := by
  funext name
  simp only [bucketOwner, ownerOf_congr .bucket h]

theorem storageKeyOwner_congr (h : SameAt .objectStorage t u) :
    t.storageKeyOwner = u.storageKeyOwner := by
  funext name
  simp only [storageKeyOwner, ownerOf_congr .storageKey h]

theorem bucketOutput_congr (h : SameAt .objectStorage t u) :
    t.bucketOutput = u.bucketOutput := by
  funext name output
  simp only [bucketOutput, bucketOwner_congr h]

end Tree

namespace Terraform

open Blueprint.Tree (SameAt)

variable {t u : Tree}

/-! ## Sections -/

theorem Provider.sections_congr (ho : SameAt .options t u) : sections t = sections u := by
  have hpower : power t = power u := by
    funext zone
    simp only [power, Tree.region_congr ho]
  simp only [sections, blocks, powerZones, hpower, Tree.single?_congr ho,
    Tree.hasOption_congr ho]

theorem ResourceGroups.sections_congr (ho : SameAt .options t u)
    (hg : SameAt .resourceGroup t u) : sections t = sections u := by
  have hblock : block t = block u := by
    funext group
    simp only [block, Tree.tags_congr ho]
  simp only [sections, hblock, Tree.topLevel_congr hg]

theorem Vpcs.sections_congr (ho : SameAt .options t u) (hg : SameAt .resourceGroup t u)
    (hv : SameAt .vpc t u) (hs : SameAt .objectStorage t u) : sections t = sections u := by
  have hprefix : addressPrefix t = addressPrefix u := by
    funext vpc entry
    simp only [addressPrefix, Tree.vpcOutput_congr hv]
  have hsubnet : subnet t = subnet u := by
    funext vpc entry
    simp only [subnet, Tree.vpcOutput_congr hv, Tree.resourceGroupOf_congr hg,
      Tree.tags_congr ho]
  have hlogs : flowLogs t = flowLogs u := by
    funext vpc
    simp only [flowLogs, Tree.vpcOutput_congr hv, Tree.bucketOutput_congr hs,
      Tree.resourceGroupOf_congr hg, Tree.tags_congr ho]
  simp only [sections, blocks, block, hprefix, hsubnet, hlogs, Tree.topLevel_congr hv,
    Tree.resourceGroupOf_congr hg, Tree.tags_congr ho]

theorem SecurityGroups.sections_congr (ho : SameAt .options t u)
    (hg : SameAt .resourceGroup t u) (hv : SameAt .vpc t u)
    (hsg : SameAt .securityGroup t u) : sections t = sections u := by
  simp only [sections, blocks, block, Tree.topLevel_congr hsg, Tree.vpcOutput_congr hv,
    Tree.resourceGroupOf_congr hg, Tree.tags_congr ho]

/-- A gateway carries no tags, so the options have no part in it. -/
theorem TransitGateways.sections_congr (hg : SameAt .resourceGroup t u)
    (hv : SameAt .vpc t u) (htg : SameAt .transitGateway t u) : sections t = sections u := by
  have haddress : gatewayAddress t = gatewayAddress u := by
    funext name
    simp only [gatewayAddress, Tree.lookup?_congr .transitGateway htg]
  have hitems : Peer.items t = Peer.items u := by
    funext connection peer
    cases peer <;> simp only [Peer.items, Tree.vpcOutput_congr hv]
  have hconnection : connectionBlock t = connectionBlock u := by
    funext connection
    simp only [connectionBlock, haddress, hitems]
  simp only [sections, blocks, block, hconnection, Tree.topLevel_congr htg,
    Tree.resourceGroupOf_congr hg]

theorem Classic.sections_congr (ho : SameAt .options t u) (hk : SameAt .classicSshKey t u)
    (hv : SameAt .classicVlan t u) : sections t = sections u := by
  have hvlan : vlanBlock t = vlanBlock u := by
    funext vlan
    simp only [vlanBlock, Tree.deploymentName_congr ho, Tree.tags_congr ho]
  have hdatacenter : datacenterSections t = datacenterSections u := by
    funext datacenter
    simp only [datacenterSections, hvlan, Tree.topLevel_congr hk, Tree.topLevel_congr hv]
  simp only [sections, datacenters, hdatacenter, Tree.topLevel_congr hk,
    Tree.topLevel_congr hv]

theorem Dns.sections_congr (ho : SameAt .options t u) (hg : SameAt .resourceGroup t u)
    (hv : SameAt .vpc t u) (hd : SameAt .dns t u) : sections t = sections u := by
  have hnetwork : permittedNetwork t = permittedNetwork u := by
    funext dns zone vpc
    simp only [permittedNetwork, Tree.vpcOutput_congr hv]
  have hzone : zoneBlocks t = zoneBlocks u := by
    funext dns zone
    simp only [zoneBlocks, hnetwork]
  -- a record names a zone, and the zones are kept in the services
  have hrecord : recordBlock t = recordBlock u := by
    funext dns r
    simp only [recordBlock, zoneId, Tree.find?_congr .dnsZone hd]
  simp only [sections, blocks, block, hzone, hrecord, Tree.topLevel_congr hd,
    Tree.resourceGroupOf_congr hg, Tree.tags_congr ho]

theorem SshKeys.sections_congr (ho : SameAt .options t u) (hg : SameAt .resourceGroup t u)
    (hk : SameAt .sshKey t u) : sections t = sections u := by
  have hblock : block t = block u := by
    funext key
    simp only [block, Tree.resourceGroupOf_congr hg, Tree.tags_congr ho]
  simp only [sections, hblock, Tree.topLevel_congr hk]

namespace KeyManagement

theorem authorization_congr (hk : SameAt .keyManagement t u) :
    authorization t = authorization u := by
  funext label sourceService source keyManagement
  simp only [authorization, serviceOf, Tree.lookup?_congr .keyManagement hk,
    Tree.keyManagementGuid_congr hk]

theorem sections_congr (ho : SameAt .options t u) (hg : SameAt .resourceGroup t u)
    (hk : SameAt .keyManagement t u) : sections t = sections u := by
  have hinstance : instanceId t = instanceId u := by
    funext keyManagement
    simp only [instanceId, Tree.keyManagementGuid_congr hk]
  have hring : ringBlock t = ringBlock u := by
    funext keyManagement ring
    simp only [ringBlock, hinstance]
  have hkey : keyBlocks t = keyBlocks u := by
    funext keyManagement key
    simp only [keyBlocks, keyBlock, rotationBlock, hinstance]
  simp only [sections, blocks, instanceBlocks, block, volumeAuthorization, ringBlocks, hring,
    hkey, Tree.topLevel_congr hk, Tree.keyManagementGuid_congr hk,
    Tree.resourceGroupOf_congr hg, Tree.tags_congr ho]

end KeyManagement

theorem ObjectStorage.sections_congr (ho : SameAt .options t u)
    (hg : SameAt .resourceGroup t u) (hk : SameAt .keyManagement t u)
    (hs : SameAt .objectStorage t u) : sections t = sections u := by
  have hbucket : bucketBlock t = bucketBlock u := by
    funext storage bucket
    simp only [bucketBlock, Tree.objectStorageOutput_congr hs, Tree.encryptionKeyCrn_congr hk]
  have hkey : keyBlock t = keyBlock u := by
    funext storage key
    simp only [keyBlock, Tree.objectStorageOutput_congr hs, Tree.tags_congr ho]
  simp only [sections, blocks, instanceBlocks, block, authorization, hbucket, hkey,
    KeyManagement.authorization_congr hk, Tree.topLevel_congr hs,
    Tree.objectStorageOutput_congr hs, Tree.resourceGroupOf_congr hg, Tree.tags_congr ho]

theorem Databases.sections_congr (ho : SameAt .options t u)
    (hg : SameAt .resourceGroup t u) (hk : SameAt .keyManagement t u)
    (hd : SameAt .database t u) : sections t = sections u := by
  have hblock : block t = block u := by
    funext database
    simp only [block, Tree.resourceGroupOf_congr hg, Tree.keyManagementGuid_congr hk,
      Tree.encryptionKeyCrn_congr hk, Tree.tags_congr ho]
  simp only [sections, hblock, Tree.topLevel_congr hd]

theorem EventStreams.sections_congr (ho : SameAt .options t u)
    (hg : SameAt .resourceGroup t u) (he : SameAt .eventStreams t u) :
    sections t = sections u := by
  have hblock : block t = block u := by
    funext streams
    simp only [block, Tree.deploymentName_congr ho, Tree.region_congr ho,
      Tree.resourceGroupOf_congr hg]
  simp only [sections, hblock, Tree.topLevel_congr he]

theorem SecretsManager.sections_congr (ho : SameAt .options t u)
    (hg : SameAt .resourceGroup t u) (hk : SameAt .keyManagement t u)
    (hs : SameAt .secretsManager t u) : sections t = sections u := by
  have hblocks : blocks t = blocks u := by
    funext manager
    simp only [blocks, block, authorization, KeyManagement.authorization_congr hk,
      Tree.encryptionKeyCrn_congr hk, Tree.resourceGroupOf_congr hg, Tree.tags_congr ho]
  simp only [sections, hblocks, Tree.topLevel_congr hs]

theorem AppId.sections_congr (ho : SameAt .options t u) (hg : SameAt .resourceGroup t u)
    (ha : SameAt .appId t u) : sections t = sections u := by
  have hkey : keyBlock t = keyBlock u := by
    funext appId key
    simp only [keyBlock, Tree.tags_congr ho]
  have hblocks : blocks t = blocks u := by
    funext appId
    simp only [blocks, block, hkey, Tree.resourceGroupOf_congr hg, Tree.tags_congr ho]
  simp only [sections, hblocks, Tree.topLevel_congr ha]

theorem AccountSettings.sections_congr (ha : SameAt .accountSettings t u) :
    sections t = sections u := by
  simp only [sections, Tree.single?_congr ha]

theorem AccessGroups.sections_congr (hg : SameAt .resourceGroup t u)
    (ha : SameAt .accessGroup t u) : sections t = sections u := by
  have hresources : policyResources t = policyResources u := by
    funext resources
    simp only [policyResources, Tree.resourceGroupId_congr hg]
  have hpolicy : policyBlock t = policyBlock u := by
    funext group policy
    simp only [policyBlock, hresources]
  simp only [sections, blocks, hpolicy, Tree.topLevel_congr ha]

theorem ActivityTracker.sections_congr (hs : SameAt .objectStorage t u)
    (ha : SameAt .activityTracker t u) : sections t = sections u := by
  have hblocks : blocks t = blocks u := by
    funext tracker
    simp only [blocks, target, credential, Tree.objectStorageOutput_congr hs,
      Tree.bucketOwner_congr hs, Tree.bucketOutput_congr hs, Tree.storageKeyOwner_congr hs]
  simp only [sections, hblocks, Tree.single?_congr ha]

/-! ## Families -/

/-- The kinds under whose tags a family reads. -/
def Family.footprint : Family → List Kind
  | provider => [.options]
  | resourceGroups => [.options, .resourceGroup]
  | vpcs => [.options, .resourceGroup, .vpc, .objectStorage]
  | securityGroups => [.options, .resourceGroup, .vpc, .securityGroup]
  | transitGateways => [.resourceGroup, .vpc, .transitGateway]
  | classic => [.options, .classicSshKey, .classicVlan]
  | dns => [.options, .resourceGroup, .vpc, .dns]
  | sshKeys => [.options, .resourceGroup, .sshKey]
  | keyManagement => [.options, .resourceGroup, .keyManagement]
  | objectStorage => [.options, .resourceGroup, .keyManagement, .objectStorage]
  | databases => [.options, .resourceGroup, .keyManagement, .database]
  | eventStreams => [.options, .resourceGroup, .eventStreams]
  | secretsManager => [.options, .resourceGroup, .keyManagement, .secretsManager]
  | appId => [.options, .resourceGroup, .appId]
  | accountSettings => [.accountSettings]
  | accessGroups => [.resourceGroup, .accessGroup]
  | activityTracker => [.objectStorage, .activityTracker]

theorem Family.sections_congr (family : Family)
    (h : ∀ kind ∈ family.footprint, SameAt kind t u) :
    family.sections t = family.sections u := by
  cases family with
  | provider => exact Provider.sections_congr (h _ (by decide))
  | resourceGroups => exact ResourceGroups.sections_congr (h _ (by decide)) (h _ (by decide))
  | vpcs =>
      exact Vpcs.sections_congr (h _ (by decide)) (h _ (by decide)) (h _ (by decide))
        (h _ (by decide))
  | securityGroups =>
      exact SecurityGroups.sections_congr (h _ (by decide)) (h _ (by decide))
        (h _ (by decide)) (h _ (by decide))
  | transitGateways =>
      exact TransitGateways.sections_congr (h _ (by decide)) (h _ (by decide))
        (h _ (by decide))
  | classic =>
      exact Classic.sections_congr (h _ (by decide)) (h _ (by decide)) (h _ (by decide))
  | dns =>
      exact Dns.sections_congr (h _ (by decide)) (h _ (by decide)) (h _ (by decide))
        (h _ (by decide))
  | sshKeys =>
      exact SshKeys.sections_congr (h _ (by decide)) (h _ (by decide)) (h _ (by decide))
  | keyManagement =>
      exact KeyManagement.sections_congr (h _ (by decide)) (h _ (by decide))
        (h _ (by decide))
  | objectStorage =>
      exact ObjectStorage.sections_congr (h _ (by decide)) (h _ (by decide))
        (h _ (by decide)) (h _ (by decide))
  | databases =>
      exact Databases.sections_congr (h _ (by decide)) (h _ (by decide)) (h _ (by decide))
        (h _ (by decide))
  | eventStreams =>
      exact EventStreams.sections_congr (h _ (by decide)) (h _ (by decide))
        (h _ (by decide))
  | secretsManager =>
      exact SecretsManager.sections_congr (h _ (by decide)) (h _ (by decide))
        (h _ (by decide)) (h _ (by decide))
  | appId => exact AppId.sections_congr (h _ (by decide)) (h _ (by decide)) (h _ (by decide))
  | accountSettings => exact AccountSettings.sections_congr (h _ (by decide))
  | accessGroups => exact AccessGroups.sections_congr (h _ (by decide)) (h _ (by decide))
  | activityTracker =>
      exact ActivityTracker.sections_congr (h _ (by decide)) (h _ (by decide))

/-- A family's text depends on the tree through the family's footprint alone. -/
theorem familyDocument_eq_of_footprint (family : Family)
    (h : ∀ kind ∈ family.footprint, t.get? kind.tag = u.get? kind.tag) :
    familyDocument t family.name = familyDocument u family.name := by
  simp only [familyDocument, Family.ofName?_name, Option.bind_some, Family.document,
    family.sections_congr h]

/-- Transit gateways without the options of the deployment. -/
theorem familyDocument_transitGateways_of_no_options :
    let t := Tree.default
    let u := t.set Kind.options.tag (.object [])
    (∀ kind ∈ Family.transitGateways.footprint, t.get? kind.tag = u.get? kind.tag) ∧
      t.get? Kind.options.tag ≠ u.get? Kind.options.tag ∧
      familyDocument t Family.transitGateways.name =
        familyDocument u Family.transitGateways.name := by
  have hagree : ∀ kind ∈ Family.transitGateways.footprint, Tree.default.get? kind.tag =
      (Tree.default.set Kind.options.tag (.object [])).get? kind.tag := by decide +kernel
  exact ⟨hagree, by decide +kernel, familyDocument_eq_of_footprint .transitGateways hagree⟩

end Terraform

end Blueprint

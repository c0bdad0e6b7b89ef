import Blueprint.Terraform.AccessGroups
import Blueprint.Terraform.AccountSettings
import Blueprint.Terraform.ActivityTracker
import Blueprint.Terraform.AppId
import Blueprint.Terraform.Classic
import Blueprint.Terraform.Databases
import Blueprint.Terraform.Dns
import Blueprint.Terraform.EventStreams
import Blueprint.Terraform.ObjectStorage
import Blueprint.Terraform.Provider
import Blueprint.Terraform.ResourceGroups
import Blueprint.Terraform.SecretsManager
import Blueprint.Terraform.SecurityGroups
import Blueprint.Terraform.SshKeys
import Blueprint.Terraform.TransitGateways
import Blueprint.Terraform.Vpcs

/-!
# Documents

A document is made of families of sections in a fixed order: providers, resource
groups, networks, classic infrastructure, DNS, keys, storage and other services,
access, and activity tracking.
-/

namespace Blueprint.Terraform

inductive Family
  | provider
  | resourceGroups
  | vpcs
  | securityGroups
  | transitGateways
  | classic
  | dns
  | sshKeys
  | keyManagement
  | objectStorage
  | databases
  | eventStreams
  | secretsManager
  | appId
  | accountSettings
  | accessGroups
  | activityTracker
  deriving DecidableEq

namespace Family

/-- Every family in the order of a document. -/
def all : List Family := [
  provider, resourceGroups, vpcs, securityGroups, transitGateways, classic, dns, sshKeys,
  keyManagement, objectStorage, databases, eventStreams, secretsManager, appId,
  accountSettings, accessGroups, activityTracker]

theorem mem_all (family : Family) : family ∈ all := by
  cases family <;> decide

def name : Family → String
  | provider => "provider"
  | resourceGroups => "resource_groups"
  | vpcs => "vpcs"
  | securityGroups => "security_groups"
  | transitGateways => "transit_gateways"
  | classic => "classic"
  | dns => "dns"
  | sshKeys => "ssh_keys"
  | keyManagement => "key_management"
  | objectStorage => "object_storage"
  | databases => "icd"
  | eventStreams => "event_streams"
  | secretsManager => "secrets_manager"
  | appId => "appid"
  | accountSettings => "iam_account_settings"
  | accessGroups => "access_groups"
  | activityTracker => "atracker"

def ofName? (name : String) : Option Family := all.find? fun family => family.name = name

def sections (t : Tree) : Family → List Section
  | provider => Provider.sections t
  | resourceGroups => ResourceGroups.sections t
  | vpcs => Vpcs.sections t
  | securityGroups => SecurityGroups.sections t
  | transitGateways => TransitGateways.sections t
  | classic => Classic.sections t
  | dns => Dns.sections t
  | sshKeys => SshKeys.sections t
  | keyManagement => KeyManagement.sections t
  | objectStorage => ObjectStorage.sections t
  | databases => Databases.sections t
  | eventStreams => EventStreams.sections t
  | secretsManager => SecretsManager.sections t
  | appId => AppId.sections t
  | accountSettings => AccountSettings.sections t
  | accessGroups => AccessGroups.sections t
  | activityTracker => ActivityTracker.sections t

/-- The text of a family, if it has a section. -/
def document (t : Tree) (family : Family) : Option String :=
  Section.renderAll (family.sections t)

end Family

/-- A text with exactly one line end behind it. -/
def endLine (s : String) : String :=
  String.ofList (Text.dropEndWhile (· = '\n') s.toList) ++ "\n"

/-- The document for a tree, if any family has a section: the texts of the
families with a blank line between neighbours. -/
def document (t : Tree) : Option String :=
  let texts := Family.all.filterMap (Family.document t)
  if texts.isEmpty then none else some (endLine (Text.join "\n" texts))

/-- The text of the family with a given name, if there is such a family and it has
a section. -/
def familyDocument (t : Tree) (name : String) : Option String :=
  (Family.ofName? name).bind (Family.document t)

end Blueprint.Terraform

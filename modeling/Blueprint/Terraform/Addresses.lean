import Blueprint.Terraform.Expression
import Blueprint.Terraform.Naming

/-!
# Addresses of records

Where a document defines what a record stands for. The block of a record and the
expressions that refer to it take the address from here.
-/

namespace Blueprint.Terraform

/-- A label made of several words. -/
def labelOf (words : List String) : String := snakeCase (Text.join " " words)

/-! ## Labels of nested records -/

def encryptionKeyLabel (keyManagement key : String) : String :=
  labelOf [keyManagement, key, "key"]

def bucketLabel (storage bucket : String) : String :=
  labelOf [storage, "object storage", bucket, "bucket"]

def storageKeyLabel (storage key : String) : String :=
  labelOf [storage, "object storage key", key]

def subnetLabel (vpc subnet : String) : String := labelOf [vpc, subnet]

namespace Address

/-- A resource of its own, or one that exists outside the deployment. -/
def ofRecord (r : Record) (type label : String) : Address :=
  if r.flag "use_data" then data type label else resource type label

def resourceGroup (r : Record) : Address :=
  ofRecord r "ibm_resource_group" (snakeCase r.label)

def vpc (name : String) : Address := module (snakeCase name ++ "_vpc")

def subnet (vpc name : String) : Address := resource "ibm_is_subnet" (subnetLabel vpc name)

def securityGroup (r : Record) : Address :=
  resource "ibm_is_security_group" (labelOf [r.textOr "vpc" "", "vpc", r.label, "sg"])

def transitGateway (imported : Bool) (name : String) : Address :=
  if imported then data "ibm_tg_gateway" ("data_" ++ snakeCase name)
  else resource "ibm_tg_gateway" (snakeCase name)

def classicVlan (name : String) : Address :=
  resource "ibm_network_vlan" ("classic_vlan_" ++ snakeCase name)

def dns (name : String) : Address :=
  resource "ibm_resource_instance" (snakeCase name ++ "_dns_instance")

def dnsZone (dns name : String) : Address :=
  resource "ibm_dns_zone" (labelOf [dns, "dns zone", name])

def sshKey (r : Record) : Address :=
  ofRecord r "ibm_is_ssh_key" (snakeCase r.label ++ "_ssh_key")

def keyManagement (r : Record) : Address :=
  ofRecord r "ibm_resource_instance" (snakeCase r.label)

def keyRing (keyManagement ring : String) : Address :=
  resource "ibm_kms_key_rings" (labelOf [keyManagement, ring, "ring"])

def encryptionKey (keyManagement name : String) : Address :=
  resource "ibm_kms_key" (encryptionKeyLabel keyManagement name)

def objectStorage (r : Record) : Address :=
  ofRecord r "ibm_resource_instance" (snakeCase r.label ++ "_object_storage")

def bucket (storage name : String) : Address :=
  resource "ibm_cos_bucket" (bucketLabel storage name)

def storageKey (storage name : String) : Address :=
  resource "ibm_resource_key" (storageKeyLabel storage name)

def randomSuffix (storage : String) : Address :=
  resource "random_string" (snakeCase storage ++ "_random_suffix")

def secretsManager (name : String) : Address :=
  resource "ibm_resource_instance" (snakeCase name ++ "_secrets_manager")

def appId (r : Record) : Address := ofRecord r "ibm_resource_instance" (snakeCase r.label)

def accessGroup (name : String) : Address :=
  resource "ibm_iam_access_group" (snakeCase name ++ "_access_group")

def trackingTarget (name : String) : Address :=
  resource "ibm_atracker_target" (snakeCase name ++ "_cos_target")

end Address

end Blueprint.Terraform

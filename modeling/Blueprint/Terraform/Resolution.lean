import Blueprint.Terraform.Addresses
import Blueprint.Tree

/-!
# Resolution

How the names that records hold become expressions. A name that is empty or
denotes nothing becomes the unfound marker. Of several records with the same name
the first one is meant.
-/

namespace Blueprint

open Terraform

namespace Tree

/-! ## Options -/

/-- The prefix of the deployment. -/
def deployment (t : Tree) : String :=
  ((t.single? .options).bind (·.filled? "prefix")).getD "iac"

def region (t : Tree) : String :=
  ((t.single? .options).bind (·.filled? "region")).getD "us-south"

def tags (t : Tree) : Expression :=
  .texts (((t.single? .options).map (·.texts "tags")).getD [])

def hasOption (t : Tree) (name : String) : Bool :=
  (t.single? .options).any (·.flag name)

/-- A name after the prefix of the deployment. -/
def deploymentName (t : Tree) (name : String) : Expression :=
  .text (t.deployment ++ "-" ++ name)

/-! ## Records -/

/-- The record that a name denotes. -/
def lookup? (t : Tree) (kind : Kind) (name : Option String) : Option Record :=
  (name.filter (!·.isEmpty)).bind (t.find? kind none)

/-- An output of what the record that a name denotes stands for. -/
def outputOf (t : Tree) (kind : Kind) (name : Option String) (address : Record → Address)
    (output : String) : Expression :=
  match t.lookup? kind name with
  | some r => .output (address r) output
  | none => .unfound

def resourceGroupId (t : Tree) (name : Option String) : Expression :=
  t.outputOf .resourceGroup name .resourceGroup "id"

/-- The resource group that a record names. -/
def resourceGroupOf (t : Tree) (r : Record) : Expression :=
  t.resourceGroupId (r.text? "resource_group")

def vpcOutput (t : Tree) (name : Option String) (output : String) : Expression :=
  t.outputOf .vpc name (fun r => .vpc r.label) output

def keyManagementGuid (t : Tree) (name : Option String) : Expression :=
  t.outputOf .keyManagement name .keyManagement "guid"

def objectStorageOutput (t : Tree) (name : Option String) (output : String) : Expression :=
  t.outputOf .objectStorage name .objectStorage output

/-- A key under a key management instance. -/
def encryptionKeyCrn (t : Tree) (keyManagement key : Option String) : Expression :=
  match keyManagement, key with
  | some parent, some name =>
      if (t.find? .encryptionKey (some parent) name).isSome then
        .output (.encryptionKey parent name) "crn"
      else .unfound
  | _, _ => .unfound

/-- The parent of the first record of a kind with a given name. -/
def ownerOf (t : Tree) (kind : Kind) (name : Option String) : Option String :=
  (name.filter (!·.isEmpty)).bind fun name =>
    ((t.located kind).find? fun entry => entry.record.name? = some name).bind
      Located.parent

def bucketOwner (t : Tree) (name : Option String) : Option String := t.ownerOf .bucket name

def storageKeyOwner (t : Tree) (name : Option String) : Option String :=
  t.ownerOf .storageKey name

def bucketOutput (t : Tree) (name : Option String) (output : String) : Expression :=
  match t.bucketOwner name, name with
  | some storage, some name => .output (.bucket storage name) output
  | _, _ => .unfound

end Tree

namespace Terraform

/-- A name after the variable for the prefix of the deployment. -/
def variableName (name : String) : Expression :=
  .text (interpolated "var.prefix" ++ "-" ++ name)

/-- The name of what a record stands for: its own if that exists outside the
deployment. -/
def nameOf (r : Record) : Expression :=
  if r.flag "use_data" then .text r.label else variableName r.label

def regionVariable : Expression := .verbatim "var.region"

/-- A zone of the region by its number. -/
def zoneName (zone : Int) : Expression :=
  .text (interpolated "var.region" ++ "-" ++ toString zone)

end Terraform

end Blueprint

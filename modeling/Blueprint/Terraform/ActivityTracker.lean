import Blueprint.Terraform.Resolution
import Blueprint.Terraform.Section

/-!
# Activity tracking

The target that events are stored in and the route to it, if tracking is enabled.
-/

namespace Blueprint.Terraform.ActivityTracker

/-- The secret of the service credential that the tracker writes with. -/
def credential (t : Tree) (tracker : Record) : Expression :=
  match t.storageKeyOwner (tracker.text? "cos_key"), tracker.filled? "cos_key" with
  | some storage, some key => .output (.storageKey storage key) "credentials.apikey"
  | _, _ => .unfound

def endpoint : String :=
  "s3.private." ++ interpolated "var.region" ++ ".cloud-object-storage.appdomain.cloud"

def nameOf (tracker : Record) : String := tracker.textOr "name" "atracker"

def target (t : Tree) (tracker : Record) : Block :=
  let bucket := tracker.filled? "bucket"
  .defining (.trackingTarget (nameOf tracker)) [
    .attr "name" (variableName (nameOf tracker ++ "-cos-target")),
    .attr "target_type" (.text "cloud_object_storage"),
    .nested "cos_endpoint" [
      .attr "endpoint" (.text endpoint),
      .attr "target_crn" (t.objectStorageOutput (t.bucketOwner bucket) "crn"),
      .attr "bucket" (t.bucketOutput bucket "bucket_name"),
      .attr "api_key" (credential t tracker)]]

def route (tracker : Record) : Block :=
  .defining (.resource "ibm_atracker_route" (snakeCase (nameOf tracker) ++ "_route")) [
    .attr "name" (variableName (nameOf tracker ++ "-route")),
    .nested "rule" [
      .attr "target_ids" (.list [.output (.trackingTarget (nameOf tracker)) "id"]),
      .attr "locations" (.texts (tracker.texts "locations"))]]

def blocks (t : Tree) (tracker : Record) : List Block :=
  if tracker.flag "enabled" then
    target t tracker :: if tracker.flag "add_route" then [route tracker] else []
  else []

def sections (t : Tree) : List Section :=
  Section.ofBlocks "Activity Tracker"
    ((t.single? .activityTracker).toList.flatMap (blocks t))

end Blueprint.Terraform.ActivityTracker

import Blueprint.Schema.DisplayForm
import Blueprint.Schema.Field
import Blueprint.Grammar.Entries

/-!
# Options

The options of the whole deployment. Saving them may reach other records: when
address prefixes stop being chosen automatically every VPC is given its current
subnets as prefixes, and an activity tracker location follows the region.
-/

namespace Blueprint

/-- Changes every record of a kind. -/
def Tree.mapRecords (t : Tree) (kind : Kind) (f : Record → Record) : Tree :=
  (t.visit kind (fun _ _ r => ((), f r)) ()).2

namespace Options

def maxPrefixSize : Nat := 16

/-- Regions open to every deployment. -/
def commonRegions : List String := ["us-south", "us-east", "eu-de", "eu-gb", "eu-es"]

/-- Regions closed to deployments for financial services. -/
def otherRegions : List String := ["jp-tok", "jp-osa", "au-syd", "ca-tor", "br-sao"]

/-- Regions with Power VS zones. -/
def powerRegions : List String :=
  ["au-syd", "us-south", "eu-de", "eu-gb", "eu-es", "us-east", "br-sao", "jp-tok", "ca-tor"]

/-- High availability sites of Power VS with their counterparts. -/
def powerPairs : List (String × String) := [
  ("mad02", "eu-de-1"), ("mad04", "eu-de-2"), ("us-east", "us-south"), ("wdc06", "dal12"),
  ("wdc07", "dal10")]

/-- The counterpart of a high availability site. -/
def powerPair? (site : String) : Option String := powerPairs.lookup site

/-- The Power VS zones of a region. -/
def powerZonesOf (region : String) : List String :=
  match region with
  | "au-syd" => ["syd04", "syd05"]
  | "eu-de" => ["eu-de-1", "eu-de-2"]
  | "eu-gb" => ["lon04", "lon06"]
  | "eu-es" => ["mad02", "mad04"]
  | "us-east" => ["us-east", "wdc06", "wdc07"]
  | "us-south" => ["us-south", "dal10", "dal12"]
  | "jp-tok" => ["tok04"]
  | "br-sao" => ["sao01", "sao04"]
  | "ca-tor" => ["tor01"]
  | _ => []

/-! ## Field rules -/

def prefixInvalid (r : Record) : Bool :=
  let start := r.textOr "prefix" ""
  decide (maxPrefixSize < start.utf8ByteSize) || !Grammar.isRecordName start

def regionChoices (r : Record) : List String :=
  let regions := if r.flag "fs_cloud" then commonRegions else commonRegions ++ otherRegions
  regions.mergeSort fun a b => decide (a ≤ b)

def withoutPowerZones (r : Record) : Record := r.insert "power_vs_zones" (.list [])

/-- Turns a switch over and clears the chosen zones. -/
def toggle (field : String) (r : Record) : Record :=
  withoutPowerZones (r.insert field (.bool (!r.flag field)))

def usesPower (r : Record) : Bool := r.flag "enable_power_vs"

/-- Whether zones are chosen in pairs. -/
def usesPowerPairs (r : Record) : Bool := usesPower r && r.flag "power_vs_high_availability"

/-- Whether zones are chosen one by one. -/
def usesPowerZones (r : Record) : Bool := usesPower r && !r.flag "power_vs_high_availability"

def regionHasPower (r : Record) : Bool := (r.text? "region").any powerRegions.contains

/-- Chooses a site and its counterpart. -/
def choosePowerPair (r : Record) : Record :=
  let site := r.textOr "power_vs_ha_zone_1" ""
  r.insert "power_vs_zones" (.texts (site :: (powerPair? site).toList))

def chosenPowerZone (index : Nat) (r : Record) : String :=
  ((r.texts "power_vs_zones")[index]?).getD ""

def powerZoneAdvice (r : Record) : String :=
  if regionHasPower r then "Select at least one Availability Zone"
  else "The region " ++ r.textOr "region" "" ++ " does not have any available Power VS zones"

def powerZoneChoices (r : Record) : List String :=
  if r.flag "power_vs_high_availability" then ["dal12", "wdc06"]
  else powerZonesOf (r.textOr "region" "")

def fields : List Field := [
  .switch "fs_cloud" false,
  { Field.entry "prefix" "iac" with
    invalid := fun r _ => prefixInvalid r
    invalidText := fun _ _ => "Invalid Prefix" },
  { Field.entry "region" "" with
    invalid := fun r _ => (r.filled? "region").isNone
    invalidText := fun _ _ => "Select a region"
    choices := fun r _ => regionChoices r
    entered := withoutPowerZones },
  { Field.choice "zones" ["1", "2", "3"] with initial := some (.ofInt 3) },
  { Field.choice "endpoints" ["Private", "Public", "Public and Private"] with
    initial := some (.text "private")
    entered := fun r =>
      r.insert "endpoints" (.text (DisplayForm.endpointsStored (r.textOr "endpoints" "")))
    shown := fun r => DisplayForm.endpointsDisplay (r.textOr "endpoints" "") },
  { Field.entry "account_id" "" with optional := true },
  .switch "dynamic_subnets" true,
  { Field.switch "enable_power_vs" false with entered := toggle "enable_power_vs" },
  { Field.switch "power_vs_high_availability" false with
    hidden := fun r => !usesPower r
    entered := toggle "power_vs_high_availability" },
  { Field.choice "power_vs_ha_zone_1" (powerPairs.map (·.1)) with
    invalid := fun r _ => usesPowerPairs r && (r.texts "power_vs_zones").isEmpty
    invalidText := fun _ _ => "Select an Availability Zone"
    hidden := fun r => !usesPowerPairs r
    entered := choosePowerPair
    shown := chosenPowerZone 0 },
  { Field.choice "power_vs_ha_zone_2" ["eu-de-1", "eu-de-2", "us-south", "dal10", "dal12"] with
    hidden := fun r => !usesPowerPairs r
    shown := chosenPowerZone 1 },
  { name := "power_vs_zones"
    initial := some (.list [])
    invalid := fun r _ =>
      usesPowerZones r && ((r.texts "power_vs_zones").isEmpty || !regionHasPower r)
    invalidText := fun r _ => powerZoneAdvice r
    hidden := fun r => !usesPowerZones r
    choices := fun r _ => powerZoneChoices r },
  .switch "enable_classic" false,
  { name := "tags"
    initial := some (.texts ["hello", "world"])
    invalid := fun r _ => !Grammar.areTags (r.texts "tags")
    invalidText := fun _ _ => "One or more tags are invalid"
    helperText := some fun _ _ => "Enter a comma separated list of tags" },
  .switch "no_vpn_secrets_manager_auth" false]

/-! ## Saving -/

/-- The address prefix of a subnet. -/
def prefixOfSubnet (vpc : String) (subnet : Record) : Value :=
  let copied (field : String) : Value := (subnet.get? field).getD .null
  .object [("cidr", copied "cidr"), ("name", copied "name"), ("vpc", .text vpc),
    ("zone", copied "zone")]

/-- Makes the subnets of a VPC its address prefixes. -/
def pinPrefixes (vpc : Record) : Record :=
  vpc.insert "address_prefixes" (.list ((vpc.records "subnets").map (prefixOfSubnet vpc.label)))

/-- Replaces a text wherever it stands in a list. -/
def replaceText (old new : String) : Value → Value
  | .list items => .list (items.map fun item => if item = .text old then .text new else item)
  | value => value

/-- Lets the tracker's locations follow a region that changed. -/
def moveLocations (tree : Tree) (stored merged : Record) : Tree :=
  match stored.text? "region", merged.text? "region" with
  | some old, some new =>
      if old = new then tree
      else tree.mapRecords .activityTracker (Record.modify "locations" (replaceText old new))
  | _, _ => tree

def saved (tree : Tree) (stored merged : Record) : Tree × Record :=
  let pinned := if stored.flag "dynamic_subnets" && !merged.flag "dynamic_subnets"
    then tree.mapRecords .vpc pinPrefixes else tree
  (moveLocations pinned stored merged, merged)

def schema : Schema :=
  { kind := .options
    seed := some (.object (Record.ofFields [
      ("prefix", .text "iac"), ("region", .text "us-south"), ("tags", .texts ["hello", "world"]),
      ("zones", .ofInt 3), ("endpoints", .text "private"), ("account_id", .text ""),
      ("fs_cloud", .bool false), ("enable_classic", .bool false),
      ("dynamic_subnets", .bool true), ("enable_power_vs", .bool false),
      ("power_vs_zones", .list []), ("no_vpn_secrets_manager_auth", .bool false)]))
    saved
    fields
    requirements :=
      [.valid ["prefix", "tags", "power_vs_zones", "region", "power_vs_ha_zone_1"]] }

end Options

end Blueprint

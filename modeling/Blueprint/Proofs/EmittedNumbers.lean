import Blueprint.Proofs.GatedFields
import Blueprint.Proofs.Quantities
import Blueprint.Terraform.KeyManagement
import Blueprint.Terraform.SecurityGroups
import Blueprint.Terraform.Vpcs
import Mathlib

/-!
# Numbers behind the gate and in documents

The gate takes the zone of a subnet, the rotation of a key and the ports of a rule for
quantities: whole numbers or the numerals of them. A document takes the first two from
whole numbers only and writes the ports down as they are. Here the two readings are
compared: which of the numbers that pass the gate are the ones that a document holds.
-/

namespace Blueprint

namespace Terraform

/-! ## Attributes -/

namespace Item

mutual

/-- The attributes of an item with their values, at whatever depth they stand. -/
def settings : Item → List (String × Expression)
  | attr key value => [(key, value)]
  | map _ _ => []
  | block _ _ body => settingsAll body

def settingsAll : List Item → List (String × Expression)
  | [] => []
  | item :: rest => item.settings ++ settingsAll rest

end

@[simp] theorem settingsAll_eq (items : List Item) :
    settingsAll items = items.flatMap settings := by
  induction items with
  | nil => rfl
  | cons item rest ih => rw [settingsAll, ih, List.flatMap_cons]

attribute [simp] settings

@[simp] theorem settings_nested (keyword : String) (body : List Item) :
    (nested keyword body).settings = body.flatMap settings := by
  simp [nested]

@[simp] theorem flatMap_settings_optional (key : String) (value : Option Expression) :
    (optional key value).flatMap settings = value.toList.map (key, ·) := by
  cases value <;> simp [optional]

end Item

namespace Block

def settings (b : Block) : List (String × Expression) := b.body.flatMap Item.settings

@[simp] theorem settings_defining (address : Address) (body : List Item) :
    (defining address body).settings = body.flatMap Item.settings := by
  cases address <;> rfl

end Block

/-! ## Zones -/

theorem zoneName_injective : Function.Injective zoneName := by
  intro a b h
  simp only [zoneName, Expression.text.injEq, String.append_right_inj] at h
  exact Int.repr_injective h

namespace Vpcs

variable {t : Tree} {vpc entry : Record} {z : Int}

/-- A document puts a subnet in a zone: it says so of the subnet, and it opens the zone's
public gateway if the subnet is to have one. -/
structure Places (t : Tree) (vpc entry : Record) (z : Int) : Prop where
  zone : ("zone", zoneName z) ∈ (subnet t vpc entry).settings
  gateway : entry.flag "public_gateway" = true →
    ∃ zones, ("public_gateway_zones", .list zones) ∈ (block t vpc).settings ∧ .ofInt z ∈ zones

theorem zone_mem_subnet {e : Expression} :
    ("zone", e) ∈ (subnet t vpc entry).settings ↔ e = zoneName (zoneOf entry) := by
  simp [subnet]

theorem gatewayZones_mem_block {zones : List Expression} :
    ("public_gateway_zones", .list zones) ∈ (block t vpc).settings ↔
      zones = (gatewayZones vpc).map .ofInt := by
  simp [block, Vpc.optionalNames, optionalName]

theorem mem_gatewayZones :
    z ∈ gatewayZones vpc ↔
      ∃ other ∈ vpc.records "subnets", other.flag "public_gateway" = true ∧
        other.int? "zone" = some z := by
  simp [gatewayZones, and_assoc]

/-- A subnet is put in a zone if that is the zone its record is read to be in, and if one
of the gateways that the VPC is read to have is there. -/
theorem places_iff :
    Places t vpc entry z ↔
      zoneOf entry = z ∧ (entry.flag "public_gateway" = true → z ∈ gatewayZones vpc) := by
  constructor
  · rintro ⟨hzone, hgateway⟩
    refine ⟨(zoneName_injective (zone_mem_subnet.mp hzone)).symm, fun hflag => ?_⟩
    obtain ⟨zones, hzones, hmem⟩ := hgateway hflag
    rw [gatewayZones_mem_block.mp hzones] at hmem
    simpa [Expression.ofInt] using hmem
  · rintro ⟨hzone, hgateway⟩
    refine ⟨zone_mem_subnet.mpr (by rw [hzone]), fun hflag => ?_⟩
    exact ⟨_, gatewayZones_mem_block.mpr rfl, List.mem_map_of_mem (hgateway hflag)⟩

end Vpcs

/-! ## Rotations -/

namespace KeyManagement

variable {t : Tree} {keyManagement : String} {key : Record} {months : Int}

/-- A document rotates a key every so many months. -/
def Rotates (t : Tree) (keyManagement : String) (key : Record) (months : Int) : Prop :=
  ∃ b ∈ keyBlocks t keyManagement key, b.labels.head? = some "ibm_kms_key_policies" ∧
    ("interval_month", .ofInt months) ∈ b.settings

theorem rotates_iff : Rotates t keyManagement key months ↔
    (key.int? "rotation").filter (0 < ·) = some months := by
  have hkey : (keyBlock t keyManagement key).labels.head? ≠ some "ibm_kms_key_policies" := by
    simp [keyBlock, Block.defining, Address.encryptionKey]
  unfold Rotates keyBlocks
  cases (key.int? "rotation").filter (0 < ·) with
  | none => simp [hkey]
  | some read =>
      have hrotation : ("interval_month", Expression.ofInt months) ∈
          (rotationBlock t keyManagement key read).settings ↔ read = months := by
        simp [rotationBlock, instanceId, Expression.ofInt, eq_comm]
      have hlabel : (rotationBlock t keyManagement key read).labels.head? =
          some "ibm_kms_key_policies" := rfl
      simp [hkey, hlabel, hrotation]

end KeyManagement

end Terraform

open Terraform

/-! ## What passes the gate -/

theorem Record.exists_value_of_isMissing {r : Record} {field : String}
    (h : r.isMissing field = false) : ∃ v, r.get? field = some v ∧ v.isBlank = false := by
  have hset := isUnset_of_isMissing h
  unfold isUnset at hset
  split at hset
  · cases hset
  · next v hv => exact ⟨v, hv, hset⟩

theorem Record.int?_of_get? {r : Record} {field : String} {v : Value} (h : r.get? field = some v) :
    r.int? field = v.int? := by
  rw [int?, h, Option.bind_some]

namespace Kind

variable {r : Record} {t : Tree} {op : Context} {v : Value} {z : Int}

theorem exists_zone_of_blocksSave (h : Kind.subnet.blocksSave r t op = false) :
    ∃ v z, r.get? "zone" = some v ∧ v.Denotes z ∧ Vpc.zones.Contains z := by
  have hvalid : (r.isMissing "zone" || !Vpc.zones.accepts (r.get? "zone")) = false :=
    Schema.fieldInvalid_of_asked h (show "zone" ∈ Kind.subnet.schema.asked by decide)
  simp only [Bool.or_eq_false_iff, Bool.not_eq_false'] at hvalid
  obtain ⟨hpresent, haccepted⟩ := hvalid
  obtain ⟨v, hv, hset⟩ := Record.exists_value_of_isMissing hpresent
  rw [hv, Limits.accepts_iff (by decide), hset] at haccepted
  obtain ⟨z, hz, hcontains⟩ := haccepted.resolve_left Bool.false_ne_true
  exact ⟨v, z, hv, hz, hcontains⟩

theorem rotation_of_blocksSave (h : Kind.encryptionKey.blocksSave r t op = false)
    (hv : r.get? "rotation" = some v) (hz : v.Denotes z) : KeyManagement.rotation.Contains z := by
  have hvalid : (!KeyManagement.rotation.accepts (r.get? "rotation")) = false :=
    Schema.fieldInvalid_of_asked h (show "rotation" ∈ Kind.encryptionKey.schema.asked by decide)
  rw [hv, Bool.not_eq_false'] at hvalid
  exact Limits.contains_of_accepts (by decide) hvalid hz

end Kind

/-- Which of the numbers that pass the gate are emitted. A subnet that passes stands for one
of the zones, and it is put there exactly if the zone is held as a whole number, or is the
first one, which other values are read as, with its gateway opened by another subnet. A key
that passes is rotated every so many months exactly if the months are held as a whole
number. -/
theorem gated_numbers_emitted (t gate : Tree) (op : Context) :
    (∀ vpc, ∀ entry ∈ vpc.records "subnets", Kind.subnet.blocksSave entry gate op = false →
      ∃ v z, entry.get? "zone" = some v ∧ v.Denotes z ∧
        (Vpcs.Places t vpc entry z ↔
          v.int? = some z ∨
            z = 1 ∧ (entry.flag "public_gateway" = true →
              ∃ other ∈ vpc.records "subnets", other.flag "public_gateway" = true ∧
                other.int? "zone" = some 1))) ∧
      ∀ keyManagement key v months, Kind.encryptionKey.blocksSave key gate op = false →
        key.get? "rotation" = some v → v.Denotes months →
          (KeyManagement.Rotates t keyManagement key months ↔ v.int? = some months) := by
  constructor
  · intro vpc entry hentry hgate
    obtain ⟨v, z, hv, hz, hcontains⟩ := Kind.exists_zone_of_blocksSave hgate
    refine ⟨v, z, hv, hz, ?_⟩
    have hread : Vpcs.zoneOf entry = v.int?.getD 1 := by rw [Vpcs.zoneOf, Record.int?_of_get? hv]
    rw [Vpcs.places_iff, hread, Vpcs.mem_gatewayZones]
    cases hint : v.int? with
    | some n =>
        obtain rfl := hz.eq_of_int? (hcontains.natAbs_lt (by decide)) hint
        have hself : entry.int? "zone" = some n := by rw [Record.int?_of_get? hv, hint]
        simp only [Option.getD_some, true_and, true_or, iff_true]
        exact fun hflag => ⟨entry, hentry, hflag, hself⟩
    | none =>
        simp only [Option.getD_none, reduceCtorEq, false_or]
        constructor
        · rintro ⟨rfl, hgateway⟩
          exact ⟨rfl, hgateway⟩
        · rintro ⟨rfl, hgateway⟩
          exact ⟨rfl, hgateway⟩
  · intro keyManagement key v months hgate hv hmonths
    have hcontains := Kind.rotation_of_blocksSave hgate hv hmonths
    rw [KeyManagement.rotates_iff, Record.int?_of_get? hv]
    constructor
    · exact fun hread => (Option.filter_eq_some_iff.mp hread).1
    · intro hint
      have hpositive : (0 : Int) < months := Int.lt_of_lt_of_le Int.one_pos hcontains.1
      exact Option.filter_eq_some_iff.mpr ⟨hint, by simpa using hpositive⟩

/-- A subnet with a public gateway, in a zone given by a value. -/
def gatewaySubnet (zone : Value) : Record :=
  [("cidr", .text "10.10.10.0/24"), ("name", .text "app"), ("public_gateway", .bool true),
    ("vpc", .text "edge"), ("zone", zone)]

def edgeVpc (zone : Value) : Record :=
  [("name", .text "edge"), ("resource_group", .text "service-rg"),
    ("subnets", .list [.object (gatewaySubnet zone)])]

def rotatedKey (rotation : Value) : Record := [("name", .text "root"), ("rotation", rotation)]

/-- A tree with one VPC and one key, where a zone and a rotation are given by values. -/
def edgeTree (zone rotation : Value) : Tree :=
  (Tree.default.set "vpcs" (.list [.object (edgeVpc zone)])).set "key_management" (.list [.object
    [("keys", .list [.object (rotatedKey rotation)]), ("name", .text "vault"),
      ("resource_group", .text "service-rg")]])

theorem gated_numbers_emitted_edge :
    Vpcs.Places (edgeTree (.ofInt 2) (.ofInt 6)) (edgeVpc (.ofInt 2)) (gatewaySubnet (.ofInt 2)) 2 ∧
      KeyManagement.Rotates (edgeTree (.ofInt 2) (.ofInt 6)) "vault" (rotatedKey (.ofInt 6)) 6 := by
  constructor
  · obtain ⟨v, z, hv, hz, hplaces⟩ := (gated_numbers_emitted (edgeTree (.ofInt 2) (.ofInt 6))
      (edgeTree (.ofInt 2) (.ofInt 6)) (.editing "app" (some "edge"))).1 (edgeVpc (.ofInt 2))
      (gatewaySubnet (.ofInt 2)) (by decide) (by decide +kernel)
    obtain rfl : Value.ofInt 2 = v := Option.some.inj hv
    obtain rfl := hz.unique (Value.denotes_ofInt (by decide))
    exact hplaces.mpr (.inl rfl)
  · exact ((gated_numbers_emitted (edgeTree (.ofInt 2) (.ofInt 6)) (edgeTree (.ofInt 2) (.ofInt 6))
      (.editing "root" (some "vault"))).2 "vault" (rotatedKey (.ofInt 6)) (.ofInt 6) 6
      (by decide +kernel) rfl (Value.denotes_ofInt (by decide))).mpr rfl

/-- The same numbers as numerals pass the gate too, and neither of them is emitted. -/
theorem gated_numerals_not_emitted :
    (Kind.subnet.blocksSave (gatewaySubnet (.text "2")) (edgeTree (.text "2") (.text "6"))
        (.editing "app" (some "edge")) = false ∧
      (Value.text "2").Denotes 2 ∧
      ("zone", zoneName 2) ∉ (Vpcs.subnet (edgeTree (.text "2") (.text "6")) (edgeVpc (.text "2"))
        (gatewaySubnet (.text "2"))).settings ∧
      (2 : Int) ∉ Vpcs.gatewayZones (edgeVpc (.text "2"))) ∧
    Kind.encryptionKey.blocksSave (rotatedKey (.text "6")) (edgeTree (.text "2") (.text "6"))
        (.editing "root" (some "vault")) = false ∧
      (Value.text "6").Denotes 6 ∧
      ¬KeyManagement.Rotates (edgeTree (.text "2") (.text "6")) "vault" (rotatedKey (.text "6"))
        6 := by
  have hzone : (Value.text "2").Denotes 2 := ⟨.ofInt 2, by decide +kernel, by decide +kernel⟩
  have hmonths : (Value.text "6").Denotes 6 := ⟨.ofInt 6, by decide +kernel, by decide +kernel⟩
  refine ⟨⟨by decide +kernel, hzone, ?_, by decide +kernel⟩, by decide +kernel, hmonths, ?_⟩
  · rw [Vpcs.zone_mem_subnet]
    exact fun h => absurd (zoneName_injective h) (by decide)
  · rw [KeyManagement.rotates_iff]
    decide

end Blueprint

import Blueprint.Proofs.EmittedNumbers

/-!
# Ports behind the gate and in documents

The gate decides by the protocol of a security group rule which of its port-like fields
have to be right, and so does a document decide which of them it writes down. The two
tables agree, so every port that is written has been through the gate. What the two take
for an empty field differs: the gate passes a zero over, a document does not.
-/

namespace Blueprint

open Terraform

def Grammar.Port.limits (port : Grammar.Port) : Limits := ⟨port.lowest, port.highest⟩

theorem Grammar.Port.limits_exact (port : Grammar.Port) : port.limits.Exact := by
  cases port <;> decide

theorem Grammar.Port.field_injective : Function.Injective Grammar.Port.field := by
  intro port other h
  cases port <;> cases other <;> simp_all [field]

namespace Terraform

/-- An expression stands for a whole number if it is the number or its numeral. -/
def Expression.Denotes (e : Expression) (z : Int) : Prop :=
  match e with
  | .number n => (Value.number n).Denotes z
  | .text s => (Value.text s).Denotes z
  | .verbatim _ | .bool _ | .list _ | .output _ _ | .call _ _ | .unfound => False

namespace Expression

variable {r : Record} {field : String} {v : Value} {x : Binary64} {e : Expression}

theorem ofFilled?_eq_some_iff : ofFilled? r field = some e ↔
    ∃ v, r.get? field = some v ∧ v.isBlank = false ∧ ofValue? v = some e := by
  simp [ofFilled?, Option.bind_eq_some_iff, Option.filter_eq_some_iff, and_assoc]

theorem exists_ofValue? (h : v.quantity? = some x) :
    ∃ e, ofValue? v = some e ∧ ∀ z, e.Denotes z ↔ v.Denotes z := by
  cases v with
  | number n => exact ⟨.number n, rfl, fun _ => Iff.rfl⟩
  | text s => exact ⟨.text s, rfl, fun _ => Iff.rfl⟩
  | null | bool _ | list _ | object _ => cases h

theorem denotes_of_ofValue? (he : ofValue? v = some e) {z : Int} (hz : v.Denotes z) :
    e.Denotes z := by
  obtain ⟨x, hx, hscaled⟩ := hz
  obtain ⟨other, hother, hdenotes⟩ := exists_ofValue? hx
  obtain rfl := Option.some.inj (he.symm.trans hother)
  exact (hdenotes z).mpr ⟨x, hx, hscaled⟩

end Expression

namespace SecurityGroups

open SecurityGroup (portsOf)

variable {group entry : Record} {port : Grammar.Port} {e : Expression}

theorem protocolFields_eq (protocol : String) :
    protocolFields protocol = (portsOf protocol).map Grammar.Port.field := by
  unfold portsOf
  split
  · rfl
  · rfl
  · rfl
  · next hicmp htcp hudp =>
      have hother : ¬(protocol = "tcp" ∨ protocol = "udp") := not_or.mpr ⟨htcp, hudp⟩
      simp [protocolFields, hother, show protocol ≠ "icmp" from hicmp]

theorem settings_protocolItems (protocol : String) (entry : Record) :
    (protocolItems protocol entry).flatMap Item.settings =
      (portsOf protocol).flatMap fun port =>
        (Expression.ofFilled? entry port.field).toList.map (port.field, ·) := by
  unfold protocolItems
  dsimp only
  rw [protocolFields_eq]
  split
  · next hempty =>
      rw [List.isEmpty_iff, List.map_eq_nil_iff] at hempty
      simp [hempty]
  · simp [Item.ofFilled, List.flatMap_map, List.flatMap_assoc]

theorem setting_mem_rule : (port.field, e) ∈ (rule group entry).settings ↔
    port ∈ portsOf (entry.textOr "protocol" "all") ∧
      Expression.ofFilled? entry port.field = some e := by
  have hfield : port.field ∉ ["group", "remote", "direction"] := by cases port <;> decide
  simp only [List.mem_cons, List.not_mem_nil, or_false, not_or] at hfield
  simp only [rule, Block.settings_defining, List.flatMap_append, settings_protocolItems,
    List.mem_append, List.mem_flatMap, List.mem_map, Option.mem_toList]
  constructor
  · rintro (⟨item, hitem, hmem⟩ | ⟨other, hother, e, he, hsame⟩)
    · simp only [List.mem_cons, List.not_mem_nil, or_false] at hitem
      rcases hitem with rfl | rfl | rfl <;> simp [hfield] at hmem
    · simp only [Prod.mk.injEq] at hsame
      obtain ⟨hname, rfl⟩ := hsame
      obtain rfl := Grammar.Port.field_injective hname
      exact ⟨hother, he⟩
  · rintro ⟨hport, he⟩
    exact .inr ⟨port, hport, e, he, rfl⟩

/-- What a rule that passes holds for a port of its protocol: nothing, a zero, or a whole
number within the port's limits. -/
theorem portValid_iff {v : Value} (hv : entry.get? port.field = some v) :
    SecurityGroup.portValid entry port = true ↔
      v.isZeroQuantity = true ∨ v.isBlank = true ∨ ∃ z, v.Denotes z ∧ port.limits.Contains z := by
  have haccepts := Limits.accepts_iff port.limits_exact (v := v)
  simp only [SecurityGroup.portValid, hv, Option.any_some, Bool.or_eq_true]
  exact or_congr_right haccepts

/-- Every port that a document writes into a rule is a whole number within the limits of the
port, or the numeral of one. -/
def WritesLegalPorts (group entry : Record) : Prop :=
  ∀ (port : Grammar.Port) (e : Expression), (port.field, e) ∈ (rule group entry).settings →
    ∃ z, e.Denotes z ∧ port.limits.Contains z

theorem portValid_of_blocksSave {t : Tree} {op : Context}
    (h : Kind.securityRule.blocksSave entry t op = false)
    (hport : port ∈ portsOf (entry.textOr "protocol" "all")) :
    SecurityGroup.portValid entry port = true := by
  have hpasses : ¬(!SecurityGroup.portsValid entry) = true :=
    List.any_eq_false.mp h (.passes SecurityGroup.portsValid) (by simp [Kind.schema,
      SecurityGroup.ruleSchema])
  rw [Bool.not_eq_true', Bool.not_eq_false] at hpasses
  exact List.all_eq_true.mp hpasses port hport

end SecurityGroups

end Terraform

open Terraform.SecurityGroups in
/-- A rule that passes the gate is written with legal ports exactly if none of the ports of
its protocol is held as a zero, save where zero itself is a legal number. -/
theorem gated_rule_ports_legal_iff (group : Record) {entry : Record} {t : Tree} {op : Context}
    (h : Kind.securityRule.blocksSave entry t op = false) :
    WritesLegalPorts group entry ↔
      ∀ port ∈ SecurityGroup.portsOf (entry.textOr "protocol" "all"), ∀ v,
        entry.get? port.field = some v → v.isZeroQuantity = true →
          port.lowest ≤ 0 ∧ v.Denotes 0 := by
  constructor
  · intro hlegal port hport v hv hzero
    cases hquantity : v.quantity? with
    | none => simp [Value.isZeroQuantity, hquantity] at hzero
    | some x =>
        obtain ⟨e, he, hdenotes⟩ := Expression.exists_ofValue? hquantity
        have hwritten := Expression.ofFilled?_eq_some_iff.mpr
          ⟨v, hv, Value.isBlank_of_quantity? hquantity, he⟩
        obtain ⟨z, hz, hcontains⟩ := hlegal port e (setting_mem_rule.mpr ⟨hport, hwritten⟩)
        rw [hdenotes] at hz
        obtain rfl := hz.isZeroQuantity_iff.mp hzero
        exact ⟨hcontains.1, hz⟩
  · intro hzeros port e hmem
    obtain ⟨hport, hwritten⟩ := setting_mem_rule.mp hmem
    obtain ⟨v, hv, hset, he⟩ := Expression.ofFilled?_eq_some_iff.mp hwritten
    rcases (portValid_iff hv).mp (portValid_of_blocksSave h hport) with hzero | hblank | hnumber
    · obtain ⟨hlowest, hz⟩ := hzeros port hport v hv hzero
      have hhighest : 0 ≤ port.highest := by cases port <;> decide
      exact ⟨0, Expression.denotes_of_ofValue? he hz, hlowest, hhighest⟩
    · rw [hset] at hblank
      cases hblank
    · obtain ⟨z, hz, hcontains⟩ := hnumber
      exact ⟨z, Expression.denotes_of_ofValue? he hz, hcontains⟩

/-- A rule that lets requests to some ports in. -/
def webRule (lowest : Value) : Record :=
  [("direction", .text "inbound"), ("name", .text "allow-web"), ("port_max", .text "443"),
    ("port_min", lowest), ("protocol", .text "tcp"), ("sg", .text "web"),
    ("source", .text "0.0.0.0/0")]

def webGroup (lowest : Value) : Record :=
  [("name", .text "web"), ("resource_group", .text "service-rg"),
    ("rules", .list [.object (webRule lowest)]), ("vpc", .text "management")]

def webTree (lowest : Value) : Tree :=
  Tree.default.set "security_groups" (.list [.object (webGroup lowest)])

theorem gated_rule_ports_legal_iff_web :
    Kind.securityRule.blocksSave (webRule (.ofInt 80)) (webTree (.ofInt 80))
        (.editing "allow-web" (some "web")) = false ∧
      SecurityGroups.WritesLegalPorts (webGroup (.ofInt 80)) (webRule (.ofInt 80)) := by
  have hgate : Kind.securityRule.blocksSave (webRule (.ofInt 80)) (webTree (.ofInt 80))
      (.editing "allow-web" (some "web")) = false := by decide +kernel
  refine ⟨hgate, (gated_rule_ports_legal_iff _ hgate).mpr ?_⟩
  intro port hport v hv hzero
  have hports : port ∈ [Grammar.Port.portMin, .portMax] := hport
  rcases List.mem_pair.mp hports with rfl | rfl
  · obtain rfl : Value.ofInt 80 = v := Option.some.inj hv
    exact absurd hzero (by decide +kernel)
  · obtain rfl : Value.text "443" = v := Option.some.inj hv
    exact absurd hzero (by decide +kernel)

/-- A rule from port zero on passes the gate, and the zero is written. -/
theorem gated_rule_writes_port_zero :
    Kind.securityRule.blocksSave (webRule (.ofInt 0)) (webTree (.ofInt 0))
        (.editing "allow-web" (some "web")) = false ∧
      ("port_min", .ofInt 0) ∈
        (SecurityGroups.rule (webGroup (.ofInt 0)) (webRule (.ofInt 0))).settings ∧
      ¬SecurityGroups.WritesLegalPorts (webGroup (.ofInt 0)) (webRule (.ofInt 0)) := by
  have hwritten : (Grammar.Port.portMin.field, Expression.ofInt 0) ∈
      (SecurityGroups.rule (webGroup (.ofInt 0)) (webRule (.ofInt 0))).settings :=
    SecurityGroups.setting_mem_rule.mpr ⟨by decide, rfl⟩
  refine ⟨by decide +kernel, hwritten, fun hlegal => ?_⟩
  obtain ⟨z, hz, hlowest, -⟩ := hlegal .portMin _ hwritten
  obtain rfl : (0 : Int) = z := (Value.denotes_ofInt (by decide)).unique hz
  exact absurd hlowest (by decide)

end Blueprint

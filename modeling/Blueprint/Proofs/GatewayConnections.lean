import Blueprint.Proofs.Definitions
import Blueprint.Proofs.EmittedNumbers
import Blueprint.Proofs.SavedProperties

/-!
# Connections of transit gateways

Every connection carries the name of the gateway that has it, and a document finds the
gateway by that name, not by where the connection is stored. Saving a gateway writes its
name into its connections; creating one takes them as they are given. So the connections of
a run are right throughout exactly if they are given with the name of the new gateway.
-/

namespace Blueprint

open Terraform

/-! ## Connections that carry a name -/

namespace TransitGateway

/-- The connections of a gateway carry its name. -/
def Named (r : Record) : Prop :=
  ∀ connection ∈ r.records "connections", connection.text? "tgw" = r.name?

theorem named_addressConnections {r : Record} {name : String} (h : r.name? = some name) :
    Named (addressConnections r) := by
  have hname : (addressConnections r).name? = r.name? := by
    rw [addressConnections, h, Record.name?_eq, Record.get?_modify, if_neg (by decide),
      ← Record.name?_eq, h]
  intro connection hconnection
  rw [hname, h]
  rw [addressConnections, h, Record.records_eq, Record.get?_modify, if_pos rfl] at hconnection
  cases hvalue : r.get? "connections" with
  | none => simp [hvalue] at hconnection
  | some value =>
      cases value with
      | list items =>
          rw [hvalue] at hconnection
          simp only [Option.map_some, Option.getD_some, setInEach, Value.records_list,
            List.filterMap_map, List.mem_filterMap] at hconnection
          obtain ⟨item, _, hitem⟩ := hconnection
          cases item with
          | object stored =>
              obtain rfl := Option.some.inj hitem
              rw [Record.text?, Record.get?_insert_self]
              rfl
          | null | bool _ | number _ | text _ | list _ => cases hitem
      | null | bool _ | number _ | text _ | object _ =>
          simp [hvalue, setInEach, Value.records, Value.list?] at hconnection

/-- What a revision leaves of a connection leads from where it led before. -/
theorem tgw_reviseFieldEntry {judge : String → Verdict} {item : Value} {r : Record}
    (h : (item.reviseFieldEntry "vpc" judge).bind Value.object? = some r) :
    ∃ stored, item.object? = some stored ∧ r.text? "tgw" = stored.text? "tgw" := by
  cases item with
  | object stored =>
      refine ⟨stored, rfl, ?_⟩
      simp only [Value.reviseFieldEntry] at h
      split at h
      · obtain rfl := Option.some.inj h
        rfl
      · obtain rfl := Option.some.inj h
        rw [Record.text?, Record.get?_insert_of_ne _ _ (by decide), Record.text?]
      · cases h
  | null | bool _ | number _ | text _ | list _ => cases h

theorem Named.reviseBy {r : Record} (h : Named r) (judge : Reference → String → Verdict) :
    Named (r.reviseBy Kind.transitGateway.schema.references judge) := by
  let reference : Reference := { path := .each "connections" "vpc", target := .vpc }
  have hreference : reference ∈ Kind.transitGateway.schema.references := by decide
  have hname : (r.reviseBy Kind.transitGateway.schema.references judge).name? = r.name? := by
    rw [Record.name?_eq, Record.get?_reviseBy_of_ne fun _ hmem => Kind.root_ne_name hmem,
      ← Record.name?_eq]
  have hvalue : (r.reviseBy Kind.transitGateway.schema.references judge).get? "connections" =
      (r.get? "connections").map (Value.reviseFieldEntries "vpc" (judge reference)) :=
    Record.get?_reviseBy_of_mem Kind.transitGateway.nodup_roots hreference judge r
  intro connection hconnection
  rw [hname]
  rw [Record.records_eq, hvalue] at hconnection
  cases hstored : r.get? "connections" with
  | none => simp [hstored] at hconnection
  | some value =>
      cases value with
      | list items =>
          rw [hstored] at hconnection
          simp only [Option.map_some, Option.getD_some, Value.reviseFieldEntries,
            Value.records_list, List.filterMap_filterMap, List.mem_filterMap] at hconnection
          obtain ⟨item, hitem, hrevised⟩ := hconnection
          obtain ⟨stored, hobject, htgw⟩ := tgw_reviseFieldEntry hrevised
          rw [htgw]
          refine h stored ?_
          rw [Record.records_eq, hstored]
          exact List.mem_filterMap.mpr ⟨item, hitem, hobject⟩
      | null | bool _ | number _ | text _ | object _ =>
          simp [hstored, Value.reviseFieldEntries, Value.records, Value.list?] at hconnection

/-- Gateways hold no records, so nothing is written into them from outside. -/
theorem parent_ne_transitGateway (kind : Kind) : kind.parent ≠ some .transitGateway := by
  cases kind <;> decide

theorem establishes_named : Kind.transitGateway.Establishes Named where
  collection := rfl
  unwritten := by decide
  congr {r u} h hr := by
    have hget : ∀ field, u.get? field = r.get? field := by
      intro field
      apply h
      cases hheld : Kind.transitGateway.heldIn? field with
      | none => rfl
      | some child =>
          have hlocation := Kind.location_of_heldIn? hheld
          exact absurd (Kind.parent_eq_some_iff.mpr ⟨field, hlocation⟩)
            (parent_ne_transitGateway child)
    unfold Named at hr ⊢
    rwa [Record.records_eq, Record.name?_eq, hget, hget, ← Record.records_eq, ← Record.name?_eq]
  revise judge hr := hr.reviseBy judge
  saved _ _ _ _ hname := named_addressConnections hname

end TransitGateway

/-- Whether the connections that a call gives to a new gateway carry the gateway's name. -/
def Call.namesConnections : Call → Bool
  | .create kind fields _ =>
      kind ≠ .transitGateway || ((Record.ofFields fields).records "connections").all
        fun connection => connection.get? "tgw" = fields.givenName
  | .save _ _ _ | .delete _ _ | .reconcile => true

namespace Draft

variable {fields : Record} {parent : Option String}

theorem records_recordOf_transitGateway :
    (recordOf .transitGateway fields parent).records "connections" =
      (Record.ofFields fields).records "connections" := by
  have hrecord : recordOf .transitGateway fields parent =
      Kind.transitGateway.schema.defaultRecord.extend fields := rfl
  have hdefault : Kind.transitGateway.schema.defaultRecord.get? "connections" =
      some (.list []) := by decide
  rw [hrecord, Record.records_eq, Record.records_eq, Record.get?_extend_ofFields, hdefault]
  cases (Record.ofFields fields).get? "connections" <;> rfl

theorem named_recordOf_iff {op : Context} {name : String}
    (hname : (recordOf .transitGateway fields parent).name? = some name) :
    TransitGateway.Named (recordOf .transitGateway fields parent) ↔
      (Call.create .transitGateway fields op).namesConnections = true := by
  have hgiven : fields.givenName = some (.text name) := by
    rw [name?_recordOf, Option.bind_eq_some_iff] at hname
    obtain ⟨value, hvalue, htext⟩ := hname
    rw [hvalue, Value.text?_eq_some_iff.mp htext]
  simp only [TransitGateway.Named, hname, records_recordOf_transitGateway, Call.namesConnections,
    hgiven, ne_eq, not_true_eq_false, decide_false, Bool.false_or, List.all_eq_true,
    decide_eq_true_eq, Record.text?_eq_some_iff]

end Draft

namespace Tree

variable {t u : Tree} {kind : Kind} {fields : Record} {op : Context}

theorem connectionsNamed_iff :
    t.ConnectionsNamed ↔ t.Each .transitGateway TransitGateway.Named := by
  rw [Each, tops_eq_topLevel t rfl]
  rfl

/-- Only a new gateway can bring along connections that do not carry its name. -/
theorem connectionsNamed_apply_iff (h : t.ConnectionsNamed) {call : Call}
    (hu : t.apply call = .ok u) : u.ConnectionsNamed ↔ call.namesConnections = true := by
  rw [connectionsNamed_iff,
    TransitGateway.establishes_named.apply_iff (connectionsNamed_iff.mp h) hu]
  cases call with
  | create kind fields op =>
      by_cases hgateway : kind = .transitGateway
      · subst hgateway
        obtain ⟨draft, _, hdraft, _⟩ := create_eq_ok hu
        obtain ⟨_, hop, hrecord, hname⟩ := Draft.ofFields_eq_ok hdraft
        have haddress := Context.addresses_of_addressed hop
        rw [hrecord, haddress.eq_none rfl] at hname
        rw [← Draft.named_recordOf_iff hname]
        simp
      · simp [Call.namesConnections, hgateway]
  | save kind fields op | delete kind op | reconcile => simp [Call.namesConnections]

end Tree

/-! ## The section of a gateway -/

namespace Terraform.TransitGateways

variable {t : Tree} {gateway connection : Record}

/-- A gateway and its connections agree: they carry its name, and in its section each of
them leads from the block that defines the gateway. -/
structure Leads (t : Tree) (gateway : Record) : Prop where
  named : ∃ name, gateway.name? = some name ∧
    ∀ connection ∈ gateway.records "connections", connection.get? "tgw" = some (.text name)
  leads : ∀ b ∈ blocks t gateway, ∀ label,
    b.address? = some (.resource "ibm_tg_connection" label) →
      ∃ own, (block t gateway).address? = some own ∧
        ∀ e, ("gateway", e) ∈ b.settings ↔ e = .output own "id"

theorem address?_block : (block t gateway).address? =
    some (.transitGateway (gateway.flag "use_data") gateway.label) :=
  Block.address?_defining _ _

theorem address?_connectionBlock (t : Tree) (connection : Record) :
    ∃ label, (connectionBlock t connection).address? =
      some (.resource "ibm_tg_connection" label) := by
  unfold connectionBlock
  exact ⟨_, Block.address?_defining _ _⟩

theorem gateway_mem_connectionBlock {e : Expression} :
    ("gateway", e) ∈ (connectionBlock t connection).settings ↔
      e = .output (gatewayAddress t (connection.textOr "tgw" "")) "id" := by
  have hpeer : ("gateway", e) ∉
      ((Peer.ofConnection connection).items t connection).flatMap Item.settings := by
    cases Peer.ofConnection connection <;>
      simp [Peer.items, Item.ofField]
  simp only [connectionBlock, Block.settings_defining, List.flatMap_append, List.mem_append,
    hpeer, or_false]
  simp [timeouts, Item.timeouts]

theorem leads_iff {name : String} (hname : gateway.name? = some name)
    (hnamed : ∀ connection ∈ gateway.records "connections",
      connection.get? "tgw" = some (.text name)) :
    Leads t gateway ↔ (connections gateway ≠ [] →
      gatewayAddress t name = .transitGateway (gateway.flag "use_data") name) := by
  have htgw : ∀ connection ∈ connections gateway, connection.textOr "tgw" "" = name := by
    intro connection hconnection
    rcases mem_connections hconnection with hstored | ⟨crn, rfl⟩
    · rw [Record.textOr, Record.text?, hnamed connection hstored]
      rfl
    · rw [tgw_remoteConnection, Record.label_eq hname]
  have hown : (block t gateway).address? =
      some (.transitGateway (gateway.flag "use_data") name) := by
    rw [address?_block, Record.label_eq hname]
  constructor
  · intro h hne
    obtain ⟨connection, hconnection⟩ := List.exists_mem_of_ne_nil _ hne
    obtain ⟨label, hlabel⟩ := address?_connectionBlock t connection
    obtain ⟨own, haddress, hgateway⟩ := h.leads _
      (List.mem_cons_of_mem _ (List.mem_map_of_mem hconnection)) label hlabel
    obtain rfl := Option.some.inj (hown.symm.trans haddress)
    have hsetting := (hgateway _).mp (gateway_mem_connectionBlock.mpr rfl)
    rw [htgw connection hconnection] at hsetting
    exact (Expression.output.inj hsetting).1
  · intro h
    refine ⟨⟨name, hname, hnamed⟩, fun b hb label hlabel => ⟨_, hown, fun e => ?_⟩⟩
    rcases List.mem_cons.mp hb with rfl | hmade
    -- The block of the gateway itself is none of a connection.
    · rw [hown] at hlabel
      unfold Address.transitGateway at hlabel
      split at hlabel <;> simp at hlabel
    · obtain ⟨connection, hconnection, rfl⟩ := List.mem_map.mp hmade
      rw [gateway_mem_connectionBlock, htgw connection hconnection,
        h (List.ne_nil_of_mem hconnection)]

/-- The name of a gateway finds it, unless it is empty and the gateway is imported. -/
theorem gatewayAddress_iff {name : String}
    (hfind : t.find? .transitGateway none name = some gateway) :
    gatewayAddress t name = .transitGateway (gateway.flag "use_data") name ↔
      (gateway.flag "use_data" = true → name ≠ "") := by
  by_cases hname : name = ""
  · subst hname
    have hlookup : t.lookup? .transitGateway (some "") = none := rfl
    rw [gatewayAddress, hlookup]
    cases gateway.flag "use_data" <;> simp [Address.transitGateway]
  · have hfilled : (some name).filter (!·.isEmpty) = some name := by simpa using hname
    rw [gatewayAddress, Tree.lookup?, hfilled, Option.bind_some, hfind]
    simp [hname]

end Terraform.TransitGateways

namespace Tree

/-- Whether the gateways that are imported and have connections have a name that can be
looked up. -/
def ImportsFilled (t : Tree) : Prop :=
  ∀ gateway ∈ t.topLevel .transitGateway, TransitGateways.connections gateway ≠ [] →
    gateway.flag "use_data" = true → gateway.name? ≠ some ""

variable {t : Tree} {c : Catalog}

theorem leads_iff (h : t.ShowsTop c) :
    (∀ gateway ∈ t.topLevel .transitGateway, TransitGateways.Leads t gateway) ↔
      t.ConnectionsNamed ∧ t.ImportsFilled := by
  have haddress : Kind.transitGateway.Addresses none := rfl
  have hshown := h.2 .transitGateway rfl
  have hnodup : (t.names .transitGateway none).Nodup := by
    rw [hshown.names_eq haddress]
    exact h.1 _ _ haddress
  have htop : t.collection .transitGateway none = t.topLevel .transitGateway := by
    rw [collection_of_top t rfl, tops_eq_topLevel t rfl]
  rw [ConnectionsNamed, ImportsFilled, ← forall₂_and]
  refine forall₂_congr fun gateway hgateway => ?_
  rw [← htop] at hgateway
  obtain ⟨name, hname⟩ := hshown.named haddress gateway hgateway
  have hfind : t.find? .transitGateway none name = some gateway :=
    find?_of_distinct hnodup hgateway hname
  have hleads : (∀ connection ∈ gateway.records "connections",
      connection.get? "tgw" = some (.text name)) →
        (TransitGateways.Leads t gateway ↔ (TransitGateways.connections gateway ≠ [] →
          gateway.flag "use_data" = true → gateway.name? ≠ some "")) := by
    intro hnamed
    rw [TransitGateways.leads_iff hname hnamed, TransitGateways.gatewayAddress_iff hfind, hname]
    simp
  have hcarried : (∀ connection ∈ gateway.records "connections",
      connection.text? "tgw" = gateway.name?) ↔
        ∀ connection ∈ gateway.records "connections",
          connection.get? "tgw" = some (.text name) := by
    simp only [hname, Record.text?_eq_some_iff]
  rw [hcarried]
  constructor
  · intro h
    obtain ⟨carried, hcarriedName, hnamed⟩ := h.named
    obtain rfl := Option.some.inj (hcarriedName.symm.trans hname)
    exact ⟨hnamed, (hleads hnamed).mp h⟩
  · rintro ⟨hnamed, hfilled⟩
    exact (hleads hnamed).mpr hfilled

theorem default_connectionsNamed : default.ConnectionsNamed := by
  have hnone : default.topLevel .transitGateway = [] := by decide +kernel
  simp [ConnectionsNamed, hnone]

end Tree

/-- The connections of gateways belong to them throughout a run exactly if every new gateway
is given connections that carry its name, and if no gateway that is imported and has
connections has the empty name. -/
theorem run_connections_iff {σ : Type} (seen : σ) {calls : List Call} :
    (∀ before, before <+: calls →
      ∃ t, ((Store.new seen).run before).snapshot = .ok t ∧
        ∀ gateway ∈ t.topLevel .transitGateway, TransitGateways.Leads t gateway) ↔
    (∀ before call after, calls = before ++ call :: after →
      (((Store.new seen).run before).perform call).1 = .ok () → call.namesConnections = true) ∧
    ∀ before, before <+: calls →
      ∃ t, ((Store.new seen).run before).snapshot = .ok t ∧ t.ImportsFilled := by
  rw [← Store.run_upholds_iff seen (P := Tree.ConnectionsNamed) Tree.default_connectionsNamed
    fun _ _ _ _ hnamed hu => Tree.connectionsNamed_apply_iff hnamed hu, ← forall₂_and]
  simp only [Store.snapshot_run_new, Except.ok.injEq, exists_eq_left']
  refine forall₂_congr fun before _ => ?_
  exact Tree.leads_iff (Tree.default_showsAll.showsTop.after before)

/-- A gateway is created with a connection that carries no name. -/
def strayConnection : List Call := [
  .create .transitGateway [("name", .text "hub"), ("resource_group", .text "service-rg"),
    ("connections", .list [.object [("vpc", .text "management")]])] .blank]

/-- The gateway is created, and its connection leads from another one. -/
theorem create_strays_from_gateway :
    ∃ t gateway, ((Store.new ()).run strayConnection).snapshot = .ok t ∧
      t.topLevel .transitGateway = [gateway] ∧
      (gateway.records "connections").map (·.get? "tgw") = [none] ∧
      (TransitGateways.block t gateway).address? = some (.resource "ibm_tg_gateway" "hub") ∧
      (TransitGateways.connections gateway).map (fun connection =>
        TransitGateways.gatewayAddress t (connection.textOr "tgw" "")) =
          [.resource "ibm_tg_gateway" ""] ∧
      ¬TransitGateways.Leads t gateway := by
  let gateway : Record := [
    ("connections", .list [.object [("vpc", .text "management")]]),
    ("name", .text "hub"), ("resource_group", .text "service-rg")]
  obtain ⟨htop, hown, hled⟩ :
      (Tree.default.after strayConnection).topLevel .transitGateway = [gateway] ∧
      (TransitGateways.block (Tree.default.after strayConnection) gateway).address? =
        some (.resource "ibm_tg_gateway" "hub") ∧
      (TransitGateways.connections gateway).map (fun connection =>
        TransitGateways.gatewayAddress (Tree.default.after strayConnection)
          (connection.textOr "tgw" "")) = [.resource "ibm_tg_gateway" ""] := by
    decide +kernel
  refine ⟨_, gateway, Store.snapshot_run_new () strayConnection, htop, rfl, hown, hled, ?_⟩
  intro hleads
  obtain ⟨name, _, hnamed⟩ := hleads.named
  have hstray := hnamed [("vpc", .text "management")] (by decide)
  cases hstray

end Blueprint

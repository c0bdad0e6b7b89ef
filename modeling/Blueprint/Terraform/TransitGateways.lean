import Blueprint.Terraform.Resolution
import Blueprint.Terraform.Section

/-!
# Transit gateways

A section for each gateway with its connections: those that are stored, and one
for each CRN of the gateway that no stored connection has.
-/

namespace Blueprint.Terraform.TransitGateways

def timeouts : Item := .timeouts [("create", "30m"), ("delete", "30m")]

def block (t : Tree) (gateway : Record) : Block :=
  let name := gateway.label
  let imported := gateway.flag "use_data"
  .defining (.transitGateway imported name) <|
    if imported then [.attr "name" (.text name)]
    else [
      .attr "name" (variableName name),
      .attr "location" regionVariable,
      .attr "global" (.bool (gateway.flag "global")),
      .attr "resource_group" (t.resourceGroupOf gateway),
      timeouts]

/-! ## Connections -/

/-- What a connection leads to. -/
inductive Peer
  | vpc (name : String)
  /-- A VPC outside the deployment. -/
  | remote (crn : String)
  | powerWorkspace (name : String)
  | classicGateway (name : String)

namespace Peer

def ofConnection (connection : Record) : Peer :=
  match connection.filled? "vpc", connection.filled? "crn", connection.filled? "power" with
  | some name, _, _ => vpc name
  | none, some crn, _ => remote crn
  | none, none, some name => powerWorkspace name
  | none, none, none => classicGateway (connection.textOr "gateway" "")

/-- What follows the first `mark` in a text, the whole text if there is none. -/
def afterMark (mark : String) (s : String) : String :=
  let rec find : List Char → Option (List Char)
    | [] => none
    | c :: rest =>
        match Text.afterStart mark.toList (c :: rest) with
        | some found => some found
        | none => find rest
  ((find s.toList).map String.ofList).getD s

/-- The id of the VPC in a CRN. -/
def remoteId (crn : String) : String := afterMark "vpc:" crn

def label : Peer → String
  | vpc name => snakeCase name
  | remote crn => snakeCase (remoteId crn)
  | powerWorkspace name => "power_workspace_" ++ snakeCase name
  | classicGateway name => snakeCase name ++ "_unbound_gre"

/-- The peer's part of the connection's name. -/
def segment : Peer → String
  | vpc name => name
  | remote crn => remoteId crn
  | powerWorkspace name => "power-" ++ name
  | classicGateway name => name ++ "-unbound-gre"

def networkType : Peer → String
  | vpc _ | remote _ => "vpc"
  | powerWorkspace _ => "power_virtual_server"
  | classicGateway _ => "unbound_gre_tunnel"

/-- What tells the peer's network. -/
def items (t : Tree) (connection : Record) : Peer → List Item
  | vpc name => [.attr "network_id" (t.vpcOutput name "crn")]
  | remote crn => [.attr "network_id" (.text crn)]
  | powerWorkspace name =>
      let workspace := "ibm_resource_instance.power_vs_workspace_" ++ snakeCase name
      [.attr "network_id" (.verbatim (workspace ++ ".resource_crn"))]
  | classicGateway name =>
      let gateway := "ibm_network_gateway.classic_gateway_" ++ snakeCase name
      .attr "base_network_type" (.text "classic") ::
        Item.ofField connection "remote_bgp_asn" ++ [
        .attr "zone" (zoneName ((connection.int? "zone").getD 1)),
        .attr "local_gateway_ip" (.verbatim (gateway ++ ".private_ipv4_address")),
        .attr "remote_gateway_ip" (.verbatim (gateway ++ ".public_ipv4_address"))] ++
        Item.ofField connection "local_tunnel_ip" ++
        Item.ofField connection "remote_tunnel_ip"

end Peer

/-- The address of the gateway with a given name, which is managed here unless it
is known to be imported. -/
def gatewayAddress (t : Tree) (name : String) : Address :=
  .transitGateway ((t.lookup? .transitGateway name).any (·.flag "use_data")) name

def connectionBlock (t : Tree) (connection : Record) : Block :=
  let gateway := connection.textOr "tgw" ""
  let peer := Peer.ofConnection connection
  let label := snakeCase gateway ++ "_to_" ++ peer.label ++ "_connection"
  .defining (.resource "ibm_tg_connection" label) <| [
    .attr "gateway" (.output (gatewayAddress t gateway) "id"),
    .attr "network_type" (.text peer.networkType),
    .attr "name" (variableName (gateway ++ "-" ++ peer.segment ++ "-hub-connection"))] ++
    peer.items t connection ++ [timeouts]

/-- A connection to a VPC outside the deployment. -/
def remoteConnection (gateway crn : String) : Record :=
  Record.ofFields [("tgw", .text gateway), ("crn", .text crn)]

/-- Adds a connection to the VPC with a given CRN unless there is one. -/
def connect (gateway : String) (connections : List Record) (crn : String) : List Record :=
  if connections.any fun connection => connection.text? "crn" = some crn then connections
  else connections ++ [remoteConnection gateway crn]

def connections (gateway : Record) : List Record :=
  (gateway.texts "crns").foldl (connect gateway.label) (gateway.records "connections")

def blocks (t : Tree) (gateway : Record) : List Block :=
  block t gateway :: (connections gateway).map (connectionBlock t)

def sections (t : Tree) : List Section :=
  (t.topLevel .transitGateway).map fun gateway =>
    ⟨titleCase gateway.label ++ " Transit Gateway", blocks t gateway⟩

end Blueprint.Terraform.TransitGateways

import Interlink.Cidr
import Interlink.Text.DecimalDigit
import Interlink.Topology

/-!
# Validation — what a topology must satisfy before anything is planned

A validator lists every fault of its part of a topology, in the order of the
description; the first one is reported, and a topology is valid if there is
none. So a validator is no procedure with an early exit but a list built from
lists: `faults = []` comes apart, by the laws of `++` and `flatMap`, into one
condition for every entry.

Where names must not repeat, an entry is looked at together with the entries
before it (`withEarlier`).
-/

namespace Interlink

/-! ## Faults -/

/-- The entry of a topology that a fault is about. -/
inductive Subject
  | gateway (name : String)
  | gatewayRouteTable (gateway table : String)
  | vpc (name : String)
  | vpcRoute (vpc route : String)
  | vpcAttachment (vpc attachment : String)
  | customerGateway (name : String)
  | vpnConnection (name : String)
  | directConnectGateway (name : String)
  | gatewayPeering (name : String)
  | resolverRule (name : String)
  | vpcPeering (name : String)
  | targets (vpc : String)
deriving DecidableEq, Repr, Inhabited

def Subject.render : Subject → String
  | .gateway name => "transit gateway '" ++ name ++ "'"
  | .gatewayRouteTable name table =>
    "transit gateway '" ++ name ++ "' route table '" ++ table ++ "'"
  | .vpc name => "VPC '" ++ name ++ "'"
  | .vpcRoute owner route => "VPC '" ++ owner ++ "' route '" ++ route ++ "'"
  | .vpcAttachment owner attachment => "VPC '" ++ owner ++ "' attachment '" ++ attachment ++ "'"
  | .customerGateway name => "customer gateway '" ++ name ++ "'"
  | .vpnConnection name => "VPN connection '" ++ name ++ "'"
  | .directConnectGateway name => "Direct Connect gateway '" ++ name ++ "'"
  | .gatewayPeering name => "transit gateway peering '" ++ name ++ "'"
  | .resolverRule name => "resolver rule '" ++ name ++ "'"
  | .vpcPeering name => "peering '" ++ name ++ "'"
  | .targets owner => "'" ++ owner ++ "'"

/-- A fault in the settings. -/
inductive SettingsFault
  | noHomeRegion
  | noPrefix
deriving DecidableEq, Repr, Inhabited

def SettingsFault.message : SettingsFault → String
  | .noHomeRegion => "home_region cannot be empty"
  | .noPrefix => "prefix cannot be empty"

/-- A fault in the list of accounts. -/
inductive AccountFault
  | noName
  | malformedId (name id : String)
  | repeatedName (name : String)
  | repeatedId (id : String)
deriving DecidableEq, Repr, Inhabited

def AccountFault.message : AccountFault → String
  | .noName => "account name cannot be empty"
  | .malformedId name id =>
    "account '" ++ name ++ "' has invalid id '" ++ id ++ "' (expected 12 digits)"
  | .repeatedName name => "duplicate account name '" ++ name ++ "'"
  | .repeatedId id => "duplicate account id '" ++ id ++ "'"

/-- A fault in the network. -/
inductive NetworkFault
  | unknownAccount (subject : Subject) (account : String)
  | unknownTarget (vpc account : String)
  | noTargets (vpc : String)
  | repeatedInAccount (gateway account : String)
  | repeatedInRegion (gateway region : String)
  | repeatedRouteTable (gateway table : String)
  | staticDestination (gateway table : String)
  | staticTarget (gateway table : String)
  | malformedCidr (subject : Subject) (block : String)
  | malformedIpv6Cidr (subject : Subject) (block : String)
  | repeatedVpc (name : String)
  | noCidr (vpc : String)
  | severalDestinations (vpc route : String)
  | noPeeringTarget (vpc route : String)
  | unknownGateway (subject : Subject) (gateway account : String)
  | unknownRouteTable (subject : Subject) (gateway table : String)
  | repeatedPeering (name : String)
  | notTwoVpcs (peering : String) (count : Nat)
  | peeredWithItself (peering vpc : String)
  | unknownVpc (peering vpc : String)
  | repeatedVpn (name account : String)
  | vpnRegion (vpn gateway region customerGateway customerRegion : String)
  | repeatedGatewayPeering (name : String)
  | sideRegion (peering gateway region described : String)
  | gatewayPeeredWithItself (peering : String)
  | repeatedRule (name : String)
  | unknownRule (vpc rule : String)
  | ruleRegion (vpc rule region vpcRegion : String)
deriving DecidableEq, Repr, Inhabited

def NetworkFault.message : NetworkFault → String
  | .unknownAccount subject account =>
    subject.render ++ ": unknown account '" ++ account ++ "'"
  | .unknownTarget vpc account =>
    (Subject.targets vpc).render ++ ": unknown account '" ++ account ++ "' in deployment_targets"
  | .noTargets vpc =>
    (Subject.targets vpc).render ++
      ": deployment_targets must list accounts or organizational_units"
  | .repeatedInAccount gateway account =>
    (Subject.gateway gateway).render ++ " is defined twice in account '" ++ account ++ "'"
  | .repeatedInRegion gateway region =>
    "transit gateway name '" ++ gateway ++ "' is used twice in region '" ++ region ++ "'"
  | .repeatedRouteTable gateway table =>
    (Subject.gateway gateway).render ++ ": duplicate route table '" ++ table ++ "'"
  | .staticDestination gateway table =>
    (Subject.gatewayRouteTable gateway table).render ++
      ": exactly one of destination_cidr_block or destination_prefix_list is required"
  | .staticTarget gateway table =>
    (Subject.gatewayRouteTable gateway table).render ++
      ": a route needs either blackhole or an attachment"
  | .malformedCidr subject block => subject.render ++ ": invalid CIDR '" ++ block ++ "'"
  | .malformedIpv6Cidr subject block => subject.render ++ ": invalid IPv6 CIDR '" ++ block ++ "'"
  | .repeatedVpc name => "duplicate VPC name '" ++ name ++ "'"
  | .noCidr vpc => (Subject.vpc vpc).render ++ ": either cidrs or ipam_pool is required"
  | .severalDestinations vpc route =>
    (Subject.vpcRoute vpc route).render ++
      ": destination, destination_prefix_list and ipv6_destination are mutually exclusive"
  | .noPeeringTarget vpc route =>
    (Subject.vpcRoute vpc route).render ++ ": peering routes need a target"
  | .unknownGateway subject gateway account =>
    subject.render ++ ": unknown transit gateway '" ++ gateway ++ "' in account '" ++ account ++ "'"
  | .unknownRouteTable subject gateway table =>
    subject.render ++ ": transit gateway '" ++ gateway ++ "' has no route table '" ++ table ++ "'"
  | .repeatedPeering name => "duplicate peering name '" ++ name ++ "'"
  | .notTwoVpcs peering count =>
    (Subject.vpcPeering peering).render ++ " must name exactly two VPCs, found " ++ toString count
  | .peeredWithItself peering vpc =>
    (Subject.vpcPeering peering).render ++ " cannot peer VPC '" ++ vpc ++ "' with itself"
  | .unknownVpc peering vpc =>
    (Subject.vpcPeering peering).render ++ ": unknown VPC '" ++ vpc ++ "'"
  | .repeatedVpn name account =>
    "duplicate VPN connection '" ++ name ++ "' in account '" ++ account ++ "'"
  | .vpnRegion vpn gateway region customerGateway customerRegion =>
    (Subject.vpnConnection vpn).render ++ ": transit gateway '" ++ gateway ++ "' is in " ++
      region ++ " but customer gateway '" ++ customerGateway ++ "' is in " ++ customerRegion
  | .repeatedGatewayPeering name => "duplicate transit gateway peering '" ++ name ++ "'"
  | .sideRegion peering gateway region described =>
    (Subject.gatewayPeering peering).render ++ ": transit gateway '" ++ gateway ++ "' is in " ++
      region ++ ", not " ++ described
  | .gatewayPeeredWithItself peering =>
    (Subject.gatewayPeering peering).render ++ " peers a gateway with itself"
  | .repeatedRule name => "duplicate resolver rule '" ++ name ++ "'"
  | .unknownRule vpc rule =>
    (Subject.vpc vpc).render ++ ": unknown resolver rule '" ++ rule ++ "'"
  | .ruleRegion vpc rule region vpcRegion =>
    (Subject.vpc vpc).render ++ ": resolver rule '" ++ rule ++ "' is in " ++ region ++ ", not " ++
      vpcRegion

/-- Why a topology is not valid. -/
inductive ValidationError
  | settings (fault : SettingsFault)
  | accounts (fault : AccountFault)
  | network (fault : NetworkFault)
deriving DecidableEq, Repr, Inhabited

def ValidationError.message : ValidationError → String
  | .settings fault => "Invalid general configuration: " ++ fault.message
  | .accounts fault => "Invalid account configuration: " ++ fault.message
  | .network fault => "Invalid network configuration: " ++ fault.message

/-! ## Parts of a validator -/

/-- A fault unless a condition holds. -/
def orFault {ε : Type} (condition : Bool) (fault : ε) : List ε := if condition then [] else [fault]

/-- Every element with the elements before it. -/
def withEarlierFrom {α : Type} (earlier : List α) : List α → List (List α × α)
  | [] => []
  | a :: rest => (earlier, a) :: withEarlierFrom (earlier ++ [a]) rest

/-- Every element of a list with the elements before it. -/
def withEarlier {α : Type} (as : List α) : List (List α × α) := withEarlierFrom [] as

/-- A fault if a key stands among the keys of the earlier elements. -/
def orRepeated {ε α κ : Type} [BEq κ] (key : α → κ) (earlier : List α) (a : α) (fault : ε) :
    List ε :=
  orFault (!(earlier.map key).contains (key a)) fault

namespace Topology

/-- Whether an account is a member of the organization. -/
def hasAccount (t : Topology) (name : String) : Bool := t.accounts.any (·.name == name)

/-! ## Settings and accounts -/

def settingsFaults (t : Topology) : List SettingsFault :=
  orFault (t.settings.homeRegion != "") .noHomeRegion ++
    orFault (t.settings.pathPrefix != "") .noPrefix

/-- Whether an id is twelve decimal digits, of whatever script. -/
def isAccountId (id : String) : Bool :=
  id.toList.length == 12 && id.toList.all DecimalDigit.isDigit

def accountFaults (accounts : List Account) : List AccountFault :=
  (withEarlier accounts).flatMap fun (earlier, a) =>
    orFault (a.name != "") .noName ++ orFault (isAccountId a.id) (.malformedId a.name a.id) ++
      orRepeated (·.name) earlier a (.repeatedName a.name) ++
      orRepeated (·.id) earlier a (.repeatedId a.id)

/-! ## Gateways -/

def staticRouteFaults (g : Gateway) (table : GatewayRouteTable) (r : StaticRoute) :
    List NetworkFault :=
  let destination := match r.destinationCidrBlock, r.destinationPrefixList with
    | some block, none => orFault (Cidr.valid block) (.malformedCidr (.gateway g.name) block)
    | none, some _ => []
    | _, _ => [.staticDestination g.name table.name]
  destination ++ orFault (r.blackhole != r.attachment.isSome) (.staticTarget g.name table.name)

def gatewayFaults (t : Topology) : List NetworkFault :=
  (withEarlier t.network.gateways).flatMap fun (earlier, g) =>
    orFault (t.hasAccount g.account) (.unknownAccount (.gateway g.name) g.account) ++
      orRepeated (fun g => (g.name, g.account)) earlier g (.repeatedInAccount g.name g.account) ++
      orRepeated (fun g => (g.name, g.region)) earlier g (.repeatedInRegion g.name g.region) ++
      (withEarlier g.routeTables).flatMap fun (before, table) =>
        orRepeated (·.name) before table (.repeatedRouteTable g.name table.name) ++
          table.routes.flatMap (staticRouteFaults g table)

/-- Faults in the names of a gateway's route tables. -/
def routeTableFaults (g : Gateway) (subject : Subject) (tables : List String) :
    List NetworkFault :=
  tables.flatMap fun table =>
    orFault (g.hasRouteTable table) (.unknownRouteTable subject g.name table)

/-- Faults in a reference to a gateway; the gateway is looked at further if it
is there. -/
def gatewayRefFaults (t : Topology) (subject : Subject) (name account : String)
    (further : Gateway → List NetworkFault) : List NetworkFault :=
  match t.gateway? name account with
  | none => [.unknownGateway subject name account]
  | some g => further g

/-! ## VPCs -/

def placementFaults (t : Topology) (v : Vpc) : List NetworkFault :=
  match v.placement with
  | .single account => orFault (t.hasAccount account) (.unknownAccount (.vpc v.name) account)
  | .targets targets =>
    orFault (!(targets.accounts.isEmpty && targets.organizationalUnits.isEmpty))
        (.noTargets v.name) ++
      (targets.accounts ++ targets.excludedAccounts).flatMap fun account =>
        orFault (t.hasAccount account) (.unknownTarget v.name account)

def vpcRouteFaults (v : Vpc) (r : VpcRoute) : List NetworkFault :=
  let given := [r.destination.isSome, r.destinationPrefixList.isSome, r.ipv6Destination.isSome]
  let subject := Subject.vpcRoute v.name r.name
  orFault (given.count true ≤ 1) (.severalDestinations v.name r.name) ++
    orFault (r.destination.all Cidr.valid) (.malformedCidr subject (r.destination.getD "")) ++
    orFault (r.ipv6Destination.all Cidr.validV6)
      (.malformedIpv6Cidr subject (r.ipv6Destination.getD "")) ++
    orFault (r.type != .vpcPeering || r.target.isSome) (.noPeeringTarget v.name r.name)

def vpcAttachmentFaults (t : Topology) (v : Vpc) (a : VpcAttachment) : List NetworkFault :=
  let subject := Subject.vpcAttachment v.name a.name
  t.gatewayRefFaults subject a.gateway.name a.gateway.account fun g =>
    routeTableFaults g subject a.associations ++ routeTableFaults g subject a.propagations

def vpcFaults (t : Topology) : List NetworkFault :=
  (withEarlier t.network.vpcs).flatMap fun (earlier, v) =>
    orRepeated (·.name) earlier v (.repeatedVpc v.name) ++ t.placementFaults v ++
      orFault (!v.cidrs.isEmpty || v.ipamPool.isSome) (.noCidr v.name) ++
      v.cidrs.flatMap (fun block =>
        orFault (Cidr.valid block) (.malformedCidr (.vpc v.name) block)) ++
      v.routeTables.flatMap (fun table => table.routes.flatMap (vpcRouteFaults v)) ++
      v.attachments.flatMap (t.vpcAttachmentFaults v)

/-! ## Peerings -/

def peeringFaults (t : Topology) : List NetworkFault :=
  (withEarlier t.network.vpcPeerings).flatMap fun (earlier, p) =>
    orRepeated (·.name) earlier p (.repeatedPeering p.name) ++
      (match p.vpcs with
      | [a, b] => orFault (a != b) (.peeredWithItself p.name a)
      | _ => [.notTwoVpcs p.name p.vpcs.length]) ++
      p.vpcs.flatMap fun v => orFault (t.vpc? v).isSome (.unknownVpc p.name v)

/-! ## Attachments other than those of VPCs -/

/-- The names and accounts of the VPN connections of a customer gateway. -/
def vpnKeys (c : CustomerGateway) : List (String × String) :=
  c.vpnConnections.map fun v => (v.name, c.account)

def vpnFaults (t : Topology) (c : CustomerGateway) (v : VpnConnection) : List NetworkFault :=
  let subject := Subject.vpnConnection v.name
  t.gatewayRefFaults subject v.gateway c.account fun g =>
    orFault (g.region == c.region) (.vpnRegion v.name g.name g.region c.name c.region) ++
      routeTableFaults g subject v.associations ++ routeTableFaults g subject v.propagations

def customerGatewayFaults (t : Topology) : List NetworkFault :=
  (withEarlier t.network.customerGateways).flatMap fun (earlier, c) =>
    orFault (t.hasAccount c.account) (.unknownAccount (.customerGateway c.name) c.account) ++
      (withEarlier c.vpnConnections).flatMap fun (before, v) =>
        orFault
          (!((earlier.flatMap vpnKeys).contains (v.name, c.account) ||
            (before.map (·.name)).contains v.name))
          (.repeatedVpn v.name c.account) ++ t.vpnFaults c v

def directConnectFaults (t : Topology) : List NetworkFault :=
  t.network.directConnectGateways.flatMap fun d =>
    let subject := Subject.directConnectGateway d.name
    orFault (t.hasAccount d.account) (.unknownAccount subject d.account) ++
      d.associations.flatMap fun a =>
        t.gatewayRefFaults subject a.gateway.name a.gateway.account fun g =>
          routeTableFaults g subject a.associations ++ routeTableFaults g subject a.propagations

def gatewayPeeringSideFaults (t : Topology) (p : GatewayPeering) (s : GatewayPeeringSide) :
    List NetworkFault :=
  let subject := Subject.gatewayPeering p.name
  orFault (t.hasAccount s.account) (.unknownAccount subject s.account) ++
    t.gatewayRefFaults subject s.gateway s.account fun g =>
      orFault (g.region == s.region) (.sideRegion p.name g.name g.region s.region) ++
        routeTableFaults g subject s.associations

def gatewayPeeringFaults (t : Topology) : List NetworkFault :=
  (withEarlier t.network.gatewayPeerings).flatMap fun (earlier, p) =>
    orRepeated (·.name) earlier p (.repeatedGatewayPeering p.name) ++
      p.sides.flatMap (t.gatewayPeeringSideFaults p) ++
      orFault (p.requester.gateway != p.accepter.gateway ||
        p.requester.account != p.accepter.account) (.gatewayPeeredWithItself p.name)

def attachmentFaults (t : Topology) : List NetworkFault :=
  t.customerGatewayFaults ++ t.directConnectFaults ++ t.gatewayPeeringFaults

/-! ## Resolver rules -/

def vpcRuleFaults (t : Topology) (v : Vpc) (name : String) : List NetworkFault :=
  match t.resolverRule? name with
  | none => [.unknownRule v.name name]
  | some rule => orFault (rule.region == v.region) (.ruleRegion v.name name rule.region v.region)

def resolverRuleFaults (t : Topology) : List NetworkFault :=
  ((withEarlier t.network.resolverRules).flatMap fun (earlier, r) =>
    orRepeated (·.name) earlier r (.repeatedRule r.name) ++
      orFault (t.hasAccount r.account) (.unknownAccount (.resolverRule r.name) r.account)) ++
    t.network.vpcs.flatMap fun v => v.resolverRules.flatMap (t.vpcRuleFaults v)

/-! ## The whole -/

/-- Every fault of a network. -/
def networkFaults (t : Topology) : List NetworkFault :=
  t.gatewayFaults ++ t.vpcFaults ++ t.peeringFaults ++ t.attachmentFaults ++ t.resolverRuleFaults

/-- Every fault of a topology, the one to report first. -/
def faults (t : Topology) : List ValidationError :=
  t.settingsFaults.map .settings ++ (accountFaults t.accounts).map .accounts ++
    t.networkFaults.map .network

/-- Refuse a topology with faults. -/
def validate (t : Topology) : Except ValidationError Unit :=
  match t.faults with
  | [] => .ok ()
  | fault :: _ => .error fault

/-- A topology is accepted if no validator finds a fault. -/
theorem validate_eq_ok_iff (t : Topology) : t.validate = .ok () ↔ t.faults = [] := by
  unfold validate
  split <;> simp_all

end Topology

end Interlink

import SwitchOps.Lab.Collection
import SwitchOps.Lib.Fresh
import SwitchOps.Topology.Models

/-!
# The graph of the lab

`_graph_from_observations` of `lab_assurance.py`: the devices that were collected, those that their neighbour tables
announce, and what stands behind their ports, with the edges between them. It is built from what the parsers give
(`LabParts`), as far as devices, ports and edges depend on it.
-/

namespace SwitchOps

open Topology (CdpNeighbor LldpNeighbor ArpEntry)

/-! ## What is parsed -/

inductive RoutingProtocol
  | ospf
  | eigrp
  | bgp
  | bfd
  deriving DecidableEq, Repr

def RoutingProtocol.text : RoutingProtocol → Text
  | .ospf => "OSPF"
  | .eigrp => "EIGRP"
  | .bgp => "BGP"
  | .bfd => "BFD"

def RoutingProtocol.symbol : RoutingProtocol → ReadSymbol
  | .ospf => .showIpOspfNeighbor
  | .eigrp => .showIpEigrpNeighbors
  | .bgp => .showBgpIpv4UnicastSummary
  | .bfd => .showBfdNeighbors

/-- An adjacency, a row of `parse_routing_neighbors`. -/
structure RoutingNeighbor where
  protocol : RoutingProtocol
  peer : Text
  interface : Text := []
  deriving DecidableEq, Repr

structure ChannelMember where
  interface : Text
  flags : Text
  deriving DecidableEq, Repr

/-- A row of `parse_etherchannels`. -/
structure EtherChannel where
  portChannel : Text
  members : List ChannelMember
  deriving DecidableEq, Repr

/-- A neighbour that CDP or LLDP announces. -/
inductive LabNeighbor
  | cdp (neighbor : CdpNeighbor)
  | lldp (neighbor : LldpNeighbor)
  deriving DecidableEq, Repr

/-- What the parsers make of a device's outputs; what a parser gives for a dictionary is its items. -/
structure LabParts where
  versionHostname : Option Text := none
  configHostname : Option Text := none
  /-- `config["gateway"]` and `default_route["next_hop"]` -/
  gateway : Option Text := none
  nextHop : Option Text := none
  /-- `config["interfaces"][name]["mode"]` -/
  configModes : List (Text × Option Text) := []
  interfaces : List InterfaceStatus := []
  /-- `switchports[name]["mode"]` -/
  switchportModes : List (Text × Text) := []
  /-- The watts of `poe.ports`. -/
  poe : List (Text × Rat) := []
  macs : List MacTableEntry := []
  arp : List ArpEntry := []
  cdp : List CdpNeighbor := []
  lldp : List LldpNeighbor := []
  etherchannels : List EtherChannel := []
  routingNeighbors : List RoutingNeighbor := []
  deriving DecidableEq, Repr

/-- An observation as parsing leaves it, with what is parsed of it. -/
structure ParsedObservation extends LabDeviceObservation where
  parts : LabParts := {}
  deriving DecidableEq, Repr

/-- `value or None`: no text counts as none. -/
def given (value : Option Text) : Option Text := value.filter fun text => !text.isEmpty

/-- `_evidence_id` -/
def evidenceId [Digest] (deviceId : Text) (symbol : ReadSymbol) : Text := "ev-" ++ labToken [deviceId, symbol.text]

namespace LabNeighbor

def remoteName : LabNeighbor → Text
  | .cdp neighbor => neighbor.remoteName
  | .lldp neighbor => neighbor.remoteName

def localInterface : LabNeighbor → Text
  | .cdp neighbor => neighbor.localInterface
  | .lldp neighbor => neighbor.localInterface

def remoteInterface : LabNeighbor → Option Text
  | .cdp neighbor => neighbor.remoteInterface
  | .lldp neighbor => neighbor.remoteInterface

def ip : LabNeighbor → Option Text
  | .cdp neighbor => neighbor.ip
  | .lldp neighbor => neighbor.ip

/-- `str(neighbor.chassis_id)`, or `""` where there is no such attribute. -/
def chassisText : LabNeighbor → Text
  | .cdp _ => []
  | .lldp neighbor => neighbor.chassisId.getD "None"

def capabilities : LabNeighbor → List Text
  | .cdp neighbor => neighbor.capabilities
  | .lldp neighbor => neighbor.capabilities

def protocol : LabNeighbor → Text
  | .cdp _ => "cdp"
  | .lldp _ => "lldp"

def symbol : LabNeighbor → ReadSymbol
  | .cdp _ => .showCdpNeighborsDetail
  | .lldp _ => .showLldpNeighborsDetail

end LabNeighbor

/-! ## Collected devices and their ports -/

namespace ParsedObservation

variable (observation : ParsedObservation)

/-- The hostname that was observed: that of the configuration, or else that of `show version`. -/
def hostname : Option Text := (given observation.parts.configHostname).or (given observation.parts.versionHostname)

def label : Text := observation.hostname.getD observation.configuredLabel

def device [Digest] : LabDevice where
  id := observation.deviceId
  label := observation.label
  role := .switch
  primary := observation.primary
  collectionState := observation.collectionState
  evidenceIds := [evidenceId observation.deviceId .showVersion]

end ParsedObservation

/-- A port, with what the graph reads of it. -/
structure LabPort extends LabInterface where
  mode : Text
  learnedMacCount : Nat
  deriving DecidableEq, Repr

/-- The mode of a port: that of the switchport, of the configuration, or what the VLAN column says. -/
def portMode (parts : LabParts) (name vlan : Text) : Text :=
  let short (entries : List (Text × Option Text)) : Option Text :=
    (Dict.get? (Dict.ofList (entries.map fun entry => (shortName entry.1, entry.2))) name).bind given
  let mode := ((short (parts.switchportModes.map fun entry => (entry.1, some entry.2))).or
    (short parts.configModes)).getD
      (if Text.casefold vlan = "trunk" then "TRUNK" else if vlan.isdigit then "ACCESS" else "UNKNOWN")
  if mode ∈ (["ACCESS", "TRUNK", "ROUTED", "DYNAMIC"] : List String).map String.toList then mode else "UNKNOWN"

namespace ParsedObservation

variable [Digest] (observation : ParsedObservation)

/-- The port of a row of `show interfaces status`. -/
def port (row : InterfaceStatus) : LabPort :=
  let name := shortName row.port
  { id := observation.deviceId ++ ":" ++ name
    deviceId := observation.deviceId
    name := name
    poeWatts := Dict.get? (Dict.ofList (observation.parts.poe.map fun entry => (shortName entry.1, entry.2))) name
    evidenceIds := [ReadSymbol.showInterfacesStatus, .showRunningConfig, .showInterfaces,
      .showInterfacesCountersErrors].map (evidenceId observation.deviceId)
    mode := portMode observation.parts name row.vlan
    learnedMacCount := observation.parts.macs.countP fun row => shortName row.port = name }

def ports : List LabPort := observation.parts.interfaces.map observation.port

end ParsedObservation

/-! ## Neighbours -/

/-- `hostname_to_device` -/
def hostnameToDevice (observations : List ParsedObservation) : Dict Text Text :=
  observations.foldl (fun index observation =>
    Dict.set index (Text.casefold observation.label) observation.deviceId) []

theorem hostnameToDevice_eq (observations : List ParsedObservation) : hostnameToDevice observations =
    Dict.ofList (observations.map fun observation => (Text.casefold observation.label, observation.deviceId)) := by
  rw [hostnameToDevice, Dict.ofList, List.foldl_map]

/-- The collected device that a neighbour of a name is merged into. -/
def mergedInto (observations : List ParsedObservation) (remoteName : Text) : Option Text :=
  Dict.get? (hostnameToDevice observations) (Text.casefold remoteName)

/-- The id of a neighbour that was not collected. -/
def discoveredId [Digest] (neighbor : LabNeighbor) : Text :=
  "discovered-" ++ labToken [neighbor.remoteName, neighbor.ip.getD [], neighbor.chassisText]

/-- `target_id` -/
def neighborId [Digest] (observations : List ParsedObservation) (neighbor : LabNeighbor) : Text :=
  (mergedInto observations neighbor.remoteName).getD (discoveredId neighbor)

/-- `_device_role` -/
def deviceRole (capabilities : List Text) : LabRole :=
  let values := Text.casefold (Text.join " " capabilities)
  if Text.contains values "router" then .router
  else if Text.contains values "switch" || Text.contains values "bridge" then .switch
  else if Text.contains values "wlan" || Text.contains values "access point" then .accessPoint
  else .unknown

/-- The rows of a port and a remote name, the first of which stands for all. -/
structure NeighborGroup where
  localInterface : Text
  neighbor : LabNeighbor
  others : List LabNeighbor
  deriving DecidableEq, Repr

def NeighborGroup.rows (group : NeighborGroup) : List LabNeighbor := group.neighbor :: group.others

/-- What CDP and LLDP announce to a device. -/
def ParsedObservation.discoveries (observation : ParsedObservation) : List LabNeighbor :=
  observation.parts.cdp.map .cdp ++ observation.parts.lldp.map .lldp

/-- `grouped` -/
def ParsedObservation.grouped (observation : ParsedObservation) : List NeighborGroup :=
  let key (neighbor : LabNeighbor) : Text × Text :=
    (shortName neighbor.localInterface, Text.casefold neighbor.remoteName)
  (Dict.groupBy key observation.discoveries).filterMap fun entry =>
    match entry.2 with
    | [] => none
    | neighbor :: others => some { localInterface := entry.1.1, neighbor := neighbor, others := others }

/-- A neighbour that was not collected is a device of its own. -/
def NeighborGroup.device [Digest] (group : NeighborGroup) (deviceId : Text) : LabDevice where
  id := discoveredId group.neighbor
  label := group.neighbor.remoteName
  role := deviceRole group.neighbor.capabilities
  collectionState := .notCollected
  evidenceIds := group.rows.map fun row => evidenceId deviceId row.symbol

def ParsedObservation.discovered [Digest] (observations : List ParsedObservation) (observation : ParsedObservation) :
    List LabDevice :=
  (observation.grouped.filter fun group => (mergedInto observations group.neighbor.remoteName).isNone).map
    (·.device observation.deviceId)

/-- An entry of `pending_edges`. -/
structure PendingEdge where
  source : Text
  target : Text
  localPort : Text
  remotePort : Option Text
  protocols : List Text
  evidenceIds : List Text
  deriving DecidableEq, Repr

def NeighborGroup.pending [Digest] (observations : List ParsedObservation) (deviceId : Text) (group : NeighborGroup) :
    PendingEdge where
  source := deviceId
  target := neighborId observations group.neighbor
  localPort := group.localInterface
  remotePort := group.neighbor.remoteInterface
  protocols := (group.rows.map (·.protocol)).insertionSort (Text.le · ·)
  evidenceIds := group.rows.map fun row => evidenceId deviceId row.symbol

def pendingEdges [Digest] (observations : List ParsedObservation) : List PendingEdge :=
  observations.flatMap fun observation => observation.grouped.map (·.pending observations observation.deviceId)

namespace PendingEdge

variable (pending : List PendingEdge) (edge : PendingEdge)

/-- `edge_key` -/
def key : List Text :=
  [edge.source, edge.target].insertionSort (Text.le · ·) ++ [edge.localPort, edge.remotePort.getD []]

/-- The other end reports the cable too. -/
def reciprocal : Bool :=
  pending.any fun other => other.source = edge.target && other.target = edge.source &&
    (given edge.remotePort).all fun remote => shortName other.localPort = shortName remote

def physical [Digest] : LabEdge :=
  let reciprocal := edge.reciprocal pending
  let protocols := Text.join "+" edge.protocols
  { id := "edge-" ++ labToken edge.key
    fromNodeId := edge.source
    toNodeId := edge.target
    fromInterface := some edge.localPort
    toInterface := (given edge.remotePort).map shortName
    kind := .physical
    state := .proven
    confidence := if reciprocal then .confirmed else .high
    reciprocal := reciprocal
    detail :=
      if reciprocal then "Reciprocal discovery agrees across observed devices (" ++ protocols ++ ")."
      else "Direct " ++ protocols.upper ++ " adjacency was observed from one side."
    evidenceIds := edge.evidenceIds }

end PendingEdge

/-- The edges of kind `PHYSICAL`. -/
def physicalEdges [Digest] (pending : List PendingEdge) : List LabEdge :=
  Fresh.addAll (·.id) [] (pending.map fun edge => edge.physical pending)

/-! ## Learned endpoints -/

namespace LabPort

variable (port : LabPort)

/-- Addresses were learned behind it, and it is no trunk. -/
def learns : Bool := port.learnedMacCount ≠ 0 && port.mode ≠ "TRUNK"

variable [Digest]

def endpointId : Text := "endpoint-" ++ labToken [port.id]

def endpoint : LabDevice where
  id := port.endpointId
  label := if port.learnedMacCount = 1 then "Endpoint" else Text.ofNat port.learnedMacCount ++ " learned endpoints"
  role := .endpoint
  collectionState := .notCollected
  evidenceIds := [evidenceId port.deviceId .showMacAddressTable]

def membershipKey : List Text := [port.id, port.endpointId]

def membership : LabEdge where
  id := "edge-" ++ labToken port.membershipKey
  fromNodeId := port.deviceId
  toNodeId := port.endpointId
  fromInterface := some port.name
  kind := .l2Membership
  state := .inferred
  confidence := .high
  detail := "Current MAC-table learning places one or more identities behind this interface."
  evidenceIds := [evidenceId port.deviceId .showMacAddressTable]

end LabPort

/-! ## Default gateways -/

/-- `re.sub(r"[^0-9a-f]", "", mac.casefold())` -/
def hexDigits (mac : Text) : Text :=
  (Text.casefold mac).filter fun c => ('0' ≤ c && c ≤ '9') || ('a' ≤ c && c ≤ 'f')

namespace ParsedObservation

variable (observation : ParsedObservation)

def gatewayAddress : Option Text := (given observation.parts.gateway).or (given observation.parts.nextHop)

def gatewayArp (gateway : Text) : Option ArpEntry := observation.parts.arp.find? (·.ip = gateway)

/-- The port behind which the gateway's address was learned. -/
def gatewayPort (gateway : Text) : Option Text :=
  (observation.gatewayArp gateway).bind fun arp =>
    (observation.parts.macs.find? fun row => hexDigits row.mac = hexDigits arp.mac).map fun row => shortName row.port

variable [Digest]

def gatewayId (gateway : Text) : Text := "gateway-" ++ labToken [observation.deviceId, gateway]

def gatewayDevice (gateway : Text) : LabDevice where
  id := observation.gatewayId gateway
  label := "Default gateway"
  role := .gateway
  collectionState := .notCollected
  evidenceIds := [evidenceId observation.deviceId .showRunningConfig]

def gatewayKey (gateway : Text) : List Text :=
  [observation.deviceId, observation.gatewayId gateway, (observation.gatewayPort gateway).getD []]

def gatewayEdge (gateway : Text) : LabEdge :=
  let port := given (observation.gatewayPort gateway)
  let arp : List ReadSymbol :=
    if (observation.gatewayArp gateway).isSome then [.showIpArp, .showMacAddressTable] else []
  { id := "edge-" ++ labToken (observation.gatewayKey gateway)
    fromNodeId := observation.deviceId
    toNodeId := observation.gatewayId gateway
    fromInterface := observation.gatewayPort gateway
    kind := .l3Gateway
    state := if port.isSome then .inferred else .unknown
    confidence := if port.isSome then .high else .unknown
    detail :=
      if port.isSome then "Default-gateway, ARP and MAC evidence agree on a forwarding interface."
      else "A default gateway exists, but current evidence does not place it on a physical interface."
    evidenceIds := Text.sortedSet ((ReadSymbol.showRunningConfig :: .showIpRoute :: arp).map
      (evidenceId observation.deviceId)) }

/-! ## Port channels and routing -/

/-- The members of the port channels, with the port channel of each. -/
def channelMembers : List (Text × ChannelMember) :=
  observation.parts.etherchannels.flatMap fun group => group.members.map fun member => (group.portChannel, member)

def memberId (member : ChannelMember) : Text := observation.deviceId ++ ":" ++ shortName member.interface

def memberKey (entry : Text × ChannelMember) : List Text :=
  [observation.memberId entry.2, observation.deviceId ++ ":" ++ entry.1]

def memberEdge (entry : Text × ChannelMember) : LabEdge where
  id := "edge-" ++ labToken (observation.memberKey entry)
  fromNodeId := observation.memberId entry.2
  toNodeId := observation.deviceId ++ ":" ++ entry.1
  kind := .portChannelMember
  state := .proven
  confidence := .confirmed
  detail := "EtherChannel flags reported as " ++ entry.2.flags ++ "."
  evidenceIds := [evidenceId observation.deviceId .showEtherchannelSummary]

end ParsedObservation

namespace RoutingNeighbor

variable [Digest] (neighbor : RoutingNeighbor)

def peerId : Text := "routing-peer-" ++ labToken [neighbor.protocol.text, neighbor.peer]

def peerDevice : LabDevice where
  id := neighbor.peerId
  label := neighbor.protocol.text ++ " peer"
  role := .router
  collectionState := .notCollected

def key (deviceId : Text) : List Text := [deviceId, neighbor.peerId, neighbor.protocol.text]

def adjacency (deviceId : Text) : LabEdge where
  id := "edge-" ++ labToken (neighbor.key deviceId)
  fromNodeId := deviceId
  toNodeId := neighbor.peerId
  fromInterface := (given (some neighbor.interface)).map shortName
  kind := .routingAdjacency
  state := .proven
  confidence := .high
  detail := "Current " ++ neighbor.protocol.text ++ " neighbour output reports an adjacency."
  evidenceIds := [evidenceId deviceId neighbor.protocol.symbol]

end RoutingNeighbor

/-! ## The graph -/

structure LabGraph where
  devices : List LabDevice
  ports : List LabPort
  edges : List LabEdge
  deriving DecidableEq, Repr

section graph

variable [Digest] (observations : List ParsedObservation)

def labPorts : List LabPort := observations.flatMap (·.ports)

def learningPorts : List LabPort := (labPorts observations).filter (·.learns)

/-- The devices with a default gateway, and its address. -/
def labGateways : List (ParsedObservation × Text) :=
  observations.filterMap fun observation => observation.gatewayAddress.map fun gateway => (observation, gateway)

/-- The members of port channels that have a port of their own. -/
def labMembers : List (ParsedObservation × Text × ChannelMember) :=
  observations.flatMap fun observation =>
    (observation.channelMembers.filter fun entry =>
      observation.memberId entry.2 ∈ (labPorts observations).map (·.id)).map fun entry => (observation, entry)

def labAdjacencies : List (ParsedObservation × RoutingNeighbor) :=
  observations.flatMap fun observation => observation.parts.routingNeighbors.map fun neighbor => (observation, neighbor)

/-- The devices; only what is learned behind a port is added unchecked. -/
def graphDevices : List LabDevice :=
  let collected := observations.map (·.device)
  let announced := Fresh.addAll (·.id) collected
    (observations.flatMap fun observation => observation.discovered observations)
  let learned := announced ++ (learningPorts observations).map (·.endpoint)
  let gateways := Fresh.addAll (·.id) learned
    ((labGateways observations).map fun entry => entry.1.gatewayDevice entry.2)
  Fresh.addAll (·.id) gateways ((labAdjacencies observations).map fun entry => entry.2.peerDevice)

/-- The edges that are added without asking whether their ids are there. -/
def uncheckedEdges : List LabEdge :=
  (learningPorts observations).map (·.membership)
    ++ (labGateways observations).map (fun entry => entry.1.gatewayEdge entry.2)
    ++ (labMembers observations).map (fun entry => entry.1.memberEdge entry.2)
    ++ (labAdjacencies observations).map (fun entry => entry.2.adjacency entry.1.deviceId)

/-- `_graph_from_observations` -/
def labGraph : LabGraph where
  devices := graphDevices observations
  ports := labPorts observations
  edges := physicalEdges (pendingEdges observations) ++ uncheckedEdges observations

end graph

end SwitchOps

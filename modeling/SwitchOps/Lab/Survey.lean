import SwitchOps.Lab.TrunkVlans

/-!
# What a collection says

`_observation_parts`, `_build_evidence` and `_capabilities` of `lab_assurance.py`. Each part of an observation comes from
one command whose output was observed and that its parser understands (`LabParsers`); every command is recorded as
evidence, whatever became of it.
-/

namespace SwitchOps

/-! ## Parsers -/

/-- What a section of the configuration says of the protection of a port. -/
structure PortConfig where
  mode : Option Text := none
  channelGroup : Option Text := none
  bpduGuard : Bool := false
  portSecurity : Bool := false
  dot1x : Bool := false
  deriving DecidableEq, Repr

/-- What is read of `parse_running_config`; features whose value is `None` are left out. -/
structure LabConfig where
  hostname : Option Text := none
  gateway : Option Text := none
  interfaces : List (Text × PortConfig) := []
  features : Dict Text Bool := []
  deriving DecidableEq, Repr

/-- What is read of `parse_poe`. -/
structure PoeBudget where
  availableWatts : Rat
  remainingWatts : Rat
  /-- The watts of the ports. -/
  ports : List (Text × Rat)
  deriving DecidableEq, Repr

/-- What the counters, the rates and the switchport say of a port. -/
structure PortReading where
  speedMbps : Option Nat := none
  nativeVlan : Option Nat := none
  allowedVlans : List Nat := []
  errorCount : Nat := 0
  dropCount : Nat := 0
  utilizationPercent : Option Rat := none
  deriving DecidableEq, Repr

/-- The parsers of `_observation_parts`, as far as what they give is read. -/
structure LabParsers where
  /-- The hostname. -/
  version : Text → Except Exn (Option Text)
  inventory : Text → Except Exn Unit
  config : Text → Except Exn LabConfig
  interfaces : Text → Except Exn (List InterfaceStatus)
  errors : Text → Except Exn Unit
  macs : Text → Except Exn (List MacTableEntry)
  arp : Text → Except Exn (List Topology.ArpEntry)
  vlans : Text → Except Exn Unit
  poe : Text → Except Exn PoeBudget
  cdp : Text → Except Exn (List Topology.CdpNeighbor)
  /-- The detail, and the summary that stands in for it. -/
  lldp : Text → Text → Except Exn (List Topology.LldpNeighbor)
  /-- The peers of a protocol, and their interfaces. -/
  routing : RoutingProtocol → Text → Except Exn (List (Text × Text))
  /-- The modes of the switchports. -/
  switchports : Text → Except Exn (List (Text × Text))
  /-- Of each instance, whether the bridge is its root. -/
  stp : Text → Except Exn (List Bool)
  etherchannels : Text → Except Exn (List EtherChannel)
  ipInterfaces : Text → Except Exn Unit
  /-- The next hop. -/
  defaultRoute : Text → Except Exn (Option Text)
  rates : Text → Except Exn Unit
  /-- What else is told of a row of `show interfaces status`. -/
  reading : LabDeviceObservation → InterfaceStatus → PortReading

namespace LabParsers

variable (parsers : LabParsers)

/-- Which of the parsers raise. -/
def raises : ParserFailures := fun symbol outputs =>
  let text := (Dict.get? outputs symbol).getD []
  match symbol with
  | .showVersion => !(parsers.version text).isOk
  | .showInventory => !(parsers.inventory text).isOk
  | .showRunningConfig => !(parsers.config text).isOk
  | .showInterfacesStatus => !(parsers.interfaces text).isOk
  | .showInterfacesCountersErrors => !(parsers.errors text).isOk
  | .showMacAddressTable => !(parsers.macs text).isOk
  | .showIpArp => !(parsers.arp text).isOk
  | .showVlanBrief => !(parsers.vlans text).isOk
  | .showPowerInline => !(parsers.poe text).isOk
  | .showCdpNeighborsDetail => !(parsers.cdp text).isOk
  | .showLldpNeighborsDetail => !(parsers.lldp text ((Dict.get? outputs .showLldpNeighbors).getD [])).isOk
  | .showIpOspfNeighbor => !(parsers.routing .ospf text).isOk
  | .showIpEigrpNeighbors => !(parsers.routing .eigrp text).isOk
  | .showBgpIpv4UnicastSummary => !(parsers.routing .bgp text).isOk
  | .showBfdNeighbors => !(parsers.routing .bfd text).isOk
  | .showInterfacesSwitchport => !(parsers.switchports text).isOk
  | .showSpanningTree => !(parsers.stp text).isOk
  | .showEtherchannelSummary => !(parsers.etherchannels text).isOk
  | .showIpInterfaceBrief => !(parsers.ipInterfaces text).isOk
  | .showIpRoute => !(parsers.defaultRoute text).isOk
  | .showInterfaces => !(parsers.rates text).isOk
  | _ => false

end LabParsers

/-! ## Observations -/

/-- A parsed observation, with what only the findings read of it. -/
structure SurveyedObservation extends ParsedObservation where
  features : Dict Text Bool := []
  configPorts : List (Text × PortConfig) := []
  poeBudget : Option PoeBudget := none
  localRoots : List Bool := []
  reading : InterfaceStatus → PortReading := fun _ => {}

namespace LabDeviceObservation

variable (parsers : LabParsers) (observation : LabDeviceObservation)

/-- The adjacencies of a protocol. -/
def routingNeighbors (protocol : RoutingProtocol) : List RoutingNeighbor :=
  (observation.parsedOr protocol.symbol (parsers.routing protocol) []).map fun row =>
    { protocol := protocol, peer := row.1, interface := row.2 }

/-- `_observation_parts` -/
def surveyed : SurveyedObservation :=
  let config := observation.parsedOr .showRunningConfig parsers.config {}
  let poe := observation.parsedOr .showPowerInline (fun text => (parsers.poe text).map some) none
  { toLabDeviceObservation := observation.parsed parsers.raises
    parts := {
      versionHostname := observation.parsedOr .showVersion parsers.version none
      configHostname := config.hostname
      gateway := config.gateway
      nextHop := observation.parsedOr .showIpRoute parsers.defaultRoute none
      configModes := config.interfaces.map fun entry => (entry.1, entry.2.mode)
      interfaces := observation.parsedOr .showInterfacesStatus parsers.interfaces []
      switchportModes := observation.parsedOr .showInterfacesSwitchport parsers.switchports []
      poe := (poe.map (·.ports)).getD []
      macs := observation.parsedOr .showMacAddressTable parsers.macs []
      arp := observation.parsedOr .showIpArp parsers.arp []
      cdp := observation.parsedOr .showCdpNeighborsDetail parsers.cdp []
      lldp := observation.parsedOr .showLldpNeighborsDetail
        (fun detail => parsers.lldp detail (observation.outputOf .showLldpNeighbors)) []
      etherchannels := observation.parsedOr .showEtherchannelSummary parsers.etherchannels []
      routingNeighbors := [RoutingProtocol.ospf, .eigrp, .bgp, .bfd].flatMap (observation.routingNeighbors parsers) }
    features := config.features
    configPorts := config.interfaces
    poeBudget := poe
    localRoots := observation.parsedOr .showSpanningTree parsers.stp []
    reading := parsers.reading observation }

end LabDeviceObservation

/-! ## Evidence -/

namespace CommandState

/-- `state.upper()` -/
def kind : CommandState → Text
  | observed => "OBSERVED"
  | empty => "EMPTY"
  | unavailable => "UNAVAILABLE"
  | unsupported => "UNSUPPORTED"
  | authorizationFailed => "AUTHORIZATION_FAILED"
  | commandFailed => "COMMAND_FAILED"
  | transportFailed => "TRANSPORT_FAILED"
  | parserFailed => "PARSER_FAILED"

def detail : CommandState → Text
  | observed => "The allowlisted command returned usable current output."
  | unsupported => "IOS explicitly reported that the feature is unsupported."
  | unavailable => "This allowlisted command form is unavailable; feature support remains unknown."
  | empty => "The command completed but returned no usable rows."
  | authorizationFailed => "IOS refused this command; authorization and feature support remain distinct."
  | commandFailed => "IOS reported a command execution failure; no feature conclusion is drawn."
  | transportFailed => "The command could not be collected because the device session was unavailable."
  | parserFailed => "Current output was returned but could not be parsed; no conclusion is drawn."

end CommandState

/-- `LabEvidence`, the time aside. -/
structure LabEvidence where
  id : Text
  deviceId : Text
  kind : Text
  command : ReadSymbol
  confidence : EvidenceConfidence
  current : Bool
  detail : Text
  deriving DecidableEq, Repr

/-- `_build_evidence` -/
def LabDeviceObservation.evidence [Digest] (observation : LabDeviceObservation) : List LabEvidence :=
  labCommands.map fun symbol =>
    let state := observation.stateOf symbol
    { id := evidenceId observation.deviceId symbol
      deviceId := observation.deviceId
      kind := state.kind
      command := symbol
      confidence := if state = .observed ∨ state = .empty ∨ state = .unsupported then .confirmed else .unknown
      current := !state.failed
      detail := state.detail }

/-! ## Capabilities -/

inductive CapabilityState
  | supported
  | unsupported
  | unknown
  deriving DecidableEq, Repr

structure LabCapability where
  id : Text
  deviceId : Text
  name : Text
  state : CapabilityState
  configured : Option Bool
  observed : Option Bool
  detail : Text
  evidenceIds : List Text
  deriving DecidableEq, Repr

/-- `CAPABILITY_COMMANDS` -/
def capabilityCommands : List (Text × Text × ReadSymbol) := [
  ("layer2-switching", "Layer 2 switching", .showVlanBrief),
  ("layer3-routing", "Layer 3 routing", .showIpRoute),
  ("cdp", "CDP adjacency", .showCdpNeighborsDetail),
  ("lldp", "LLDP adjacency", .showLldpNeighborsDetail),
  ("vlans", "VLAN inventory", .showVlanBrief),
  ("trunks", "802.1Q trunk state", .showInterfacesTrunk),
  ("spanning-tree", "Spanning Tree", .showSpanningTree),
  ("etherchannel", "EtherChannel", .showEtherchannelSummary),
  ("poe", "Power over Ethernet", .showPowerInline),
  ("routing-table", "IPv4 routing table", .showIpRoute),
  ("ospf", "OSPF neighbours", .showIpOspfNeighbor),
  ("eigrp", "EIGRP neighbours", .showIpEigrpNeighbors),
  ("bgp", "BGP IPv4 unicast", .showBgpIpv4UnicastSummary),
  ("bfd", "BFD neighbours", .showBfdNeighbors),
  ("fhrp", "First-hop redundancy", .showStandbyBrief),
  ("vrf", "VRF inventory", .showVrf),
  ("interface-telemetry", "Interface rate telemetry", .showInterfaces),
  ("error-telemetry", "Interface error telemetry", .showInterfacesCountersErrors),
  ("ip-sla", "IP SLA", .showIpSlaSummary),
  ("vxlan-nve", "VXLAN/NVE", .showNvePeers),
  ("evpn", "BGP EVPN", .showBgpL2vpnEvpnSummary),
  ("segment-routing", "Segment Routing MPLS", .showSegmentRoutingMplsSidMap),
  ("srv6", "Segment Routing v6", .showSegmentRoutingSrv6Locator)]

/-- `CONFIG_FEATURES` -/
def configFeatures : List (Text × Text) :=
  [("dhcp-snooping", "DHCP snooping"), ("dai", "Dynamic ARP Inspection"), ("aaa", "AAA"), ("isis", "IS-IS")]

/-- The features that `configured_by_capability` reads. -/
def featureOfCapability : List (Text × Text) := [
  ("cdp", "cdp"), ("lldp", "lldp"), ("ospf", "ospf"), ("eigrp", "eigrp"), ("bgp", "bgp"), ("fhrp", "fhrp"),
  ("vrf", "vrf"), ("layer3-routing", "ip_routing"), ("ip-sla", "ip_sla"), ("bfd", "bfd"), ("vxlan-nve", "vxlan"),
  ("evpn", "evpn"), ("segment-routing", "segment_routing"), ("srv6", "srv6")]

namespace SurveyedObservation

variable (observation : SurveyedObservation)

/-- `features.get(key)` -/
def feature (key : Text) : Option Bool := Dict.get? observation.features key

/-- `configured_by_capability.get(capability_id)` -/
def configured (capability : Text) : Option Bool :=
  if capability = "etherchannel" then
    if observation.stateOf .showRunningConfig = .observed then
      some (observation.configPorts.any fun entry => (given entry.2.channelGroup).isSome)
    else none
  else (Dict.get? featureOfCapability capability).bind observation.feature

variable [Digest]

/-- A capability that a command shows. -/
def commandCapability (entry : Text × Text × ReadSymbol) : LabCapability :=
  let commandState := observation.stateOf entry.2.2
  let configured := observation.configured entry.1
  let (state, detail) : CapabilityState × Text :=
    if commandState = .unsupported ∧ configured ≠ some true then
      (.unsupported, "IOS explicitly reported that the feature is unsupported.")
    else if commandState = .observed ∨ configured = some true then
      (.supported, "Current read-only output or explicit running configuration proves support.")
    else (.unknown, "Available evidence does not prove whether this capability is supported.")
  let symbols := entry.2.2 :: if configured.isSome then [.showRunningConfig] else []
  { id := "cap-" ++ labToken [observation.deviceId, entry.1]
    deviceId := observation.deviceId
    name := entry.2.1
    state := state
    configured := configured
    observed := some (commandState = .observed)
    detail := detail
    evidenceIds := symbols.map (evidenceId observation.deviceId) }

/-- A capability that only the configuration shows. -/
def configCapability (entry : Text × Text) : LabCapability :=
  let configured := observation.feature (Text.replace entry.1 "-" "_") = some true
  let shown := if observation.stateOf .showRunningConfig = .observed then some (decide configured) else none
  { id := "cap-" ++ labToken [observation.deviceId, entry.1]
    deviceId := observation.deviceId
    name := entry.2
    state := if configured then .supported else .unknown
    configured := shown
    observed := shown
    detail :=
      if configured then "Explicit running configuration proves the feature is in use."
      else "No positive support evidence was observed; absence from configuration is not a platform verdict."
    evidenceIds := [evidenceId observation.deviceId .showRunningConfig] }

/-- `_capabilities` -/
def capabilities : List LabCapability :=
  capabilityCommands.map observation.commandCapability ++ configFeatures.map observation.configCapability

end SurveyedObservation

end SwitchOps

import SwitchOps.Lab.Failures
import SwitchOps.Lab.Paths
import SwitchOps.Lab.Survey
import SwitchOps.Telemetry.Health

/-!
# Findings

`_findings` and `build_lab_assurance_state` of `lab_assurance.py`: what the capabilities, the ports, the edges and the
observations give reason to say, and the whole state. A mismatch is reported of reciprocal links only, whose two ports
are known. Percentages are rational numbers, and `NumberFormat` prints watts.
-/

namespace SwitchOps

inductive FindingCategory
  | resiliency
  | layer2
  | segmentation
  | security
  | capacity
  | performance
  | evidence
  deriving DecidableEq, Repr

inductive FindingSeverity
  | critical
  | warning
  | notice
  | unknown
  deriving DecidableEq, Repr

structure LabFinding where
  id : Text
  category : FindingCategory
  severity : FindingSeverity
  confidence : EvidenceConfidence
  title : Text
  detail : Text
  consequence : Text
  remediation : Text
  affectedIds : List Text
  evidenceIds : List Text
  deriving DecidableEq, Repr

/-! ## Ports -/

/-- A port, as the findings read it. -/
structure ReportedPort extends LabPort where
  adminUp : Bool
  operUp : Bool
  reading : PortReading
  deriving DecidableEq, Repr

section ports

variable [Digest]

def SurveyedObservation.reportedPort (observation : SurveyedObservation) (row : InterfaceStatus) : ReportedPort :=
  let status := Text.casefold row.status
  { toLabPort := observation.toParsedObservation.port row
    adminUp := status ≠ "disabled" && status ≠ "err-disabled"
    operUp := status = "connected"
    reading := observation.reading row }

def reportedPorts (observations : List SurveyedObservation) : List ReportedPort :=
  observations.flatMap fun observation => observation.parts.interfaces.map observation.reportedPort

end ports

/-- The evidence of ports. -/
def portEvidence (ports : List ReportedPort) : List Text := Text.sortedSet (ports.flatMap (·.evidenceIds))

/-- A finding about some ports, if there are any. -/
def portFinding (ports : List ReportedPort) (finding : LabFinding) : List LabFinding :=
  if ports.isEmpty then []
  else [{ finding with affectedIds := ports.map (·.id), evidenceIds := portEvidence ports }]

/-- The findings about the ports of all devices. -/
def portFindings (ports : List ReportedPort) : List LabFinding :=
  let activeUnused := ports.filter fun port => port.adminUp && !port.operUp
  let errors := ports.filter (0 < ·.reading.errorCount)
  let dropping := ports.filter (0 < ·.reading.dropCount)
  let utilized := ports.filter (·.reading.utilizationPercent.any (80 ≤ ·))
  portFinding activeUnused {
    id := "finding-unused-active-ports"
    category := .security
    severity := .notice
    confidence := .confirmed
    title := Text.ofNat activeUnused.length ++ " active ports have no link"
    detail := "Current status shows administratively enabled interfaces without an operational link."
    consequence := "Unused active access ports increase the accidental or unauthorized attachment surface."
    remediation := "Review intent before protecting or disabling unused ports through normal change control."
    affectedIds := []
    evidenceIds := [] } ++
  portFinding errors {
    id := "finding-interface-errors"
    category := .performance
    severity := .warning
    confidence := .confirmed
    title := "Interface errors are accumulating"
    detail := Text.ofNat errors.length ++ " interfaces have non-zero current error counters."
    consequence := "Layer-1 faults can make a link appear up while service is degraded."
    remediation := "Inspect cabling, optics, speed/duplex negotiation and counter changes."
    affectedIds := []
    evidenceIds := [] } ++
  portFinding dropping {
    id := "finding-interface-drops"
    category := .performance
    severity := .warning
    confidence := .confirmed
    title := "Interface queue drops are observed"
    detail := Text.ofNat dropping.length ++ " interfaces report non-zero input or output drops."
    consequence := "A link can remain operational while congestion discards traffic and degrades service."
    remediation := "Compare utilization, queue policy, traffic bursts and counter changes over time."
    affectedIds := []
    evidenceIds := [] } ++
  portFinding utilized {
    id := "finding-high-utilization"
    category := .capacity
    severity := .warning
    confidence := .confirmed
    title := "Five-minute interface utilization exceeds 80%"
    detail := Text.ofNat utilized.length ++ " interfaces are at or above the current high-utilization threshold."
    consequence := "Sustained load leaves less room for bursts and can lead to queueing or drops."
    remediation := "Correlate rates with service probes and drops before changing capacity or policy."
    affectedIds := []
    evidenceIds := [] }

/-! ## Capabilities and uplinks -/

def evidenceGaps (capabilities : List LabCapability) : List LabFinding :=
  let unknown := capabilities.filter (·.state = .unknown)
  if unknown.isEmpty then []
  else [{
    id := "finding-evidence-gaps"
    category := .evidence
    severity := .unknown
    confidence := .unknown
    title := "Some design questions remain unproven"
    detail := Text.ofNat unknown.length ++ " capability observations are unknown, so related checks stay inconclusive."
    consequence := "A missing command or unsupported parser can hide both strengths and risks."
    remediation := "Review Capabilities and collect the missing read-only evidence where the platform supports it."
    affectedIds := Text.sortedSet (unknown.map (·.deviceId))
    evidenceIds := unknown.flatMap (·.evidenceIds) }]

/-- The finding about the uplinks of a collected device. -/
def uplinkFinding [Digest] (physical : List LabEdge) (device : LabDevice) : List LabFinding :=
  match physical.filter (·.joins device.id) with
  | [] => [{
    id := "finding-uplink-unknown-" ++ device.id
    category := .resiliency
    severity := .unknown
    confidence := .unknown
    title := "No proven uplink for a collected device"
    detail := "Neither CDP nor LLDP produced a current physical adjacency for this collected device."
    consequence := "SwitchOps cannot simulate upstream loss reliably."
    remediation := "Enable a supported discovery protocol or add another independently observed device."
    affectedIds := [device.id]
    evidenceIds := [evidenceId device.id .showCdpNeighborsDetail, evidenceId device.id .showLldpNeighborsDetail] }]
  | [attached] => [{
    id := "finding-single-uplink-" ++ device.id
    category := .resiliency
    severity := .warning
    confidence := .high
    title := "One observed infrastructure path for a collected device"
    detail := "The current graph contains one direct discovered relationship for this device."
    consequence := "Loss of that relationship may isolate the device or everything behind it."
    remediation := "Confirm whether a second independent uplink is intended and observable."
    affectedIds := [device.id, attached.id]
    evidenceIds := attached.evidenceIds }]
  | _ => []

/-! ## Observations -/

namespace SurveyedObservation

variable [Digest] [NumberFormat] (observation : SurveyedObservation)

/-- A finding about a device, and the commands that show it. -/
def deviceFinding (key : Text) (category : FindingCategory) (severity : FindingSeverity)
    (confidence : EvidenceConfidence) (title detail consequence remediation : Text) (symbols : List ReadSymbol) :
    LabFinding where
  id := "finding-" ++ key ++ "-" ++ observation.deviceId
  category := category
  severity := severity
  confidence := confidence
  title := title
  detail := detail
  consequence := consequence
  remediation := remediation
  affectedIds := [observation.deviceId]
  evidenceIds := symbols.map (evidenceId observation.deviceId)

/-- A protection that the complete running configuration does not enable. -/
def protectionFinding (key title : Text) : List LabFinding :=
  if observation.stateOf .showRunningConfig = .observed ∧ observation.feature key ≠ some true then
    [observation.deviceFinding key .security .notice .confirmed title
      "The complete current running configuration contains no explicit enablement for this protection."
      "The observed access layer may rely on other controls that SwitchOps has not proved."
      "Review whether this control is appropriate for the lab before planning any configuration."
      [.showRunningConfig]]
  else []

def aaaFinding : List LabFinding :=
  if observation.stateOf .showRunningConfig = .observed ∧ observation.feature "aaa" ≠ some true then
    [observation.deviceFinding "aaa" .security .notice .confirmed
      "AAA new-model is not observed"
      "The complete current running configuration contains no explicit AAA new-model enablement."
      ("Centralized authentication, authorization and accounting are not proved; " ++
        "local authentication may be intentional.".toList)
      "Review the intended management-access model before planning any AAA change."
      [.showRunningConfig]]
  else []

def managementHttpFinding : List LabFinding :=
  if observation.feature "http_server" = some true ∨ observation.feature "https_server" = some true then
    [observation.deviceFinding "management-http" .security .warning .confirmed
      "IOS web management is enabled"
      "Running configuration explicitly enables an HTTP or HTTPS management service."
      "The management plane has an additional reachable service and authentication surface."
      "Confirm the service is required, restricted and hardened; otherwise remove it through controlled change."
      [.showRunningConfig]]
  else []

def poeFinding : List LabFinding :=
  match observation.poeBudget with
  | none => []
  | some poe =>
    let detail := "The device reports " ++ NumberFormat.fixed 1 poe.remainingWatts ++ " W remaining of " ++
      NumberFormat.fixed 1 poe.availableWatts ++ " W."
    if poe.availableWatts ≤ 0 then []
    else if poe.remainingWatts / poe.availableWatts * 100 < 20 then
      [observation.deviceFinding "poe-headroom" .capacity .warning .confirmed
        "PoE headroom is below 20%" detail
        "A new AP, phone or transient draw increase may exceed the available power budget."
        "Validate worst-case powered-device demand or add PoE capacity."
        [.showPowerInline]]
    else
      [observation.deviceFinding "poe-reserve" .capacity .notice .confirmed
        "PoE reserve is currently above 20%" detail
        "Current draw has observed reserve, but this is not a worst-case powered-device budget."
        "Compare maximum device demand before adding powered endpoints."
        [.showPowerInline]]

/-- The finding about the members of a port channel that are not bundled. -/
def etherchannelFinding (group : EtherChannel) : List LabFinding :=
  let unhealthy := group.members.filter fun member => !Text.contains member.flags.upper "P"
  if unhealthy.isEmpty then []
  else [{
    id := "finding-etherchannel-" ++ labToken [observation.deviceId, group.portChannel]
    category := .resiliency
    severity := .warning
    confidence := .confirmed
    title := group.portChannel ++ " has an unbundled member"
    detail := "EtherChannel summary does not mark every configured member as bundled."
    consequence := "Expected link redundancy or aggregate capacity is not fully available."
    remediation := "Compare member configuration and peer state without changing either side automatically."
    affectedIds := unhealthy.map observation.memberId
    evidenceIds := [evidenceId observation.deviceId .showEtherchannelSummary] }]

/-- `physical_uplink_ports` -/
def uplinkPorts (physical : List LabEdge) : List Text :=
  physical.flatMap fun edge =>
    (if edge.fromNodeId = observation.deviceId then ((given edge.fromInterface).map shortName).toList else []) ++
      if edge.toNodeId = observation.deviceId then ((given edge.toInterface).map shortName).toList else []

/-- The rate of some ports. -/
def capacity (ports : List ReportedPort) : Nat := (ports.map fun port => port.reading.speedMbps.getD 0).sum

def oversubscriptionFinding (ports : List ReportedPort) (physical : List LabEdge) : List LabFinding :=
  let deviceInterfaces := ports.filter (·.deviceId = observation.deviceId)
  let uplink := capacity (deviceInterfaces.filter fun port =>
    port.name ∈ observation.uplinkPorts physical && port.operUp)
  let access := capacity (deviceInterfaces.filter fun port => port.mode = "ACCESS" && port.operUp)
  if uplink ≠ 0 ∧ uplink * 4 < access then
    [observation.deviceFinding "oversubscription" .capacity .notice .high
      "Obvious access-to-uplink capacity oversubscription"
      ("Observed active access link rates total " ++ Text.ofNat access ++ " Mbps versus " ++ Text.ofNat uplink ++
        " Mbps of discovered uplink rate.")
      "Simultaneous endpoint demand can exceed the observed upstream link capacity."
      "Validate actual utilization and traffic patterns; oversubscription is not automatically a fault."
      [.showInterfacesStatus, .showCdpNeighborsDetail, .showLldpNeighborsDetail]]
  else []

def rootFinding : List LabFinding :=
  let roots := observation.localRoots.countP id
  if roots = 0 then []
  else [observation.deviceFinding "stp-root" .layer2 .notice .confirmed
    ("A collected device is STP root for " ++ Text.ofNat roots ++ " VLANs")
    "Current spanning-tree output explicitly identifies this bridge as root."
    "Failure of this device changes Layer-2 forwarding for those VLANs."
    "Confirm the root role and secondary-root placement match the intended failure domain."
    [.showSpanningTree]]

/-- A protection of access ports that not all of them have. -/
def accessFinding (key title : Text) (protects : PortConfig → Bool) : List LabFinding :=
  let access := (observation.configPorts.map (·.2)).filter fun port => port.mode = some ("ACCESS" : Text)
  let enabled := access.countP protects
  if enabled < access.length then
    [observation.deviceFinding key .security .notice .confirmed
      (title ++ " is not explicit on every observed access port")
      ("Explicit configuration was observed on " ++ Text.ofNat enabled ++ " of " ++ Text.ofNat access.length ++
        " access-mode interfaces.")
      "Access-edge protection coverage is incomplete or relies on defaults not proven here."
      "Review the intended edge-port policy; do not assume global defaults from absent interface lines."
      [.showRunningConfig]]
  else []

/-- The findings about a device. -/
def findings (ports : List ReportedPort) (physical : List LabEdge) : List LabFinding :=
  observation.protectionFinding "dhcp_snooping" "DHCP snooping is not observed" ++
    observation.protectionFinding "dai" "Dynamic ARP Inspection is not observed" ++
    observation.aaaFinding ++ observation.managementHttpFinding ++ observation.poeFinding ++
    observation.parts.etherchannels.flatMap observation.etherchannelFinding ++
    observation.oversubscriptionFinding ports physical ++ observation.rootFinding ++
    observation.accessFinding "bpdu_guard" "BPDU Guard" (·.bpduGuard) ++
    observation.accessFinding "port_security" "port security / 802.1X" fun port => port.portSecurity || port.dot1x

end SurveyedObservation

/-! ## Mismatches -/

/-- A finding about the two ports of a link. -/
def linkFinding (key : Text) (severity : FindingSeverity) (title detail consequence remediation : Text)
    (edge : LabEdge) (left right : ReportedPort) : LabFinding where
  id := "finding-" ++ key ++ "-" ++ edge.id
  category := .layer2
  severity := severity
  confidence := .confirmed
  title := title
  detail := detail
  consequence := consequence
  remediation := remediation
  affectedIds := [left.id, right.id]
  evidenceIds := edge.evidenceIds ++ left.evidenceIds ++ right.evidenceIds

def modeMismatch (edge : LabEdge) (left right : ReportedPort) : List LabFinding :=
  if left.mode ≠ right.mode ∧ left.mode ≠ "UNKNOWN" ∧ right.mode ≠ "UNKNOWN" then
    [linkFinding "mode-mismatch" .warning "Reciprocal link mode mismatch"
      (left.name ++ " reports " ++ left.mode ++ "; peer " ++ right.name ++ " reports " ++ right.mode ++ ".")
      "VLAN forwarding across this link may be incomplete or unsafe."
      "Review both sides together through change control." edge left right]
  else []

def nativeMismatch (edge : LabEdge) (left right : ReportedPort) : List LabFinding :=
  let leftVlan := left.reading.nativeVlan.getD 0
  let rightVlan := right.reading.nativeVlan.getD 0
  if left.mode = right.mode ∧ right.mode = "TRUNK" ∧ leftVlan ≠ 0 ∧ rightVlan ≠ 0 ∧ leftVlan ≠ rightVlan then
    [linkFinding "native-mismatch" .critical "Reciprocal trunk native VLAN mismatch"
      ("The two observed sides report native VLANs " ++ Text.ofNat leftVlan ++ " and " ++ Text.ofNat rightVlan ++ ".")
      "Untagged traffic can enter different broadcast domains across the link."
      "Reconcile intended native VLANs on both ends in one controlled plan." edge left right]
  else []

/-- The lists have the same VLANs. -/
def sameVlans (left right : List Nat) : Bool := left.all (· ∈ right) && right.all (· ∈ left)

def allowedMismatch (edge : LabEdge) (left right : ReportedPort) : List LabFinding :=
  let leftVlans := left.reading.allowedVlans
  let rightVlans := right.reading.allowedVlans
  if left.mode = right.mode ∧ right.mode = "TRUNK" ∧ leftVlans ≠ [] ∧ rightVlans ≠ [] ∧
      !sameVlans leftVlans rightVlans then
    [linkFinding "allowed-vlan-mismatch" .warning "Reciprocal trunk allowed-VLAN mismatch"
      "Both observed sides provide explicit allowed-VLAN lists and the sets differ."
      "Some broadcast domains may be forwarded in only one direction or fail across the trunk."
      "Compare the intended VLAN scope and reconcile both ends together." edge left right]
  else []

/-- The findings about a reciprocal link whose ports are known. -/
def mismatches (ports : List ReportedPort) (edge : LabEdge) : List LabFinding :=
  let byInterface := Dict.ofList (ports.map fun port => (port.id, port))
  let port (nodeId : Text) (interface : Option Text) : Option ReportedPort :=
    Dict.get? byInterface (nodeId ++ ":" ++ shortName (interface.getD []))
  match port edge.fromNodeId edge.fromInterface, port edge.toNodeId edge.toInterface with
  | some left, some right =>
    modeMismatch edge left right ++ nativeMismatch edge left right ++ allowedMismatch edge left right
  | _, _ => []

/-- `_findings` -/
def labFindings [Digest] [NumberFormat] (devices : List LabDevice) (ports : List ReportedPort) (edges : List LabEdge)
    (capabilities : List LabCapability) (observations : List SurveyedObservation) : List LabFinding :=
  let physical := edges.filter (·.kind = .physical)
  let collected := devices.filter fun device => device.collectionState = .current || device.collectionState = .incomplete
  let reciprocal := physical.filter fun edge => edge.reciprocal && (given edge.toInterface).isSome
  evidenceGaps capabilities ++ collected.flatMap (uplinkFinding physical) ++ portFindings ports ++
    observations.flatMap (·.findings ports physical) ++ reciprocal.flatMap (mismatches ports)

/-! ## The state -/

structure LabAssuranceSummary where
  observedDevices : Nat
  physicalEdges : Nat
  criticalFindings : Nat
  warningFindings : Nat
  unknownFindings : Nat
  evidenceGaps : Nat
  deriving DecidableEq, Repr

/-- What a `LabAssuranceState` has of a collection, the logical networks aside. -/
structure LabReport where
  collectionState : CollectionState
  summary : LabAssuranceSummary
  devices : List LabDevice := []
  interfaces : List ReportedPort := []
  edges : List LabEdge := []
  capabilities : List LabCapability := []
  findings : List LabFinding := []
  failures : List FailureScenario := []
  paths : List LabPath := []
  evidence : List LabEvidence := []
  deriving DecidableEq, Repr

/-- `build_lab_assurance_state`, as far as it reads observations. -/
def labReport [Digest] [NumberFormat] (parsers : LabParsers) (observations : List LabDeviceObservation) :
    LabReport :=
  if observations.isEmpty then {
    collectionState := .notCollected
    summary := {
      observedDevices := 0, physicalEdges := 0, criticalFindings := 0, warningFindings := 0, unknownFindings := 0
      evidenceGaps := 0 } }
  else
    let surveyed := observations.map (·.surveyed parsers)
    let graph := labGraph (surveyed.map (·.toParsedObservation))
    let interfaces := reportedPorts surveyed
    let capabilities := surveyed.flatMap (·.capabilities)
    let findings := labFindings graph.devices interfaces graph.edges capabilities surveyed
    let collected := graph.devices.filter (·.collectionState ≠ .notCollected)
    { collectionState :=
        if collected ≠ [] ∧ ∀ device ∈ collected, device.collectionState = .failed then .failed
        else if ∃ device ∈ collected, device.collectionState ≠ .current then .incomplete
        else .current
      summary := {
        observedDevices := collected.length
        physicalEdges := graph.edges.countP (·.kind = .physical)
        criticalFindings := findings.countP (·.severity = .critical)
        warningFindings := findings.countP (·.severity = .warning)
        unknownFindings := findings.countP (·.severity = .unknown)
        evidenceGaps := capabilities.countP (·.state = .unknown) }
      devices := graph.devices
      interfaces := interfaces
      edges := graph.edges
      capabilities := capabilities
      findings := findings
      failures := failures graph.devices (interfaces.map (·.toLabInterface)) graph.edges
      paths := labPaths graph.devices graph.edges
      evidence := surveyed.flatMap fun observation => observation.evidence }

end SwitchOps

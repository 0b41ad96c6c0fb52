import SwitchOps.Assurance.Snapshot
import SwitchOps.Topology.Classification

/-!
# Building the topology

`build_topology`: the devices, links and facts of one observation of a switch. Every interface is looked
at by itself, in its `Port`, and yields at most one endpoint.
-/

namespace SwitchOps.Topology

/-- The arguments of `build_topology`, those for display aside. -/
structure BuildInput where
  hostname : Text
  model : Text
  managementIp : Text
  interfaces : List InterfaceStatus
  macEntries : List MacTableEntry
  cdpNeighbors : List CdpNeighbor := []
  lldpNeighbors : List LldpNeighbor := []
  arpEntries : List ArpEntry := []
  localEndpoint : Option LocalEndpointStatus := none
  expectedRelationships : List ExpectedRelationship := []
  observedAt : Nat
  sourceNamespace : Text := "physical"
  deriving Repr

/-- `switch_device_id` -/
def switchDeviceId (hostname sourceNamespace : Text) : Text := "switch-" ++ slug sourceNamespace ++ "-" ++ slug hostname

/-- `interface_oper_state` -/
def interfaceOperState (status : Text) : Text :=
  let value := status.strip.lower
  if value = "connected" then "up" else if value.isEmpty then "unknown" else "down"

/-- The addresses learned behind each port, those of the switch itself aside. -/
def macsByPort (entries : List MacTableEntry) : Dict Text (List MacTableEntry) :=
  Dict.groupBy (·.port) (entries.filter fun entry => !(entry.port.upper = "CPU" || entry.vlan.lower = "all"))

def cdpByPort (neighbors : List CdpNeighbor) : Dict Text (List CdpNeighbor) :=
  Dict.groupBy (·.localInterface) (neighbors.filter fun neighbor => !neighbor.localInterface.isEmpty)

def lldpByPort (neighbors : List LldpNeighbor) : Dict Text (List LldpNeighbor) :=
  Dict.groupBy (·.localInterface) (neighbors.filter fun neighbor => !neighbor.localInterface.isEmpty)

/-- The local endpoint, where it was found on this port. -/
def localMatch (localEndpoint : Option LocalEndpointStatus) (port : Text) : Option LocalEndpointStatus :=
  localEndpoint.filter fun endpoint => endpoint.state = .confirmed && endpoint.interface = some port

/-- What `build_topology` knows about one interface. -/
structure Port where
  switchId : Text
  sourceNamespace : Text
  observedAt : Nat
  interface : InterfaceStatus
  learned : List MacTableEntry
  neighbors : List CdpNeighbor
  lldpNeighbors : List LldpNeighbor
  arpByMac : Dict Text (List ArpEntry)
  localHost : Option LocalEndpointStatus
  stored : Option ExpectedRelationship

namespace Port

variable [Digest] [OuiRegistry] (p : Port)

def operState : Text := interfaceOperState p.interface.status
def isUp : Bool := p.operState = "up"
def role : InterfaceRole := classifyInterfaceRole p.interface.name p.interface.vlan
def learnedCount : Nat := p.learned.length

/-! ### Facts -/

def linkFact : DiscoveryEvidence :=
  evidenceRecord .interfaceLink .observed .interfaceTelemetry p.switchId p.interface.port none p.operState
    (p.interface.port ++ if p.isUp then " reports an operational link." else " reports no operational link.")
    p.observedAt (if p.isUp then .high else .medium)
    { existence := p.isUp, attachment := p.isUp, relationship := p.isUp } "show interfaces status"
    (if p.isUp then some .attachedEndpoint else none)

/-- The fact that something else than the description expects a neighbour. -/
def expectedFact (stored : ExpectedRelationship) : DiscoveryEvidence :=
  let user := stored.source = .userIntent
  evidenceRecord (if user then .userIntent else .acceptedPlan) .expected (if user then .userIntent else .acceptedPlan)
    p.switchId p.interface.port none stored.expectedName
    ("SwitchOps records " ++ Text.repr stored.expectedName ++ " as the intended neighbour on " ++ p.interface.port ++ ".")
    (stored.updatedAt.getD p.observedAt) (if user then .high else .medium) { role := true }
    "SwitchOps local topology intent" (some .expectedNeighbour)

def descriptionFact : DiscoveryEvidence :=
  evidenceRecord .interfaceDescription .expected .interfaceDescription p.switchId p.interface.port none
    p.interface.name.strip
    ("The configured description is " ++ Text.repr p.interface.name.strip ++
      ". It documents intent and does not prove a device is present.")
    p.observedAt .low { role := true } "show running-config / show interfaces status" (some .expectedNeighbour)

/-- The facts about what is expected. -/
def expectedFacts : List DiscoveryEvidence :=
  (p.stored.map p.expectedFact).toList ++
    if meaningfulDescription p.interface.name then [p.descriptionFact] else []

/-- What is expected: the stored intent, else what the description says. -/
def expectation : Option TopologyExpectation :=
  match p.stored with
  | some stored => some {
      interface := p.interface.port, name := stored.expectedName, deviceType := stored.expectedDeviceType
      vendor := stored.expectedVendor, model := stored.expectedModel, source := stored.source
      confidence := if stored.source = .userIntent then .high else .medium
      evidenceIds := [(p.expectedFact stored).id] }
  | none =>
    if meaningfulDescription p.interface.name then
      let found := classifyDevice p.interface.name
      some {
        interface := p.interface.port, name := p.interface.name.strip, deviceType := found.category
        vendor := found.vendor, model := found.model, source := .interfaceDescription, confidence := .low
        evidenceIds := [p.descriptionFact.id] }
    else none

/-- `f"{neighbor.remote_name}|{neighbor.ip or ''}"` -/
def neighborKey (remoteName : Text) (ip : Option Text) : Text := remoteName ++ "|" ++ ip.getD []

/-- The identity of what is attached, by the best evidence there is. -/
def entityId : Text :=
  match p.neighbors, p.lldpNeighbors, p.localHost, p.learned with
  | neighbor :: _, _, _, _ => stableEntityId p.sourceNamespace "neighbor" (neighborKey neighbor.remoteName neighbor.ip)
  | [], neighbor :: _, _, _ => stableEntityId p.sourceNamespace "neighbor" (neighborKey neighbor.remoteName neighbor.ip)
  | [], [], some _, _ => stableEntityId p.sourceNamespace "local-host" p.switchId
  | [], [], none, [entry] => stableEntityId p.sourceNamespace "mac" (normalizeMac entry.mac)
  | [], [], none, _ => stableEntityId p.sourceNamespace "port-presence" (p.switchId ++ "|" ++ p.interface.port)

/-- A single learned address can be attributed to the endpoint, several cannot. -/
def attributable : Bool := p.learnedCount = 1

def attributedId : Option Text := if p.attributable then some p.entityId else none

def correlated (entry : MacTableEntry) : List ArpEntry := (Dict.get? p.arpByMac (normalizeMac entry.mac)).getD []

def macFact (entry : MacTableEntry) : DiscoveryEvidence :=
  evidenceRecord .macLearned .observed .macTable p.switchId p.interface.port p.attributedId entry.mac.lower
    (if p.isUp then "The switch learned this address through " ++ p.interface.port ++ "; it may be behind another device."
      else "The address remains in the MAC table for " ++ p.interface.port ++
        ", but the port is down; it is not current presence evidence.")
    p.observedAt .high { existence := p.isUp, relationship := p.isUp } "show mac address-table"
    (if p.isUp then some (if p.attributable && p.role = .access then .attachedEndpoint else .learnedBehind) else none)

def ouiFact (vendor detail : Text) : DiscoveryEvidence :=
  evidenceRecord .ouiVendor .inferred .macOui p.switchId p.interface.port p.attributedId vendor
    ("Vendor hint: " ++ vendor ++ ". " ++ detail) p.observedAt .low { identity := true }
    "bundled IEEE OUI registry via netaddr"

def arpFact (entry : MacTableEntry) (arp : ArpEntry) : DiscoveryEvidence :=
  evidenceRecord .arpEntry .observed .arp p.switchId p.interface.port p.attributedId
    (arp.ip ++ " ↔ " ++ entry.mac.lower)
    ("ARP correlates " ++ arp.ip ++ " with an address learned through " ++ p.interface.port ++
      "; this proves a path, not direct attachment.")
    p.observedAt .medium { existence := p.isUp, relationship := p.isUp } "show ip arp + show mac address-table"
    (if p.isUp then some .learnedBehind else none)

/-- The facts about one learned address. -/
def addressFacts (entry : MacTableEntry) : List DiscoveryEvidence :=
  let hint := ouiVendorHint entry.mac
  p.macFact entry :: ((nonempty hint.vendor).map fun vendor => p.ouiFact vendor hint.detail).toList ++
    (p.correlated entry).map (p.arpFact entry)

def learnedFacts : List DiscoveryEvidence := p.learned.flatMap p.addressFacts

def direct : EvidenceClaimSupport :=
  { existence := true, identity := true, attachment := true, relationship := true, role := true }

def cdpFact (neighbor : CdpNeighbor) : DiscoveryEvidence :=
  evidenceRecord .cdpNeighbor .observed .cdp p.switchId p.interface.port (some p.entityId) neighbor.remoteName
    (neighbor.remoteName ++ " announced itself directly on " ++ p.interface.port ++ " over CDP.")
    p.observedAt .high direct "show cdp neighbors detail" (some .directNeighbour)

def lldpFact (neighbor : LldpNeighbor) : DiscoveryEvidence :=
  evidenceRecord .lldpNeighbor .observed .lldp p.switchId p.interface.port (some p.entityId) neighbor.remoteName
    (neighbor.remoteName ++ " announced itself directly on " ++ p.interface.port ++ " over LLDP.")
    p.observedAt .high direct "show lldp neighbors detail" (some .directNeighbour)

def localFact (endpoint : LocalEndpointStatus) : DiscoveryEvidence :=
  evidenceRecord .localHostMac .observed .localHost p.switchId p.interface.port (some p.entityId)
    (some "active local adapter matched") endpoint.detail p.observedAt .confirmed
    { existence := true, identity := true, attachment := true, relationship := true }
    "local adapter inventory + switch MAC table + interface state" (some .attachedEndpoint)

/-! ### Endpoints -/

/-- `interface.name.strip() or None` -/
def describedName : Option Text := nonempty (some p.interface.name.strip)

def stageOf (found : Advertised) : ClassificationStage :=
  if (nonempty found.model).isSome then .model else if (nonempty found.vendor).isSome then .vendor
  else if found.category ≠ .unknown then .category else .unknown

/-- `_endpoint_from_cdp` -/
def endpointFromCdp (neighbor : CdpNeighbor) : NetworkDevice :=
  let found := categoryFromCdp neighbor
  { id := "cdp-" ++ p.switchId ++ "-" ++ slug p.interface.port ++ "-" ++ slug neighbor.remoteName
    type := found.category, vendor := found.vendor, model := found.model, name := neighbor.remoteName, ip := neighbor.ip
    confidence := .high, classificationStage := stageOf found, online := true
    connectedInterface := p.interface.port, lastSeen := p.observedAt, evidenceLevel := .direct, identitySource := .cdp
    expectedName := p.describedName, learnedMacCount := p.learnedCount, role := p.role }

/-- `_endpoint_from_lldp` -/
def endpointFromLldp (neighbor : LldpNeighbor) : NetworkDevice :=
  let found := categoryFromLldp neighbor
  { id := "lldp-" ++ p.switchId ++ "-" ++ slug p.interface.port ++ "-" ++ slug neighbor.remoteName
    type := found.category, vendor := found.vendor, model := found.model, name := neighbor.remoteName, ip := neighbor.ip
    confidence := .high, classificationStage := stageOf found, online := true
    connectedInterface := p.interface.port, lastSeen := p.observedAt, evidenceLevel := .direct, identitySource := .lldp
    expectedName := p.describedName, learnedMacCount := p.learnedCount, role := p.role }

/-- `_endpoint_from_local_host` -/
def endpointFromLocalHost (endpoint : LocalEndpointStatus) : NetworkDevice where
  id := "local-host-" ++ p.switchId ++ "-" ++ slug p.interface.port
  type := .desktop
  name := endpoint.label
  ip := endpoint.ip
  confidence := .high
  classificationStage := .category
  online := true
  connectedInterface := p.interface.port
  lastSeen := p.observedAt
  evidenceLevel := .observedOnPort
  identitySource := .localHost
  expectedName := p.describedName
  learnedMacCount := 1
  role := p.role

/-- `_device_id_from_mac` -/
def deviceIdFromMac (mac : Text) : Text := "device-" ++ (Digest.sha256 (mac.lower.filter isHexChar)).take 12

/-- `_endpoint_from_learned_macs`: one node, whatever the number of addresses. -/
def endpointFromLearnedMacs : NetworkDevice :=
  let described := meaningfulDescription p.interface.name
  let mac := if p.attributable then p.learned.head?.map (·.mac) else none
  { id := match nonempty mac with
      | some mac => deviceIdFromMac mac
      | none => "endpoint-" ++ p.switchId ++ "-" ++ slug p.interface.port
    type := .unknown, name := "Unidentified device", mac := mac, confidence := .low, classificationStage := .unknown
    online := true, connectedInterface := p.interface.port, lastSeen := p.observedAt, evidenceLevel := .observedOnPort
    identitySource := .none
    expectedName := if described then some p.interface.name.strip else none
    expectedType := if described then some (classifyDevice p.interface.name).category else none
    learnedMacCount := p.learnedCount, role := p.role }

/-- The endpoint of an active link that has learned nothing yet. -/
def endpointFromLink : NetworkDevice where
  id := p.entityId
  type := .unknown
  name := "Unidentified endpoint"
  confidence := .low
  classificationStage := .unknown
  online := true
  connectedInterface := p.interface.port
  lastSeen := p.observedAt
  evidenceLevel := .observedOnPort
  identitySource := .none
  expectedName := p.expectation.map (·.name)
  expectedType := p.expectation.map (·.deviceType)
  role := p.role

/-- An endpoint, the facts that identify it, and how the link to it is known. -/
structure Attached where
  endpoint : NetworkDevice
  facts : List DiscoveryEvidence := []
  relationship : RelationshipKind := .attachedEndpoint
  linkConfidence : Confidence := .high
  linkLevel : EvidenceLevel := .observedOnPort

/-- What is attached to the interface: neighbours that announce themselves come first. -/
def attached : Option Attached :=
  if p.isUp then
    match p.neighbors, p.lldpNeighbors, p.localHost, p.learned with
    | neighbor :: _, _, _, _ => some {
        endpoint := p.endpointFromCdp neighbor, facts := [p.cdpFact neighbor]
        relationship := .directNeighbour, linkLevel := .direct }
    | [], neighbor :: _, _, _ => some {
        endpoint := p.endpointFromLldp neighbor, facts := [p.lldpFact neighbor]
        relationship := .directNeighbour, linkLevel := .direct }
    | [], [], some endpoint, _ => some { endpoint := p.endpointFromLocalHost endpoint, facts := [p.localFact endpoint] }
    | [], [], none, _ :: _ => some { endpoint := p.endpointFromLearnedMacs }
    | [], [], none, [] => some { endpoint := p.endpointFromLink, linkConfidence := .medium }
  else none

/-! ### The finished endpoint -/

/-- The facts about the endpoint. -/
def entityEvidence (attached : Attached) : List DiscoveryEvidence :=
  p.linkFact :: (if p.attributable then p.learnedFacts else []) ++ attached.facts

/-- The vendor that the single learned address suggests is compared with the one that is known, or fills in. -/
def withVendorHint (endpoint : NetworkDevice) (records : List DiscoveryEvidence) (hint : Option Text) : NetworkDevice :=
  match nonempty hint with
  | none => endpoint
  | some vendor =>
    if (nonempty endpoint.vendor).isSome then
      match vendorConflict endpoint.vendor (some vendor) endpoint.evidenceIds with
      | none => endpoint
      | some conflict =>
        let conflicts := endpoint.conflicts ++ [conflict]
        { endpoint with conflicts := conflicts, identityConfidence := Topology.identityConfidence records conflicts }
    else
      { endpoint with
        vendor := some vendor
        identitySource := if endpoint.identitySource = .none then .macOui else endpoint.identitySource
        classificationStage := .vendor
        identityConfidence := Topology.identityConfidence records }

/-- What a single learned address says about the endpoint. -/
def withAddress (endpoint : NetworkDevice) (records : List DiscoveryEvidence) : NetworkDevice :=
  match p.learned with
  | [entry] =>
    let ips := (p.correlated entry).map (·.ip)
    let endpoint := { endpoint with
      macAddresses := [entry.mac.lower]
      mac := some entry.mac.lower
      ipAddresses := ips.eraseDups
      ip := endpoint.ip.or ips.head? }
    withVendorHint endpoint records (ouiVendorHint entry.mac).vendor
  | _ => endpoint

/-- The endpoint with its identity, its facts and what is expected of it. -/
def stated (attached : Attached) : NetworkDevice :=
  { attached.endpoint with
    id := p.entityId
    evidenceIds := ((p.entityEvidence attached).map (·.id)).eraseDups
    existenceState := .observed
    existenceConfidence := Topology.existenceConfidence (p.entityEvidence attached)
    identityConfidence := Topology.identityConfidence (p.entityEvidence attached)
    freshness := .current
    relationship := some attached.relationship
    firstSeen := some p.observedAt
    lastSeen := some p.observedAt
    observedCategory := attached.endpoint.type
    expectedName := p.expectation.map (·.name)
    expectedType := p.expectation.map (·.deviceType)
    expectedCategory := p.expectation.map (·.deviceType) }

/-- The legacy confidence follows that of the identity. -/
def legacyConfidence : Confidence → Confidence
  | .unknown => .low
  | .confirmed => .high
  | confidence => confidence

def finished (attached : Attached) : NetworkDevice :=
  let endpoint := p.withAddress (p.stated attached) (p.entityEvidence attached)
  { endpoint with confidence := legacyConfidence endpoint.identityConfidence }

def endpoint : Option NetworkDevice := p.attached.map p.finished

def link : Option NetworkLink :=
  p.attached.map fun attached =>
    let endpoint := p.finished attached
    { id := "link-" ++ p.switchId ++ "-" ++ slug p.interface.port ++ "-" ++ endpoint.id
      fromDeviceId := p.switchId, fromInterface := p.interface.port, toDeviceId := endpoint.id
      toInterface := if attached.linkLevel = .direct then p.neighbors.head?.bind (·.remoteInterface) else none
      status := .up, confidence := attached.linkConfidence, evidenceLevel := attached.linkLevel
      learnedMacCount := p.learnedCount, relationship := attached.relationship
      evidenceIds := ((p.entityEvidence attached).filter fun record =>
        record.establishes.relationship || record.establishes.attachment).map (·.id) }

def interfaceEvidence : List DiscoveryEvidence :=
  p.linkFact :: p.expectedFacts ++ p.learnedFacts ++ ((p.attached.map (·.facts)).getD [])

def networkInterface : NetworkInterface where
  id := p.switchId ++ ":" ++ p.interface.port
  deviceId := p.switchId
  port := p.interface.port
  description := p.interface.name
  adminState := interfaceAdminState p.interface.status
  operState := p.operState
  role := p.role
  learnedMacCount := p.learnedCount
  expectedName := p.expectation.map (·.name)
  expectedCategory := p.expectation.map (·.deviceType)
  expectedVendor := p.expectation.bind (·.vendor)
  expectedModel := p.expectation.bind (·.model)
  expectedSource := p.expectation.map (·.source)
  evidenceIds := p.interfaceEvidence.map (·.id)

end Port

/-! ## What an endpoint is -/

namespace Port

variable [OuiRegistry] {p : Port} {endpoint : NetworkDevice} {records : List DiscoveryEvidence}

/-- What the address of a device says does not touch these. -/
structure SamePlace (a b : NetworkDevice) : Prop where
  id : a.id = b.id
  connectedInterface : a.connectedInterface = b.connectedInterface
  freshness : a.freshness = b.freshness
  existenceState : a.existenceState = b.existenceState

omit [OuiRegistry] in
theorem withVendorHint_samePlace (hint : Option Text) : SamePlace (withVendorHint endpoint records hint) endpoint := by
  rw [withVendorHint]
  cases nonempty hint with
  | none => exact ⟨rfl, rfl, rfl, rfl⟩
  | some vendor =>
    by_cases known : (nonempty endpoint.vendor).isSome = true
    · show SamePlace (if _ then _ else _) _
      rw [if_pos known]
      show SamePlace (match vendorConflict endpoint.vendor (some vendor) endpoint.evidenceIds with
        | none => _ | some _ => _) _
      cases vendorConflict endpoint.vendor (some vendor) endpoint.evidenceIds <;> exact ⟨rfl, rfl, rfl, rfl⟩
    · show SamePlace (if _ then _ else _) _
      rw [if_neg known]
      exact ⟨rfl, rfl, rfl, rfl⟩

theorem withAddress_samePlace : SamePlace (p.withAddress endpoint records) endpoint := by
  rw [withAddress]
  split
  · obtain ⟨id, port, freshness, existence⟩ := @withVendorHint_samePlace ({ endpoint with
      macAddresses := _, mac := _, ipAddresses := _, ip := _ }) records _
    exact ⟨id, port, freshness, existence⟩
  · exact ⟨rfl, rfl, rfl, rfl⟩

variable [Digest]

/-- An endpoint of the port, with its identity, seen just now. -/
theorem samePlace_of_endpoint (h : p.endpoint = some endpoint) : endpoint.id = p.entityId ∧
    endpoint.connectedInterface = some p.interface.port ∧ endpoint.freshness = .current ∧
    endpoint.existenceState = .observed := by
  obtain ⟨a, attached, rfl⟩ := Option.map_eq_some_iff.mp h
  have place : a.endpoint.connectedInterface = some p.interface.port := by
    rw [Port.attached] at attached
    split at attached
    · split at attached <;> cases attached <;> rfl
    · cases attached
  obtain ⟨id, port, freshness, existence⟩ := @withAddress_samePlace _ p (p.stated a) (p.entityEvidence a)
  exact ⟨id, port.trans place, freshness, existence⟩

omit [OuiRegistry] in
theorem exists_entityId (p : Port) : ∃ rest, p.entityId = "entity-".toList ++ rest := by
  rw [entityId]
  split <;> exact ⟨_, rfl⟩

/-- A port has an endpoint exactly if its link is up. -/
theorem endpoint_isSome (p : Port) : p.endpoint.isSome = p.isUp := by
  rw [Port.endpoint, Option.isSome_map, attached]
  cases p.isUp with
  | false => rfl
  | true =>
    rw [if_pos rfl]
    split <;> rfl

end Port

namespace BuildInput

variable (input : BuildInput)

def switchId : Text := switchDeviceId input.hostname input.sourceNamespace

/-- The switch itself. -/
def root : NetworkDevice where
  id := input.switchId
  type := .switch
  vendor := if Text.contains input.model.lower "cisco" || Text.startsWith input.model.upper "WS-" then some "Cisco" else none
  model := nonempty (some input.model)
  name := input.hostname
  ip := if input.managementIp = "Unknown" then none else some input.managementIp
  confidence := .high
  classificationStage := if !input.model.isEmpty && input.model ≠ "Unknown" then .model else .category
  online := true
  lastSeen := input.observedAt
  evidenceLevel := .direct
  identitySource := .switchTelemetry
  existenceConfidence := .confirmed
  identityConfidence := .confirmed
  firstSeen := input.observedAt
  observedCategory := .switch

def arpByMac : Dict Text (List ArpEntry) :=
  Dict.groupBy (fun entry => normalizeMac entry.mac)
    (input.arpEntries.filter fun entry => (normalizeMac entry.mac).length = 12)

def port (interface : InterfaceStatus) : Port where
  switchId := input.switchId
  sourceNamespace := input.sourceNamespace
  observedAt := input.observedAt
  interface := interface
  learned := (Dict.get? (macsByPort input.macEntries) interface.port).getD []
  neighbors := (Dict.get? (cdpByPort input.cdpNeighbors) interface.port).getD []
  lldpNeighbors := (Dict.get? (lldpByPort input.lldpNeighbors) interface.port).getD []
  arpByMac := input.arpByMac
  localHost := localMatch input.localEndpoint interface.port
  stored := Dict.get? (Dict.ofList (input.expectedRelationships.map fun item => (item.interface, item))) interface.port

def ports : List Port := input.interfaces.map input.port

variable [Digest] [OuiRegistry]

/-- `build_topology` -/
def buildTopology : TopologyModel where
  generatedAt := input.observedAt
  rootDeviceId := input.switchId
  devices := input.root :: input.ports.filterMap Port.endpoint
  interfaces := input.ports.map Port.networkInterface
  links := input.ports.filterMap Port.link
  evidence := input.ports.flatMap Port.interfaceEvidence
  expectations := input.ports.filterMap Port.expectation

variable {input}

/-- No endpoint has the identity of the switch. -/
theorem endpoint_id_ne {endpoint : NetworkDevice} (here : endpoint ∈ input.ports.filterMap Port.endpoint) :
    endpoint.id ≠ input.switchId := by
  obtain ⟨p, -, attached⟩ := List.mem_filterMap.mp here
  obtain ⟨rest, entity⟩ := p.exists_entityId
  rw [(Port.samePlace_of_endpoint attached).1, entity]
  exact fun same => absurd (List.cons.inj same).1 (by decide)

end BuildInput

end SwitchOps.Topology

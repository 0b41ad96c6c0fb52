import SwitchOps.Topology.Builder

/-!
# What is claimed about an interface

The providers of `reconciliation.py`. The switch contributes what it observes, the operator and the
descriptions what they expect, the previous observation what it showed.
-/

namespace SwitchOps.Topology

/-- `UNIDENTIFIED` -/
def unidentified : Text := "Unidentified device"

/-! ## Labels -/

/-- `_STOPWORDS` -/
def stopwords : List Text := [
  "uplink", "link", "to", "the", "a", "an", "port", "spare", "unused", "access", "trunk", "connection", "conn",
  "cable", "switch", "sw", "reserved", "temp", "test", "lab", "new", "old", "main", "and"]

/-- `_tokens` -/
def labelTokens (text : Text) : List Text :=
  (plainTokens text).filter fun token => 3 ≤ token.length && !stopwords.elem token

/-- `_tokens_match`: a token in common, or one that contains another of some length. -/
def tokensMatch (left right : List Text) : Bool :=
  !left.isEmpty && !right.isEmpty &&
    (left.any (right.elem ·) || left.any fun a => right.any fun b =>
      (4 ≤ a.length && Text.contains b a) || (4 ≤ b.length && Text.contains a b))

/-- `_assertion_label_tokens` -/
def TopologyAssertion.labelTokens (assertion : TopologyAssertion) : List Text :=
  Topology.labelTokens (Text.join " " (assertion.objectLabel :: (nonempty assertion.vendor).toList ++
    (nonempty assertion.model).toList))

def isHexDigitChar (c : Char) : Bool := isHexChar c || ('A' ≤ c && c ≤ 'F')

/-- `is_locally_administered`: bit 1 of the first octet. -/
def isLocallyAdministered (mac : Text) : Bool :=
  match Text.lower ((mac.filter isHexDigitChar).take 2) with
  | [high, low] => (hexValue high * 16 + hexValue low) / 2 % 2 = 1
  | _ => false

/-! ## What the switch observes -/

/-- `CiscoIosEvidenceProvider` -/
structure CiscoIosEvidenceProvider where
  interfaces : List InterfaceStatus
  cdpByPort : Dict Text (List CdpNeighbor)
  lldpByPort : Dict Text (List LldpNeighbor)
  localEndpoint : Option LocalEndpointStatus
  macsByPort : Dict Text (List MacTableEntry)
  arpEntries : List ArpEntry
  defaultGateway : Text
  observedAt : Nat
  topology : Option TopologyModel

/-- `CiscoIosEvidenceProvider.__init__`, on the arguments of `build_topology`. -/
def BuildInput.provider (input : BuildInput) (defaultGateway : Option Text) (topology : Option TopologyModel) :
    CiscoIosEvidenceProvider where
  interfaces := input.interfaces
  cdpByPort := cdpByPort input.cdpNeighbors
  lldpByPort := lldpByPort input.lldpNeighbors
  localEndpoint := input.localEndpoint
  macsByPort := macsByPort input.macEntries
  arpEntries := input.arpEntries
  defaultGateway := (defaultGateway.getD []).strip
  observedAt := input.observedAt
  topology := topology

def IdentitySource.announced : IdentitySource → Bool
  | .cdp | .lldp | .localHost => true
  | _ => false

/-- The source of an assertion about an endpoint that was identified like this. -/
def IdentitySource.evidenceSource : IdentitySource → EvidenceSource
  | .cdp => .cdp
  | .lldp => .lldp
  | .localHost => .localHost
  | .macOui => .macOui
  | _ => .interfaceTelemetry

namespace CiscoIosEvidenceProvider

variable (provider : CiscoIosEvidenceProvider) (interface : InterfaceStatus)

/-- The endpoint that a topology has for a port. -/
def endpointOn (topology : TopologyModel) (port : Text) : Option NetworkDevice :=
  topology.devices.find? fun item => item.id ≠ topology.rootDeviceId && item.connectedInterface = some port &&
    item.existenceState ≠ .historical

/-- The summaries of the facts that say an endpoint exists, or what it is. -/
def endpointDetail (topology : TopologyModel) (endpoint : NetworkDevice) (port : Text) : Text :=
  let records := Dict.values (Dict.ofList ((topology.evidence.filter fun item =>
    endpoint.evidenceIds.elem item.id).map fun item => (item.id, item)))
  let summaries := (records.filter fun record => record.establishes.existence || record.establishes.identity).map
    (·.summary)
  match Text.join " " summaries with
  | [] => port ++ " reports an active link."
  | detail => detail

/-- What a topology says about an endpoint. -/
def endpointAssertion (topology : TopologyModel) (endpoint : NetworkDevice) : TopologyAssertion :=
  let identified := IdentitySource.announced endpoint.identitySource
  { subject := interface.port
    relationship := endpoint.relationship.getD .attachedEndpoint
    objectLabel := if identified then endpoint.name else unidentified
    objectIdentified := identified
    evidenceClass := .observed
    source := IdentitySource.evidenceSource endpoint.identitySource
    confidence := if identified then endpoint.identityConfidence else endpoint.existenceConfidence
    detail := endpointDetail topology endpoint interface.port
    observedAt := endpoint.lastSeen.or (some provider.observedAt)
    freshness := endpoint.freshness
    evidenceIds := endpoint.evidenceIds
    conflicted := !endpoint.conflicts.isEmpty
    conflictReasons := endpoint.conflicts.map (·.summary)
    deviceType := endpoint.observedCategory
    vendor := endpoint.vendor
    model := endpoint.model }

def learned : List MacTableEntry := (Dict.get? provider.macsByPort interface.port).getD []

def cdpAssertion (neighbor : CdpNeighbor) : TopologyAssertion :=
  let found := identityFromCdp neighbor
  { subject := interface.port, relationship := .directNeighbour, objectLabel := neighbor.remoteName
    objectIdentified := true, evidenceClass := .observed, source := .cdp, confidence := .high
    detail := neighbor.remoteName ++ " announced itself over CDP on " ++ interface.port ++ "." ++
      match nonempty neighbor.platform with
      | some platform => " It reports its platform as " ++ platform ++ "."
      | none => []
    observedAt := provider.observedAt
    deviceType := found.category, vendor := found.vendor, model := found.model }

def lldpAssertion (neighbor : LldpNeighbor) : TopologyAssertion :=
  let found := categoryFromLldp neighbor
  { subject := interface.port, relationship := .directNeighbour, objectLabel := neighbor.remoteName
    objectIdentified := true, evidenceClass := .observed, source := .lldp, confidence := .high
    detail := neighbor.remoteName ++ " announced itself over LLDP on " ++ interface.port ++ "." ++
      if (nonempty neighbor.systemDescription).isSome then " It also reported a system description.".toList else []
    observedAt := provider.observedAt
    deviceType := found.category, vendor := found.vendor, model := found.model }

def localAssertion (endpoint : LocalEndpointStatus) : TopologyAssertion where
  subject := interface.port
  relationship := .attachedEndpoint
  objectLabel := endpoint.label
  objectIdentified := true
  evidenceClass := .observed
  source := .localHost
  confidence := .high
  detail := endpoint.detail
  observedAt := provider.observedAt
  deviceType := some .desktop

/-- Something is attached, and nothing identifies it. -/
def anonymousAssertion : TopologyAssertion :=
  let count := (provider.learned interface).length
  if count = 0 then
    { subject := interface.port, relationship := .attachedEndpoint, objectLabel := unidentified
      evidenceClass := .observed, source := .interfaceTelemetry, confidence := .medium
      detail := interface.port ++ " reports an active link, but no addresses have been learned through it yet and no " ++
        "neighbour announced itself."
      observedAt := provider.observedAt }
  else
    { subject := interface.port, relationship := .attachedEndpoint, objectLabel := unidentified
      evidenceClass := .observed, source := .macTable, confidence := .high
      detail := "The link on " ++ interface.port ++ " is up and " ++ Text.ofNat count ++ " address" ++
        (if count ≠ 1 then "es are" else " is") ++ " being learned through it, so a device is attached. Nothing " ++
        "identifies it: no neighbour announced itself on this interface."
      observedAt := provider.observedAt }

/-- The assertion without a topology, or where it has no endpoint for the port. -/
def observedWithout : TopologyAssertion :=
  match (Dict.get? provider.cdpByPort interface.port).getD [], (Dict.get? provider.lldpByPort interface.port).getD [],
    localMatch provider.localEndpoint interface.port with
  | neighbor :: _, _, _ => provider.cdpAssertion interface neighbor
  | [], neighbor :: _, _ => provider.lldpAssertion interface neighbor
  | [], [], some endpoint => provider.localAssertion interface endpoint
  | [], [], none => provider.anonymousAssertion interface

/-- `_observed_for`: a port that is down observes nothing. -/
def observedFor : Option TopologyAssertion :=
  if interfaceOperState interface.status ≠ "up" then none
  else
    match provider.topology with
    | none => some (provider.observedWithout interface)
    | some topology =>
      match endpointOn topology interface.port with
      | some endpoint => some (provider.endpointAssertion interface topology endpoint)
      | none => some (provider.observedWithout interface)

/-- The gateway is in this direction, if ARP and the address table agree. -/
def gatewayAssertion : Option TopologyAssertion :=
  let learned := provider.learned interface
  let gatewayMacs := (provider.arpEntries.filter fun entry => entry.ip = provider.defaultGateway).map (·.mac.lower)
  if !provider.defaultGateway.isEmpty && learned.any fun entry => gatewayMacs.elem entry.mac.lower then some {
    subject := interface.port, relationship := .gatewayPath
    objectLabel := "Default gateway " ++ provider.defaultGateway, evidenceClass := .inferred, source := .arp
    confidence := .medium
    detail := "The hardware address this switch has cached for its default gateway " ++ provider.defaultGateway ++
      " is currently learned through " ++ interface.port ++
      ". That places the gateway in this direction; it does not identify the device."
    observedAt := provider.observedAt }
  else none

def severalAssertion : Option TopologyAssertion :=
  let count := (provider.learned interface).length
  if 1 < count then some {
    subject := interface.port, relationship := .learnedBehind, objectLabel := Text.ofNat count ++ " addresses"
    evidenceClass := .observed, source := .macTable, confidence := .high
    detail := Text.ofNat count ++ " addresses are reachable through " ++ interface.port ++
      ". They sit behind the device on this port, not on the port itself."
    observedAt := provider.observedAt }
  else none

def randomisedAssertion : Option TopologyAssertion :=
  let count := ((provider.learned interface).filter fun entry => isLocallyAdministered entry.mac).length
  if 0 < count then some {
    subject := interface.port, relationship := .learnedBehind
    objectLabel := Text.ofNat count ++ " randomised address(es)", evidenceClass := .inferred, source := .macAddressForm
    confidence := .high
    detail := Text.ofNat count ++ " of the addresses learned through " ++ interface.port ++
      " are locally administered, meaning they were assigned by software rather than a manufacturer. No vendor can " ++
      "be inferred from them."
    observedAt := provider.observedAt }
  else none

/-- `_inferred_for` -/
def inferredFor : List TopologyAssertion :=
  (provider.gatewayAssertion interface).toList ++ (provider.severalAssertion interface).toList ++
    (provider.randomisedAssertion interface).toList

/-- `observed_by_interface` -/
def observedByInterface : Dict Text TopologyAssertion :=
  Dict.ofList (provider.interfaces.filterMap fun interface =>
    (provider.observedFor interface).map fun assertion => (interface.port, assertion))

/-- `inferred_by_interface` -/
def inferredByInterface : Dict Text (List TopologyAssertion) :=
  Dict.ofList (provider.interfaces.map fun interface => (interface.port, provider.inferredFor interface))

end CiscoIosEvidenceProvider

/-! ## What is expected -/

def IntentSource.authority : IntentSource → Nat
  | .userIntent => 0
  | .acceptedPlan => 1
  | .interfaceDescription => 2

/-- `IntentProvider` -/
structure IntentProvider where
  interfaces : List InterfaceStatus
  stored : Dict Text ExpectedRelationship

namespace IntentProvider

/-- `IntentProvider.__init__`: the relationship with the most authority counts, of equal ones the first. -/
def ofStored (interfaces : List InterfaceStatus) (stored : List ExpectedRelationship) : IntentProvider where
  interfaces := interfaces
  stored := stored.foldl (fun d relationship =>
    match Dict.get? d relationship.interface with
    | none => Dict.set d relationship.interface relationship
    | some existing =>
      if relationship.source.authority < existing.source.authority then Dict.set d relationship.interface relationship
      else d) []

variable (provider : IntentProvider)

/-- `_expected_for` -/
def expectedFor (interface : InterfaceStatus) : Option TopologyAssertion :=
  match Dict.get? provider.stored interface.port with
  | some stored =>
    let user := stored.source = .userIntent
    some {
      subject := interface.port, relationship := .expectedNeighbour, objectLabel := stored.expectedName
      evidenceClass := .expected, source := if user then .userIntent else .acceptedPlan
      confidence := if user then .high else .medium
      detail := if user then "You recorded that " ++ stored.expectedName ++ " should be on " ++ interface.port ++ "."
        else "An accepted plan expects " ++ stored.expectedName ++ " on " ++ interface.port ++ "."
      observedAt := stored.updatedAt.or stored.createdAt
      deviceType := stored.expectedDeviceType, vendor := stored.expectedVendor, model := stored.expectedModel }
  | none =>
    let description := interface.name.strip
    if meaningfulDescription description then
      let found := classifyDevice description
      some {
        subject := interface.port, relationship := .expectedNeighbour, objectLabel := description
        evidenceClass := .expected, source := .interfaceDescription, confidence := .low
        detail := "The switch's own description for " ++ interface.port ++ " reads " ++ Text.repr description ++
          ". That is documentation somebody configured, not something SwitchOps observed."
        deviceType := found.category, vendor := found.vendor, model := found.model }
    else none

/-- `suppressed_interfaces` -/
def suppressedInterfaces : List Text := (provider.stored.filter (·.2.suppressed)).map (·.1)

/-- `expected_by_interface` -/
def expectedByInterface : Dict Text TopologyAssertion :=
  Dict.ofList (provider.interfaces.filterMap fun interface =>
    (provider.expectedFor interface).map fun assertion => (interface.port, assertion))

end IntentProvider

/-! ## What the previous observation showed -/

structure PreviousInterfaceState where
  connected : Bool
  identity : Option Text := none
  learnedCount : Nat := 0
  observedAt : Option Nat := none
  deriving DecidableEq, Repr

/-- `_historical_for` -/
def PreviousInterfaceState.historical (state : PreviousInterfaceState) (port : Text) : TopologyAssertion :=
  let relationship : RelationshipKind := if state.connected then .attachedEndpoint else .expectedNeighbour
  match nonempty state.identity with
  | some identity =>
    { subject := port, relationship := relationship, objectLabel := identity, objectIdentified := true
      evidenceClass := .historical, source := .priorObservation, confidence := .medium
      detail := identity ++ " was the announced neighbour on " ++ port ++ " at the previous observation."
      observedAt := state.observedAt }
  | none =>
    { subject := port, relationship := relationship
      objectLabel := if state.connected then unidentified else "No link"
      evidenceClass := .historical, source := .priorObservation, confidence := .medium
      detail := if state.connected then port ++ " had an active link at the previous observation" ++
          (if state.learnedCount ≠ 0 then " (" ++ Text.ofNat state.learnedCount ++ " address(es) learned)." else ".")
        else port ++ " had no link at the previous observation."
      observedAt := state.observedAt }

/-- `historical_by_interface` -/
def historicalByInterface (previous : Dict Text PreviousInterfaceState) : Dict Text TopologyAssertion :=
  previous.map fun entry => (entry.1, entry.2.historical entry.1)

end SwitchOps.Topology

import SwitchOps.Models

/-!
# Topology records

The records of `models.py` from which the topology and its reconciliation are built. The assurance
snapshots read a part of them, under the same names outside this namespace.
-/

namespace SwitchOps.Topology

/-! ## Vocabulary -/

inductive DeviceType
  | router
  | switch
  | accessPoint
  | desktop
  | laptop
  | server
  | phone
  | tvMedia
  | printer
  | camera
  | unknown
  deriving DecidableEq, Repr

inductive InterfaceRole
  | uplink
  | access
  | unknown
  deriving DecidableEq, Repr

/-- What kind of knowledge a claim is. -/
inductive EvidenceClass
  | observed
  | expected
  | historical
  | inferred
  | unknown
  deriving DecidableEq, Repr

/-- Which concrete source produced a claim. -/
inductive EvidenceSource
  | cdp
  | lldp
  | localHost
  | macTable
  | arp
  | interfaceTelemetry
  | interfaceDescription
  | userIntent
  | acceptedPlan
  | priorObservation
  | macAddressForm
  | macOui
  | merakiApi
  | none
  deriving DecidableEq, Repr

def EvidenceSource.text : EvidenceSource → Text
  | .cdp => "cdp"
  | .lldp => "lldp"
  | .localHost => "local-host"
  | .macTable => "mac-table"
  | .arp => "arp"
  | .interfaceTelemetry => "interface-telemetry"
  | .interfaceDescription => "interface-description"
  | .userIntent => "user-intent"
  | .acceptedPlan => "accepted-plan"
  | .priorObservation => "prior-observation"
  | .macAddressForm => "mac-address-form"
  | .macOui => "mac-oui"
  | .merakiApi => "meraki-api"
  | .none => "none"

inductive Confidence
  | unknown
  | low
  | medium
  | high
  | confirmed
  deriving DecidableEq, Repr

inductive FreshnessState
  | current
  | aging
  | stale
  | historical
  deriving DecidableEq, Repr

/-- Ranked by authority: `user-intent` beats `accepted-plan`, which beats a description. -/
inductive IntentSource
  | userIntent
  | acceptedPlan
  | interfaceDescription
  deriving DecidableEq, Repr

inductive ReconciliationStatus
  | aligned
  | drift
  | expectedNotObserved
  | unexpected
  | uncertain
  | notApplicable
  deriving DecidableEq, Repr

def ReconciliationStatus.text : ReconciliationStatus → Text
  | .aligned => "aligned"
  | .drift => "drift"
  | .expectedNotObserved => "expected-not-observed"
  | .unexpected => "unexpected"
  | .uncertain => "uncertain"
  | .notApplicable => "not-applicable"

inductive DriftKind
  | identity
  | location
  | none
  deriving DecidableEq, Repr

def DriftKind.text : DriftKind → Text
  | .identity => "identity"
  | .location => "location"
  | .none => "none"

/-! ## Evidence -/

inductive EvidenceType
  | interfaceLink
  | interfaceDescription
  | cdpNeighbor
  | lldpNeighbor
  | macLearned
  | arpEntry
  | localHostMac
  | ouiVendor
  | userIntent
  | acceptedPlan
  | priorObservation
  deriving DecidableEq, Repr

def EvidenceType.text : EvidenceType → Text
  | .interfaceLink => "INTERFACE_LINK"
  | .interfaceDescription => "INTERFACE_DESCRIPTION"
  | .cdpNeighbor => "CDP_NEIGHBOR"
  | .lldpNeighbor => "LLDP_NEIGHBOR"
  | .macLearned => "MAC_LEARNED"
  | .arpEntry => "ARP_ENTRY"
  | .localHostMac => "LOCAL_HOST_MAC"
  | .ouiVendor => "OUI_VENDOR"
  | .userIntent => "USER_INTENT"
  | .acceptedPlan => "ACCEPTED_PLAN"
  | .priorObservation => "PRIOR_OBSERVATION"

/-- What a fact is allowed to establish. -/
structure EvidenceClaimSupport where
  existence : Bool := false
  identity : Bool := false
  attachment : Bool := false
  relationship : Bool := false
  role : Bool := false
  deriving DecidableEq, Repr

/-- One timestamped discovery fact; times are in microseconds. -/
structure DiscoveryEvidence where
  id : Text
  evidenceType : EvidenceType
  evidenceClass : EvidenceClass
  source : EvidenceSource
  deviceId : Text
  interface : Option Text := none
  entityId : Option Text := none
  observedValue : Option Text := none
  summary : Text
  observedAt : Nat
  freshness : FreshnessState := .current
  expiresAt : Option Nat := none
  strength : Confidence := .unknown
  establishes : EvidenceClaimSupport := {}
  relationship : Option RelationshipKind := none
  provenance : Text
  revoked : Bool := false
  deriving DecidableEq, Repr

inductive ConflictField
  | identity
  | vendor
  | model
  | category
  | attachment
  deriving DecidableEq, Repr

/-- A contradiction retained as evidence instead of silently resolved. -/
structure EvidenceConflict where
  field : ConflictField
  summary : Text
  evidenceIds : List Text := []
  deriving DecidableEq, Repr

/-! ## Observations -/

structure CdpNeighbor where
  remoteName : Text
  localInterface : Text := []
  remoteInterface : Option Text := none
  platform : Option Text := none
  capabilities : List Text := []
  ip : Option Text := none
  deriving DecidableEq, Repr

structure LldpNeighbor where
  remoteName : Text
  chassisId : Option Text := none
  localInterface : Text := []
  remoteInterface : Option Text := none
  systemDescription : Option Text := none
  capabilities : List Text := []
  ip : Option Text := none
  deriving DecidableEq, Repr

structure ArpEntry where
  ip : Text
  mac : Text
  ageMinutes : Option Nat := none
  interface : Text := []
  deriving DecidableEq, Repr

inductive LocalEndpointState
  | confirmed
  | ambiguous
  | notObserved
  | unavailable
  deriving DecidableEq, Repr

structure LocalEndpointStatus where
  state : LocalEndpointState
  interface : Option Text := none
  label : Text := "This SwitchOps PC"
  ip : Option Text := none
  detail : Text
  deriving DecidableEq, Repr

/-- What the operator, or an accepted plan, expects on an interface. -/
structure ExpectedRelationship where
  deviceId : Text
  interface : Text
  expectedName : Text
  expectedDeviceType : DeviceType := .unknown
  expectedVendor : Option Text := none
  expectedModel : Option Text := none
  source : IntentSource := .userIntent
  suppressed : Bool := false
  createdAt : Option Nat := none
  updatedAt : Option Nat := none
  deriving DecidableEq, Repr

/-! ## The topology -/

inductive ClassificationStage
  | unknown
  | category
  | vendor
  | model
  deriving DecidableEq, Repr

inductive EvidenceLevel
  | unknown
  | observedOnPort
  | direct
  deriving DecidableEq, Repr

/-- `NetworkDevice`, its display strings and capabilities aside. -/
structure NetworkDevice where
  id : Text
  type : DeviceType
  vendor : Option Text := none
  model : Option Text := none
  name : Text
  mac : Option Text := none
  ip : Option Text := none
  confidence : Confidence
  classificationStage : ClassificationStage
  online : Bool
  connectedInterface : Option Text := none
  lastSeen : Option Nat := none
  evidenceLevel : EvidenceLevel := .unknown
  identitySource : IdentitySource := .none
  expectedName : Option Text := none
  expectedType : Option DeviceType := none
  learnedMacCount : Nat := 0
  role : InterfaceRole := .unknown
  existenceState : ExistenceState := .observed
  existenceConfidence : Confidence := .unknown
  identityConfidence : Confidence := .unknown
  freshness : FreshnessState := .current
  relationship : Option RelationshipKind := none
  firstSeen : Option Nat := none
  macAddresses : List Text := []
  ipAddresses : List Text := []
  observedCategory : DeviceType := .unknown
  expectedCategory : Option DeviceType := none
  evidenceIds : List Text := []
  conflicts : List EvidenceConflict := []
  historicalIdentity : Option Text := none
  deriving DecidableEq, Repr

/-- `NetworkInterface`, its line settings aside. -/
structure NetworkInterface where
  id : Text
  deviceId : Text
  port : Text
  description : Text := []
  adminState : Text
  operState : Text
  role : InterfaceRole := .unknown
  learnedMacCount : Nat := 0
  expectedName : Option Text := none
  expectedCategory : Option DeviceType := none
  expectedVendor : Option Text := none
  expectedModel : Option Text := none
  expectedSource : Option IntentSource := none
  evidenceIds : List Text := []
  deriving DecidableEq, Repr

inductive LinkStatus
  | up
  | down
  | waiting
  | unknown
  deriving DecidableEq, Repr

/-- `NetworkLink`, its display strings aside. -/
structure NetworkLink where
  id : Text
  fromDeviceId : Text
  fromInterface : Text
  toDeviceId : Text
  toInterface : Option Text := none
  status : LinkStatus
  confidence : Confidence
  evidenceLevel : EvidenceLevel := .unknown
  learnedMacCount : Nat := 0
  relationship : RelationshipKind := .attachedEndpoint
  freshness : FreshnessState := .current
  evidenceIds : List Text := []
  deriving DecidableEq, Repr

structure TopologyExpectation where
  interface : Text
  name : Text
  deviceType : DeviceType := .unknown
  vendor : Option Text := none
  model : Option Text := none
  source : IntentSource := .interfaceDescription
  confidence : Confidence := .low
  evidenceIds : List Text := []
  deriving DecidableEq, Repr

structure TopologyModel where
  generatedAt : Nat
  rootDeviceId : Text
  devices : List NetworkDevice
  interfaces : List NetworkInterface := []
  links : List NetworkLink
  evidence : List DiscoveryEvidence := []
  expectations : List TopologyExpectation := []
  historicalDevices : List NetworkDevice := []
  deriving DecidableEq, Repr

/-! ## Claims -/

/-- One claim, by one source, about one interface, at one time. -/
structure TopologyAssertion where
  subject : Text
  relationship : RelationshipKind
  objectLabel : Text
  objectIdentified : Bool := false
  evidenceClass : EvidenceClass
  source : EvidenceSource
  confidence : Confidence
  detail : Text
  observedAt : Option Nat := none
  freshness : FreshnessState := .current
  evidenceIds : List Text := []
  conflicted : Bool := false
  conflictReasons : List Text := []
  deviceType : Option DeviceType := none
  vendor : Option Text := none
  model : Option Text := none
  deriving DecidableEq, Repr

/-- A device observed by some source other than this switch. -/
structure ExternalSighting where
  label : Text
  observedLocation : Text
  source : EvidenceSource := .merakiApi
  confidence : Confidence := .medium
  observedAt : Option Nat := none
  detail : Text := []
  deriving DecidableEq, Repr

structure InterfaceReconciliation where
  interface : Text
  status : ReconciliationStatus
  driftKind : DriftKind := .none
  headline : Text
  explanation : Text
  observed : Option TopologyAssertion := none
  expected : Option TopologyAssertion := none
  historical : Option TopologyAssertion := none
  inferred : List TopologyAssertion := []
  changedSincePrevious : Bool := false
  changeSummary : Option Text := none
  assertions : List TopologyAssertion := []
  documentationStale : Bool := false
  deriving DecidableEq, Repr

end SwitchOps.Topology

import SwitchOps.Unified.Protection

/-!
# The Catalyst evidence adapter

`catalyst_evidence_adapter.py`: the dashboard of the switch as entities and claims. The switch itself
is one entity, and every device of its topology another one.
-/

namespace SwitchOps

structure SwitchSummary where
  hostname : Text
  model : Text
  serial : Option Text
  managementIp : Text
  deriving DecidableEq, Repr

/-- A device of the topology, with what the adapter reads beside its place in the topology. -/
structure DashboardDevice extends NetworkDevice where
  type : Text := "unknown"
  model : Option Text := none
  ip : Option Text := none
  ipAddresses : List Text := []
  freshness : Text := "current"
  deriving DecidableEq, Repr

structure LldpNeighbor where
  remoteName : Text
  chassisId : Option Text := none
  localInterface : Text := []
  remoteInterface : Option Text := none
  deriving DecidableEq, Repr

/-- The parts of `DashboardResponse` that become evidence. -/
structure CatalystDashboard where
  summary : SwitchSummary
  rootDeviceId : Text
  devices : List DashboardDevice
  lldpNeighbors : List LldpNeighbor
  deriving DecidableEq, Repr

/-- `_freshness`. -/
def evidenceFreshness (value : Text) : EvidenceFreshness :=
  if value = "aging".toList then .aging
  else if value = "stale".toList then .stale
  else if value = "historical".toList then .historical
  else .current

/-- `_lldp_by_interface`. -/
def lldpByInterface (dashboard : CatalystDashboard) : Dict Text LldpNeighbor :=
  Dict.ofList ((dashboard.lldpNeighbors.filter fun neighbor => !neighbor.localInterface.isEmpty).map
    fun neighbor => (neighbor.localInterface, neighbor))

/-- `value or fallback`. -/
def orElse (value : Option Text) (fallback : Text) : Text :=
  match value with
  | none | some [] => fallback
  | some text => text

section adapter

variable [Protector] [Digest]

/-- An identifier, unless there is nothing to protect. -/
def identifierOf (kind : IdentifierKind) (strength : EvidenceStrength) (ref : Text)
    (value : Option Text) (globallyAdministered : Option Bool := none) : List ProviderIdentifier :=
  value.toList.map fun protectedValue => {
    kind := kind, protectedValue := protectedValue, strength := strength
    globallyAdministered := globallyAdministered, provenanceRef := ref }

/-- The entity of the switch itself, and the claims about it. -/
def normalizeRoot (dashboard : CatalystDashboard) (rootDevice : DashboardDevice) :
    ProviderEntity × List NormalizedClaim :=
  let summary := dashboard.summary
  let ref := providerRef .catalystIos "device" rootDevice.id
  let claims := [
    claimOf .catalystIos ref .existence (.bool true),
    claimOf .catalystIos ref .availability (.text "online"),
    claimOf .catalystIos ref .name (.text summary.hostname),
    claimOf .catalystIos ref .model (.text summary.model),
    claimOf .catalystIos ref .category (.text "switch")]
  ({ id := ref
     provider := .catalystIos
     label := summary.hostname
     category := "switch"
     identifiers :=
      identifierOf .serial .strong ref (protectSerial (orElse summary.serial []))
        ++ identifierOf .managementAddress .supporting ref
          (protectManagementAddress summary.managementIp)
        ++ identifierOf .name .weak ref (protect "name" (normalizedName summary.hostname))
        ++ identifierOf .model .weak ref (protect "model" (normalizedName summary.model))
     claimIds := claims.map (·.id)
     freshness := .current }, claims)

/-- The token of the link to a neighbour, as the switch names its two ends. -/
def neighborToken (dashboard : CatalystDashboard) (lldp : LldpNeighbor) : Option Text :=
  reciprocalAdjacencyToken dashboard.summary.hostname lldp.localInterface lldp.remoteName
    (orElse lldp.remoteInterface "unknown")

/-- `_normalize_neighbor`. -/
def normalizeNeighbor (dashboard : CatalystDashboard) (root : ProviderEntity)
    (device : DashboardDevice) (lldp : Option LldpNeighbor) :
    ProviderEntity × List NormalizedClaim :=
  let ref := providerRef .catalystIos "topology-entity" device.id
  let freshness := evidenceFreshness device.freshness
  let identified := device.identitySource ≠ .none ∧ device.identitySource ≠ .interfaceDescription
  let addresses :=
    if device.ipAddresses.isEmpty then device.ip.toList.filter (!·.isEmpty) else device.ipAddresses
  let identifiers :=
    (if identified ∧ !device.name.isEmpty then
      identifierOf .name .weak ref (protect "name" (normalizedName device.name)) else [])
    ++ (device.model.toList.filter (!·.isEmpty)).flatMap (fun model =>
      identifierOf .model .weak ref (protect "model" (normalizedName model)))
    ++ addresses.flatMap (fun address =>
      identifierOf .managementAddress .supporting ref (protectManagementAddress address))
    ++ lldp.toList.flatMap (fun lldp =>
      identifierOf .chassisMac .strong ref (protectHardwareMac (orElse lldp.chassisId [])) (some true)
        ++ identifierOf .reciprocalAdjacency .supporting ref (neighborToken dashboard lldp))
  let claims := [
    claimOf .catalystIos ref .existence (.bool true) none freshness,
    claimOf .catalystIos ref .name (.text device.name) none freshness,
    claimOf .catalystIos ref .category (.text device.type) none freshness]
    ++ (device.model.toList.filter (!·.isEmpty)).map (fun model =>
      claimOf .catalystIos ref .model (.text model) none freshness)
    ++ (device.connectedInterface.toList.filter (!·.isEmpty)).flatMap (fun connected => [
      claimOf .catalystIos ref .attachment (.text connected) (some root.id) freshness,
      claimOf .catalystIos root.id .relationship (.text connected) (some ref) freshness])
  ({ id := ref
     provider := .catalystIos
     label := device.name
     category := device.type
     identifiers := identifiers
     claimIds := claims.map (·.id)
     freshness := freshness }, claims)

/-- The row of the neighbour table that belongs to a device of the topology. -/
def lldpOf (dashboard : CatalystDashboard) (device : DashboardDevice) : Option LldpNeighbor :=
  Dict.get? (lldpByInterface dashboard) (orElse device.connectedInterface [])

/-- `normalize_catalyst_dashboard`. -/
def normalizeCatalystDashboard (dashboard : CatalystDashboard) :
    List ProviderEntity × List NormalizedClaim :=
  match dashboard.devices.find? fun item => item.id = dashboard.rootDeviceId with
  | none => ([], [])
  | some rootDevice =>
    let root := normalizeRoot dashboard rootDevice
    let neighbors := (dashboard.devices.filter fun device => device.id ≠ rootDevice.id).map
      fun device => normalizeNeighbor dashboard root.1 device (lldpOf dashboard device)
    (root.1 :: neighbors.map (·.1), root.2 ++ neighbors.flatMap (·.2))

end adapter

end SwitchOps

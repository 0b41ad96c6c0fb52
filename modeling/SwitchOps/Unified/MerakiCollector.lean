import SwitchOps.Unified.CatalystAdapter

/-!
# The Meraki collector

`meraki_collector.py`: what the Meraki Dashboard answers as entities and claims. The devices of the
network are entities, and so are the neighbours they hear by LLDP or CDP and the recent clients.
-/

namespace SwitchOps

/-! ## The answers of the dashboard -/

structure RawDevice where
  serial : RawField
  networkId : RawField
  name : RawField
  model : RawField := none
  productType : RawField := none
  mac : RawField := none
  lanIp : RawField := none
  deriving DecidableEq, Repr

/-- A neighbour as one protocol describes it. -/
structure RawNeighbor where
  systemName : RawField := none
  deviceId : RawField := none
  portId : RawField := none
  portIdSubtype : RawField := none
  port : RawField := none
  chassisId : RawField := none
  managementAddress : RawField := none
  address : RawField := none
  deriving DecidableEq, Repr

/-- What is heard on a port. -/
structure RawObservation where
  lldp : Option RawNeighbor := none
  cdp : Option RawNeighbor := none
  deriving DecidableEq, Repr

structure RawUplink where
  interface : RawField
  status : RawField
  deriving DecidableEq, Repr

structure RawAppliancePort where
  number : RawField
  type : RawField
  vlan : RawField
  deriving DecidableEq, Repr

structure RawSwitchPort where
  portId : RawField
  status : RawField
  deriving DecidableEq, Repr

structure RawClient where
  mac : RawField
  recentDeviceSerial : RawField := none
  deviceSerial : RawField := none
  deriving DecidableEq, Repr

/-- The answers to one collection: `devices` is absent if the inventory could not be read, and what
failed otherwise is empty. Availability, uplinks, neighbours and ports are by serial. -/
structure MerakiAnswers where
  networkId : Text
  devices : Option (List RawDevice)
  availabilities : List (Text × RawField) := []
  uplinks : List (Text × List RawUplink) := []
  appliancePorts : List RawAppliancePort := []
  lldpCdp : Text → List (Text × RawObservation)
  switchPorts : Text → List RawSwitchPort := fun _ => []
  clients : List RawClient := []

/-- `_category`. -/
def merakiCategory (productType model : Text) : Text :=
  let product := Text.lower productType
  let upperModel := Text.upper model
  if product = "wireless".toList ∨ Text.startsWith upperModel "MR" then "access-point"
  else if product = "appliance".toList ∨ Text.startsWith upperModel "MX"
      ∨ Text.startsWith upperModel "Z" then "security-appliance"
  else if product = "switch".toList ∨ Text.startsWith upperModel "MS" then "switch"
  else "unknown"

section collector

variable [Protector] [Digest]

/-! ## Devices -/

/-- `_normalize_device`. -/
def normalizeDevice (answers : MerakiAnswers) (raw : RawDevice) :
    Option (ProviderEntity × List NormalizedClaim) :=
  match safeText raw.serial [] 128 with
  | [] => none
  | serial =>
    let ref := providerRef .merakiDashboard "device" serial
    let name := safeText raw.name "Unnamed Meraki device"
    let model := safeText raw.model "Unknown model" 80
    let category := merakiCategory (safeText raw.productType "unknown" 40) model
    let status := Dict.get? (Dict.ofList (answers.availabilities.filter (!·.1.isEmpty)))
      raw.serial.text
    let uplinks := (Dict.get? (Dict.ofList (answers.uplinks.filter (!·.1.isEmpty)))
      raw.serial.text).getD []
    let ports := if category = "security-appliance".toList then answers.appliancePorts else []
    let claims := [
      claimOf .merakiDashboard ref .existence (.bool true),
      claimOf .merakiDashboard ref .name (.text name),
      claimOf .merakiDashboard ref .model (.text model),
      claimOf .merakiDashboard ref .category (.text category)]
      ++ status.toList.map (fun status => claimOf .merakiDashboard ref .availability
        (.text (Text.lower (safeText status "unknown" 32))))
      ++ uplinks.map (fun uplink => claimOf .merakiDashboard ref .uplink
        (.text (safeText uplink.interface "uplink" 40 ++ ":"
          ++ Text.lower (safeText uplink.status "unknown" 32))))
      ++ ports.map (fun port => claimOf .merakiDashboard ref .port
        (.text ("port " ++ safeText port.number "unknown" 12 ++ ": "
          ++ safeText port.type "unknown" 20
          ++ if port.vlan.isSome then " vlan " ++ safeText port.vlan "unknown" 8 else [])))
    some ({
      id := ref
      provider := .merakiDashboard
      label := name
      category := category
      identifiers :=
        identifierOf .serial .strong ref (protectSerial serial)
          ++ identifierOf .deviceMac .strong ref (protectHardwareMac raw.mac.text) (some true)
          ++ identifierOf .managementAddress .supporting ref
            (protectManagementAddress raw.lanIp.text)
          ++ identifierOf .name .weak ref (protect "name" (normalizedName name))
          ++ identifierOf .model .weak ref (protect "model" (normalizedName model))
      claimIds := claims.map (·.id)
      freshness := .current }, claims)

/-! ## Neighbours -/

/-- One neighbour heard on a port of a device. -/
structure Sighting where
  localPort : Text
  neighbor : RawNeighbor
  deriving DecidableEq, Repr

/-- The loops over the ports and the two protocols. -/
def sightingsOf (payload : List (Text × RawObservation)) : List Sighting :=
  payload.flatMap fun port =>
    (port.2.lldp.toList ++ port.2.cdp.toList).map fun neighbor => ⟨port.1, neighbor⟩

def Sighting.neighborName (sighting : Sighting) : Text :=
  safeText (sighting.neighbor.systemName.or sighting.neighbor.deviceId) "Unidentified neighbour"

def Sighting.neighborPort (sighting : Sighting) : Text :=
  safeText ((sighting.neighbor.portId.or sighting.neighbor.portIdSubtype).or sighting.neighbor.port)
    "unknown" 80

/-- `object_ref`: the entity of the neighbour. -/
def Sighting.objectRef (sighting : Sighting) : Text :=
  providerRef .merakiDashboard "adjacent-entity"
    (orElse (sighting.neighbor.chassisId.or sighting.neighbor.deviceId) sighting.neighborName)

/-- The name under which a device speaks of itself. -/
def reporterName (entity : ProviderEntity) (raw : RawDevice) : Text := safeText raw.name entity.label

/-- The token of the link, as the reporting device names its two ends. -/
def Sighting.token (sighting : Sighting) (entity : ProviderEntity) (raw : RawDevice) : Option Text :=
  reciprocalAdjacencyToken (reporterName entity raw)
    (safeText (some sighting.localPort) "unknown" 80) sighting.neighborName sighting.neighborPort

/-- The identifiers that the token of the link becomes. -/
def adjacencyIdentifiers (ref : Text) (token : Option Text) : List ProviderIdentifier :=
  identifierOf .reciprocalAdjacency .supporting ref token

/-- The entity of a neighbour, and the claims about it. -/
def normalizeSighting (entity : ProviderEntity) (raw : RawDevice) (sighting : Sighting) :
    ProviderEntity × List NormalizedClaim :=
  let neighbor := sighting.neighbor
  let ref := sighting.objectRef
  let relationship := claimOf .merakiDashboard entity.id .relationship
    (.text (safeText (some sighting.localPort) "unknown" 80 ++ "->" ++ sighting.neighborPort))
    (some ref)
  let existence := claimOf .merakiDashboard ref .existence (.bool true)
  ({ id := ref
     provider := .merakiDashboard
     label := sighting.neighborName
     category := "unknown"
     identifiers :=
      identifierOf .name .weak ref (protect "name" (normalizedName sighting.neighborName))
        ++ identifierOf .chassisMac .strong ref (protectHardwareMac neighbor.chassisId.text)
          (some true)
        ++ identifierOf .managementAddress .supporting ref
          (protectManagementAddress (neighbor.managementAddress.or neighbor.address).text)
        ++ adjacencyIdentifiers ref (sighting.token entity raw)
     claimIds := [existence.id]
     freshness := .current }, [relationship, existence])

/-- `_normalize_lldp_cdp`: the identifiers that the reporting entity gets, the neighbours and the
claims. -/
def normalizeLldpCdp (entity : ProviderEntity) (raw : RawDevice)
    (payload : List (Text × RawObservation)) :
    List ProviderIdentifier × List ProviderEntity × List NormalizedClaim :=
  let sightings := sightingsOf payload
  let normalized := sightings.map (normalizeSighting entity raw)
  (sightings.flatMap fun sighting => adjacencyIdentifiers entity.id (sighting.token entity raw),
    normalized.map (·.1), normalized.flatMap (·.2))

/-! ## Ports and clients -/

/-- `_normalize_switch_ports`. -/
def normalizeSwitchPorts (entity : ProviderEntity) (items : List RawSwitchPort) :
    List NormalizedClaim :=
  items.map fun item => claimOf .merakiDashboard entity.id .port
    (.text ("port " ++ safeText item.portId "unknown" 40 ++ ": "
      ++ safeText item.status "unknown" 32))

/-- `_normalize_clients`, a client at a time: their addresses are used once to make a token. -/
def normalizeClient (reporter : Text → Option ProviderEntity) (item : RawClient) :
    Option (ProviderEntity × NormalizedClaim) :=
  let rawMac := item.mac.text
  match reporter (item.recentDeviceSerial.or item.deviceSerial).text with
  | none => none
  | some reporter =>
    if rawMac.isEmpty then none
    else
      let token := protect "ephemeral-client" rawMac
      let ref := "meraki-dashboard:recent-client:" ++ lastPart token
      let attachment := claimOf .merakiDashboard ref .attachment (.text "recently-observed")
        (some reporter.id)
      some ({
        id := ref
        provider := .merakiDashboard
        label := "Recent client " ++ token.drop (token.length - 6)
        category := "client"
        identifiers := []
        claimIds := [attachment.id]
        freshness := .current }, attachment)

/-! ## One collection -/

/-- The entities listed so far, and the claims. -/
structure Collected where
  entities : List ProviderEntity
  claims : List NormalizedClaim
  deriving DecidableEq, Repr

/-- A neighbour is listed unless one of its name is. -/
def addAdjacent (entities : List ProviderEntity) (adjacent : ProviderEntity) :
    List ProviderEntity :=
  if entities.any fun existing => existing.id = adjacent.id then entities
  else entities ++ [adjacent]

/-- The loop over the devices for their neighbours and ports. `positions` says where the entity of a
serial is listed: the entity itself gets the tokens of its links. -/
def collectAdjacency (answers : MerakiAnswers) (positions : Dict Text Nat) :
    List RawDevice → Collected → Collected
  | [], collected => collected
  | raw :: rest, collected =>
    let serial := raw.serial.text
    match (Dict.get? positions serial).bind (collected.entities[·]?), Dict.get? positions serial with
    | some entity, some position =>
      let (tokens, adjacents, claims) := normalizeLldpCdp entity raw (answers.lldpCdp serial)
      let entities := collected.entities.modify position fun entity =>
        { entity with identifiers := entity.identifiers ++ tokens }
      let ports := if entity.category = "switch".toList then
        normalizeSwitchPorts entity (answers.switchPorts serial) else []
      collectAdjacency answers positions rest {
        entities := adjacents.foldl addAdjacent entities
        claims := collected.claims ++ claims ++ ports }
    | _, _ => collectAdjacency answers positions rest collected

/-- The devices of the selected network. -/
def rawDevices (answers : MerakiAnswers) : List RawDevice :=
  (answers.devices.getD []).filter fun item => item.networkId.text = answers.networkId

/-- `MerakiEvidenceCollector.collect`. -/
def collect (answers : MerakiAnswers) : Collected :=
  let normalized := (rawDevices answers).filterMap fun raw =>
    (normalizeDevice answers raw).map (raw.serial.text, ·)
  let positions := Dict.ofList ((normalized.map (·.1)).zipIdx.filter (!·.1.isEmpty))
  let collected := collectAdjacency answers positions (rawDevices answers) {
    entities := normalized.map (·.2.1), claims := normalized.flatMap (·.2.2) }
  let clients := answers.clients.filterMap (normalizeClient fun serial =>
    (Dict.get? positions serial).bind (collected.entities[·]?))
  { entities := collected.entities ++ clients.map (·.1)
    claims := collected.claims ++ clients.map (·.2) }

end collector

end SwitchOps

import SwitchOps.Operations

/-!
# Assurance snapshots

`capture_assurance_snapshot`: normalized proof of the state of a target and of its surroundings,
from fresh command output and from the cached observations of the context.
-/

namespace SwitchOps

open Effects Effects.Program

/-- `interface_admin_state`. -/
def interfaceAdminState (status : Text) : Text :=
  let value := status.strip.lower
  if value = "disabled" then "down" else if value.isEmpty then "unknown" else "up"

/-- The lines `configuration_fingerprint` leaves out: comments, and what changes by itself. -/
def isVolatileLine (stripped : Text) : Bool :=
  stripped.isEmpty || Text.startsWith stripped "!" ||
    Text.startsWith stripped "Current configuration" || Text.startsWith stripped "Using " ||
    Text.startsWith stripped "Building configuration" ||
    Text.startsWith stripped "ntp clock-period"

/-- `configuration_fingerprint`. -/
def configurationFingerprint [Digest] (text : Text) : Text :=
  Digest.sha256 (Text.join "\n" ((text.splitlines.map Text.strip).filter fun line =>
    !isVolatileLine line))

/-- `_entity_key`: a learned address, without the address. -/
def entityKey [Digest] (mac : Text) : Text :=
  let hex : Text := "0123456789abcdef"
  "learned-" ++ (Digest.sha256 (mac.lower.filter hex.elem)).take 16

/-- `_safe_value`. -/
def safeValue (kind : OperationKind) (value : Option Text) : Except Exn (Option Text) :=
  if (operationSpec kind).needsValue then (sanitizeDescription (value.getD [])).map some
  else if (value.getD []).isEmpty then .ok none
  else .error (.commandNotAllowed (kind.text.repr ++ " does not accept a value."))

/-! ## Device observations -/

/-- What the six commands of a snapshot said. -/
structure Observations where
  interfaces : List InterfaceStatus
  poe : List PoePort
  errors : List InterfaceErrorCounters
  macEntries : List MacTableEntry
  running : Text
  startup : Text

namespace Observations

variable (seen : Observations)

/-- `poe_by_port`: of several rows the last counts. -/
def poeByPort (port : Text) : Option PoePort :=
  Dict.get? (Dict.ofList (seen.poe.map fun item => (item.interface.lower, item))) port.lower

/-- `error_by_port`. -/
def errorByPort (port : Text) : Int :=
  (Dict.get? (Dict.ofList (seen.errors.map fun item => (item.port.lower, item.total)))
    port.lower).getD 0

/-- `learned_by_port`: the addresses learned on a port, the switch's own aside. -/
def learnedByPort [Digest] (port : Text) : List Text :=
  (seen.macEntries.filter fun entry =>
    !(entry.port.upper = ("CPU" : Text) || entry.vlan.lower = ("all" : Text))
      && entry.port.lower = port.lower).map fun entry => entityKey entry.mac

/-- `interface_snapshot`. The target's description and PoE policy come from its configuration. -/
def interfaceSnapshot [Digest] (targetShort : Text) (configState : Option InterfaceConfig)
    (item : InterfaceStatus) : Except Exn AssuranceInterfaceSnapshot := do
  let canonical ← normalizeInterface item.port
  let port ← shortInterface canonical
  let poeItem := seen.poeByPort port
  let targetConfig := if port.lower = targetShort.lower then configState else none
  return {
    port := port, present := true, adminState := interfaceAdminState item.status,
    operState := if item.status.strip.lower = "connected" then "up" else "down",
    description := match targetConfig with
      | some config => config.description
      | none => item.name,
    vlan := item.vlan, speed := item.speed, duplex := item.duplex,
    poeAdmin := match targetConfig, poeItem with
      | some config, _ => config.poeAdmin
      | none, some poe => poe.admin
      | none, none => "unknown",
    poeOper := match poeItem with
      | some poe => poe.oper
      | none => "unknown",
    errorTotal := seen.errorByPort port,
    learnedMacCount := (seen.learnedByPort port).dedup.length }

end Observations

/-! ## Cached observations -/

/-- `str(x or "").lower() == target_short.lower()`. -/
def sameInterface (interface : Option Text) (targetShort : Text) : Bool :=
  (interface.getD []).lower = targetShort.lower

/-- `_target_health`: the worst severity among the reasons for the target. -/
def targetHealth (health : Option HealthAssessment) (interface : Text) : Text :=
  let ranked : List (Text × Int) :=
    [("HEALTHY", 0), ("NOTICE", 1), ("ATTENTION", 2), ("CRITICAL", 3)]
  let rank (state : Text) : Int := (Dict.get? ranked state).getD (-1)
  match health with
  | none => "UNKNOWN"
  | some health => health.reasons.foldl (fun state reason =>
      if !sameInterface reason.interface interface then state
      else
        let severity : Text := if reason.severity.isEmpty then "UNKNOWN" else reason.severity
        if rank state < rank severity.upper then severity.upper else state) "HEALTHY"

namespace AssuranceContext

variable (context : AssuranceContext) (targetShort : Text)

def links : List NetworkLink := (context.topology.map (·.links)).getD []
def devices : List NetworkDevice := (context.topology.map (·.devices)).getD []

/-- `topology_target`. -/
def topologyTarget : Option NetworkInterface :=
  ((context.topology.map (·.interfaces)).getD []).find? fun item =>
    sameInterface (some item.port) targetShort

/-- `target_links`. -/
def targetLinks : List NetworkLink :=
  context.links.filter fun link => sameInterface (some link.fromInterface) targetShort

/-- The devices that are still there, on the target. -/
def targetDevices : List NetworkDevice :=
  context.devices.filter fun device => sameInterface device.connectedInterface targetShort
    && device.existenceState ≠ .historical

/-- `attached`. -/
def attached : List Text :=
  ((context.targetLinks targetShort).filter fun link =>
      (link.relationship = .attachedEndpoint || link.relationship = .directNeighbour)
        && !link.toDeviceId.isEmpty).map (·.toDeviceId)
    ++ ((context.targetDevices targetShort).filter fun device => !device.id.isEmpty).map (·.id)

/-- `local_host_correlated`. -/
def localHostCorrelated : Bool :=
  (context.targetDevices targetShort).any fun device =>
    device.identitySource = .localHost || device.name.strip.lower = ("this switchops pc" : Text)

/-- The entities that links say are learned behind the target. -/
def learnedBehind : List Text :=
  ((context.targetLinks targetShort).filter fun link =>
    link.relationship = .learnedBehind && !link.toDeviceId.isEmpty).map (·.toDeviceId)

/-- `reconciliation_target`. -/
def reconciliationTarget : Option InterfaceReconciliation :=
  ((context.reconciliation.map (·.interfaces)).getD []).find? fun item =>
    sameInterface (some item.interface) targetShort

/-- `evidence_ids`. -/
def evidenceIds : List Text :=
  ((context.topologyTarget targetShort).map (·.evidenceIds)).getD []
    ++ (context.targetLinks targetShort).flatMap (·.evidenceIds)

/-- The digest of `other_topology`. -/
def otherTopologyFingerprint [Digest] : Text :=
  Digest.fingerprint
    (context.links.filter fun link => !sameInterface (some link.fromInterface) targetShort)
    (context.devices.filter fun device => !sameInterface device.connectedInterface targetShort)

/-- `value or default`. -/
def orDefault (value : Option Text) (default : Text) : Text :=
  match value with
  | some text => if text.isEmpty then default else text
  | none => default

/-- The topology part of a snapshot; `learned` are the addresses the switch learned on the
target. -/
def topologySnapshot [Digest] (learned : List Text) : AssuranceTopologySnapshot where
  relationships := Text.sortedSet ((context.targetLinks targetShort).map (·.relationship.text))
  attachedEntityIds := Text.sortedSet (context.attached targetShort)
  learnedBehindEntityIds := Text.sortedSet
    ((learned ++ context.learnedBehind targetShort).filter fun id =>
      !(context.attached targetShort).elem id)
  expectedRelationship := (context.topologyTarget targetShort).bind (·.expectedName)
  reconciliationState := (context.reconciliationTarget targetShort).map (·.status)
  targetRole := orDefault ((context.topologyTarget targetShort).map (·.role)) "unknown"
  localHostCorrelated := context.localHostCorrelated targetShort
  otherTopologyFingerprint := context.otherTopologyFingerprint targetShort

end AssuranceContext

/-! ## Capture -/

/-- The commands of a snapshot, in order. -/
def observeDevice (client : Client) (actor : Text) : Action Observations := do
  let status ← runAndAudit client .showInterfacesStatus actor
  let interfaces ← orRaise (parseInterfaceStatus status)
  let poe ← runAndAudit client .showPowerInline actor
  let errors ← runAndAudit client .showInterfacesCountersErrors actor
  let macTable ← runAndAudit client .showMacAddressTable actor
  let running ← runAndAudit client .showRunningConfig actor
  let startup ← runAndAudit client .showStartupConfig actor
  return {
    interfaces := interfaces, poe := parsePoe poe, errors := parseInterfaceErrors errors,
    macEntries := parseMacTable macTable, running := running, startup := startup }

/-- The snapshot of what was observed. -/
def assembleSnapshot [Digest] (seen : Observations) (deviceId canonical targetShort : Text)
    (kind : OperationKind) (context : AssuranceContext) (capturedAt : Nat) :
    Except Exn AssuranceSnapshot := do
  let configState := interfaceConfig seen.running canonical
  let rollback := configState.bind (rollbackCommands kind canonical)
  let normalized ← seen.interfaces.mapM (seen.interfaceSnapshot targetShort configState)
  let target := (normalized.find? fun item => item.port.lower = targetShort.lower).getD
    { port := targetShort, present := false }
  return {
    capturedAt := capturedAt, deviceId := deviceId, targetInterface := targetShort,
    configuration := {
      runningFingerprint := configurationFingerprint seen.running
      startupFingerprint := configurationFingerprint seen.startup
      runningDiffersFromStartup :=
        configurationFingerprint seen.running ≠ configurationFingerprint seen.startup
      rollbackRepresentable := rollback.isSome },
    target := target,
    otherInterfaces := normalized.filter fun item => item.port.lower ≠ targetShort.lower,
    topology := context.topologySnapshot targetShort (seen.learnedByPort targetShort),
    health := {
      connectionState := AssuranceContext.orDefault context.connection "unknown"
      deviceHealth := AssuranceContext.orDefault (context.health.map (·.state)) "UNKNOWN"
      targetHealth := targetHealth context.health targetShort
      targetErrorTotal := target.errorTotal },
    evidence := {
      topologyObservedAt := context.topology.map (·.generatedAt)
      freshness := AssuranceContext.orDefault
        ((context.topologyTarget targetShort).map (·.freshness)) "unknown"
      evidenceIds := Text.sortedSet (context.evidenceIds targetShort) } }

/-- `capture_assurance_snapshot`. -/
def captureAssuranceSnapshot [Digest] (client : Client) (deviceId interface : Text)
    (kind : OperationKind) (value : Option Text) (context : AssuranceContext) :
    Action AssuranceSnapshot := do
  let canonical ← orRaise (normalizeInterface interface)
  let targetShort ← orRaise (shortInterface canonical)
  let _ ← orRaise (safeValue kind value)
  let seen ← observeDevice client "operator"
  let capturedAt ← quietly now
  orRaise (assembleSnapshot seen deviceId canonical targetShort kind context capturedAt)

end SwitchOps

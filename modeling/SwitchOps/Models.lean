import SwitchOps.Lib.Text

/-!
# Errors and records

The exceptions of `errors.py` and the records of `models.py` that the write path and the
assurance snapshots are built from.
-/

namespace SwitchOps

/-! ## Exceptions -/

/-- The subclasses of `SwitchOpsError`. -/
inductive ErrorClass
  | switchOps
  | commandNotAllowed
  | protectedInterface
  | writeActionsDisabled
  | credentialsMissing
  | switchConnection
  | hostKeyChanged
  | legacySshNegotiation
  deriving DecidableEq, Repr

/-- The class attribute `code`. -/
def ErrorClass.code : ErrorClass → Text
  | .switchOps => "switchops_error"
  | .commandNotAllowed => "command_not_allowed"
  | .protectedInterface => "protected_interface"
  | .writeActionsDisabled => "write_actions_disabled"
  | .credentialsMissing => "credentials_missing"
  | .switchConnection => "switch_connection_error"
  | .hostKeyChanged => "host_key_changed"
  | .legacySshNegotiation => "legacy_ssh_negotiation_failed"

def ErrorClass.typeName : ErrorClass → Text
  | .switchOps => "SwitchOpsError"
  | .commandNotAllowed => "CommandNotAllowedError"
  | .protectedInterface => "ProtectedInterfaceError"
  | .writeActionsDisabled => "WriteActionsDisabledError"
  | .credentialsMissing => "CredentialsMissingError"
  | .switchConnection => "SwitchConnectionError"
  | .hostKeyChanged => "HostKeyChangedError"
  | .legacySshNegotiation => "LegacySshNegotiationError"

/-- An exception: one of the typed errors of the backend, or any other, by its type name; with
its message, `str(exc)`. -/
inductive Exn
  | switchOps (cls : ErrorClass) (message : Text)
  | other (typeName : Text) (message : Text)
  deriving DecidableEq, Repr

namespace Exn

/-- `isinstance(exc, SwitchOpsError)`. -/
def isSwitchOps : Exn → Bool
  | .switchOps _ _ => true
  | .other _ _ => false

/-- `type(exc).__name__`. -/
def typeName : Exn → Text
  | .switchOps cls _ => cls.typeName
  | .other name _ => name

/-- `str(exc)`, and `exc.message` of a `SwitchOpsError`. -/
def message : Exn → Text
  | .switchOps _ message => message
  | .other _ message => message

def commandNotAllowed (message : Text) : Exn := .switchOps .commandNotAllowed message
def writeActionsDisabled (message : Text) : Exn := .switchOps .writeActionsDisabled message
def valueError : Exn := .other "ValueError" []

end Exn

/-! ## Operations -/

inductive OperationKind
  | adminUp
  | adminDown
  | poeAuto
  | poeNever
  | setDescription
  deriving DecidableEq, Repr

/-- The literal that `OperationKind` uses for a kind. -/
def OperationKind.text : OperationKind → Text
  | .adminUp => "admin_up"
  | .adminDown => "admin_down"
  | .poeAuto => "poe_auto"
  | .poeNever => "poe_never"
  | .setDescription => "set_description"

inductive StageName
  | precheck
  | backup
  | execute
  | verify
  | audit
  | rollback
  deriving DecidableEq, Repr

inductive StageStatus
  | pending
  | running
  | ok
  | failed
  | skipped
  deriving DecidableEq, Repr

/-- One step of a change transaction, streamed to the UI as it happens. -/
structure OperationStage where
  name : StageName
  status : StageStatus
  detail : Text := []
  deriving DecidableEq, Repr

/-- `blocked`: refused before anything was sent; `failed`: sent, but rejected or unverified;
`rolledBack`: verification failed and the previous state was restored. -/
inductive OperationStatus
  | success
  | failed
  | blocked
  | rolledBack
  deriving DecidableEq, Repr

def OperationStatus.text : OperationStatus → Text
  | .success => "success"
  | .failed => "failed"
  | .blocked => "blocked"
  | .rolledBack => "rolled_back"

structure OperationResult where
  operationId : Text
  kind : OperationKind
  interface : Text
  status : OperationStatus
  detail : Text
  stages : List OperationStage
  beforeState : Option Text
  afterState : Option Text
  commands : List Text
  durationMs : Nat
  rolledBack : Option Bool
  backupPath : Option Text
  requiresSave : Bool
  recordedAt : Nat
  deriving DecidableEq, Repr

/-! ## Device tables -/

inductive PolicyState
  | isProtected
  | operable
  | unmanaged
  deriving DecidableEq, Repr

def PolicyState.text : PolicyState → Text
  | .isProtected => "PROTECTED"
  | .operable => "OPERABLE"
  | .unmanaged => "UNMANAGED"

/-- A row of `show interfaces status`. -/
structure InterfaceStatus where
  port : Text
  name : Text
  status : Text
  vlan : Text
  duplex : Text
  speed : Text
  type : Text
  isProtected : Bool := false
  policyState : PolicyState := .unmanaged
  deriving DecidableEq, Repr

/-- A row of `show power inline`, its wattages aside. -/
structure PoePort where
  interface : Text
  admin : Text
  oper : Text
  device : Text
  poeClass : Text
  deriving DecidableEq, Repr

/-- A row of `show interfaces counters errors`: the nine counters and their sum. -/
structure InterfaceErrorCounters where
  port : Text
  alignErr : Int := 0
  fcsErr : Int := 0
  xmitErr : Int := 0
  rcvErr : Int := 0
  underSize : Int := 0
  singleCol : Int := 0
  multiCol : Int := 0
  lateCol : Int := 0
  excessCol : Int := 0
  total : Int := 0
  deriving DecidableEq, Repr

/-- A row of `show mac address-table`. -/
structure MacTableEntry where
  vlan : Text
  mac : Text
  type : Text
  port : Text
  deriving DecidableEq, Repr

/-! ## Topology evidence

The parts of `TopologyModel`, `ReconciliationSummary` and `HealthAssessment` that reach the
assurance snapshots. -/

/-- `RelationshipKind`: what a claim says about an interface and what lies beyond it. -/
inductive RelationshipKind
  | directNeighbour
  | attachedEndpoint
  | learnedBehind
  | gatewayPath
  | expectedNeighbour
  deriving DecidableEq, Repr

def RelationshipKind.text : RelationshipKind → Text
  | .directNeighbour => "direct-neighbour"
  | .attachedEndpoint => "attached-endpoint"
  | .learnedBehind => "learned-behind"
  | .gatewayPath => "gateway-path"
  | .expectedNeighbour => "expected-neighbour"

inductive ExistenceState
  | observed
  | inferred
  | historical
  deriving DecidableEq, Repr

/-- `IdentitySource`: where the identity of a device, not its existence, came from. -/
inductive IdentitySource
  | cdp
  | lldp
  | localHost
  | interfaceDescription
  | macOui
  | userIntent
  | merakiApi
  | historical
  | switchTelemetry
  | none
  deriving DecidableEq, Repr

structure NetworkDevice where
  id : Text
  name : Text
  connectedInterface : Option Text := none
  identitySource : IdentitySource := .none
  existenceState : ExistenceState := .observed
  relationship : Option RelationshipKind := none
  evidenceIds : List Text := []
  deriving DecidableEq, Repr

structure NetworkInterface where
  port : Text
  role : Text := "unknown"
  expectedName : Option Text := none
  freshness : Text := "current"
  evidenceIds : List Text := []
  deriving DecidableEq, Repr

structure NetworkLink where
  id : Text
  fromInterface : Text
  toDeviceId : Text
  relationship : RelationshipKind := .attachedEndpoint
  evidenceIds : List Text := []
  deriving DecidableEq, Repr

structure TopologyModel where
  generatedAt : Nat
  rootDeviceId : Text
  devices : List NetworkDevice
  interfaces : List NetworkInterface
  links : List NetworkLink
  deriving DecidableEq, Repr

/-- One claim, by one source, about one interface. -/
structure TopologyAssertion where
  subject : Text
  relationship : RelationshipKind
  objectLabel : Text
  objectIdentified : Bool := false
  evidenceClass : Text
  source : Text
  confidence : Text
  detail : Text
  observedAt : Nat
  deriving DecidableEq, Repr

structure InterfaceReconciliation where
  interface : Text
  status : Text
  inferred : List TopologyAssertion := []
  deriving DecidableEq, Repr

structure ReconciliationSummary where
  interfaces : List InterfaceReconciliation
  deriving DecidableEq, Repr

structure HealthReason where
  interface : Option Text
  severity : Text
  deriving DecidableEq, Repr

structure HealthAssessment where
  state : Text
  reasons : List HealthReason
  deriving DecidableEq, Repr

/-! ## Digests -/

/-- A text of 64 lowercase hexadecimal digits. -/
def isHexDigest (value : Text) : Bool :=
  value.length == 64 && value.all fun c => ('0' ≤ c && c ≤ '9') || ('a' ≤ c && c ≤ 'f')

/-- The digests of the backend: `sha256` is the hexadecimal SHA-256 of a text, `fingerprint` that
of the JSON of the links and devices away from a target. -/
class Digest where
  sha256 : Text → Text
  fingerprint : List NetworkLink → List NetworkDevice → Text
  isHexDigest_sha256 : ∀ t, isHexDigest (sha256 t) = true

/-- Digests looked up in a table of known values, zeros for any other text. -/
@[reducible] def Digest.ofTable (table : List (Text × Text)) (h : ∀ entry ∈ table, isHexDigest entry.2 = true)
    (fingerprint : List NetworkLink → List NetworkDevice → Text) : Digest where
  sha256 t := ((table.find? fun entry => entry.1 = t).map (·.2)).getD (List.replicate 64 '0')
  fingerprint := fingerprint
  isHexDigest_sha256 t := by
    cases hfind : table.find? fun entry => entry.1 = t with
    | none => rfl
    | some entry => exact h entry (List.mem_of_find?_eq_some hfind)

end SwitchOps

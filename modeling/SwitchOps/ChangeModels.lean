import SwitchOps.Models

/-!
# Records of a change session

`change_models.py`. The records describe why a bounded operation is performed, what the evidence
said it may affect, and what was observed before and after it.
-/

namespace SwitchOps

/-! ## Status -/

inductive ChangeSessionStatus
  | planned
  | preflight
  | blocked
  | ready
  | executing
  | verifying
  | rollingBack
  | rolledBack
  | succeeded
  | succeededWithWarnings
  | indeterminate
  deriving DecidableEq, Repr

namespace ChangeSessionStatus

/-- `_IN_FLIGHT`: a transaction of the session is under way. -/
def inFlight : ChangeSessionStatus → Bool
  | .executing | .verifying | .rollingBack => true
  | _ => false

/-- The statuses in which the session is immutable. -/
def terminal : ChangeSessionStatus → Bool
  | .rolledBack | .succeeded | .succeededWithWarnings | .indeterminate => true
  | _ => false

/-- No transaction of the session is under way or finished. -/
def notStarted : ChangeSessionStatus → Bool
  | .planned | .preflight | .blocked | .ready => true
  | _ => false

theorem notStarted_iff (s : ChangeSessionStatus) :
    s.notStarted = true ↔ s.inFlight = false ∧ s.terminal = false := by
  cases s <;> decide

end ChangeSessionStatus

/-! ## Plans -/

structure ChangeStep where
  interface : Text
  kind : OperationKind
  value : Option Text := none
  deriving DecidableEq, Repr

/-- A request for a plan: exactly one step, and an optional note. -/
structure ChangePlanRequest where
  step : ChangeStep
  summary : Option Text := none
  deriving DecidableEq, Repr

structure ExpectedChangeEffect where
  category : Text
  field : Text
  expectation : Text
  required : Bool := false
  deriving DecidableEq, Repr

structure DeclaredChangeIntent where
  summary : Text
  expectedPostconditions : List ExpectedChangeEffect := []
  unacceptableEffects : List Text := []
  deriving DecidableEq, Repr

/-- A plan. `enforce_v06_scope`: it has one step, and the step names the plan's target. -/
structure ChangePlan where
  id : Text
  deviceId : Text
  targetInterface : Text
  step : ChangeStep
  declaredIntent : DeclaredChangeIntent
  createdAt : Nat
  target_eq : step.interface = targetInterface
  deriving DecidableEq, Repr

/-! ## Preflight -/

inductive PreflightCheckStatus
  | pass
  | warn
  | info
  | block
  deriving DecidableEq, Repr

structure PreflightCheck where
  code : Text
  label : Text
  status : PreflightCheckStatus
  detail : Text
  evidence : List Text := []
  deriving DecidableEq, Repr

inductive ControlPath
  | clear
  | possible
  | confirmed
  | unknown
  deriving DecidableEq, Repr

structure BlastRadius where
  targetInterface : Text
  attachedEndpoints : Nat := 0
  learnedBehind : Nat := 0
  expectedRelationship : Option Text := none
  controlPath : ControlPath := .unknown
  controlPathDetail : Text := []
  confidenceLimitations : List Text := []
  deriving DecidableEq, Repr

/-! ## Snapshots -/

structure AssuranceInterfaceSnapshot where
  port : Text
  present : Bool := true
  adminState : Text := "unknown"
  operState : Text := "unknown"
  description : Text := []
  vlan : Text := []
  speed : Text := []
  duplex : Text := []
  poeAdmin : Text := "unknown"
  poeOper : Text := "unknown"
  errorTotal : Int := 0
  learnedMacCount : Nat := 0
  deriving DecidableEq, Repr

structure AssuranceConfigurationSnapshot where
  runningFingerprint : Text
  startupFingerprint : Text
  runningDiffersFromStartup : Bool
  rollbackRepresentable : Bool
  deriving DecidableEq, Repr

structure AssuranceTopologySnapshot where
  relationships : List Text := []
  attachedEntityIds : List Text := []
  learnedBehindEntityIds : List Text := []
  expectedRelationship : Option Text := none
  reconciliationState : Option Text := none
  targetRole : Text := "unknown"
  localHostCorrelated : Bool := false
  otherTopologyFingerprint : Text
  deriving DecidableEq, Repr

structure AssuranceHealthSnapshot where
  connectionState : Text
  deviceHealth : Text := "UNKNOWN"
  targetHealth : Text := "UNKNOWN"
  targetErrorTotal : Int := 0
  deriving DecidableEq, Repr

structure AssuranceEvidenceSnapshot where
  topologyObservedAt : Option Nat := none
  freshness : Text := "unknown"
  evidenceIds : List Text := []
  deriving DecidableEq, Repr

structure AssuranceSnapshot where
  capturedAt : Nat
  deviceId : Text
  targetInterface : Text
  configuration : AssuranceConfigurationSnapshot
  target : AssuranceInterfaceSnapshot
  otherInterfaces : List AssuranceInterfaceSnapshot := []
  topology : AssuranceTopologySnapshot
  health : AssuranceHealthSnapshot
  evidence : AssuranceEvidenceSnapshot
  deriving DecidableEq, Repr

inductive PreflightOutcome
  | ready
  | blocked
  deriving DecidableEq, Repr

structure ChangePreflight where
  evaluatedAt : Nat
  outcome : PreflightOutcome
  checks : List PreflightCheck := []
  impact : BlastRadius
  snapshot : Option AssuranceSnapshot := none
  deriving DecidableEq, Repr

/-! ## Comparison -/

inductive DifferenceScope
  | target
  | unrelated
  | configuration
  | topology
  | health
  deriving DecidableEq, Repr

/-- The values a difference shows: texts, numbers, truth values or lists of identifiers. -/
inductive DifferenceValue
  | text (value : Text)
  | int (value : Int)
  | bool (value : Bool)
  | texts (value : List Text)
  deriving DecidableEq, Repr

inductive Assessment
  | expected
  | warning
  | info
  deriving DecidableEq, Repr

structure ChangeDifference where
  scope : DifferenceScope
  field : Text
  before : DifferenceValue
  after : DifferenceValue
  assessment : Assessment
  detail : Text
  interface : Option Text := none
  deriving DecidableEq, Repr

inductive DirectPostcondition
  | met
  | notMet
  | unknown
  deriving DecidableEq, Repr

structure ChangeComparison where
  evaluatedAt : Nat
  directPostcondition : DirectPostcondition
  differences : List ChangeDifference := []
  warnings : List Text := []
  summary : Text
  deriving DecidableEq, Repr

/-! ## Sessions -/

structure ChangeSession where
  id : Text
  plan : ChangePlan
  status : ChangeSessionStatus
  preflight : Option ChangePreflight := none
  beforeSnapshot : Option AssuranceSnapshot := none
  afterSnapshot : Option AssuranceSnapshot := none
  comparison : Option ChangeComparison := none
  operationResult : Option OperationResult := none
  operationStages : List OperationStage := []
  outcomeDetail : Text := []
  createdAt : Nat
  updatedAt : Nat
  deriving DecidableEq, Repr

/-- The cached observation that `_assurance_context` hands to a snapshot: what the live state
holds, and the state of the device session. -/
structure AssuranceContext where
  topology : Option TopologyModel
  reconciliation : Option ReconciliationSummary
  health : Option HealthAssessment
  connection : Option Text
  deriving DecidableEq, Repr

end SwitchOps

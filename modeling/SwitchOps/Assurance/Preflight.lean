import SwitchOps.Assurance.Snapshot

/-!
# Preflight

`_preflight`: the fourteen checks of a plan against a snapshot and the write gates. A check blocks,
warns, informs or passes; one that blocks makes the outcome `blocked`.
-/

namespace SwitchOps

open Effects Effects.Program

/-- The identity of the device at a host. -/
def deviceIdOf [Digest] (host : Text) : Text := "device-" ++ (deviceKey host).take 16

/-- What `_preflight` reads apart from its plan and its snapshot. -/
structure PreflightGates where
  host : Option Text
  policyState : PolicyState
  capability : Bool
  unlocked : Bool

/-- A check that passes when `holds`, and has the status `otherwise` when not. -/
def gateCheck (code label : Text) (holds : Bool) (otherwise : PreflightCheckStatus)
    (passed failed : Text) (evidence : List Text := []) : PreflightCheck where
  code := code
  label := label
  status := if holds then .pass else otherwise
  detail := if holds then passed else failed
  evidence := evidence

namespace Preflight

variable (plan : ChangePlan) (snapshot : AssuranceSnapshot) (gates : PreflightGates)

/-! ## The checks -/

def operationAllowlisted : PreflightCheck where
  code := "operation_allowlisted"
  label := "Bounded operation"
  status := .pass
  detail := plan.step.kind.text ++ " is in the fixed operation catalogue."

/-- `current_device_id == plan.device_id`. -/
def deviceMatches [Digest] : Bool :=
  !noHost gates.host && deviceIdOf (gates.host.getD []) = plan.deviceId

def deviceTarget [Digest] : PreflightCheck :=
  gateCheck "device_target" "Plan device" (deviceMatches plan gates) .block
    "The plan is bound to the currently configured device."
    ("The configured device changed after this plan was created. "
      ++ "Create a new plan for the current device.".toList)

/-- `connection_state`. -/
def connectionState : Text := snapshot.health.connectionState.lower

def deviceLive : PreflightCheck :=
  gateCheck "device_live" "Device session" (connectionState snapshot = "live") .block
    "The serialized device session is LIVE."
    ("The serialized device session is " ++ connectionState snapshot
      ++ "; execution requires LIVE state.".toList)

def interfaceExists : PreflightCheck :=
  gateCheck "interface_exists" "Interface exists" snapshot.target.present .block
    (plan.targetInterface ++ " is currently reported by the switch.")
    (plan.targetInterface ++ " is not in the current switch interface table.")

def interfacePolicy : PreflightCheck :=
  gateCheck "interface_policy" "Interface policy" (gates.policyState = .operable) .block
    (plan.targetInterface ++ " is explicitly OPERABLE.")
    (plan.targetInterface ++ " is " ++ gates.policyState.text
      ++ "; discovery evidence cannot grant write authority.".toList)

def controlledWrites : PreflightCheck :=
  gateCheck "controlled_writes" "Controlled writes" gates.capability .block
    "Controlled writes are enabled for this installation."
    ("Controlled writes are disabled in local settings. " ++ "Preflight remains read-only.".toList)

def sessionUnlock : PreflightCheck :=
  gateCheck "session_unlock" "Process-local unlock" gates.unlocked .info
    "Control is unlocked for this process."
    ("Control remains locked. "
      ++ "Unlock is required only when the operator chooses Execute.".toList)

def rollbackRepresentable : PreflightCheck :=
  gateCheck "rollback_representable" "Bounded rollback"
    snapshot.configuration.rollbackRepresentable .block
    ("The current property can be restored " ++ "using the bounded operation vocabulary.".toList)
    ("The current property cannot be represented safely "
      ++ "by the bounded rollback vocabulary.".toList)

def evidenceFreshness : PreflightCheck :=
  gateCheck "evidence_freshness" "Evidence freshness"
    (snapshot.evidence.freshness = "current") .warn
    "Target topology evidence is current."
    ("Target topology evidence is " ++ snapshot.evidence.freshness
      ++ "; impact analysis may be incomplete.".toList)
    snapshot.evidence.evidenceIds

def attachedEndpoints : PreflightCheck where
  code := "attached_endpoints"
  label := "Observed attachment"
  status := .info
  detail := "Current evidence identifies "
    ++ Text.ofNat snapshot.topology.attachedEntityIds.length
    ++ " attached endpoint(s) on the target.".toList
  evidence := snapshot.topology.attachedEntityIds

def learnedBehind : PreflightCheck :=
  gateCheck "learned_behind" "Learned through target"
    snapshot.topology.learnedBehindEntityIds.isEmpty .warn
    ("No learned-behind entities " ++ "are currently attributed to the target.".toList)
    (Text.ofNat snapshot.topology.learnedBehindEntityIds.length
      ++ " entity identifier(s) are learned through this interface; ".toList
      ++ "they are not proof of direct attachment.".toList)
    snapshot.topology.learnedBehindEntityIds

/-! ### The control path -/

/-- `disruptive`: the operation can cut the traffic of the interface. -/
def disruptive : Bool := plan.step.kind = .adminDown || plan.step.kind = .poeNever

/-- `gateway`: a gateway-path relationship is direct control-path evidence. -/
def gateway : Bool := snapshot.topology.relationships.elem RelationshipKind.gatewayPath.text

/-- `confirmed_path`. -/
def confirmedPath : Bool :=
  disruptive plan && (gateway snapshot || snapshot.topology.localHostCorrelated)

/-- `possible_path`: weaker evidence, which never blocks. -/
def possiblePath : Bool :=
  snapshot.topology.targetRole = "uplink" || !snapshot.topology.learnedBehindEntityIds.isEmpty

def controlPath : ControlPath :=
  if confirmedPath plan snapshot then .confirmed
  else if possiblePath snapshot then .possible else .clear

/-- `control_detail`. -/
def controlDetail : Text :=
  if confirmedPath plan snapshot then
    "Current evidence places the local control or gateway path " ++ "through this target.".toList
  else if possiblePath snapshot then
    "The target looks like an uplink or carries learned-behind entities; "
      ++ "SwitchOps cannot prove the control path is elsewhere.".toList
  else
    "No current evidence places the SwitchOps control or gateway path "
      ++ "through this target.".toList

def controlPathCheck : PreflightCheck where
  code := "control_path"
  label := "Control path"
  status := if confirmedPath plan snapshot then .block
    else if disruptive plan && possiblePath snapshot then .warn else .pass
  detail := controlDetail plan snapshot
  evidence := snapshot.evidence.evidenceIds

def topologyUncertainty : PreflightCheck :=
  gateCheck "topology_uncertainty" "Topology reconciliation"
    (snapshot.topology.reconciliationState ≠ some ("uncertain" : Text)) .warn
    ("Target reconciliation is "
      ++ AssuranceContext.orDefault snapshot.topology.reconciliationState "not yet applicable"
      ++ ".".toList)
    ("The target currently has conflicting " ++ "or insufficient topology evidence.".toList)

def runningStartup : PreflightCheck :=
  gateCheck "running_startup" "Running versus startup"
    (!snapshot.configuration.runningDiffersFromStartup) .warn
    ("Running and startup configuration fingerprints " ++ "currently match.".toList)
    ("Running configuration already differs from startup " ++ "before this change.".toList)

/-! ## The outcome -/

/-- The checks of a preflight, in the order in which they are added. -/
def checks [Digest] : List PreflightCheck := [
  operationAllowlisted plan, deviceTarget plan gates, deviceLive snapshot,
  interfaceExists plan snapshot, interfacePolicy plan gates, controlledWrites gates,
  sessionUnlock gates, rollbackRepresentable snapshot, evidenceFreshness snapshot,
  attachedEndpoints snapshot, learnedBehind snapshot, controlPathCheck plan snapshot,
  topologyUncertainty snapshot, runningStartup snapshot]

/-- `limitations`. -/
def limitations : List Text :=
  let attached := snapshot.topology.attachedEntityIds
  (if snapshot.evidence.freshness ≠ "current" then
    ["Target discovery evidence is not current.".toList] else [])
    ++ (if !attached.isEmpty && snapshot.evidence.evidenceIds.isEmpty then
      ["An attachment exists, but no identifying " ++ "evidence IDs are available.".toList] else [])
    ++ (if attached.isEmpty then
      ["No current attached endpoint identity is established.".toList] else [])

/-- `outcome`. -/
def outcome (checks : List PreflightCheck) : PreflightOutcome :=
  if checks.any fun check => check.status = .block then .blocked else .ready

/-- The preflight that `_preflight` returns. -/
def evaluate [Digest] (evaluatedAt : Nat) : ChangePreflight where
  evaluatedAt := evaluatedAt
  outcome := outcome (checks plan snapshot gates)
  checks := checks plan snapshot gates
  impact := {
    targetInterface := plan.targetInterface
    attachedEndpoints := snapshot.topology.attachedEntityIds.length
    learnedBehind := snapshot.topology.learnedBehindEntityIds.length
    expectedRelationship := snapshot.topology.expectedRelationship
    controlPath := controlPath plan snapshot
    controlPathDetail := controlDetail plan snapshot
    confidenceLimitations := limitations snapshot }
  snapshot := some snapshot

end Preflight

/-- `_preflight`: the gates are read in the order of their checks. -/
def preflight [Digest] (plan : ChangePlan) (snapshot : AssuranceSnapshot) (host : Option Text) :
    Action ChangePreflight := do
  let policyState ← InterfacePolicyStore.stateFor host plan.targetInterface
  let capability ← quietly InterfacePolicyStore.controlledWritesEnabled
  let unlocked ← quietly WriteLock.unlocked
  let evaluatedAt ← quietly now
  return Preflight.evaluate plan snapshot ⟨host, policyState, capability, unlocked⟩ evaluatedAt

namespace Preflight

theorem outcome_ready_iff {checks : List PreflightCheck} :
    outcome checks = .ready ↔ ∀ check ∈ checks, check.status ≠ .block := by
  simp [outcome]

theorem gateCheck_block_iff {code label passed failed : Text} {holds : Bool}
    {evidence : List Text} :
    (gateCheck code label holds .block passed failed evidence).status = .block ↔
      holds = false := by
  cases holds <;> simp [gateCheck]

/-- A check that does not block when it fails never blocks. -/
theorem gateCheck_ne_block {code label passed failed : Text} {holds : Bool}
    {otherwise : PreflightCheckStatus} {evidence : List Text} (h : otherwise ≠ .block) :
    (gateCheck code label holds otherwise passed failed evidence).status ≠ .block := by
  cases holds
  · exact h
  · simp [gateCheck]

theorem controlPathCheck_block_iff {plan : ChangePlan} {snapshot : AssuranceSnapshot} :
    (controlPathCheck plan snapshot).status = .block ↔ confirmedPath plan snapshot = true := by
  have hstatus : (controlPathCheck plan snapshot).status =
      if confirmedPath plan snapshot then .block
      else if disruptive plan && possiblePath snapshot then .warn else .pass := rfl
  rw [hstatus]
  by_cases hconfirmed : confirmedPath plan snapshot = true
  · simp [hconfirmed]
  · simp only [hconfirmed, if_false, Bool.false_eq_true]
    split <;> simp

/-- **What a preflight blocks on.** Six gates, none of which reads the topology, and the control
path. -/
theorem outcome_checks_ready_iff [Digest] {plan : ChangePlan} {snapshot : AssuranceSnapshot}
    {gates : PreflightGates} :
    outcome (checks plan snapshot gates) = .ready ↔
      deviceMatches plan gates = true ∧ connectionState snapshot = "live" ∧
        snapshot.target.present = true ∧ gates.policyState = .operable ∧
        gates.capability = true ∧ snapshot.configuration.rollbackRepresentable = true ∧
        confirmedPath plan snapshot = false := by
  have hwarn : PreflightCheckStatus.warn ≠ .block := by decide
  have hinfo : PreflightCheckStatus.info ≠ .block := by decide
  rw [outcome_ready_iff]
  simp only [checks, List.forall_mem_cons, List.not_mem_nil, false_implies, implies_true]
  -- what fails without blocking
  simp only [sessionUnlock, evidenceFreshness, learnedBehind, topologyUncertainty, runningStartup,
    ne_eq, gateCheck_ne_block hwarn, gateCheck_ne_block hinfo]
  simp only [deviceTarget, deviceLive, interfaceExists, interfacePolicy, controlledWrites,
    rollbackRepresentable, gateCheck_block_iff, controlPathCheck_block_iff]
  have hallowed : (operationAllowlisted plan).status ≠ .block := by
    rw [show (operationAllowlisted plan).status = .pass from rfl]
    decide
  have hattached : (attachedEndpoints snapshot).status ≠ .block := by
    rw [show (attachedEndpoints snapshot).status = .info from rfl]
    decide
  simp only [hallowed, hattached, Bool.not_eq_false, decide_eq_true_eq, not_false_eq_true, true_and,
    and_true, Bool.not_eq_true]

end Preflight

end SwitchOps

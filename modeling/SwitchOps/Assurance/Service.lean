import SwitchOps.Assurance.Comparison

/-!
# The change assurance service

`ChangeAssuranceService`: a session is planned, examined by a preflight, and executed. Each method
reads the stored session, and stores it again whenever its status changes.
-/

namespace SwitchOps

open Effects Effects.Program

/-! ## Plans -/

/-- `_intent_for`. -/
def intentFor (kind : OperationKind) (interface : Text) (value : Option Text) :
    DeclaredChangeIntent :=
  let required (field expectation : Text) : ExpectedChangeEffect :=
    { category := "interface", field := field, expectation := expectation, required := true }
  let possible (category field expectation : Text) : ExpectedChangeEffect :=
    { category := category, field := field, expectation := expectation }
  let intent (summary : Text) (effects : List ExpectedChangeEffect) : DeclaredChangeIntent := {
    summary := summary
    expectedPostconditions := effects
    unacceptableEffects := [
      "A different bounded property on the target interface " ++ "changes unexpectedly.".toList,
      "Any unrelated interface changes during the assurance window.",
      "The startup configuration changes without an explicit save action."] }
  match kind with
  | .adminDown => intent ("Administratively disable " ++ interface ++ ".".toList) [
      required "adminState" "down",
      possible "interface" "operState" "may become down",
      possible "topology" "target attachment" "may disappear or age",
      possible "topology" "learned addresses" "may disappear or age"]
  | .adminUp => intent ("Administratively enable " ++ interface ++ ".".toList) [
      required "adminState" "up",
      possible "interface" "operState" "may remain down until a link exists",
      possible "topology" "target attachment" "may appear if a device is connected"]
  | .poeAuto =>
    intent ("Set Power over Ethernet policy to auto on " ++ interface ++ ".".toList) [
      required "poeAdmin" "auto",
      possible "interface" "poeOper" "may begin supplying power",
      possible "topology" "target attachment" "may appear after a powered device starts"]
  | .poeNever => intent ("Disable Power over Ethernet on " ++ interface ++ ".".toList) [
      required "poeAdmin" "never",
      possible "interface" "poeOper" "may stop supplying power",
      possible "topology" "target attachment" "may disappear if the endpoint depends on PoE"]
  | .setDescription =>
    intent ("Set the interface description on " ++ interface ++ " to ".toList
        ++ (match value with
          | some text => text.repr
          | none => "None") ++ ".".toList) [
      required "description" (value.getD []),
      possible "topology" "expected intent" "may be reclassified after discovery refresh"]

/-- `validate_interface`: the text of a step that names an interface. -/
def validateInterface (value : Text) : Except Exn Text :=
  let value := value.strip
  if value.isEmpty || 64 < value.length || value.any fun c => c.toNat < 32 then
    .error (.other "ValidationError" "Interface is invalid.")
  else .ok value

/-- An operator note may add context, but it does not replace the generated statement. -/
def DeclaredChangeIntent.addNote (intent : DeclaredChangeIntent) (note : Option Text) :
    DeclaredChangeIntent :=
  if (note.getD []).isEmpty then intent
  else { intent with summary := intent.summary ++ " Operator note: ".toList ++ (note.getD []).strip }

/-! ## Reading and storing sessions -/

/-- `_get`. -/
def getSession (sessionId : Text) : Action ChangeSession := do
  let row : Option ChangeSession ← quietly (perform (Effect.storeGet sessionId))
  match row with
  | some session => return session
  | none => throw (.commandNotAllowed "Unknown Change Assurance session.")

/-- `_save`: storing a session sets the time of its update. -/
def ChangeSession.save (session : ChangeSession) : Proc ChangeSession := do
  let updatedAt ← now
  let saved := { session with updatedAt := updatedAt }
  let _ ← perform (Effect.storeSave saved)
  return saved

/-- The session in another status. -/
def ChangeSession.enter (session : ChangeSession) (status : ChangeSessionStatus)
    (outcomeDetail : Text) : ChangeSession :=
  { session with status := status, outcomeDetail := outcomeDetail }

/-- `create_plan`. -/
def createPlan (request : ChangePlanRequest) (deviceId : Text) : Action ChangeSession := do
  let step := request.step
  let canonical ← orRaise (normalizeInterface step.interface)
  let interface ← orRaise (shortInterface canonical)
  let value ← orRaise (safeValue step.kind step.value)
  let createdAt ← quietly now
  let planId ← quietly uuid4
  let interface ← orRaise (validateInterface interface)
  let id ← quietly uuid4
  quietly (ChangeSession.save {
    id := "change-" ++ id
    plan := {
      id := "plan-" ++ planId, deviceId := deviceId, targetInterface := interface,
      step := ⟨interface, step.kind, value⟩,
      declaredIntent := (intentFor step.kind interface value).addNote request.summary,
      createdAt := createdAt, target_eq := rfl }
    status := .planned
    outcomeDetail := "Plan created. No device change has been attempted."
    createdAt := createdAt
    updatedAt := createdAt })

/-- The preflight of a session whose evidence could not be collected: one check that blocks. -/
def unavailablePreflight (plan : ChangePlan) (check : PreflightCheck)
    (controlPathDetail limitation : Text) (evaluatedAt : Nat) : ChangePreflight where
  evaluatedAt := evaluatedAt
  outcome := .blocked
  checks := [check]
  impact := {
    targetInterface := plan.targetInterface
    controlPath := .unknown
    controlPathDetail := controlPathDetail
    confidenceLimitations := [limitation] }

/-! ## The methods -/

/-- Capture a snapshot for the step of a session, in the context `context`. -/
def ChangeSession.captureIn [Digest] (session : ChangeSession) (client : Client)
    (context : AssuranceContext) : Action AssuranceSnapshot :=
  captureAssuranceSnapshot client session.plan.deviceId session.plan.targetInterface
    session.plan.step.kind session.plan.step.value context

/-- Capture a snapshot in the context that the provider returns. -/
def ChangeSession.capture [Digest] (session : ChangeSession) (client : Client) :
    Action AssuranceSnapshot := do
  let context ← perform Effect.assuranceContext
  session.captureIn client context

/-- The end of `run_preflight`. -/
def ChangeSession.examined (session : ChangeSession) (preflight : ChangePreflight) :
    ChangeSession :=
  let session := { session with preflight := some preflight }
  if preflight.outcome = .ready then
    session.enter .ready ("Preflight passed. "
      ++ "Unlock remains a separate requirement for execution.".toList)
  else
    session.enter .blocked ("Preflight found one or more blocking conditions. "
      ++ "No change was attempted.".toList)

/-- The snapshot and the checks of `run_preflight`. -/
def ChangeSession.examine [Digest] (session : ChangeSession) (client : Client)
    (context : AssuranceContext) (host : Option Text) : Action ChangePreflight := do
  let snapshot ← session.captureIn client context
  SwitchOps.preflight session.plan snapshot host

/-- `run_preflight`. -/
def runPreflight [Digest] (sessionId : Text) (client : Client) (context : AssuranceContext) :
    Action ChangeSession := do
  let session ← getSession sessionId
  if session.status.inFlight then
    throw (.commandNotAllowed "This change session is already in progress.")
  if session.status.terminal then
    throw (.commandNotAllowed ("Completed or indeterminate change sessions are immutable. "
      ++ "Create a new plan.".toList))
  let session ← quietly (session.enter .preflight
    "Read-only preflight is collecting current evidence.").save
  let host ← quietly switchHost
  match ← quietly (session.examine client context host).run with
  | .ok preflight => quietly (session.examined preflight).save
  | .error _ =>
    let evaluatedAt ← quietly now
    let preflight := unavailablePreflight session.plan {
        code := "snapshot_capture", label := "Assurance snapshot", status := .block,
        detail := "SwitchOps could not capture the read-only evidence "
          ++ "required for a safe change.".toList }
      ("Control-path evidence is unavailable " ++ "because preflight capture failed.".toList)
      "No complete assurance snapshot is available." evaluatedAt
    quietly ({ session with preflight := some preflight }.enter .blocked
      ("Preflight evidence could not be captured. " ++ "No change was attempted.".toList)).save

/-- `block_before_execution`. A late request does not overwrite a session under way or over. -/
def blockBeforeExecution (sessionId detail : Text) : Action ChangeSession := do
  let session ← getSession sessionId
  match session.status with
  | .planned | .preflight | .ready => quietly (session.enter .blocked detail).save
  | _ => return session

/-- `block_preflight_unavailable`. -/
def blockPreflightUnavailable (sessionId : Text) : Action ChangeSession := do
  let session ← getSession sessionId
  let evaluatedAt ← quietly now
  let preflight := unavailablePreflight session.plan {
      code := "device_live", label := "Device session", status := .block,
      detail := "The serialized device session is unavailable, "
        ++ "so current assurance evidence cannot be collected.".toList }
    ("Control-path evidence is unavailable " ++ "while the device session is offline.".toList)
    "No current assurance snapshot is available." evaluatedAt
  quietly ({ session with preflight := some preflight }.enter .blocked
    ("Preflight could not reach the device. " ++ "No change was attempted.".toList)).save

/-- The part of a session that `operation_progress` changes, while a transaction is under way. -/
structure SessionProgress where
  status : ChangeSessionStatus
  operationStages : List OperationStage
  updatedAt : Nat
  inFlight : status.inFlight = true

/-- The status that the last stage of an operation stands for. -/
def StageName.sessionStatus : StageName → ChangeSessionStatus
  | .verify => .verifying
  | .rollback => .rollingBack
  | _ => .executing

theorem StageName.inFlight_sessionStatus (name : StageName) :
    name.sessionStatus.inFlight = true := by
  cases name <;> rfl

/-- A session with what its listener changed. -/
def ChangeSession.progressed (session : ChangeSession) (progress : SessionProgress) :
    ChangeSession :=
  { session with
    status := progress.status
    operationStages := progress.operationStages
    updatedAt := progress.updatedAt }

/-- `operation_progress`. -/
def operationProgress (session : ChangeSession) (progress : SessionProgress)
    (stages : List OperationStage) : Proc SessionProgress := do
  let progress := match stages.getLast? with
    | none => { progress with operationStages := stages }
    | some stage => {
        status := stage.name.sessionStatus, operationStages := stages,
        updatedAt := progress.updatedAt, inFlight := stage.name.inFlight_sessionStatus }
  let saved ← (session.progressed progress).save
  return { progress with updatedAt := saved.updatedAt }

/-- The operation that `execute` runs for a session. -/
def ChangeSession.operation (session : ChangeSession) (client : Client) :
    OperationCall SessionProgress where
  client := client
  kind := session.plan.step.kind
  interface := session.plan.targetInterface
  value := session.plan.step.value
  actor := "operator"
  onProgress := operationProgress session
  listens _ _ := ⟨rfl, fun _ => ⟨rfl, fun _ => trivial⟩⟩

/-- The status of a session whose operation returned and whose after-state was compared. -/
def verdict (result : OperationResult) (comparison : ChangeComparison) :
    ChangeSessionStatus × Text :=
  if result.status = .rolledBack ∧ result.rolledBack = some true then
    (.rolledBack,
      "The intended state was not verified " ++ "and the bounded rollback was observed.".toList)
  else if result.status ≠ .success then
    (.indeterminate, "The requested state was not proven. "
      ++ "SwitchOps cannot claim a successful change or rollback.".toList)
  else if comparison.directPostcondition ≠ .met then
    (.indeterminate, "The primitive verification and assurance snapshot "
      ++ "do not establish the same final state.".toList)
  else if !comparison.warnings.isEmpty then
    (.succeededWithWarnings, "The requested state was achieved, "
      ++ "but unrelated or unexpected observations need attention.".toList)
  else
    (.succeeded, "The requested state was achieved "
      ++ "and observed effects matched the declared change.".toList)

/-- `execute`, from the operation to the verdict, for a session that is executing. Whatever fails
here leaves it `indeterminate`. -/
def performChange [Digest] (session : ChangeSession) (client : Client)
    (before : AssuranceSnapshot) : Proc ChangeSession := do
  let executing : SessionProgress := ⟨.executing, session.operationStages, session.updatedAt, rfl⟩
  match ← runOperation (session.operation client) executing with
  | (.error _, progress) =>
    ((session.progressed progress).enter .indeterminate ("The bounded executor did not return a conclusive result. "
      ++ "Inspect the target before another change.".toList)).save
  | (.ok result, progress) =>
    reached (.operationReturned result)
    let session ← ({ session.progressed progress with operationResult := some result }.enter .verifying
      ("Capturing normalized after-state " ++ "and checking collateral observations.".toList)).save
    match ← (session.capture client).run with
    | .error _ =>
      (session.enter .indeterminate
        ("The operation returned, but SwitchOps could not prove the final device state. "
          ++ "Inspect the target before another change.".toList)).save
    | .ok after =>
      reached (.capturedAfter after)
      let evaluatedAt ← now
      let comparison := compareSnapshots session.plan before after result evaluatedAt
      ({ session with
        afterSnapshot := some after
        comparison := some comparison
        status := (verdict result comparison).1
        outcomeDetail := (verdict result comparison).2 } : ChangeSession).save

/-- `execute`, under both write gates. -/
def executeAuthorized [Digest] (session : ChangeSession) (client : Client) (host : Option Text) :
    Action ChangeSession := do
  let session ← quietly (session.enter .executing
    ("Capturing the final before-state " ++ "under stable write authorization.".toList)).save
  match ← quietly (session.capture client).run with
  | .error _ =>
    quietly (session.enter .blocked
      ("The final before-state could not be captured under stable authorization. "
        ++ "No IOS configuration was attempted.".toList)).save
  | .ok before =>
    quietly (reached (.capturedBefore before))
    -- an exception here is not caught, and leaves the stored session executing
    let preflight ← preflight session.plan before host
    let session := { session with beforeSnapshot := some before, preflight := some preflight }
    if preflight.outcome = .blocked then
      quietly (session.enter .blocked ("Conditions changed after review; "
        ++ "execution was blocked before IOS configuration.".toList)).save
    else
      let session ← quietly session.save
      quietly (performChange session client before)

/-- `execute`. -/
def execute [Digest] (sessionId : Text) (client : Client) : Action ChangeSession := do
  let session ← getSession sessionId
  if session.status ≠ .ready then
    throw (.commandNotAllowed ("Run a successful read-only preflight " ++ "before execution.".toList))
  let host ← quietly switchHost
  WriteLock.operationGuard do
    InterfacePolicyStore.operationGuard host session.plan.targetInterface fun _ =>
      executeAuthorized session client host

end SwitchOps

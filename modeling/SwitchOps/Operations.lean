import SwitchOps.Guards
import SwitchOps.Parsers

/-!
# Transactional port operations

`operations.py`: one bounded configuration change, from its precheck to its audit record.

    precheck → backup → execute → classify → verify → audit
                                               ↘ rollback ↗

`runOperation` holds both write gates and runs `runOperationAuthorized`. That function is cut
where its stages begin: each of `precheck`, `applyChange`, `verifyChange` and `rollBack` ends in a
`result` or goes on to the next.
-/

namespace SwitchOps

open Effects Effects.Program

/-! ## Operation catalogue -/

structure OperationSpec where
  kind : OperationKind
  label : Text
  configLines : List Text
  reversible : Bool
  needsValue : Bool := false

/-- The dictionary `OPERATIONS`. -/
def operationSpec : OperationKind → OperationSpec
  | .adminUp => {
      kind := .adminUp, label := "Enable interface",
      configLines := ["interface {iface}", "no shutdown"], reversible := true }
  | .adminDown => {
      kind := .adminDown, label := "Disable interface",
      configLines := ["interface {iface}", "shutdown"], reversible := true }
  | .poeAuto => {
      kind := .poeAuto, label := "Enable Power over Ethernet",
      configLines := ["interface {iface}", "power inline auto"], reversible := true }
  | .poeNever => {
      kind := .poeNever, label := "Disable Power over Ethernet",
      configLines := ["interface {iface}", "power inline never"], reversible := true }
  | .setDescription => {
      kind := .setDescription, label := "Set interface description",
      configLines := ["interface {iface}", "description {value}"], reversible := true,
      needsValue := true }

/-- `kind.startswith("poe_")`. -/
def OperationKind.isPoe : OperationKind → Bool
  | .poeAuto | .poeNever => true
  | _ => false

/-! ## IOS response classification -/

/-- `_IOS_ERROR`. -/
def iosError : Regex :=
  let phrase (t : Text) := Regex.litIgnoringCase t
  Regex.seqs [
    Regex.lit "%", .star true Regex.space,
    Regex.alts [
      phrase "Invalid input", phrase "Incomplete command", phrase "Ambiguous command",
      phrase "Unrecognized command", phrase "Authorization failed", phrase "Permission denied",
      Regex.seqs [phrase "Command ", Regex.opt (phrase "authorization "), phrase "failed"],
      phrase "Error", phrase "Bad mask", phrase "Cannot", phrase "Not enough",
      phrase "Unable to"]]

/-- `classify_ios_response`: the line in which IOS rejected something, if there is one. -/
def classifyIosResponse (output : Text) : Option Text :=
  (output.splitlines.find? fun line => (Regex.search iosError line).isSome).map Text.strip

/-! ## The interface block of a running configuration -/

/-- The exact reversible properties from one running-config interface block. -/
structure InterfaceConfig where
  description : Text
  shutdown : Bool
  poeAdmin : Text
  deriving DecidableEq, Repr

/-- `^!\s*$|^interface\s+|\Z`: where a block ends. -/
def blockEnd : Regex :=
  Regex.alts [
    Regex.seqs [Regex.lineStart, Regex.lit "!", .star true Regex.space, Regex.lineEnd],
    Regex.seqs [Regex.lineStart, Regex.litIgnoringCase "interface", Regex.plus Regex.space],
    Regex.textEnd]

/-- `^interface\s+<canonical>\s*$\n(?P<body>.*?)(?=<blockEnd>)`, with the flags `MULTILINE`,
`DOTALL` and `IGNORECASE`. -/
def interfaceBlock (canonical : Text) : Regex :=
  let anything : Regex := .chr fun _ => true
  Regex.seqs [
    Regex.lineStart, Regex.litIgnoringCase "interface", Regex.plus Regex.space,
    Regex.litIgnoringCase canonical, .star true Regex.space, Regex.lineEnd, Regex.lit "\n",
    .group 1 (.star false anything), .ahead blockEnd]

/-- One line of the block. A later line of the same property replaces an earlier one. -/
def InterfaceConfig.readLine (config : InterfaceConfig) (rawLine : Text) : InterfaceConfig :=
  let line := rawLine.strip
  let lower := line.lower
  if Text.startsWith lower "description " then
    { config with description := line.drop 12 }
  else if lower = "shutdown" then { config with shutdown := true }
  else if lower = "no shutdown" then { config with shutdown := false }
  else if Text.startsWith lower "power inline " then
    -- a word follows, the line being stripped
    { config with poeAdmin := (Text.split (lower.drop 13)).headD [] }
  else config

/-- `_interface_config`. Without a `power inline` line the IOS default is `auto`. -/
def interfaceConfig (config canonical : Text) : Option InterfaceConfig :=
  (Regex.search (interfaceBlock canonical) config).map fun blockMatch =>
    ((blockMatch.group 1).getD []).splitlines.foldl InterfaceConfig.readLine ⟨[], false, "auto"⟩

/-! ## Rollback -/

/-- The four lines of a change of one interface property. -/
def configSequence (canonical line : Text) : List Text :=
  ["configure terminal", "interface " ++ canonical, line, "end"]

/-- The line that restores the property of `kind`, if the bounded vocabulary has one. -/
def restoreLine (kind : OperationKind) (beforeConfig : InterfaceConfig) : Option Text :=
  match kind with
  | .adminUp | .adminDown => some (if beforeConfig.shutdown then "shutdown" else "no shutdown")
  | .poeAuto | .poeNever =>
    if beforeConfig.poeAdmin = "auto" ∨ beforeConfig.poeAdmin = "never" then
      some ("power inline " ++ beforeConfig.poeAdmin)
    else none
  | .setDescription =>
    if beforeConfig.description.isEmpty then some "no description"
    else match sanitizeDescription beforeConfig.description with
      | .ok oldDescription => some ("description " ++ oldDescription)
      | .error _ => none

/-- `_rollback_commands`: a fixed, property-specific restore sequence from observed state. -/
def rollbackCommands (kind : OperationKind) (canonical : Text) (beforeConfig : InterfaceConfig) :
    Option (List Text) :=
  (restoreLine kind beforeConfig).map (configSequence canonical)

/-- `_rollback_verified`. -/
def rollbackVerified (kind : OperationKind) (beforeConfig : InterfaceConfig)
    (restoredInterface : Option InterfaceStatus) (restoredPoe : Option Text)
    (restoredConfig : Option InterfaceConfig) : Bool :=
  match restoredInterface, restoredConfig with
  | some _, some restored =>
    match kind with
    | .adminUp | .adminDown => restored.shutdown == beforeConfig.shutdown
    | .poeAuto | .poeNever =>
      (restoredPoe.getD []).strip.lower == beforeConfig.poeAdmin
        && restored.poeAdmin == beforeConfig.poeAdmin
    | .setDescription => restored.description == beforeConfig.description
  | _, _ => false

/-! ## Observations -/

/-- `canonical.replace("GigabitEthernet", "Gi")`. -/
def readerName (canonical : Text) : Text := Text.replace canonical "GigabitEthernet" "Gi"

/-- `_read_interface`. -/
def readInterface (client : Client) (canonical actor : Text) : Action (Option InterfaceStatus) := do
  let output ← runAndAudit client .showInterfacesStatus actor
  let rows ← orRaise (parseInterfaceStatus output)
  return rows.find? fun item => item.port.lower = (readerName canonical).lower

/-- `_read_poe_state`. -/
def readPoeState (client : Client) (canonical actor : Text) : Action (Option Text) := do
  let output ← runAndAudit client .showPowerInline actor
  return ((parsePoe output).find? fun port =>
    port.interface.lower = (readerName canonical).lower).map (·.admin)

/-- `_postcondition_met`: did the device end up in the state the operation intended? -/
def postconditionMet (kind : OperationKind) (interface : Option InterfaceStatus)
    (poeAdmin value : Option Text) (configState : Option InterfaceConfig) : Bool × Text :=
  match interface with
  | none => (false, "The switch no longer reports a " ++ "status row for this interface.".toList)
  | some row =>
    let status := row.status.strip.lower
    match kind with
    | .adminDown =>
      if status = "disabled" then (true, "The interface reports administratively disabled.")
      else (false, "Expected the interface to be disabled; it reports " ++ status.repr ++ ".")
    | .adminUp =>
      if status ≠ "disabled" then
        (true, "The interface is administratively enabled." ++
          if status = "notconnect" then
            " It has no link yet, which is " ++ "expected with nothing attached.".toList else [])
      else (false, "The interface still reports administratively disabled.")
    | .poeAuto | .poeNever =>
      let want : Text := if kind = .poeAuto then "auto" else "never"
      if (poeAdmin.getD []).strip.lower = want then
        (true, "Power inline administrative policy is " ++ want ++ ".")
      else
        let reported := poeAdmin.getD []
        (false, "Expected power inline " ++ want ++ "; the switch reports "
          ++ (if reported.isEmpty then ("nothing" : Text) else reported) ++ ".")
    | .setDescription =>
      let observed := match configState with
        | some config => config.description
        | none => row.name
      if observed.strip = (value.getD []).strip then
        (true, "The interface description is now " ++ observed.repr ++ ".")
      else
        (false, "Expected description " ++ (match value with
          | some text => text.repr
          | none => "None") ++ "; the switch reports " ++ observed.repr ++ ".")

/-! ## Progress -/

/-- `_Stages`: the stages so far, and the state of the progress listener. -/
structure Stages (S : Type) where
  stages : List OperationStage
  listener : S

/-- The arguments of an operation. The progress listener carries a state `S` of its own, and does
nothing but bookkeeping; an exception of the listener is ignored, so it has none. -/
structure OperationCall (S : Type) where
  client : Client
  kind : OperationKind
  interface : Text
  value : Option Text
  actor : Text
  onProgress : S → List OperationStage → Proc S
  backupIsFresh : Bool := false
  listens : ∀ listener stages, Only (fun e => e.bookkeeping = true) (onProgress listener stages)

/-- A program that reports its progress. -/
abbrev Staged (S : Type) := StateT (Stages S) Proc

namespace OperationCall

variable {S : Type} (call : OperationCall S)

/-- `_emit`, after the stages became `stages`. -/
def emit (stages : List OperationStage) : Staged S Unit := fun progress => do
  let listener ← call.onProgress progress.listener stages
  return ((), { stages := stages, listener := listener })

/-- `begin`. -/
def begin (name : StageName) : Staged S Unit := do
  call.emit ((← get).stages ++ [⟨name, .running, []⟩])

/-- `finish`: the last stage gets its status and detail. -/
def finish (status : StageStatus) (detail : Text) : Staged S Unit := do
  let stages := (← get).stages
  call.emit (match stages.getLast? with
    | some stage => stages.dropLast ++ [{ stage with status := status, detail := detail }]
    | none => [])

/-- `skip`. -/
def skip (name : StageName) (detail : Text) : Staged S Unit := do
  call.emit ((← get).stages ++ [⟨name, .skipped, detail⟩])

end OperationCall

/-! ## The transaction -/

/-- `assert_interface_operable`. -/
def assertInterfaceOperable [Digest] (interface : Text) : Action Text := do
  let host ← quietly switchHost
  InterfacePolicyStore.assertOperable host interface

/-- `backup_running_config`, for a configuration text that was just read. -/
def backupRunningConfig (client : Client) (actor configText : Text) : Action BackupResult := do
  let start ← quietly monotonic
  -- ensure paging disabled; a failure is ignored
  let _ ← quietly (client.run .terminalLength0)
  let backup ← perform (Effect.writeBackup configText)
  let finish ← quietly monotonic
  auditRecord {
    actor := actor, action := "backup_config",
    commands := ["terminal length 0", "show running-config"], success := true,
    durationMs := finish - start, outputPath := some backup.path }
  return backup

/-- An operation under way. -/
structure Transaction (S : Type) extends OperationCall S where
  started : Nat
  recordedAt : Nat
  operationId : Text

/-- The arguments of `result`. -/
structure Report where
  status : OperationStatus
  before : Option Text := none
  after : Option Text := none
  commands : List Text := []
  detail : Text := []
  rolledBack : Option Bool := none
  backupPath : Option Text := none
  requiresSave : Bool := false

/-- What the precheck established about the interface before the change, with the sequence that
restores it. -/
structure Original (kind : OperationKind) where
  canonical : Text
  safeValue : Option Text
  interface : InterfaceStatus
  poe : Option Text
  config : InterfaceConfig
  configText : Text
  rollback : List Text
  representable : rollbackCommands kind canonical config = some rollback

/-- `status=... description=... poe=...`. -/
def describeState (interface : InterfaceStatus) (poe : Option Text) : Text :=
  "status=" ++ interface.status ++ " description=" ++ interface.name.repr ++ (match poe with
    | some admin => " poe=" ++ admin
    | none => [])

/-- The configuration sequence of the catalogue entry, with its placeholders filled. -/
def renderCommands (spec : OperationSpec) (canonical : Text) (safeValue : Option Text) :
    List Text :=
  let render (line : Text) : Text :=
    let rendered := Text.replace line "{iface}" canonical
    if Text.contains rendered "{value}" then Text.replace rendered "{value}" (safeValue.getD [])
    else rendered
  "configure terminal".toList :: spec.configLines.map render ++ ["end".toList]

namespace Transaction

variable {S : Type} (run : Transaction S)

/-- `result`: record the outcome in the audit trail and return it. A local audit storage fault
is visible in the last stage, but cannot rewrite what physically happened on the switch. -/
def result (report : Report) : Staged S OperationResult := do
  let finished ← monotonic
  run.begin .audit
  let success := report.status = .success
  match ← (auditRecord {
      actor := run.actor, action := "operation:" ++ run.kind.text, commands := report.commands,
      success := success, durationMs := finished - run.started, beforeState := report.before,
      afterState := report.after,
      errorType := if success then none else some report.status.text,
      errorMessage := if report.detail.isEmpty then none else some report.detail }).run with
  | .ok _ => run.finish .ok "Recorded in the audit trail."
  | .error _ =>
    run.finish .failed "The operation completed, but its audit record failed."
  return {
    operationId := run.operationId, kind := run.kind, interface := run.interface,
    status := report.status, detail := report.detail, stages := (← get).stages,
    beforeState := report.before, afterState := report.after, commands := report.commands,
    durationMs := finished - run.started, rolledBack := report.rolledBack,
    backupPath := report.backupPath, requiresSave := report.requiresSave,
    recordedAt := run.recordedAt }

/-- Finish the current stage as failed and end the transaction there. -/
def giveUp (stage : Text) (report : Report) : Staged S OperationResult := do
  run.finish .failed stage
  run.result report

/-- Observe the interface, and its PoE state for a PoE operation. -/
def observe (canonical : Text) : Action (Option InterfaceStatus × Option Text) := do
  let interface ← readInterface run.client canonical run.actor
  let poe ← if run.kind.isPoe then readPoeState run.client canonical run.actor else pure none
  return (interface, poe)

/-- The configuration block of the interface, read from the device. -/
def observeConfig (canonical : Text) : Action (Option InterfaceConfig) := do
  let config ← runAndAudit run.client .showRunningConfig run.actor
  return interfaceConfig config canonical

/-- The observations after the rollback sequence was sent, and whether they verify it. -/
def restore (original : Original run.kind) : Action Bool := do
  let output ← run.client.runRawAction original.rollback
  let rejected := classifyIosResponse output
  let (restored, restoredPoe) ← run.observe original.canonical
  let restoredConfig ← run.observeConfig original.canonical
  return rejected.isNone
    && rollbackVerified run.kind original.config restored restoredPoe restoredConfig

/-- The end of the stage `rollback`. -/
def endRollBack (original : Original run.kind) (commands : List Text) (backupPath : Option Text)
    (afterState detail : Text) (rolledBack : Bool) : Staged S OperationResult := do
  if rolledBack then run.finish .ok "The interface was returned to its previous state."
  else
    run.finish .failed
      ("Rollback did not restore the previous state; " ++ "inspect the interface.".toList)
  run.result {
    status := if rolledBack then .rolledBack else .failed,
    before := some (describeState original.interface original.poe), after := some afterState,
    commands := commands ++ original.rollback, backupPath := backupPath, detail := detail,
    rolledBack := some rolledBack, requiresSave := !rolledBack }

/-- The stage `rollback`. Any exception leaves the rollback unproven. -/
def rollBack (original : Original run.kind) (commands : List Text) (backupPath : Option Text)
    (afterState detail : Text) : Staged S OperationResult := do
  run.begin .rollback
  match ← (run.restore original).run with
  | .ok verified => run.endRollBack original commands backupPath afterState detail verified
  | .error _ => run.endRollBack original commands backupPath afterState detail false

/-- The observations of the stage `verify`, for a description also the configuration block. -/
def observeAfter (original : Original run.kind) :
    Action (Option InterfaceStatus × Option Text × Option InterfaceConfig) := do
  let (interface, poe) ← run.observe original.canonical
  let config ←
    if run.kind = .setDescription then run.observeConfig original.canonical else pure none
  return (interface, poe, config)

/-- The end of the stage `verify`: `met` and `detail` say whether the intended state was
observed; a rollback follows if it was not. -/
def endVerify (original : Original run.kind) (commands : List Text) (backupPath : Option Text)
    (afterState : Text) (met : Bool) (detail : Text) : Staged S OperationResult := do
  if met then
    run.finish .ok detail
    run.result {
      status := .success, before := some (describeState original.interface original.poe),
      after := some afterState, commands := commands, backupPath := backupPath,
      detail := detail, requiresSave := true }
  else
    run.finish .failed detail
    run.rollBack original commands backupPath afterState detail

/-- The stage `verify`, after the device accepted `commands`. -/
def verifyChange (original : Original run.kind) (commands : List Text) (backupPath : Option Text) :
    Staged S OperationResult := do
  run.begin .verify
  match ← (run.observeAfter original).run with
  | .ok (interface, poe, config) =>
    let (met, detail) := postconditionMet run.kind interface poe original.safeValue config
    let afterState := match interface with
      | some row => describeState row poe
      | none => "unavailable"
    run.endVerify original commands backupPath afterState met detail
  | .error exc =>
    run.endVerify original commands backupPath "unavailable" false
      ("Verification could not read the new state (" ++ exc.typeName ++ ").")

/-- The stage `execute`: send the configuration and classify the response. -/
def executeChange (original : Original run.kind) (backupPath : Option Text) : Staged S OperationResult := do
  let before := describeState original.interface original.poe
  run.begin .execute
  let commands := renderCommands (operationSpec run.kind) original.canonical original.safeValue
  match ← (run.client.runRawAction commands).run with
  | .error exc =>
    run.giveUp ("The switch session failed during execution (" ++ exc.typeName ++ ").") {
      status := .failed, before := some before, commands := commands, backupPath := backupPath,
      detail := "The change could not be sent. "
        ++ "Verify the interface state before retrying.".toList,
      requiresSave := true }
  | .ok output =>
    match classifyIosResponse output with
    | some rejection =>
      run.giveUp ("IOS rejected the command: " ++ rejection) {
        status := .failed, before := some before, commands := commands, backupPath := backupPath,
        detail := "The switch rejected the configuration: " ++ rejection }
    | none =>
      run.finish .ok "Configuration accepted by the device."
      run.verifyChange original commands backupPath

/-- The stage `backup`. -/
def applyChange (original : Original run.kind) : Staged S OperationResult := do
  if run.backupIsFresh then
    run.skip .backup "A backup from this transaction window is already on disk."
    run.executeChange original none
  else
    run.begin .backup
    match ← (backupRunningConfig run.client run.actor original.configText).run with
    | .error exc =>
      run.giveUp ("Backup failed (" ++ exc.typeName ++ ").") {
        status := .blocked, before := some (describeState original.interface original.poe),
        detail := "The change was not attempted because "
          ++ "the configuration backup failed.".toList }
    | .ok backup =>
      run.finish .ok ("Running configuration saved to " ++ backup.filename ++ ".")
      run.executeChange original (some backup.path)

/-- The end of the precheck: nothing to do if the intended state already holds. -/
def decideChange (original : Original run.kind) : Staged S OperationResult := do
  let before := describeState original.interface original.poe
  run.finish .ok (original.canonical ++ " is operable. Current state: " ++ before ++ ".")
  let (alreadyMet, alreadyDetail) := postconditionMet run.kind (some original.interface)
    original.poe original.safeValue (some original.config)
  if alreadyMet then
    run.skip .backup ("No backup is needed because " ++ "the intended state already exists.".toList)
    run.skip .execute "No command was sent; the operation is already satisfied."
    run.begin .verify
    run.finish .ok alreadyDetail
    run.result {
      status := .success, before := some before, after := some before,
      detail := "No change was needed. " ++ alreadyDetail }
  else
    run.applyChange original

/-- The reads of the precheck, from the original state of the interface to the restore sequence.
Whatever is missing blocks the operation. -/
def readOriginal (canonical : Text) (safeValue : Option Text) : Staged S OperationResult := do
  match ← (run.observe canonical).run with
  | .error exc =>
    run.giveUp ("Could not read the interface state (" ++ exc.typeName ++ ").") {
      status := .blocked, detail := "The change was not attempted because "
        ++ "its original state could not be read.".toList }
  | .ok (none, _) =>
    run.giveUp (canonical ++ " is not present on this switch.") {
      status := .blocked, detail := canonical ++ " is not present on this switch." }
  | .ok (some interface, poe) =>
    match ← (runAndAudit run.client .showRunningConfig run.actor).run with
    | .error exc =>
      run.giveUp ("Could not read the running configuration (" ++ exc.typeName ++ ").") {
        status := .blocked, detail := "The change was not attempted because "
          ++ "its original state could not be captured.".toList }
    | .ok configText =>
      match interfaceConfig configText canonical with
      | none =>
        run.giveUp (canonical ++ " has no running-configuration block.") {
          status := .blocked, detail := "The change was not attempted because "
            ++ "exact rollback state is unavailable.".toList }
      | some config =>
        match representable : rollbackCommands run.kind canonical config with
        | none =>
          run.giveUp ("The existing value cannot be restored "
              ++ "by the bounded operation engine.".toList) {
            status := .blocked, detail := "The change was not attempted because "
              ++ "exact bounded rollback is unavailable.".toList }
        | some rollback =>
          run.decideChange {
            canonical := canonical, safeValue := safeValue, interface := interface, poe := poe,
            config := config, configText := configText, rollback := rollback,
            representable := representable }

/-- The stage `precheck`. Only a `SwitchOpsError` is turned into a result. -/
def precheck [Digest] : Staged S (Except Exn OperationResult) := do
  run.begin .precheck
  match ← (assertInterfaceOperable run.interface).run with
  | .error (.switchOps _ message) =>
    return .ok (← run.giveUp message { status := .blocked, detail := message : Report })
  | .error exc => return .error exc
  | .ok canonical =>
    if (operationSpec run.kind).needsValue then
      match sanitizeDescription (run.value.getD []) with
      | .error (.switchOps _ message) =>
        return .ok (← run.giveUp message { status := .blocked, detail := message : Report })
      | .error exc => return .error exc
      | .ok safeValue => return .ok (← run.readOriginal canonical (some safeValue))
    else return .ok (← run.readOriginal canonical none)

end Transaction

/-- `_run_operation_authorized`: run one bounded configuration change, end to end. -/
def runOperationAuthorized [Digest] {S : Type} (call : OperationCall S) :
    Staged S (Except Exn OperationResult) := do
  let started ← monotonic
  let recordedAt ← now
  let id ← uuid4
  Transaction.precheck { call with
    started := started, recordedAt := recordedAt, operationId := "op-" ++ id }

/-- `run_operation`: hold every write gate stable while one bounded transaction runs. The
listener's state survives an exception. -/
def runOperation [Digest] {S : Type} (call : OperationCall S) (listener : S) :
    Proc (Except Exn OperationResult × S) := do
  reached .operationStarted
  let host ← switchHost
  let guarded : Action (Except Exn OperationResult × S) :=
    WriteLock.operationGuard do
      InterfacePolicyStore.operationGuard host call.interface fun _ => do
        let (outcome, progress) ← quietly ((runOperationAuthorized call).run ⟨[], listener⟩)
        return (outcome, progress.listener)
  match ← guarded.run with
  | .ok outcome => return outcome
  | .error exc => return (.error exc, listener)

end SwitchOps

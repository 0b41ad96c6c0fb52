import SwitchOps.Operations.Outcome
import SwitchOps.Parsers.Discovery

/-!
# The LLDP experiment

`tools/lldp_experiment.py`: LLDP is enabled for a while if it was seen disabled, and disabled again however the
observation ends. What the outcome says of the configurations is read off the log of the run.
-/

namespace SwitchOps

open Effects Effects.Program
open Topology (inspectLldp LldpNeighbor)

/-! ## The experiment -/

def enableLldp : List Text := ["configure terminal", "lldp run", "end"]

def disableLldp : List Text := ["configure terminal", "no lldp run", "end"]

inductive LldpExperimentStatus
  | skipped
  | alreadyEnabled
  | complete
  deriving DecidableEq, Repr

structure LldpExperimentResult where
  status : LldpExperimentStatus
  changed : Bool
  neighbors : List Text
  backupFilename : Option Text
  runningRestored : Bool
  startupUnchanged : Bool
  detail : Text
  deriving DecidableEq, Repr

/-- A line of a configuration that IOS displays afresh each time. -/
def isVolatile (line : Text) : Bool :=
  ["Current configuration", "Using ", "Building configuration", "ntp clock-period"].any (line.strip.startsWith ·)

/-- `_stable_config` -/
def stableConfig (text : Text) : List Text := (text.splitlines.map Text.rstrip).filter fun line => !isVolatile line

/-- `isinstance(exc, Exception)`: not an exception that ends the program. -/
def Exn.isException (exc : Exn) : Bool :=
  exc.typeName ∉ (["KeyboardInterrupt", "SystemExit", "GeneratorExit"] : List Text)

def lldpActor : Text := "lldp-experiment"

/-- `_audit_action` -/
def auditAction (action : Text) (commands : List Text) (success : Bool) (started : Nat) (error : Option Text) :
    Action Unit := do
  let finished ← quietly monotonic
  auditRecord {
    actor := lldpActor, action := action, commands := commands, success := success, durationMs := finished - started
    errorType := error.map fun _ => "ios_rejected".toList
    errorMessage := error }

/-- The commands of an action, which fails if IOS rejects them. -/
def Client.runAccepted (client : Client) (commands : List Text) : Action Unit := do
  let output ← client.runRawAction commands
  match classifyIosResponse output with
  | some rejection => throw (.other "RuntimeError" rejection)
  | none => return ()

/-- `_fixed_action` -/
def fixedAction (client : Client) (action : Text) (commands : List Text) : Action Unit := do
  let started ← quietly monotonic
  let outcome : Except Exn Unit ← quietly (client.runAccepted commands)
  match outcome with
  | .ok () => auditAction action commands true started none
  | .error exc =>
    if exc.isException then
      auditAction action commands false started (some (exc.typeName ++ (": " : Text) ++ exc.message))
    throw exc

/-- What follows the enabling commands: the neighbours that LLDP shows after a while. -/
def observeNeighbors (client : Client) (waitSeconds : Rat) (sleeper : Rat → Except Exn Unit) : Action (List Text) := do
  let enabledConfig ← runAndAudit client .showRunningConfig lldpActor
  if (inspectLldp (some enabledConfig) [] []).enabled ≠ some true then
    throw (.other "RuntimeError" "LLDP enable verification failed.")
  else
    orRaise (sleeper (max 0 (min waitSeconds 90)))
    let summary ← runAndAudit client .showLldpNeighbors lldpActor
    let detail ← runAndAudit client .showLldpNeighborsDetail lldpActor
    return (inspectLldp (some enabledConfig) summary detail).neighbors.map (·.remoteName)

/-- The body of the `try`. -/
def observeEnabled (client : Client) (waitSeconds : Rat) (sleeper : Rat → Except Exn Unit) : Action (List Text) := do
  fixedAction client "temporary_lldp_enable" enableLldp
  observeNeighbors client waitSeconds sleeper

/-- A result without an experiment. -/
def unchangedResult (status : LldpExperimentStatus) (neighbors : List Text) (detail : Text) : LldpExperimentResult where
  status := status
  changed := false
  neighbors := neighbors
  backupFilename := none
  runningRestored := true
  startupUnchanged := true
  detail := detail

/-- The experiment proper, from the backup on. -/
def enableAndRestore (client : Client) (waitSeconds : Rat) (sleeper : Rat → Except Exn Unit)
    (beforeRunning beforeStartup : Text) : Action LldpExperimentResult := do
  let backup ← backupRunningConfig client lldpActor beforeRunning
  let observed : Except Exn (List Text) ← quietly (observeEnabled client waitSeconds sleeper)
  -- `finally`
  fixedAction client "temporary_lldp_restore" disableLldp
  let afterRunning ← runAndAudit client .showRunningConfig lldpActor
  let afterStartup ← runAndAudit client .showStartupConfig lldpActor
  if stableConfig beforeRunning ≠ stableConfig afterRunning ∨ stableConfig beforeStartup ≠ stableConfig afterStartup then
    throw (.other "RuntimeError"
      "LLDP experiment restoration verification failed; configuration differs from the captured state.")
  else
    let observedNames ← orRaise observed
    return {
      status := .complete, changed := true, neighbors := observedNames, backupFilename := some backup.filename
      runningRestored := true, startupUnchanged := true
      detail := ("Observed " : Text) ++ Text.ofNat observedNames.length ++
        (" LLDP neighbour(s); running configuration was restored and startup configuration was never changed." : Text) }

/-- `run_temporary_lldp_experiment` -/
def runTemporaryLldpExperiment (client : Client) (waitSeconds : Rat) (sleeper : Rat → Except Exn Unit) :
    Action LldpExperimentResult := do
  let beforeRunning ← runAndAudit client .showRunningConfig lldpActor
  let beforeStartup ← runAndAudit client .showStartupConfig lldpActor
  let beforeSummary ← runAndAudit client .showLldpNeighbors lldpActor
  let beforeDetail ← runAndAudit client .showLldpNeighborsDetail lldpActor
  let before := inspectLldp (some beforeRunning) beforeSummary beforeDetail
  if before.state = .unsupported then
    return unchangedResult .skipped [] "Skipped because this IOS image does not support LLDP."
  else if before.enabled = some true then
    return unchangedResult .alreadyEnabled (before.neighbors.map (·.remoteName))
      "LLDP was already enabled, so no temporary configuration was applied."
  else if before.state ≠ .disabled then
    return unchangedResult .skipped [] "Skipped because the original LLDP state was uncertain."
  else enableAndRestore client waitSeconds sleeper beforeRunning beforeStartup

/-! ## What a run leaves in its log -/

section logged

variable {log : Log} {client : Client}

theorem auditAction_logged {action : Text} {commands : List Text} {success : Bool} {started : Nat} {error : Option Text} :
    Meets logged (auditAction action commands success started error) log fun _ log' => log' = log := by
  unfold auditAction
  rw [meets_quietly_bind]
  exact meets_perform.mpr ⟨trivial, fun finished _ => meets_perform.mpr ⟨trivial, fun recorded _ => rfl⟩⟩

theorem runAccepted_logged {commands : List Text} :
    Meets logged (client.runAccepted commands) log fun _ log' => ∃ answer, log' = log.send commands answer := by
  unfold Client.runAccepted
  rw [meets_raising_bind]
  refine meets_perform.mpr ⟨trivial, fun answer _ => ?_⟩
  cases (answer : Except Exn Text) with
  | error exc => exact ⟨.error exc, rfl⟩
  | ok output =>
    rw [continues_ok]
    split
    · exact ⟨.ok output, rfl⟩
    · exact ⟨.ok output, rfl⟩

/-- **An action** sends its commands, whatever else goes wrong. -/
theorem fixedAction_logged {action : Text} {commands : List Text} :
    Meets logged (fixedAction client action commands) log fun _ log' => ∃ answer, log' = log.send commands answer := by
  unfold fixedAction
  rw [meets_quietly_bind]
  refine meets_perform.mpr ⟨trivial, fun started _ => ?_⟩
  rw [meets_quietly_bind]
  refine runAccepted_logged.mono fun outcome log' sent => ?_
  cases outcome with
  | ok _ =>
    refine auditAction_logged.mono fun _ log'' same => ?_
    rw [same]
    exact sent
  | error exc =>
    dsimp only
    split
    · rw [meets_raising_bind]
      refine auditAction_logged.mono fun recorded log'' same => ?_
      rw [same]
      cases recorded with
      | error _ => exact sent
      | ok _ => exact sent
    · exact sent

/-- A read sends nothing. -/
theorem runAndAudit_sends {symbol : ReadSymbol} :
    Meets logged (runAndAudit client symbol lldpActor) log fun r log' =>
      log.SameSends log' ∧ ∀ output, r = .ok output → log' = log.read symbol output := by
  refine (runAndAudit_logged client symbol lldpActor).mono fun r log' read => ?_
  cases r with
  | error exc => exact ⟨read, fun _ failed => by cases failed⟩
  | ok output =>
    subst read
    exact ⟨⟨rfl, rfl⟩, fun _ same => by cases same; rfl⟩

/-- The operations that send nothing, and after which the last outputs of the commands but one are the same. -/
def KeepsOutputs (effect : Effect) : Prop :=
  ∀ (log : Log) answer, log.SameSends (log.next effect answer) ∧
    ∀ symbol, symbol ≠ .terminalLength0 → (log.next effect answer).reads.last symbol = log.reads.last symbol

/-- **The backup** sends nothing, and keeps what was read. -/
theorem backupRunningConfig_keeps {configText : Text} :
    Meets logged (backupRunningConfig client lldpActor configText) log fun _ log' => log.SameSends log' ∧
      ∀ symbol, symbol ≠ .terminalLength0 → log'.reads.last symbol = log.reads.last symbol := by
  have untraced {effect : Effect} (h : Untraced effect) : KeepsOutputs effect := by
    intro log answer
    rw [h]
    exact ⟨.refl _, fun _ _ => rfl⟩
  have paging : KeepsOutputs (.run client .terminalLength0) := by
    intro log answer
    refine ⟨.run log client _ answer, fun symbol other => ?_⟩
    cases (answer : Except Exn Text) with
    | error exc => rfl
    | ok output => exact Reads.last_cons_ne _ other.symm output
  have only : Only KeepsOutputs (backupRunningConfig client lldpActor configText) := by
    unfold backupRunningConfig
    refine Only.raising_bind ⟨untraced fun _ _ => rfl, fun _ => trivial⟩ fun start => ?_
    refine Only.raising_bind ⟨paging, fun _ => trivial⟩ fun _ => ?_
    refine Only.raising_bind ⟨untraced fun _ _ => rfl, fun _ => trivial⟩ fun backup => ?_
    refine Only.raising_bind ⟨untraced fun _ _ => rfl, fun _ => trivial⟩ fun finish => ?_
    exact Only.raising_bind ⟨untraced fun _ _ => rfl, fun _ => trivial⟩ fun _ => trivial
  refine only.invariant (fun effect keeps log' known => ⟨trivial, fun answer _ => ?_⟩) ⟨.refl _, fun _ _ => rfl⟩
  obtain ⟨sends, outputs⟩ := keeps log' answer
  exact ⟨known.1.trans sends, fun symbol other => (outputs symbol other).trans (known.2 symbol other)⟩

/-- The operations that send nothing. -/
def SendsNothing (effect : Effect) : Prop := ∀ (log : Log) answer, log.SameSends (log.next effect answer)

theorem runAndAudit_sendsNothing (symbol : ReadSymbol) : Only SendsNothing (runAndAudit client symbol lldpActor) :=
  runAndAudit_only (fun log answer => .run log client symbol answer) (fun _ _ _ => .refl _) fun _ _ => .refl _

theorem observeNeighbors_sendsNothing {waitSeconds : Rat} {sleeper : Rat → Except Exn Unit} :
    Only SendsNothing (observeNeighbors client waitSeconds sleeper) := by
  unfold observeNeighbors
  refine Only.raising_bind (runAndAudit_sendsNothing _) fun enabledConfig => ?_
  split
  · trivial
  · refine Only.raising_bind trivial fun _ => ?_
    refine Only.raising_bind (runAndAudit_sendsNothing _) fun summary => ?_
    exact Only.raising_bind (runAndAudit_sendsNothing _) fun detail => trivial

/-- **The observation** sends the enabling commands and no others. -/
theorem observeEnabled_logged {waitSeconds : Rat} {sleeper : Rat → Except Exn Unit} :
    Meets logged (observeEnabled client waitSeconds sleeper) log fun _ log' =>
      ∃ answer, (log.send enableLldp answer).SameSends log' := by
  unfold observeEnabled
  rw [meets_raising_bind]
  refine fixedAction_logged.mono fun r log₁ sent => ?_
  obtain ⟨answer, rfl⟩ := sent
  cases r with
  | error exc => exact ⟨answer, .refl _⟩
  | ok _ =>
    rw [continues_ok]
    refine (observeNeighbors_sendsNothing.invariant (I := (log.send enableLldp answer).SameSends) ?_ (.refl _)).mono
      fun _ _ same => ⟨answer, same⟩
    exact fun effect nothing log' known => ⟨trivial, fun answer' _ => known.trans (nothing log' answer')⟩

/-! ## Restoring -/

/-- LLDP was disabled, by the outputs that were read. -/
def SeenDisabled (reads : Reads) : Prop :=
  ∃ config summary detail, reads.last .showRunningConfig = some config ∧ reads.last .showLldpNeighbors = some summary ∧
    reads.last .showLldpNeighborsDetail = some detail ∧ (inspectLldp (some config) summary detail).state = .disabled

/-- With a configuration at hand LLDP is disabled if nothing shows that it runs. -/
theorem state_inspectLldp_eq_disabled {config summary detail : Text} :
    (inspectLldp (some config) summary detail).state = .disabled ↔
      Topology.unsupported (summary ++ "\n" ++ detail) = false ∧ Regex.search (Topology.lldpRun []) config = none ∧
        Topology.parseLldp detail summary = [] := by
  rw [inspectLldp]
  split
  · next rejected =>
    refine iff_of_false (fun same => Topology.LldpState.noConfusion same) ?_
    rintro ⟨accepted, -⟩
    exact Bool.false_ne_true (accepted.symm.trans rejected)
  · next accepted =>
    have accepted := Bool.eq_false_of_not_eq_true accepted
    dsimp only
    split
    · next enabled =>
      refine iff_of_false (fun same => Topology.LldpState.noConfusion same) ?_
      rintro ⟨-, unconfigured, unseen⟩
      rw [unseen, Option.bind_some, unconfigured] at enabled
      exact Bool.false_ne_true enabled
    · next other =>
      rw [Bool.or_eq_true, not_or, Option.bind_some, Option.not_isSome_iff_eq_none, Bool.not_eq_true, Bool.not_eq_false',
        List.isEmpty_iff] at other
      rw [if_pos (by simp only [Option.bind_some, other.1, Option.isSome_some, Option.isSome_none, Bool.not_false,
        Bool.and_self, Bool.or_true])]
      exact iff_of_true rfl ⟨accepted, other⟩

/-- The last configurations read before anything was sent and after everything was are the same, their volatile lines
aside. -/
def Unchanged (log : Log) (symbol : ReadSymbol) : Prop :=
  ∃ before after, log.before.last symbol = some before ∧ log.reads.last symbol = some after ∧
    stableConfig before = stableConfig after

/-- What a run may send: nothing, or the enabling commands once LLDP was seen disabled, and then the disabling ones. -/
def SendsRestored (log : Log) : Prop :=
  log.sent.map (·.1) = [] ∨ log.sent.map (·.1) = [enableLldp, disableLldp] ∧ SeenDisabled log.before

/-- What a completed experiment has shown. -/
def ShownUnchanged (outcome : Except Exn LldpExperimentResult) (log : Log) : Prop :=
  ∀ result, outcome = .ok result → result.status = .complete →
    Unchanged log .showRunningConfig ∧ Unchanged log .showStartupConfig

theorem SendsRestored.of_sameSends {log' : Log} (h : SendsRestored log) (same : log.SameSends log') : SendsRestored log' := by
  unfold SendsRestored at h ⊢
  rwa [same.1, same.2]

/-- **The experiment proper** restores what it enables, however its steps end. -/
theorem enableAndRestore_logged {waitSeconds : Rat} {sleeper : Rat → Except Exn Unit} {beforeRunning beforeStartup : Text}
    (unsent : log.sent = []) (disabled : SeenDisabled log.reads)
    (running : log.reads.last .showRunningConfig = some beforeRunning)
    (startup : log.reads.last .showStartupConfig = some beforeStartup) :
    Meets logged (enableAndRestore client waitSeconds sleeper beforeRunning beforeStartup) log fun r log' =>
      SendsRestored log' ∧ ShownUnchanged r log' := by
  unfold enableAndRestore
  rw [meets_raising_bind]
  refine backupRunningConfig_keeps.mono fun backup log₁ kept => ?_
  obtain ⟨⟨-, sent⟩, outputs⟩ := kept
  rw [unsent] at sent
  cases backup with
  | error exc => exact ⟨.inl (by rw [sent, List.map_nil]), fun _ failed => by cases failed⟩
  | ok backup =>
    rw [continues_ok, meets_quietly_bind]
    refine observeEnabled_logged.mono fun observed log₂ enabled => ?_
    obtain ⟨answer, before, sends⟩ := enabled
    rw [meets_raising_bind]
    refine fixedAction_logged.mono fun restored log₃ disabled' => ?_
    obtain ⟨answer', rfl⟩ := disabled'
    -- the log once the disabling commands were sent
    have sent₂ : log₂.sent = [(enableLldp, answer)] := by rw [sends, Log.send, sent, List.nil_append]
    have before₂ : log₂.before = log₁.reads := by rw [before, Log.send, sent, List.isEmpty_nil, if_pos rfl]
    have before₃ : (log₂.send disableLldp answer').before = log₁.reads := by
      rw [Log.send, sent₂]
      exact before₂
    have restoredSends : SendsRestored (log₂.send disableLldp answer') := by
      refine .inr ⟨by rw [Log.send, sent₂]; rfl, ?_⟩
      obtain ⟨config, summary, detail, hconfig, hsummary, hdetail, state⟩ := disabled
      rw [before₃]
      exact ⟨config, summary, detail, (outputs _ (by decide)).trans hconfig, (outputs _ (by decide)).trans hsummary,
        (outputs _ (by decide)).trans hdetail, state⟩
    generalize log₂.send disableLldp answer' = log₃ at before₃ restoredSends
    cases restored with
    | error exc => exact ⟨restoredSends, fun _ failed => by cases failed⟩
    | ok _ =>
      rw [continues_ok, meets_raising_bind]
      refine runAndAudit_sends.mono fun r log₄ read => ?_
      cases r with
      | error exc => exact ⟨restoredSends.of_sameSends read.1, fun _ failed => by cases failed⟩
      | ok afterRunning =>
        obtain ⟨-, shown⟩ := read
        cases shown afterRunning rfl
        rw [continues_ok, meets_raising_bind]
        refine runAndAudit_sends.mono fun r log₅ read => ?_
        cases r with
        | error exc => exact ⟨restoredSends.of_sameSends read.1, fun _ failed => by cases failed⟩
        | ok afterStartup =>
          obtain ⟨same, shown⟩ := read
          cases shown afterStartup rfl
          have restoredAfter := restoredSends.of_sameSends (Log.SameSends.trans ⟨rfl, rfl⟩ same)
          rw [continues_ok]
          split
          · exact ⟨restoredAfter, fun _ failed => by cases failed⟩
          · next unchanged =>
            rw [not_or, not_not, not_not] at unchanged
            cases observed with
            | error exc => exact ⟨restoredAfter, fun _ failed => by cases failed⟩
            | ok observedNames =>
              refine ⟨restoredAfter, fun _ _ _ => ⟨?_, ?_⟩⟩
              · refine ⟨beforeRunning, afterRunning, ?_, rfl, unchanged.1⟩
                exact (congrArg (Reads.last · _) before₃).trans ((outputs _ (by decide)).trans running)
              · refine ⟨beforeStartup, afterStartup, ?_, rfl, unchanged.2⟩
                exact (congrArg (Reads.last · _) before₃).trans ((outputs _ (by decide)).trans startup)

theorem runTemporaryLldpExperiment_logged {waitSeconds : Rat} {sleeper : Rat → Except Exn Unit} :
    Meets logged (runTemporaryLldpExperiment client waitSeconds sleeper) {} fun r log' =>
      SendsRestored log' ∧ ShownUnchanged r log' := by
  have unsent {log' : Log} (same : Log.SameSends {} log') : SendsRestored log' := .inl (by rw [same.2]; rfl)
  have none {exc : Exn} {log' : Log} : ShownUnchanged (.error exc) log' := fun _ failed => by cases failed
  unfold runTemporaryLldpExperiment
  rw [meets_raising_bind]
  refine runAndAudit_sends.mono fun r log₁ read => ?_
  cases r with
  | error exc => exact ⟨unsent read.1, none⟩
  | ok beforeRunning =>
    cases read.2 beforeRunning rfl
    rw [continues_ok, meets_raising_bind]
    refine runAndAudit_sends.mono fun r log₂ read => ?_
    cases r with
    | error exc => exact ⟨unsent (.trans ⟨rfl, rfl⟩ read.1), none⟩
    | ok beforeStartup =>
      cases read.2 beforeStartup rfl
      rw [continues_ok, meets_raising_bind]
      refine runAndAudit_sends.mono fun r log₃ read => ?_
      cases r with
      | error exc => exact ⟨unsent (.trans ⟨rfl, rfl⟩ read.1), none⟩
      | ok beforeSummary =>
        cases read.2 beforeSummary rfl
        rw [continues_ok, meets_raising_bind]
        refine runAndAudit_sends.mono fun r log₄ read => ?_
        cases r with
        | error exc => exact ⟨unsent (.trans ⟨rfl, rfl⟩ read.1), none⟩
        | ok beforeDetail =>
          cases read.2 beforeDetail rfl
          rw [continues_ok]
          dsimp only
          split
          · exact ⟨.inl rfl, fun result ok complete => by cases ok; cases complete⟩
          · split
            · exact ⟨.inl rfl, fun result ok complete => by cases ok; cases complete⟩
            · split
              · exact ⟨.inl rfl, fun result ok complete => by cases ok; cases complete⟩
              · next disabled =>
                refine enableAndRestore_logged rfl ?_ rfl rfl
                exact ⟨beforeRunning, beforeSummary, beforeDetail, rfl, rfl, rfl, not_not.mp disabled⟩

/-- **The LLDP experiment**, however its steps end: what it sends is nothing, or the enabling commands once LLDP was seen
disabled and then the disabling ones; and it is complete only if both configurations were seen unchanged. -/
theorem runTemporaryLldpExperiment_restores {waitSeconds : Rat} {sleeper : Rat → Except Exn Unit}
    {t : List (Event Effect Answer)} {r : Except Exn LldpExperimentResult}
    (h : Runs (runTemporaryLldpExperiment client waitSeconds sleeper) t r) :
    SendsRestored (after logged {} t) ∧ ShownUnchanged r (after logged {} t) :=
  Runs.ledger h runTemporaryLldpExperiment_logged

end logged

/-! ## A switch whose session breaks -/

/-- A switch that runs LLDP after one list of commands; the state counts the lists that it was sent. With `broken` the
session reports an error after the first list, which the switch has carried out. -/
def answerLldp (broken : Bool) : (effect : Effect) → Nat → Answer effect × Nat
  | .run _ .showRunningConfig, sent => (.ok (if sent = 1 then "lldp run\n" else "!\n"), sent)
  | .run _ .showLldpNeighbors, sent => (.ok (if sent = 1 then [] else "% LLDP is not enabled"), sent)
  | .run _ _, sent => (.ok [], sent)
  | .runRawAction _ _, sent => (if broken ∧ sent = 0 then .error (.switchOps .switchConnection []) else .ok [], sent + 1)
  | .auditRecord _, sent => (.ok (), sent)
  | .writeBackup _, sent => (.ok ⟨[], []⟩, sent)
  | .switchHost, sent => (none, sent)
  | .acquire _, sent => ((), sent)
  | .release _, sent => ((), sent)
  | .readUnlocked, sent => (false, sent)
  | .writeUnlocked _, sent => ((), sent)
  | .readPolicy, sent => (.absent, sent)
  | .writePolicy _, sent => (.ok (), sent)
  | .storeGet _, sent => (none, sent)
  | .storeSave _, sent => ((), sent)
  | .assuranceContext, sent => (.error .valueError, sent)
  | .uuid, sent => ([], sent)
  | .now, sent => ((0 : Nat), sent)
  | .monotonic, sent => ((0 : Nat), sent)
  | .mark _, sent => ((), sent)

def sampleExperiment : Action LldpExperimentResult := runTemporaryLldpExperiment ⟨"192.0.2.10"⟩ 65 fun _ => .ok ()

def experimentOn (broken : Bool) : Except Exn LldpExperimentResult × List (Event Effect Answer) :=
  sampleExperiment.simulate (answerLldp broken) 0

/-- An experiment that is completed, and one that is broken off and restored all the same. -/
theorem sampleExperiment_restores :
    (SendsRestored (after logged {} (experimentOn false).2) ∧
      ShownUnchanged (experimentOn false).1 (after logged {} (experimentOn false).2)) ∧
    ((experimentOn false).1.toOption.map (·.status)) = some .complete ∧
    SendsRestored (after logged {} (experimentOn true).2) ∧
    (experimentOn true).1.toOption = none ∧
    (after logged {} (experimentOn true).2).sent.map (·.1) = [enableLldp, disableLldp] := by
  have runs (broken : Bool) := runs_simulate (answerLldp broken) sampleExperiment 0
  refine ⟨runTemporaryLldpExperiment_restores (runs false), ?_, (runTemporaryLldpExperiment_restores (runs true)).1, ?_, ?_⟩
  · decide +kernel
  · decide +kernel
  · decide +kernel

end SwitchOps

import SwitchOps.Operations.Frame

/-!
# What the result of an operation says

A run of `_run_operation_authorized` is summarized by a `Log`: what was sent, how the device
answered, and what was read before the first and since the last of the sent lists. `Ending` lists
the seven ways in which a transaction ends, and every run ends in one of them
(`runOperationAuthorized_ending`). What a result claims about the device (`Sound`) is read off the
endings: it is true of all of them but one.
-/

namespace SwitchOps

open Effects Effects.Program

/-! ## Logs -/

/-- The outputs read from the device, the latest first. -/
abbrev Reads := List (ReadSymbol × Text)

namespace Reads

variable (reads : Reads)

/-- The latest output of a command. -/
def last (symbol : ReadSymbol) : Option Text :=
  (reads.find? fun read => read.1 = symbol).map (·.2)

/-- The interface, as the latest status table shows it. -/
def row (canonical : Text) : Option InterfaceStatus :=
  match (reads.last .showInterfacesStatus).map parseInterfaceStatus with
  | some (.ok rows) => rows.find? fun item => item.port.lower = (readerName canonical).lower
  | _ => none

/-- Its PoE policy, as the latest inline power table shows it. -/
def poe (canonical : Text) : Option Text :=
  (reads.last .showPowerInline).bind fun output => ((parsePoe output).find? fun port =>
    port.interface.lower = (readerName canonical).lower).map (·.admin)

/-- Its block in the latest running configuration. -/
def config (canonical : Text) : Option InterfaceConfig :=
  (reads.last .showRunningConfig).bind fun text => interfaceConfig text canonical

theorem last_cons_self (symbol : ReadSymbol) (output : Text) :
    last ((symbol, output) :: reads) symbol = some output := by
  simp [last]

theorem last_cons_ne {symbol symbol' : ReadSymbol} (h : symbol ≠ symbol') (output : Text) :
    last ((symbol, output) :: reads) symbol' = reads.last symbol' := by
  simp [last, h]

/-! A read changes only what is shown by it. -/

theorem row_cons_ne {symbol : ReadSymbol} (h : symbol ≠ .showInterfacesStatus) (output canonical : Text) :
    row ((symbol, output) :: reads) canonical = reads.row canonical := by
  rw [row, row, last_cons_ne _ h]

theorem poe_cons_ne {symbol : ReadSymbol} (h : symbol ≠ .showPowerInline) (output canonical : Text) :
    poe ((symbol, output) :: reads) canonical = reads.poe canonical := by
  rw [poe, poe, last_cons_ne _ h]

theorem config_cons_ne {symbol : ReadSymbol} (h : symbol ≠ .showRunningConfig)
    (output canonical : Text) :
    config ((symbol, output) :: reads) canonical = reads.config canonical := by
  rw [config, config, last_cons_ne _ h]

end Reads

/-- What happened between the backend and the device. -/
structure Log where
  /-- What was read before anything was sent. -/
  before : Reads := []
  /-- The command lists sent, with the answers of the device. -/
  sent : List (List Text × Except Exn Text) := []
  /-- What was read since. -/
  reads : Reads := []
  /-- A read failed; that the paging of the terminal could not be set does not count. -/
  failed : Bool := false

namespace Log

/-- A command was read. -/
def read (log : Log) (symbol : ReadSymbol) (output : Text) : Log :=
  { log with reads := (symbol, output) :: log.reads }

/-- A command list was sent. -/
def send (log : Log) (commands : List Text) (answer : Except Exn Text) : Log where
  before := if log.sent.isEmpty then log.reads else log.before
  sent := log.sent ++ [(commands, answer)]
  reads := []
  failed := log.failed

/-- The log after an operation of the environment. -/
def next (log : Log) : (effect : Effect) → Answer effect → Log
  | .run _ symbol, answer =>
    match (answer : Except Exn Text) with
    | .ok output => log.read symbol output
    | .error _ => { log with failed := log.failed || symbol ≠ .terminalLength0 }
  | .runRawAction _ commands, answer => log.send commands answer
  | _, _ => log

/-- The same was sent, after the same was read. -/
def SameSends (log log' : Log) : Prop := log'.before = log.before ∧ log'.sent = log.sent

theorem SameSends.refl (log : Log) : log.SameSends log := ⟨rfl, rfl⟩

theorem SameSends.trans {log log' log'' : Log} (h : log.SameSends log') (h' : log'.SameSends log'') :
    log.SameSends log'' := ⟨h'.1.trans h.1, h'.2.trans h.2⟩

theorem SameSends.run (log : Log) (client : Client) (symbol : ReadSymbol) (answer : Except Exn Text) :
    log.SameSends (log.next (.run client symbol) answer) := by
  cases answer with
  | ok output => exact ⟨rfl, rfl⟩
  | error exc => exact ⟨rfl, rfl⟩

end Log

/-- Runs, with their logs. -/
abbrev logged : Discipline Effect Answer Log := ledger Log.next

/-! ## What a result claims -/

section claims

variable {S : Type} (call : OperationCall S) (log : Log)

/-- The interface a call is about, if it names one that may be changed. -/
def operationTarget : Text := (assertInterfaceWritable call.interface).toOption.getD []

/-- The sanitized value of a call, if it needs one. -/
def intendedValue : Option Text :=
  if (operationSpec call.kind).needsValue then (sanitizeDescription (call.value.getD [])).toOption
  else none

/-- The list that makes the change. -/
def changeCommands : List Text :=
  renderCommands (operationSpec call.kind) (operationTarget call) (intendedValue call)

/-- What was read shows the intended state. -/
def Met (reads : Reads) : Prop :=
  (postconditionMet call.kind (reads.row (operationTarget call))
    (if call.kind.isPoe then reads.poe (operationTarget call) else none) (intendedValue call)
    (reads.config (operationTarget call))).1 = true

/-- The last list that was sent restores the property as it was read before the change; the device
did not reject it, and what was read afterwards verifies it. -/
def Restored : Prop :=
  ∃ config commands output, log.before.config (operationTarget call) = some config ∧
    rollbackCommands call.kind (operationTarget call) config = some commands ∧
    log.sent.getLast? = some (commands, .ok output) ∧ classifyIosResponse output = none ∧
    rollbackVerified call.kind config (log.reads.row (operationTarget call))
      (if call.kind.isPoe then log.reads.poe (operationTarget call) else none)
      (log.reads.config (operationTarget call)) = true

/-- **Outcome soundness** of a result, for the run it came from. The device works through a list
line by line, so that it may have kept some lines of any list it was sent, unless the restore
sequence was verified. -/
structure Sound (result : OperationResult) : Prop where
  success : result.status = .success → Met call log.reads
  rolledBack : result.status = .rolledBack → Restored call log
  blocked : result.status = .blocked → log.sent = []
  commands : ∀ entry ∈ log.sent, entry.1 = changeCommands call ∨
    ∃ config, log.before.config (operationTarget call) = some config ∧
      rollbackCommands call.kind (operationTarget call) config = some entry.1
  requiresSave : result.requiresSave = false → log.sent = [] ∨ Restored call log

/-- The device answered the first list with a text that is classified as a rejection. -/
def Rejected : Prop :=
  ∃ commands output rest, log.sent = (commands, .ok output) :: rest ∧
    (classifyIosResponse output).isSome

/-- The ways in which a transaction ends. -/
inductive Ending (result : OperationResult) : Prop
  | blocked (status : result.status = .blocked) (sent : log.sent = [])
  | alreadyMet (status : result.status = .success) (sent : log.sent = [])
      (met : Met call log.reads) (complete : log.failed = false)
  | sendFailed (exc : Exn) (status : result.status = .failed) (save : result.requiresSave = true)
      (sent : log.sent = [(changeCommands call, .error exc)])
  | rejected (output : Text) (status : result.status = .failed)
      (save : result.requiresSave = false) (sent : log.sent = [(changeCommands call, .ok output)])
      (rejection : (classifyIosResponse output).isSome)
  | verified (output : Text) (status : result.status = .success)
      (save : result.requiresSave = true) (sent : log.sent = [(changeCommands call, .ok output)])
      (accepted : classifyIosResponse output = none) (met : Met call log.reads)
      (complete : log.failed = false)
  | rolledBack (output : Text) (restore : List Text) (output' : Text) (config : InterfaceConfig)
      (status : result.status = .rolledBack)
      (sent : log.sent = [(changeCommands call, .ok output), (restore, .ok output')])
      (accepted : classifyIosResponse output = none)
      (before : log.before.config (operationTarget call) = some config)
      (rollback : rollbackCommands call.kind (operationTarget call) config = some restore)
      (restored : Restored call log)
  | rollbackFailed (output : Text) (restore : List Text) (answer : Except Exn Text)
      (config : InterfaceConfig) (status : result.status = .failed)
      (save : result.requiresSave = true)
      (sent : log.sent = [(changeCommands call, .ok output), (restore, answer)])
      (accepted : classifyIosResponse output = none)
      (before : log.before.config (operationTarget call) = some config)
      (rollback : rollbackCommands call.kind (operationTarget call) config = some restore)

end claims

section endings

variable {S : Type} {call : OperationCall S} {log : Log} {result : OperationResult}

/-- Nothing was rejected if nothing was sent, or if the first list was not. -/
theorem not_rejected_of_nil (sent : log.sent = []) : ¬ Rejected log := by
  rintro ⟨commands, output, rest, hsent, -⟩
  rw [sent] at hsent
  cases hsent

theorem not_rejected_of_cons {commands : List Text} {answer : Except Exn Text}
    {rest : List (List Text × Except Exn Text)} (sent : log.sent = (commands, answer) :: rest)
    (h : ∀ output, answer = .ok output → classifyIosResponse output = none) : ¬ Rejected log := by
  rintro ⟨commands', output, rest', hsent, hrejection⟩
  rw [sent] at hsent
  cases hsent
  rw [h output rfl] at hrejection
  cases hrejection

/-- Nothing can be wrong with a result if nothing was sent, unless it claims success. -/
theorem sound_of_nil (sent : log.sent = []) (hsuccess : result.status = .success → Met call log.reads)
    (hrolledBack : result.status ≠ .rolledBack) : Sound call log result where
  success := hsuccess
  rolledBack h := absurd h hrolledBack
  blocked _ := sent
  commands entry hentry := by
    rw [sent] at hentry
    cases hentry
  requiresSave _ := .inl sent

/-- **A result is sound in every ending but a rejection.** There it does not ask for a save,
although lines of the rejected list may have been kept. -/
theorem sound_iff_of_ending (h : Ending call log result) : Sound call log result ↔ ¬ Rejected log := by
  cases h with
  | blocked status sent =>
    refine ⟨fun _ => not_rejected_of_nil sent, fun _ => sound_of_nil sent ?_ ?_⟩
    · intro h
      rw [status] at h
      cases h
    · rw [status]
      decide
  | alreadyMet status sent met _ =>
    refine ⟨fun _ => not_rejected_of_nil sent, fun _ => sound_of_nil sent (fun _ => met) ?_⟩
    rw [status]
    decide
  | sendFailed exc status save sent =>
    refine ⟨fun _ => not_rejected_of_cons sent (by rintro output ⟨⟩), fun _ => ?_⟩
    constructor
    · intro h; rw [status] at h; cases h
    · intro h; rw [status] at h; cases h
    · intro h; rw [status] at h; cases h
    · intro entry hentry
      rw [sent, List.mem_singleton] at hentry
      exact .inl (congrArg Prod.fst hentry)
    · intro h; rw [save] at h; cases h
  | rejected output status save sent rejection =>
    have hrejected : Rejected log := ⟨_, output, [], sent, rejection⟩
    refine ⟨fun hsound => ?_, fun h => absurd hrejected h⟩
    rcases hsound.requiresSave save with hnil | hrestored
    · rw [sent] at hnil
      cases hnil
    · obtain ⟨config, commands, output', -, -, hlast, haccepted, -⟩ := hrestored
      rw [sent] at hlast
      cases hlast
      rw [haccepted] at rejection
      cases rejection
  | verified output status save sent accepted met _ =>
    refine ⟨fun _ => not_rejected_of_cons sent (by rintro output' ⟨⟩; exact accepted), fun _ => ?_⟩
    constructor
    · intro _; exact met
    · intro h; rw [status] at h; cases h
    · intro h; rw [status] at h; cases h
    · intro entry hentry
      rw [sent, List.mem_singleton] at hentry
      exact .inl (congrArg Prod.fst hentry)
    · intro h; rw [save] at h; cases h
  | rolledBack output restore output' config status sent accepted before rollback restored =>
    refine ⟨fun _ => not_rejected_of_cons sent (by rintro output' ⟨⟩; exact accepted), fun _ => ?_⟩
    constructor
    · intro h; rw [status] at h; cases h
    · intro _; exact restored
    · intro h; rw [status] at h; cases h
    · intro entry hentry
      rw [sent, List.mem_cons, List.mem_singleton] at hentry
      rcases hentry with rfl | rfl
      · exact .inl rfl
      · exact .inr ⟨config, before, rollback⟩
    · intro _; exact .inr restored
  | rollbackFailed output restore answer config status save sent accepted before rollback =>
    refine ⟨fun _ => not_rejected_of_cons sent (by rintro output' ⟨⟩; exact accepted), fun _ => ?_⟩
    constructor
    · intro h; rw [status] at h; cases h
    · intro h; rw [status] at h; cases h
    · intro h; rw [status] at h; cases h
    · intro entry hentry
      rw [sent, List.mem_cons, List.mem_singleton] at hentry
      rcases hentry with rfl | rfl
      · exact .inl rfl
      · exact .inr ⟨config, before, rollback⟩
    · intro h; rw [save] at h; cases h

end endings

/-! ## Reading and sending -/

section steps

variable {S : Type} {log : Log}

/-- The operations that leave no trace in a log. -/
def Untraced (effect : Effect) : Prop := ∀ (log : Log) answer, log.next effect answer = log

theorem untraced_of_bookkeeping {effect : Effect} (h : effect.bookkeeping = true) :
    Untraced effect := by
  intro log answer
  cases effect with
  | run _ _ => cases h
  | runRawAction _ _ => cases h
  | _ => rfl

theorem untraced_logged {α : Type} {p : Proc α} (hp : Only Untraced p) :
    Meets logged p log fun _ log' => log' = log :=
  hp.meets (fun _ heffect => ⟨trivial, fun answer _ => heffect log answer⟩) fun _ => rfl

theorem bookkeeping_logged {α : Type} {p : Proc α} (hp : Only (fun e => e.bookkeeping = true) p) :
    Meets logged p log fun _ log' => log' = log :=
  untraced_logged (hp.mono fun _ => untraced_of_bookkeeping)

theorem runAndAudit_logged (client : Client) (symbol : ReadSymbol) (actor : Text) :
    Meets logged (runAndAudit client symbol actor) log fun r log' => match r with
      | .ok output => log' = log.read symbol output
      | .error _ => log.SameSends log' := by
  unfold runAndAudit
  rw [meets_quietly_bind]
  refine meets_perform.mpr ⟨trivial, fun start _ => ?_⟩
  rw [meets_quietly_bind]
  refine meets_perform.mpr ⟨trivial, fun outcome _ => ?_⟩
  rw [meets_quietly_bind]
  refine meets_perform.mpr ⟨trivial, fun finish _ => ?_⟩
  rw [meets_raising_bind]
  refine meets_perform.mpr ⟨trivial, fun recorded _ => ?_⟩
  -- a record that fails replaces the outcome
  cases (recorded : Except Exn Unit) with
  | error exc =>
    cases (outcome : Except Exn Text) with
    | ok output => exact Log.SameSends.run log client symbol (.ok output)
    | error exc' => exact Log.SameSends.run log client symbol (.error exc')
  | ok _ =>
    cases (outcome : Except Exn Text) with
    | ok output => exact rfl
    | error exc' => exact Log.SameSends.run log client symbol (.error exc')

theorem readInterface_logged (client : Client) (canonical actor : Text) :
    Meets logged (readInterface client canonical actor) log fun r log' => log.SameSends log' ∧
      ∀ row, r = .ok row → row = log'.reads.row canonical ∧
        log'.reads.config canonical = log.reads.config canonical ∧ log'.failed = log.failed := by
  unfold readInterface
  rw [meets_raising_bind]
  refine (runAndAudit_logged _ _ _).mono fun status log' hstatus => ?_
  cases status with
  | error exc => exact ⟨hstatus, by rintro row ⟨⟩⟩
  | ok output =>
    cases hstatus
    have hlast := Reads.last_cons_self log.reads .showInterfacesStatus output
    rw [continues_ok]
    cases hparse : parseInterfaceStatus output with
    | error exc => exact ⟨⟨rfl, rfl⟩, by rintro row ⟨⟩⟩
    | ok rows =>
      refine ⟨⟨rfl, rfl⟩, ?_⟩
      rintro row ⟨⟩
      refine ⟨?_, Reads.config_cons_ne _ (by decide) _ _, rfl⟩
      show _ = Reads.row ((.showInterfacesStatus, output) :: log.reads) canonical
      rw [Reads.row, hlast, Option.map_some, hparse]

theorem readPoeState_logged (client : Client) (canonical actor : Text) :
    Meets logged (readPoeState client canonical actor) log fun r log' => log.SameSends log' ∧
      ∀ poe, r = .ok poe → poe = log'.reads.poe canonical ∧
        log'.reads.row canonical = log.reads.row canonical ∧
        log'.reads.config canonical = log.reads.config canonical ∧ log'.failed = log.failed := by
  unfold readPoeState
  rw [meets_raising_bind]
  refine (runAndAudit_logged _ _ _).mono fun status log' hstatus => ?_
  cases status with
  | error exc => exact ⟨hstatus, by rintro poe ⟨⟩⟩
  | ok output =>
    cases hstatus
    have hlast := Reads.last_cons_self log.reads .showPowerInline output
    refine ⟨⟨rfl, rfl⟩, ?_⟩
    rintro poe ⟨⟩
    refine ⟨?_, Reads.row_cons_ne _ (by decide) _ _, Reads.config_cons_ne _ (by decide) _ _, rfl⟩
    show _ = Reads.poe ((.showPowerInline, output) :: log.reads) canonical
    rw [Reads.poe, hlast, Option.bind_some]

/-- A backup reads no configuration of its own. -/
theorem backupRunningConfig_logged (client : Client) (actor configText : Text) :
    Meets logged (backupRunningConfig client actor configText) log fun _ log' =>
      log.SameSends log' ∧ log'.failed = log.failed ∧
        ∀ canonical, log'.reads.config canonical = log.reads.config canonical := by
  unfold backupRunningConfig
  rw [meets_quietly_bind]
  refine meets_perform.mpr ⟨trivial, fun start _ => ?_⟩
  rw [meets_quietly_bind]
  refine meets_perform.mpr ⟨trivial, fun paging _ => ?_⟩
  refine meets_raising_bind.mpr (meets_perform.mpr ⟨trivial, fun backup _ => ?_⟩)
  have hlog : log.SameSends (log.next (.run client .terminalLength0) paging) ∧
      (log.next (.run client .terminalLength0) paging).failed = log.failed ∧ ∀ canonical,
      (log.next (.run client .terminalLength0) paging).reads.config canonical =
        log.reads.config canonical := by
    refine ⟨Log.SameSends.run log client _ _, ?_⟩
    cases (paging : Except Exn Text) with
    | error exc => exact ⟨Bool.or_false _, fun _ => rfl⟩
    | ok output => exact ⟨rfl, fun _ => Reads.config_cons_ne _ (by decide) _ _⟩
  cases (backup : Except Exn BackupResult) with
  | error exc => exact hlog
  | ok backup =>
    rw [continues_ok, meets_quietly_bind]
    refine meets_perform.mpr ⟨trivial, fun finish _ => ?_⟩
    rw [meets_raising_bind]
    refine meets_perform.mpr ⟨trivial, fun recorded _ => ?_⟩
    cases (recorded : Except Exn Unit) with
    | error exc => exact hlog
    | ok _ => exact hlog

namespace Transaction

variable {run : Transaction S}

/-- What is observed is what the log shows afterwards; the configuration is not read. -/
theorem observe_logged (canonical : Text) :
    Meets logged (run.observe canonical) log fun r log' => log.SameSends log' ∧
      ∀ row poe, r = .ok (row, poe) → row = log'.reads.row canonical ∧
        (poe = if run.kind.isPoe then log'.reads.poe canonical else none) ∧
        log'.reads.config canonical = log.reads.config canonical ∧ log'.failed = log.failed := by
  unfold observe
  rw [meets_raising_bind]
  refine (readInterface_logged _ _ _).mono fun found log₁ hfound => ?_
  obtain ⟨hsends, hrow⟩ := hfound
  cases found with
  | error exc => exact ⟨hsends, by rintro row poe ⟨⟩⟩
  | ok row =>
    obtain ⟨hrow, hconfig, hfailed⟩ := hrow row rfl
    rw [continues_ok]
    dsimp only
    by_cases hpoe : run.kind.isPoe = true
    · rw [if_pos hpoe, meets_raising_bind]
      refine (readPoeState_logged _ _ _).mono fun state log₂ hstate => ?_
      obtain ⟨hsends', hstate⟩ := hstate
      cases state with
      | error exc => exact ⟨hsends.trans hsends', by rintro row poe ⟨⟩⟩
      | ok poe =>
        obtain ⟨hstate, hrow', hconfig', hfailed'⟩ := hstate poe rfl
        refine ⟨hsends.trans hsends', ?_⟩
        rintro row poe ⟨⟩
        rw [if_pos hpoe]
        exact ⟨hrow.trans hrow'.symm, hstate, hconfig'.trans hconfig, hfailed'.trans hfailed⟩
    · rw [if_neg hpoe]
      refine ⟨hsends, ?_⟩
      rintro row poe ⟨⟩
      rw [if_neg hpoe]
      exact ⟨hrow, rfl, hconfig, hfailed⟩

theorem readConfig_logged :
    Meets logged (runAndAudit run.client .showRunningConfig run.actor) log fun r log' =>
      log.SameSends log' ∧ ∀ text, r = .ok text →
        (∀ canonical, log'.reads.config canonical = interfaceConfig text canonical) ∧
        (∀ canonical, log'.reads.row canonical = log.reads.row canonical) ∧
        (∀ canonical, log'.reads.poe canonical = log.reads.poe canonical) ∧
        log'.failed = log.failed := by
  refine (runAndAudit_logged _ _ _).mono fun output log' houtput => ?_
  cases output with
  | error exc => exact ⟨houtput, by rintro text ⟨⟩⟩
  | ok text =>
    cases houtput
    refine ⟨⟨rfl, rfl⟩, ?_⟩
    rintro text ⟨⟩
    refine ⟨fun canonical => ?_, fun _ => Reads.row_cons_ne _ (by decide) _ _,
      fun _ => Reads.poe_cons_ne _ (by decide) _ _, rfl⟩
    show Reads.config ((.showRunningConfig, text) :: log.reads) canonical = _
    rw [Reads.config, Reads.last_cons_self, Option.bind_some]

theorem result_logged (report : Report) (progress : Stages S) :
    Meets logged ((run.result report).run progress) log fun r log' => log' = log ∧
      r.1.status = report.status ∧ r.1.requiresSave = report.requiresSave :=
  (bookkeeping_logged (result_bookkeeping run report progress)).yields
    (result_yields run report progress)

/-- What is reported leaves no trace. -/
theorem quiet_logged {α β : Type} {x : Staged S α} {rest : α → Staged S β} {progress : Stages S}
    {Q : β × Stages S → Log → Prop} (hx : Confined (fun e => e.bookkeeping = true) x)
    (h : ∀ r : α × Stages S, Meets logged ((rest r.1).run r.2) log Q) :
    Meets logged ((x >>= rest).run progress) log Q := by
  rw [meets_state_bind]
  refine (bookkeeping_logged (hx progress)).mono fun r log' hlog => ?_
  rw [hlog]
  exact h r

/-- A transaction that ends with a report. -/
theorem finish_result_logged {status : StageStatus} {detail : Text} {report : Report}
    {progress : Stages S} {Q : OperationResult × Stages S → Log → Prop}
    (h : ∀ r : OperationResult × Stages S, r.1.status = report.status →
      r.1.requiresSave = report.requiresSave → Q r log) :
    Meets logged ((run.finish status detail >>= fun _ => run.result report).run progress) log Q := by
  refine quiet_logged (OperationCall.finish_bookkeeping _ _ _) fun r => ?_
  refine (result_logged report r.2).mono fun r' log' hresult => ?_
  obtain ⟨rfl, hstatus, hsave⟩ := hresult
  exact h r' hstatus hsave

end Transaction

end steps

/-! ## Stages -/

namespace Transaction

section stages

variable {S : Type} {run : Transaction S} (original : Original run.kind) {log : Log}

/-- The precheck found the interface and the value the call is about. -/
structure Describes : Prop where
  target : operationTarget run.toOperationCall = original.canonical
  value : intendedValue run.toOperationCall = original.safeValue

variable {original} (hcall : Describes original)

include hcall

theorem changeCommands_eq : changeCommands run.toOperationCall =
    renderCommands (operationSpec run.kind) original.canonical original.safeValue := by
  rw [changeCommands, hcall.target, hcall.value]

/-- The restore sequence is sent; if it is found to be verified, the log shows that. -/
theorem restore_logged (hsent : log.sent ≠ [])
    (hbefore : log.before.config original.canonical = some original.config) :
    Meets logged (run.restore original) log fun r log' => log'.before = log.before ∧
      (∃ answer, log'.sent = log.sent ++ [(original.rollback, answer)]) ∧
      (r = .ok true → Restored run.toOperationCall log' ∧
        ∃ output, log'.sent = log.sent ++ [(original.rollback, .ok output)]) := by
  have hkept (answer : Except Exn Text) : (log.send original.rollback answer).before = log.before := by
    rw [Log.send, List.isEmpty_eq_false_iff.mpr hsent]
    rfl
  unfold restore
  rw [meets_raising_bind]
  refine meets_perform.mpr ⟨trivial, fun answer _ => ?_⟩
  cases (answer : Except Exn Text) with
  | error exc => exact ⟨hkept _, ⟨_, rfl⟩, by rintro ⟨⟩⟩
  | ok output =>
    rw [continues_ok]
    dsimp only
    rw [meets_raising_bind]
    refine (observe_logged _).mono fun observed log₁ hobserved => ?_
    obtain ⟨⟨hbefore₁, hsent₁⟩, hobserved⟩ := hobserved
    have hbefore₁ : log₁.before = log.before := hbefore₁.trans (hkept _)
    cases observed with
    | error exc => exact ⟨hbefore₁, ⟨_, hsent₁⟩, by rintro ⟨⟩⟩
    | ok observed =>
      obtain ⟨row, poe⟩ := observed
      obtain ⟨hrow, hpoe, -⟩ := hobserved row poe rfl
      rw [continues_ok]
      dsimp only [observeConfig]
      rw [meets_raising_bind, meets_raising_bind]
      refine readConfig_logged.mono fun text log₂ htext => ?_
      obtain ⟨⟨hbefore₂, hsent₂⟩, htext⟩ := htext
      cases text with
      | error exc =>
        exact ⟨hbefore₂.trans hbefore₁, ⟨_, hsent₂.trans hsent₁⟩, by rintro ⟨⟩⟩
      | ok text =>
        obtain ⟨hconfig, hrow', hpoe', -⟩ := htext text rfl
        refine ⟨hbefore₂.trans hbefore₁, ⟨_, hsent₂.trans hsent₁⟩, ?_⟩
        intro hverified
        simp only [Except.ok.injEq, Bool.and_eq_true, Option.isNone_iff_eq_none] at hverified
        refine ⟨⟨original.config, original.rollback, output, ?_, ?_, ?_, hverified.1, ?_⟩,
          output, hsent₂.trans hsent₁⟩
        · rw [hcall.target, hbefore₂, hbefore₁, hbefore]
        · rw [hcall.target]
          exact original.representable
        · rw [hsent₂, hsent₁]
          exact List.getLast?_concat
        · rw [hcall.target, hrow', hconfig, ← hrow, hpoe', ← hpoe]
          exact hverified.2

/-- After the change was sent and accepted, the rollback ends the transaction. -/
theorem rollBack_ending {output : Text}
    (hsent : log.sent = [(changeCommands run.toOperationCall, .ok output)])
    (haccepted : classifyIosResponse output = none)
    (hbefore : log.before.config original.canonical = some original.config)
    {commands : List Text} {backupPath : Option Text} {afterState detail : Text}
    {progress : Stages S} :
    Meets logged ((run.rollBack original commands backupPath afterState detail).run progress) log
      fun r log' => Ending run.toOperationCall log' r.1 := by
  have hrollback : rollbackCommands run.kind (operationTarget run.toOperationCall) original.config =
      some original.rollback := by
    rw [hcall.target]
    exact original.representable
  unfold rollBack
  refine quiet_logged (OperationCall.begin_bookkeeping _ _) fun r => ?_
  rw [meets_state_bind, meets_state_lift]
  refine (restore_logged hcall (by rw [hsent]; exact List.cons_ne_nil _ _) hbefore).mono
    fun restored log' hrestored => ?_
  obtain ⟨hbefore', ⟨answer, hsent'⟩, hverified⟩ := hrestored
  rw [hsent, List.singleton_append] at hsent'
  have hconfig : log'.before.config (operationTarget run.toOperationCall) = some original.config := by
    rw [hcall.target, hbefore', hbefore]
  -- whatever went wrong leaves the rollback unproven
  have hfailed {progress : Stages S} : Meets logged ((run.endRollBack original commands backupPath
      afterState detail false).run progress) log' fun r log' => Ending run.toOperationCall log' r.1 := by
    refine finish_result_logged fun r hstatus hsave => ?_
    exact .rollbackFailed output original.rollback answer original.config hstatus hsave hsent'
      haccepted hconfig hrollback
  cases restored with
  | error exc => exact hfailed
  | ok verified =>
    cases verified with
    | false => exact hfailed
    | true =>
      obtain ⟨hrestored, output', hsent''⟩ := hverified rfl
      rw [hsent, List.singleton_append] at hsent''
      refine finish_result_logged fun r hstatus _ => ?_
      exact .rolledBack output original.rollback output' original.config hstatus hsent''
        haccepted hconfig hrollback hrestored

omit hcall in
/-- The configuration matters to the postcondition of a description only. -/
theorem postconditionMet_config {kind : OperationKind} (h : kind ≠ .setDescription)
    (row : Option InterfaceStatus) (poe value : Option Text) (config config' : Option InterfaceConfig) :
    postconditionMet kind row poe value config = postconditionMet kind row poe value config' := by
  cases row with
  | none => rfl
  | some row =>
    cases kind with
    | setDescription => exact absurd rfl h
    | adminUp => rfl
    | adminDown => rfl
    | poeAuto => rfl
    | poeNever => rfl

/-- What the stage `verify` finds is what the log shows. -/
theorem observeAfter_logged : Meets logged (run.observeAfter original) log fun r log' =>
    log.SameSends log' ∧ ∀ row poe config, r = .ok (row, poe, config) →
      log'.failed = log.failed ∧
        ((postconditionMet run.kind row poe original.safeValue config).1 = true →
          Met run.toOperationCall log'.reads) := by
  unfold observeAfter
  rw [meets_raising_bind]
  refine (observe_logged _).mono fun observed log₁ hobserved => ?_
  obtain ⟨hsends, hobserved⟩ := hobserved
  cases observed with
  | error exc => exact ⟨hsends, by rintro row poe config ⟨⟩⟩
  | ok observed =>
    obtain ⟨row, poe⟩ := observed
    obtain ⟨hrow, hpoe, -, hfailed⟩ := hobserved row poe rfl
    rw [continues_ok]
    dsimp only
    by_cases hkind : run.kind = .setDescription
    · rw [if_pos hkind, observeConfig, meets_raising_bind, meets_raising_bind]
      refine readConfig_logged.mono fun text log₂ htext => ?_
      obtain ⟨hsends', htext⟩ := htext
      cases text with
      | error exc => exact ⟨hsends.trans hsends', by rintro row poe config ⟨⟩⟩
      | ok text =>
        obtain ⟨hconfig, hrow', hpoe', hfailed'⟩ := htext text rfl
        refine ⟨hsends.trans hsends', ?_⟩
        rintro row poe config ⟨⟩
        refine ⟨hfailed'.trans hfailed, fun hmet => ?_⟩
        rw [Met, hcall.target, hcall.value, hrow', hpoe', hconfig, ← hrow, ← hpoe]
        exact hmet
    · rw [if_neg hkind]
      refine ⟨hsends, ?_⟩
      rintro row poe config ⟨⟩
      refine ⟨hfailed, fun hmet => ?_⟩
      rw [Met, hcall.target, hcall.value, ← hrow, ← hpoe, postconditionMet_config hkind _ _ _ _ none]
      exact hmet

/-- After the change was sent and accepted, it is verified or rolled back. -/
theorem verifyChange_ending {output : Text}
    (hsent : log.sent = [(changeCommands run.toOperationCall, .ok output)])
    (haccepted : classifyIosResponse output = none)
    (hbefore : log.before.config original.canonical = some original.config)
    (hcomplete : log.failed = false)
    {commands : List Text} {backupPath : Option Text} {progress : Stages S} :
    Meets logged ((run.verifyChange original commands backupPath).run progress) log
      fun r log' => Ending run.toOperationCall log' r.1 := by
  unfold verifyChange
  refine quiet_logged (OperationCall.begin_bookkeeping _ _) fun r => ?_
  rw [meets_state_bind, meets_state_lift]
  refine (observeAfter_logged hcall).mono fun observed log' hobserved => ?_
  obtain ⟨⟨hbefore', hsent'⟩, hmet⟩ := hobserved
  rw [hsent] at hsent'
  rw [← hbefore'] at hbefore
  have hnotMet {afterState detail : Text} {progress : Stages S} : Meets logged
      ((run.endVerify original commands backupPath afterState false detail).run progress) log'
      fun r log' => Ending run.toOperationCall log' r.1 :=
    quiet_logged (OperationCall.finish_bookkeeping _ _ _) fun _ =>
      rollBack_ending hcall hsent' haccepted hbefore
  cases observed with
  | error exc => exact hnotMet
  | ok observed =>
    obtain ⟨row, poe, config⟩ := observed
    dsimp only
    cases hpost : (postconditionMet run.kind row poe original.safeValue config).1 with
    | false => exact hnotMet
    | true =>
      obtain ⟨hfailed, hmet⟩ := hmet row poe config rfl
      refine finish_result_logged fun r hstatus hsave => ?_
      exact .verified output hstatus hsave hsent' haccepted (hmet hpost) (hfailed.trans hcomplete)

theorem executeChange_ending (hsent : log.sent = [])
    (hconfig : log.reads.config original.canonical = some original.config)
    (hcomplete : log.failed = false)
    {backupPath : Option Text} {progress : Stages S} :
    Meets logged ((run.executeChange original backupPath).run progress) log
      fun r log' => Ending run.toOperationCall log' r.1 := by
  unfold executeChange
  refine quiet_logged (OperationCall.begin_bookkeeping _ _) fun r => ?_
  rw [meets_state_bind, meets_state_lift]
  refine meets_perform.mpr ⟨trivial, fun answer _ => ?_⟩
  rw [← changeCommands_eq hcall]
  have hsent' (answer : Except Exn Text) :
      (log.send (changeCommands run.toOperationCall) answer).sent =
        [(changeCommands run.toOperationCall, answer)] := by
    rw [Log.send, hsent, List.nil_append]
  have hbefore (answer : Except Exn Text) :
      (log.send (changeCommands run.toOperationCall) answer).before.config original.canonical =
        some original.config := by
    rw [Log.send, hsent]
    exact hconfig
  cases (answer : Except Exn Text) with
  | error exc =>
    refine finish_result_logged fun r hstatus hsave => ?_
    exact .sendFailed exc hstatus hsave (hsent' _)
  | ok output =>
    dsimp only
    cases hclass : classifyIosResponse output with
    | some rejection =>
      refine finish_result_logged fun r hstatus hsave => ?_
      exact .rejected output hstatus hsave (hsent' _) (by rw [hclass]; rfl)
    | none =>
      refine quiet_logged (OperationCall.finish_bookkeeping _ _ _) fun _ => ?_
      exact verifyChange_ending hcall (hsent' _) hclass (hbefore _) hcomplete

theorem applyChange_ending (hsent : log.sent = [])
    (hconfig : log.reads.config original.canonical = some original.config)
    (hcomplete : log.failed = false)
    {progress : Stages S} :
    Meets logged ((run.applyChange original).run progress) log
      fun r log' => Ending run.toOperationCall log' r.1 := by
  unfold applyChange
  split
  · refine quiet_logged (OperationCall.skip_bookkeeping _ _ _) fun _ => ?_
    exact executeChange_ending hcall hsent hconfig hcomplete
  · refine quiet_logged (OperationCall.begin_bookkeeping _ _) fun r => ?_
    rw [meets_state_bind, meets_state_lift]
    refine (backupRunningConfig_logged _ _ _).mono fun backup log' hbackup => ?_
    obtain ⟨⟨-, hsent'⟩, hfailed, hconfig'⟩ := hbackup
    rw [hsent] at hsent'
    cases backup with
    | error exc =>
      refine finish_result_logged fun r hstatus _ => ?_
      exact .blocked hstatus hsent'
    | ok backup =>
      refine quiet_logged (OperationCall.finish_bookkeeping _ _ _) fun _ => ?_
      exact executeChange_ending hcall hsent' ((hconfig' _).trans hconfig) (hfailed.trans hcomplete)

theorem decideChange_ending (hsent : log.sent = [])
    (hrow : some original.interface = log.reads.row original.canonical)
    (hpoe : original.poe = if run.kind.isPoe then log.reads.poe original.canonical else none)
    (hconfig : log.reads.config original.canonical = some original.config)
    (hcomplete : log.failed = false)
    {progress : Stages S} :
    Meets logged ((run.decideChange original).run progress) log
      fun r log' => Ending run.toOperationCall log' r.1 := by
  unfold decideChange
  dsimp only
  refine quiet_logged (OperationCall.finish_bookkeeping _ _ _) fun r => ?_
  split
  · next hmet =>
    refine quiet_logged (OperationCall.skip_bookkeeping _ _ _) fun _ => ?_
    refine quiet_logged (OperationCall.skip_bookkeeping _ _ _) fun _ => ?_
    refine quiet_logged (OperationCall.begin_bookkeeping _ _) fun _ => ?_
    refine finish_result_logged fun r hstatus _ => ?_
    refine .alreadyMet hstatus hsent ?_ hcomplete
    rw [Met, hcall.target, hcall.value, ← hrow, ← hpoe, hconfig]
    exact hmet
  · exact applyChange_ending hcall hsent hconfig hcomplete

omit hcall in
theorem readOriginal_ending {canonical : Text} {safeValue : Option Text}
    (htarget : operationTarget run.toOperationCall = canonical)
    (hvalue : intendedValue run.toOperationCall = safeValue) (hsent : log.sent = [])
    (hcomplete : log.failed = false) {progress : Stages S} :
    Meets logged ((run.readOriginal canonical safeValue).run progress) log
      fun r log' => Ending run.toOperationCall log' r.1 := by
  have hblocked {stage : Text} {report : Report} (hreport : report.status = .blocked) {log' : Log}
      (hsent' : log'.sent = []) {progress : Stages S} :
      Meets logged ((run.giveUp stage report).run progress) log'
        fun r log'' => Ending run.toOperationCall log'' r.1 :=
    finish_result_logged fun r hstatus _ => .blocked (hstatus.trans hreport) hsent'
  unfold readOriginal
  rw [meets_state_bind, meets_state_lift]
  refine (observe_logged _).mono fun observed log₁ hobserved => ?_
  obtain ⟨⟨-, hsent₁⟩, hobserved⟩ := hobserved
  rw [hsent] at hsent₁
  dsimp only
  split
  · exact hblocked rfl hsent₁
  · exact hblocked rfl hsent₁
  next interface poe =>
  obtain ⟨hrow, hpoe, -, hfailed⟩ := hobserved (some interface) poe rfl
  rw [meets_state_bind, meets_state_lift]
  refine readConfig_logged.mono fun text log₂ htext => ?_
  obtain ⟨⟨-, hsent₂⟩, htext⟩ := htext
  rw [hsent₁] at hsent₂
  dsimp only
  split
  · exact hblocked rfl hsent₂
  next configText =>
  obtain ⟨hconfig, hrow', hpoe', hfailed'⟩ := htext configText rfl
  split
  · exact hblocked rfl hsent₂
  next config hblock =>
  split
  · exact hblocked rfl hsent₂
  next rollback representable =>
  apply decideChange_ending
  · exact ⟨htarget, hvalue⟩
  · exact hsent₂
  · exact hrow.trans (hrow' _).symm
  · dsimp only
    rw [hpoe']
    exact hpoe
  · exact (hconfig _).trans hblock
  · exact hfailed'.trans (hfailed.trans hcomplete)

end stages

end Transaction

/-! ## Runs -/

section runs

variable {S : Type}

theorem coversGates_untraced : CoversGates Untraced where
  switchHost _ _ := rfl
  acquire _ _ _ := rfl
  release _ _ _ := rfl
  readUnlocked _ _ := rfl
  readPolicy _ _ := rfl
  authorized _ _ _ _ := rfl

theorem operationTarget_of_ok {call : OperationCall S} {canonical : Text}
    (h : assertInterfaceWritable call.interface = .ok canonical) :
    operationTarget call = canonical := by
  rw [operationTarget, h]
  rfl

theorem Transaction.precheck_ending [Digest] {run : Transaction S} {progress : Stages S} :
    Meets logged (run.precheck.run progress) {} fun r log' =>
      ∀ result, r.1 = .ok result → Ending run.toOperationCall log' result := by
  have hblocked {stage : Text} {report : Report} (hreport : report.status = .blocked)
      {progress : Stages S} : Meets logged
      ((run.giveUp stage report >>= fun result => pure (Except.ok result)).run progress) {}
      fun (r : Except Exn OperationResult × Stages S) log' =>
        ∀ result, r.1 = .ok result → Ending run.toOperationCall log' result := by
    rw [meets_state_bind]
    refine finish_result_logged fun r hstatus _ => ?_
    rintro result ⟨⟩
    exact .blocked (hstatus.trans hreport) rfl
  have hread {canonical : Text} {safeValue : Option Text}
      (htarget : operationTarget run.toOperationCall = canonical)
      (hvalue : intendedValue run.toOperationCall = safeValue) {progress : Stages S} : Meets logged
      ((run.readOriginal canonical safeValue >>= fun result => pure (Except.ok result)).run progress) {}
      fun (r : Except Exn OperationResult × Stages S) log' =>
        ∀ result, r.1 = .ok result → Ending run.toOperationCall log' result := by
    rw [meets_state_bind]
    refine (readOriginal_ending htarget hvalue rfl rfl).mono fun r log' hending => ?_
    rintro result ⟨⟩
    exact hending
  unfold precheck
  refine quiet_logged (OperationCall.begin_bookkeeping _ _) fun _ => ?_
  rw [meets_state_bind, meets_state_lift]
  have hpolicy : Meets logged (assertInterfaceOperable run.interface) {} fun _ log' => log' = {} :=
    untraced_logged (assertInterfaceOperable_only coversGates_untraced _)
  refine (hpolicy.yields (assertInterfaceOperable_yields _)).mono fun operable log' hoperable => ?_
  obtain ⟨rfl, hoperable⟩ := hoperable
  dsimp only
  split
  · exact hblocked rfl
  · rintro result ⟨⟩
  next canonical =>
  have htarget := operationTarget_of_ok (hoperable canonical rfl)
  split
  · next hneeds =>
    split
    · exact hblocked rfl
    · rintro result ⟨⟩
    next safeValue hsafe =>
    apply hread htarget
    rw [intendedValue, if_pos hneeds, hsafe]
    rfl
  · next hneeds =>
    apply hread htarget
    rw [intendedValue, if_neg hneeds]

/-- **Every transaction ends in one of seven ways.** -/
theorem runOperationAuthorized_ending [Digest] (call : OperationCall S) (progress : Stages S) :
    Meets logged ((runOperationAuthorized call).run progress) {} fun r log =>
      ∀ result, r.1 = .ok result → Ending call log result := by
  unfold runOperationAuthorized
  rw [meets_state_bind, meets_state_lift]
  refine meets_perform.mpr ⟨trivial, fun started _ => ?_⟩
  rw [meets_state_bind, meets_state_lift]
  refine meets_perform.mpr ⟨trivial, fun recordedAt _ => ?_⟩
  rw [meets_state_bind, meets_state_lift]
  refine meets_perform.mpr ⟨trivial, fun id _ => ?_⟩
  exact Transaction.precheck_ending

/-- The log of a run. -/
def logOf (t : List (Event Effect Answer)) : Log := after logged {} t

end runs

/-! ## A change that is answered by a given text -/

/-- A port to be disabled. -/
def disableCall : OperationCall Unit where
  client := ⟨sampleHost⟩
  kind := .adminDown
  interface := "Gi1/0/6"
  value := none
  actor := "operator"
  onProgress _ _ := .pure ()
  listens _ _ := trivial

/-- A switch on which the port is up, and that answers every list with `output`. -/
def answering (output : Text) : (effect : Effect) → Unit → Answer effect × Unit
  | .switchHost, _ => (some sampleHost, ())
  | .run _ .showInterfacesStatus, _ =>
    (.ok "Port Name Status\nGi1/0/6 connected 1 full 1000 TX", ())
  | .run _ .showRunningConfig, _ => (.ok "interface GigabitEthernet1/0/6\n!", ())
  | .run _ _, _ => (.ok [], ())
  | .runRawAction _ _, _ => (.ok output, ())
  | .auditRecord _, _ => (.ok (), ())
  | .writeBackup _, _ => (.ok ⟨[], []⟩, ())
  | .acquire _, _ => ((), ())
  | .release _, _ => ((), ())
  | .readUnlocked, _ => (true, ())
  | .writeUnlocked _, _ => ((), ())
  | .readPolicy, _ => (.document (InterfacePolicy.toJson ⟨true,
      [(@deviceKey sampleDigest sampleHost, [("GigabitEthernet1/0/6", .operable)])]⟩), ())
  | .writePolicy _, _ => (.ok (), ())
  | .storeGet _, _ => (none, ())
  | .storeSave _, _ => ((), ())
  | .assuranceContext, _ => (.error .valueError, ())
  | .uuid, _ => ([], ())
  | .now, _ => ((0 : Nat), ())
  | .monotonic, _ => ((0 : Nat), ())
  | .mark _, _ => ((), ())

/-- The program of `disableCall`. -/
def disableProgram : Proc (Except Exn OperationResult × Stages Unit) :=
  (@runOperationAuthorized sampleDigest Unit disableCall).run ⟨[], ()⟩

/-- Its run on that switch. -/
def answeredRun (output : Text) :
    (Except Exn OperationResult × Stages Unit) × List (Event Effect Answer) :=
  disableProgram.simulate (answering output) ()

theorem answeredRun_runs {output : Text} {result : OperationResult}
    (h : (answeredRun output).1.1.toOption = some result) :
    Runs disableProgram (answeredRun output).2 (.ok result, (answeredRun output).1.2) := by
  have hrun := runs_simulate (answering output) disableProgram ()
  have hresult : (answeredRun output).1 = (.ok result, (answeredRun output).1.2) := by
    generalize (answeredRun output).1 = r at h
    obtain ⟨outcome, progress⟩ := r
    cases outcome with
    | error exc => cases h
    | ok result' => cases h; rfl
  rw [← hresult]
  exact hrun

/-- What IOS says of a line it does not understand. -/
def invalidInput : Text := "% Invalid input detected"

/-! ## The property -/

/-- **Outcome soundness**, with its exact condition: what a result claims holds of the run it came
from, unless the device answered the change with a rejection. -/
theorem runOperationAuthorized_sound_iff [Digest] {S : Type} {call : OperationCall S} {progress : Stages S}
    {t : List (Event Effect Answer)} {result : OperationResult} {progress' : Stages S}
    (h : Runs ((runOperationAuthorized call).run progress) t (.ok result, progress')) :
    Sound call (logOf t) result ↔ ¬ Rejected (logOf t) := by
  have hending := h.ledger (runOperationAuthorized_ending call progress)
  exact sound_iff_of_ending (hending result rfl)

theorem runOperationAuthorized_sound_iff_disableCall : ∃ result progress,
    Runs disableProgram (answeredRun []).2 (.ok result, progress) ∧
      (Sound disableCall (logOf (answeredRun []).2) result ↔ ¬ Rejected (logOf (answeredRun []).2)) := by
  have hsome : (answeredRun []).1.1.toOption.isSome = true := by decide +kernel
  obtain ⟨result, hresult⟩ := Option.isSome_iff_exists.mp hsome
  have hrun := answeredRun_runs hresult
  exact ⟨result, _, hrun, @runOperationAuthorized_sound_iff sampleDigest Unit _ _ _ _ _ hrun⟩

/-- The port stays in an unknown state, and no save is asked for. -/
theorem not_sound_invalidInput : ∃ result progress,
    Runs disableProgram (answeredRun invalidInput).2 (.ok result, progress) ∧
      ¬ Sound disableCall (logOf (answeredRun invalidInput).2) result := by
  have hsave : (answeredRun invalidInput).1.1.toOption.map (·.requiresSave) = some false := by
    decide +kernel
  have hsent : (logOf (answeredRun invalidInput).2).sent.map (fun entry => entry.2.toOption) =
      [some invalidInput] := by decide +kernel
  obtain ⟨result, hresult, hrequires⟩ := Option.map_eq_some_iff.mp hsave
  refine ⟨result, _, answeredRun_runs hresult, fun hsound => ?_⟩
  rcases hsound.requiresSave hrequires with hnil | hrestored
  · rw [hnil] at hsent
    cases hsent
  · obtain ⟨config, commands, output, -, -, hlast, haccepted, -⟩ := hrestored
    have houtput : some (some output) = some (some invalidInput) := by
      have hmap := congrArg List.getLast? hsent
      rw [List.getLast?_map, hlast] at hmap
      exact hmap
    cases houtput
    exact absurd haccepted (by decide +kernel)

end SwitchOps

import SwitchOps.Operations.Outcome

/-!
# The record of an operation

The helper `result` ends every transaction: it records the outcome in the audit trail and returns
it, with the stages the transaction went through. A `Trail` holds what was sent to the device and
the operations that were recorded; `Course` lists the ways through the stages. Every run accounts
for what it did (`Accounted`): the lines it names are the lines it sent, it is recorded once, and
its stages tell how it ended, also where the audit store or the device failed.
-/

namespace SwitchOps

open Effects Effects.Program

/-! ## Trails -/

/-- The entry of an operation; reads and backups are recorded as other actions. -/
def AuditEntry.isOperation (entry : AuditEntry) : Bool := Text.startsWith entry.action "operation:"

/-- What the environment saw of a transaction. -/
structure Trail where
  /-- The lines sent to the device. -/
  sent : List Text := []
  /-- The operations recorded, and whether the store took them. -/
  operations : List (AuditEntry × Bool) := []

namespace Trail

/-- The trail after an operation of the environment. -/
def next (trail : Trail) : (effect : Effect) → Answer effect → Trail
  | .runRawAction _ commands, _ => { trail with sent := trail.sent ++ commands }
  | .auditRecord entry, answer =>
    if entry.isOperation then
      { trail with operations := trail.operations ++ [(entry, (answer : Except Exn Unit).isOk)] }
    else trail
  | _, _ => trail

end Trail

/-- Runs, with their trails. -/
abbrev trailed : Discipline Effect Answer Trail := ledger Trail.next

/-- The effects that leave no trace in a trail. -/
def Effect.isSilent : Effect → Bool
  | .runRawAction _ _ => false
  | .auditRecord entry => !entry.isOperation
  | _ => true

theorem Trail.next_of_silent {effect : Effect} (h : effect.isSilent = true) (trail : Trail)
    (answer : Answer effect) : trail.next effect answer = trail := by
  cases effect with
  | runRawAction client commands => cases h
  | auditRecord entry =>
    simp only [Effect.isSilent, Bool.not_eq_true'] at h
    simp [Trail.next, h]
  | _ => rfl

/-- The entry of an operation is one. -/
theorem Trail.next_operation {entry : AuditEntry} {kind : OperationKind}
    (h : entry.action = "operation:" ++ kind.text) (trail : Trail) (stored : Except Exn Unit) :
    trail.next (.auditRecord entry) stored =
      { trail with operations := trail.operations ++ [(entry, stored.isOk)] } := by
  have hoperation : entry.isOperation = true := by
    rw [AuditEntry.isOperation, h]
    cases kind <;> rfl
  simp [Trail.next, hoperation]

theorem silent_trailed {α : Type} {p : Proc α} {trail : Trail}
    (hp : Only (fun effect => effect.isSilent = true) p) :
    Meets trailed p trail fun _ trail' => trail' = trail :=
  hp.meets (fun _ heffect => ⟨trivial, fun answer _ => Trail.next_of_silent heffect trail answer⟩)
    fun _ => rfl

/-! ## What a result accounts for -/

section account

variable {S : Type}

/-- The names and the statuses of a list of stages. -/
def told (stages : List OperationStage) : List (StageName × StageStatus) :=
  stages.map fun stage => (stage.name, stage.status)

/-- The entry that is recorded for a result. -/
def OperationCall.entryOf (call : OperationCall S) (result : OperationResult) : AuditEntry where
  actor := call.actor
  action := "operation:" ++ call.kind.text
  commands := result.commands
  success := result.status = .success
  durationMs := result.durationMs
  beforeState := result.beforeState
  afterState := result.afterState
  errorType := if result.status = .success then none else some result.status.text
  errorMessage := if result.detail.isEmpty then none else some result.detail

/-- The stages in the order of the pipeline. -/
def pipeline : List StageName := [.precheck, .backup, .execute, .verify, .rollback, .audit]

/-- **A result accounts for the run it came from.** -/
structure Accounted (call : OperationCall S) (trail : Trail) (result : OperationResult) : Prop where
  /-- It names what was sent. -/
  commands : result.commands = trail.sent
  /-- It was recorded once, and its last stage says whether the store took the record. -/
  recorded : ∃ stored, trail.operations = [(call.entryOf result, stored)] ∧
    (told result.stages).getLast? = some (.audit, if stored then .ok else .failed)
  /-- Its stages follow the pipeline, and all have ended. -/
  ordered : (result.stages.map (·.name)).Sublist pipeline
  ended : ∀ stage ∈ result.stages, stage.status = .ok ∨ stage.status = .failed ∨ stage.status = .skipped
  /-- They tell its status, -/
  success : result.status = .success ↔
    ∀ stage ∈ result.stages, stage.status = .failed → stage.name = .audit
  rolledBack : result.status = .rolledBack ↔ (.rollback, .ok) ∈ told result.stages
  blocked : result.status = .blocked ↔ ∀ stage ∈ result.stages, stage.name ≠ .execute
  /-- and whether anything was sent. -/
  sent : trail.sent = [] ↔ ∀ stage ∈ result.stages, stage.name = .execute → stage.status = .skipped

/-- The ways through the stages up to the record, the status they end with, and whether lines were
sent on them. -/
inductive Course : List (StageName × StageStatus) → OperationStatus → Bool → Prop
  | refused : Course [(.precheck, .failed)] .blocked false
  | satisfied :
    Course [(.precheck, .ok), (.backup, .skipped), (.execute, .skipped), (.verify, .ok)] .success false
  | unsaved : Course [(.precheck, .ok), (.backup, .failed)] .blocked false
  | rejected (backup : StageStatus) (h : backup = .ok ∨ backup = .skipped) :
    Course [(.precheck, .ok), (.backup, backup), (.execute, .failed)] .failed true
  | verified (backup : StageStatus) (h : backup = .ok ∨ backup = .skipped) :
    Course [(.precheck, .ok), (.backup, backup), (.execute, .ok), (.verify, .ok)] .success true
  | rolledBack (backup : StageStatus) (h : backup = .ok ∨ backup = .skipped) :
    Course [(.precheck, .ok), (.backup, backup), (.execute, .ok), (.verify, .failed), (.rollback, .ok)]
      .rolledBack true
  | stranded (backup : StageStatus) (h : backup = .ok ∨ backup = .skipped) :
    Course [(.precheck, .ok), (.backup, backup), (.execute, .ok), (.verify, .failed), (.rollback, .failed)]
      .failed true

namespace Course

variable {course : List (StageName × StageStatus)} {status : OperationStatus} {sends : Bool}
  (h : Course course status sends)

include h

theorem sublist_pipeline : (course.map Prod.fst ++ [StageName.audit]).Sublist pipeline := by
  cases h <;> simp only [List.map_cons, List.map_nil, List.cons_append, List.nil_append] <;> decide

theorem ne_audit : ∀ entry ∈ course, entry.1 ≠ .audit := by
  cases h <;> simp

theorem ended : ∀ entry ∈ course, entry.2 = .ok ∨ entry.2 = .failed ∨ entry.2 = .skipped := by
  cases h with
  | rejected backup hbackup => rcases hbackup with rfl | rfl <;> simp
  | verified backup hbackup => rcases hbackup with rfl | rfl <;> simp
  | rolledBack backup hbackup => rcases hbackup with rfl | rfl <;> simp
  | stranded backup hbackup => rcases hbackup with rfl | rfl <;> simp
  | _ => simp

theorem success_iff : status = .success ↔ ∀ entry ∈ course, entry.2 ≠ .failed := by
  cases h with
  | verified backup hbackup => rcases hbackup with rfl | rfl <;> simp
  | _ => simp

theorem rolledBack_iff : status = .rolledBack ↔ (.rollback, .ok) ∈ course := by
  cases h <;> simp

theorem blocked_iff : status = .blocked ↔ ∀ entry ∈ course, entry.1 ≠ .execute := by
  cases h <;> simp

theorem sends_iff : sends = false ↔ ∀ entry ∈ course, entry.1 = .execute → entry.2 = .skipped := by
  cases h <;> simp

end Course

/-- A property of the names and statuses of the stages. -/
theorem forall_told {stages : List OperationStage} {P : StageName × StageStatus → Prop} :
    (∀ stage ∈ stages, P (stage.name, stage.status)) ↔ ∀ entry ∈ told stages, P entry := by
  simp [told]

/-- **A result accounts for its run, if its stages are one of the courses.** -/
theorem accounted_of_course {call : OperationCall S} {trail : Trail} {result : OperationResult}
    {course : List (StageName × StageStatus)} {sends stored : Bool}
    (hcourse : Course course result.status sends) (hcommands : result.commands = trail.sent)
    (hsends : trail.sent = [] ↔ sends = false)
    (hrecorded : trail.operations = [(call.entryOf result, stored)])
    (htold : told result.stages = course ++ [(.audit, if stored then .ok else .failed)]) :
    Accounted call trail result := by
  have hall {P : StageName × StageStatus → Prop} : (∀ stage ∈ result.stages, P (stage.name, stage.status)) ↔
      (∀ entry ∈ course, P entry) ∧ P (.audit, if stored then .ok else .failed) := by
    rw [forall_told, htold, List.forall_mem_append, List.forall_mem_singleton]
  have hnames : result.stages.map (·.name) = course.map Prod.fst ++ [.audit] := by
    have hmap := congrArg (List.map Prod.fst) htold
    simpa [told, Function.comp_def] using hmap
  constructor
  · exact hcommands
  · exact ⟨stored, hrecorded, by rw [htold, List.getLast?_concat]⟩
  · rw [hnames]
    exact hcourse.sublist_pipeline
  · refine hall.mpr ⟨hcourse.ended, ?_⟩
    cases stored <;> simp
  · rw [hcourse.success_iff]
    refine Iff.trans ?_ (hall (P := fun entry => entry.2 = .failed → entry.1 = .audit)).symm
    refine ⟨fun hok => ⟨fun entry hentry hfailed => absurd hfailed (hok entry hentry), fun _ => rfl⟩, ?_⟩
    intro hfailed entry hentry hstatus
    exact hcourse.ne_audit entry hentry (hfailed.1 entry hentry hstatus)
  · rw [hcourse.rolledBack_iff, htold]
    simp
  · rw [hcourse.blocked_iff]
    refine Iff.trans ?_ (hall (P := fun entry => entry.1 ≠ .execute)).symm
    exact ⟨fun hcourse => ⟨hcourse, nofun⟩, fun hcourse => hcourse.1⟩
  · rw [hsends, hcourse.sends_iff]
    refine Iff.trans ?_ (hall (P := fun entry => entry.1 = .execute → entry.2 = .skipped)).symm
    exact ⟨fun hcourse => ⟨hcourse, nofun⟩, fun hcourse => hcourse.1⟩

end account

/-! ## Silent programs -/

section silent

variable {S : Type}

theorem coversGates_silent : CoversGates fun effect => effect.isSilent = true :=
  ⟨rfl, fun _ => rfl, fun _ => rfl, rfl, rfl, fun _ _ => rfl⟩

/-- Reads are recorded, but not as operations. -/
theorem runAndAudit_silent (client : Client) (symbol : ReadSymbol) (actor : Text) :
    Only (fun effect => effect.isSilent = true) (runAndAudit client symbol actor) := by
  unfold runAndAudit
  apply Only.raising_bind
  · exact ⟨rfl, fun _ => trivial⟩
  intro start
  apply Only.raising_bind
  · exact ⟨rfl, fun _ => trivial⟩
  intro outcome
  apply Only.raising_bind
  · exact ⟨rfl, fun _ => trivial⟩
  intro finish
  apply Only.raising_bind
  · exact ⟨rfl, fun _ => trivial⟩
  intro _
  trivial

theorem backupRunningConfig_silent (client : Client) (actor configText : Text) :
    Only (fun effect => effect.isSilent = true) (backupRunningConfig client actor configText) := by
  unfold backupRunningConfig
  apply Only.raising_bind
  · exact ⟨rfl, fun _ => trivial⟩
  intro start
  apply Only.raising_bind
  · exact ⟨rfl, fun _ => trivial⟩
  intro _
  apply Only.raising_bind
  · exact ⟨rfl, fun _ => trivial⟩
  intro backup
  apply Only.raising_bind
  · exact ⟨rfl, fun _ => trivial⟩
  intro finish
  apply Only.raising_bind
  · exact ⟨rfl, fun _ => trivial⟩
  intro _
  trivial

namespace Transaction

variable {run : Transaction S}

theorem observe_silent (canonical : Text) :
    Only (fun effect => effect.isSilent = true) (run.observe canonical) := by
  unfold observe readInterface readPoeState
  apply Only.raising_bind
  · exact (runAndAudit_silent _ _ _).raising_bind fun _ => Only.raising_bind trivial fun _ => trivial
  intro interface
  split
  · exact Only.raising_bind ((runAndAudit_silent _ _ _).raising_bind fun _ => trivial) fun _ => trivial
  · exact Only.raising_bind trivial fun _ => trivial

theorem observeConfig_silent (canonical : Text) :
    Only (fun effect => effect.isSilent = true) (run.observeConfig canonical) :=
  (runAndAudit_silent _ _ _).raising_bind fun _ => trivial

theorem observeAfter_silent (original : Original run.kind) :
    Only (fun effect => effect.isSilent = true) (run.observeAfter original) := by
  unfold observeAfter
  apply Only.raising_bind (observe_silent _)
  intro observed
  dsimp only
  split
  · exact (observeConfig_silent _).raising_bind fun _ => trivial
  · exact Only.raising_bind trivial fun _ => trivial

/-- A restore sends its sequence, whatever comes of it. -/
theorem restore_trailed (original : Original run.kind) {trail : Trail} :
    Meets trailed (run.restore original) trail fun _ trail' =>
      trail' = { trail with sent := trail.sent ++ original.rollback } := by
  unfold restore
  rw [meets_raising_bind]
  refine meets_perform.mpr ⟨trivial, fun answer _ => ?_⟩
  cases (answer : Except Exn Text) with
  | error exc => exact rfl
  | ok output =>
    rw [continues_ok]
    refine silent_trailed ?_
    apply Only.raising_bind (observe_silent _)
    intro restored
    exact (observeConfig_silent _).raising_bind fun _ => trivial

end Transaction

end silent

/-! ## Stages -/

section stages

variable {S : Type}

/-- Recording an operation. -/
theorem record_trailed {entry : AuditEntry} {kind : OperationKind} {β : Type}
    {rest : Except Exn Unit → Staged S β} {progress : Stages S} {trail : Trail}
    {Q : β × Stages S → Trail → Prop} (h : entry.action = "operation:" ++ kind.text)
    (hrest : ∀ stored trail', trail' = { trail with operations := trail.operations ++ [(entry, stored.isOk)] } →
      Meets trailed ((rest stored).run progress) trail' Q) :
    Meets trailed ((liftM (auditRecord entry).run >>= rest : Staged S β).run progress) trail Q := by
  rw [meets_state_bind, meets_state_lift]
  refine meets_perform.mpr ⟨trivial, fun stored _ => ?_⟩
  exact hrest stored _ (Trail.next_operation h trail stored)

namespace OperationCall

/-- The progress listener records no operation. -/
def Discreet (call : OperationCall S) : Prop :=
  ∀ listener stages, Only (fun effect => effect.isSilent = true) (call.onProgress listener stages)

variable {call : OperationCall S} (hcall : call.Discreet) {β : Type} {rest : Unit → Staged S β}
  {progress : Stages S} {trail : Trail} {Q : β × Stages S → Trail → Prop}
  {course : List (StageName × StageStatus)}

include hcall

/-- What is emitted is heard by the listener only. -/
theorem emit_trailed {stages : List OperationStage}
    (h : ∀ listener, Meets trailed ((rest ()).run ⟨stages, listener⟩) trail Q) :
    Meets trailed ((call.emit stages >>= rest).run progress) trail Q := by
  rw [meets_state_bind]
  refine Meets.bind (silent_trailed (hcall progress.listener stages)) fun listener trail' htrail => ?_
  rw [htrail]
  exact h listener

theorem begin_trailed {name : StageName} (hprogress : told progress.stages = course)
    (h : ∀ progress' : Stages S, told progress'.stages = course ++ [(name, .running)] →
      Meets trailed ((rest ()).run progress') trail Q) :
    Meets trailed ((call.begin name >>= rest).run progress) trail Q := by
  refine emit_trailed hcall fun listener => h _ ?_
  rw [told, List.map_append, ← told, hprogress]
  rfl

theorem skip_trailed {name : StageName} {detail : Text} (hprogress : told progress.stages = course)
    (h : ∀ progress' : Stages S, told progress'.stages = course ++ [(name, .skipped)] →
      Meets trailed ((rest ()).run progress') trail Q) :
    Meets trailed ((call.skip name detail >>= rest).run progress) trail Q := by
  refine emit_trailed hcall fun listener => h _ ?_
  rw [told, List.map_append, ← told, hprogress]
  rfl

theorem finish_trailed {name : StageName} {status : StageStatus} {detail : Text}
    (hprogress : told progress.stages = course ++ [(name, .running)])
    (h : ∀ progress' : Stages S, told progress'.stages = course ++ [(name, status)] →
      Meets trailed ((rest ()).run progress') trail Q) :
    Meets trailed ((call.finish status detail >>= rest).run progress) trail Q := by
  refine emit_trailed hcall fun listener => h _ ?_
  obtain ⟨stages, _, hstages, rfl, hlast⟩ := List.map_eq_append_iff.mp hprogress
  obtain ⟨stage, rfl, hstage⟩ := List.map_eq_singleton_iff.mp hlast
  simp only [Prod.mk.injEq] at hstage
  rw [hstages, List.getLast?_concat]
  simp [told, hstage.1]

end OperationCall

namespace Transaction

open OperationCall

variable {run : Transaction S} (hrun : run.Discreet) {progress : Stages S} {lines : List Text}
  {course : List (StageName × StageStatus)} {sends : Bool}

include hrun

/-- **The record**: a transaction that ends with a report of what it sent accounts for it. -/
theorem result_accounted {report : Report} (hprogress : told progress.stages = course)
    (hcourse : Course course report.status sends) (hcommands : report.commands = lines)
    (hsends : lines = [] ↔ sends = false) :
    Meets trailed ((run.result report).run progress) { sent := lines } fun r trail' =>
      Accounted run.toOperationCall trail' r.1 := by
  unfold result
  rw [meets_state_bind, meets_state_lift]
  refine meets_perform.mpr ⟨trivial, fun finished _ => ?_⟩
  refine begin_trailed hrun hprogress fun progress₁ htold₁ => ?_
  refine @record_trailed _ _ run.kind _ _ _ _ _ rfl fun stored trail' htrail => ?_
  rw [htrail]
  cases stored with
  | ok _ =>
    refine finish_trailed hrun htold₁ fun progress₂ htold₂ => ?_
    rw [meets_state_bind, meets_state_get]
    exact @accounted_of_course _ _ _ _ _ _ true hcourse hcommands hsends rfl htold₂
  | error exc =>
    refine finish_trailed hrun htold₁ fun progress₂ htold₂ => ?_
    rw [meets_state_bind, meets_state_get]
    exact @accounted_of_course _ _ _ _ _ _ false hcourse hcommands hsends rfl htold₂

/-- A stage that ends the transaction. -/
theorem finish_result_accounted {name : StageName} {status : StageStatus} {detail : Text} {report : Report}
    (hprogress : told progress.stages = course ++ [(name, .running)])
    (hcourse : Course (course ++ [(name, status)]) report.status sends)
    (hcommands : report.commands = lines) (hsends : lines = [] ↔ sends = false) :
    Meets trailed ((run.finish status detail >>= fun _ => run.result report).run progress)
      { sent := lines } fun r trail' => Accounted run.toOperationCall trail' r.1 :=
  finish_trailed hrun hprogress fun _ htold => result_accounted hrun htold hcourse hcommands hsends

/-- After the change was sent and accepted, the rollback ends the transaction. -/
theorem rollBack_accounted {original : Original run.kind} {backup : StageStatus}
    (hbackup : backup = .ok ∨ backup = .skipped) (hlines : lines ≠ [])
    (hprogress : told progress.stages =
      [(.precheck, .ok), (.backup, backup), (.execute, .ok), (.verify, .failed)])
    {backupPath : Option Text} {afterState detail : Text} :
    Meets trailed ((run.rollBack original lines backupPath afterState detail).run progress)
      { sent := lines } fun r trail' => Accounted run.toOperationCall trail' r.1 := by
  have hsends : lines ++ original.rollback = [] ↔ true = false := by
    simp [hlines]
  unfold rollBack
  refine begin_trailed hrun hprogress fun progress₁ htold₁ => ?_
  rw [meets_state_bind, meets_state_lift]
  refine (restore_trailed original).mono fun restored trail' htrail => ?_
  rw [htrail]
  -- whatever went wrong leaves the rollback unproven
  have hfailed : Meets trailed ((run.endRollBack original lines backupPath afterState detail false).run
      progress₁) { sent := lines ++ original.rollback } fun r trail' =>
        Accounted run.toOperationCall trail' r.1 :=
    finish_result_accounted hrun htold₁ (.stranded backup hbackup) rfl hsends
  cases restored with
  | error exc => exact hfailed
  | ok verified =>
    cases verified with
    | false => exact hfailed
    | true => exact finish_result_accounted hrun htold₁ (.rolledBack backup hbackup) rfl hsends

/-- After the change was sent and accepted, it is verified or rolled back. -/
theorem verifyChange_accounted {original : Original run.kind} {backup : StageStatus}
    (hbackup : backup = .ok ∨ backup = .skipped) (hlines : lines ≠ [])
    (hprogress : told progress.stages = [(.precheck, .ok), (.backup, backup), (.execute, .ok)])
    {backupPath : Option Text} :
    Meets trailed ((run.verifyChange original lines backupPath).run progress)
      { sent := lines } fun r trail' => Accounted run.toOperationCall trail' r.1 := by
  unfold verifyChange
  refine begin_trailed hrun hprogress fun progress₁ htold₁ => ?_
  rw [meets_state_bind, meets_state_lift]
  refine (silent_trailed (observeAfter_silent original)).mono fun observed trail' htrail => ?_
  rw [htrail]
  have hend {afterState detail : Text} {met : Bool} : Meets trailed
      ((run.endVerify original lines backupPath afterState met detail).run progress₁) { sent := lines }
      fun r trail' => Accounted run.toOperationCall trail' r.1 := by
    cases met with
    | true => exact finish_result_accounted hrun htold₁ (.verified backup hbackup) rfl (by simp [hlines])
    | false =>
      refine finish_trailed hrun htold₁ fun progress₂ htold₂ => ?_
      exact rollBack_accounted hrun hbackup hlines htold₂
  cases observed with
  | error exc => exact hend
  | ok observed => exact hend

theorem executeChange_accounted {original : Original run.kind} {backup : StageStatus}
    (hbackup : backup = .ok ∨ backup = .skipped)
    (hprogress : told progress.stages = [(.precheck, .ok), (.backup, backup)])
    {backupPath : Option Text} :
    Meets trailed ((run.executeChange original backupPath).run progress) {} fun r trail' =>
      Accounted run.toOperationCall trail' r.1 := by
  have hlines : renderCommands (operationSpec run.kind) original.canonical original.safeValue ≠ [] :=
    List.cons_ne_nil _ _
  unfold executeChange
  refine begin_trailed hrun hprogress fun progress₁ htold₁ => ?_
  rw [meets_state_bind, meets_state_lift]
  refine meets_perform.mpr ⟨trivial, fun answer _ => ?_⟩
  cases (answer : Except Exn Text) with
  | error exc =>
    exact finish_result_accounted hrun htold₁ (.rejected backup hbackup) rfl (by simp [hlines])
  | ok output =>
    dsimp only
    cases hclass : classifyIosResponse output with
    | some rejection =>
      exact finish_result_accounted hrun htold₁ (.rejected backup hbackup) rfl (by simp [hlines])
    | none =>
      refine finish_trailed hrun htold₁ fun progress₂ htold₂ => ?_
      exact verifyChange_accounted hrun hbackup hlines htold₂

theorem applyChange_accounted {original : Original run.kind}
    (hprogress : told progress.stages = [(.precheck, .ok)]) :
    Meets trailed ((run.applyChange original).run progress) {} fun r trail' =>
      Accounted run.toOperationCall trail' r.1 := by
  unfold applyChange
  split
  · refine skip_trailed hrun hprogress fun progress₁ htold₁ => ?_
    exact executeChange_accounted hrun (.inr rfl) htold₁
  · refine begin_trailed hrun hprogress fun progress₁ htold₁ => ?_
    rw [meets_state_bind, meets_state_lift]
    refine (silent_trailed (backupRunningConfig_silent _ _ _)).mono fun backup trail' htrail => ?_
    rw [htrail]
    cases backup with
    | error exc => exact finish_result_accounted hrun htold₁ .unsaved rfl (by simp)
    | ok backup =>
      refine finish_trailed hrun htold₁ fun progress₂ htold₂ => ?_
      exact executeChange_accounted hrun (.inl rfl) htold₂

theorem decideChange_accounted {original : Original run.kind}
    (hprogress : told progress.stages = [(.precheck, .running)]) :
    Meets trailed ((run.decideChange original).run progress) {} fun r trail' =>
      Accounted run.toOperationCall trail' r.1 := by
  unfold decideChange
  dsimp only
  refine @finish_trailed _ _ hrun _ _ _ _ _ [] _ _ _ hprogress fun progress₁ htold₁ => ?_
  split
  · refine skip_trailed hrun htold₁ fun progress₂ htold₂ => ?_
    refine skip_trailed hrun htold₂ fun progress₃ htold₃ => ?_
    refine begin_trailed hrun htold₃ fun progress₄ htold₄ => ?_
    exact finish_result_accounted hrun htold₄ .satisfied rfl (by simp)
  · exact applyChange_accounted hrun htold₁

/-- Whatever is missing before the change refuses it. -/
theorem giveUp_accounted {stage : Text} {report : Report}
    (hprogress : told progress.stages = [(.precheck, .running)]) (hstatus : report.status = .blocked)
    (hcommands : report.commands = []) :
    Meets trailed ((run.giveUp stage report).run progress) {} fun r trail' =>
      Accounted run.toOperationCall trail' r.1 := by
  refine @finish_result_accounted _ _ hrun _ _ [] false _ _ _ _ hprogress ?_ hcommands (by simp)
  rw [hstatus]
  exact .refused

theorem readOriginal_accounted {canonical : Text} {safeValue : Option Text}
    (hprogress : told progress.stages = [(.precheck, .running)]) :
    Meets trailed ((run.readOriginal canonical safeValue).run progress) {} fun r trail' =>
      Accounted run.toOperationCall trail' r.1 := by
  unfold readOriginal
  rw [meets_state_bind, meets_state_lift]
  refine (silent_trailed (observe_silent _)).mono fun observed trail₁ htrail₁ => ?_
  rw [htrail₁]
  dsimp only
  split
  · exact giveUp_accounted hrun hprogress rfl rfl
  · exact giveUp_accounted hrun hprogress rfl rfl
  rw [meets_state_bind, meets_state_lift]
  refine (silent_trailed (runAndAudit_silent _ _ _)).mono fun config trail₂ htrail₂ => ?_
  rw [htrail₂]
  dsimp only
  split
  · exact giveUp_accounted hrun hprogress rfl rfl
  split
  · exact giveUp_accounted hrun hprogress rfl rfl
  split
  · exact giveUp_accounted hrun hprogress rfl rfl
  · exact decideChange_accounted hrun hprogress

/-- What an operation leaves behind: a result that accounts for it, or nothing at all. -/
def Settles (call : OperationCall S) (trail : Trail) : Except Exn OperationResult → Prop
  | .ok result => Accounted call trail result
  | .error _ => trail = {}

theorem precheck_settles [Digest] (hprogress : told progress.stages = []) :
    Meets trailed (run.precheck.run progress) {} fun r trail' =>
      Settles run.toOperationCall trail' r.1 := by
  unfold precheck
  refine begin_trailed hrun hprogress fun progress₁ htold₁ => ?_
  rw [meets_state_bind, meets_state_lift]
  refine (silent_trailed (assertInterfaceOperable_only coversGates_silent _)).mono
    fun operable trail' htrail => ?_
  rw [htrail]
  dsimp only
  split
  · rw [meets_state_bind]
    exact giveUp_accounted hrun htold₁ rfl rfl
  · exact rfl
  split
  · split
    · rw [meets_state_bind]
      exact giveUp_accounted hrun htold₁ rfl rfl
    · exact rfl
    · rw [meets_state_bind]
      exact readOriginal_accounted hrun htold₁
  · rw [meets_state_bind]
    exact readOriginal_accounted hrun htold₁

end Transaction

/-- **Every transaction settles**, whatever the device and the store answer. -/
theorem runOperationAuthorized_settles [Digest] {call : OperationCall S} (hcall : call.Discreet)
    (listener : S) : Meets trailed ((runOperationAuthorized call).run ⟨[], listener⟩) {} fun r trail =>
      Transaction.Settles call trail r.1 := by
  unfold runOperationAuthorized
  rw [meets_state_bind, meets_state_lift]
  refine meets_perform.mpr ⟨trivial, fun started _ => ?_⟩
  rw [meets_state_bind, meets_state_lift]
  refine meets_perform.mpr ⟨trivial, fun recordedAt _ => ?_⟩
  rw [meets_state_bind, meets_state_lift]
  refine meets_perform.mpr ⟨trivial, fun id _ => ?_⟩
  exact Transaction.precheck_settles hcall rfl

theorem ignoresGates_trailed : IgnoresGates trailed := by
  intro effect hgate trail
  refine ⟨trivial, fun answer => Trail.next_of_silent ?_ trail answer⟩
  cases effect with
  | runRawAction client commands => cases hgate
  | auditRecord entry => cases hgate
  | _ => rfl

end stages

/-! ## The property -/

/-- The trail of a run. -/
def trailOf (t : List (Event Effect Answer)) : Trail := after trailed {} t

/-- **Every operation accounts for what it did.** -/
theorem runOperation_settles [Digest] {S : Type} {call : OperationCall S} (hcall : call.Discreet)
    {listener listener' : S} {t : List (Event Effect Answer)} {outcome : Except Exn OperationResult}
    (h : Runs (runOperation call listener) t (outcome, listener')) :
    Transaction.Settles call (trailOf t) outcome := by
  refine h.ledger (Q := fun r trail => Transaction.Settles call trail r.1) ?_
  refine runOperation_meets ignoresGates_trailed trivial ?_ fun _ => rfl
  intro trail htrail
  rw [htrail]
  exact runOperationAuthorized_settles hcall listener

/-- `disableCall`, on a switch that accepts every list and changes nothing. -/
def unchangedRun : (Except Exn OperationResult × Unit) × List (Event Effect Answer) :=
  (@runOperation sampleDigest Unit disableCall ()).simulate (answering []) ()

/-- The change and the restore are both accounted for. -/
theorem runOperation_settles_unchangedRun :
    Transaction.Settles disableCall (trailOf unchangedRun.2) unchangedRun.1.1 ∧
      (trailOf unchangedRun.2).sent = ["configure terminal", "interface GigabitEthernet1/0/6", "shutdown",
        "end", "configure terminal", "interface GigabitEthernet1/0/6", "no shutdown", "end"] := by
  refine ⟨?_, by decide +kernel⟩
  exact @runOperation_settles sampleDigest Unit disableCall (fun _ _ => trivial) () unchangedRun.1.2 _ _
    (runs_simulate (answering []) _ ())

end SwitchOps

import SwitchOps.Operations

/-!
# What a transaction can do

The frame of `_run_operation_authorized`: whatever the device answers, a transaction reads and
sends through its own client, records, backs up and reports, and it sends only the sequence of its
catalogue entry or one that restores the property. One walk through the stages proves this for
every predicate `E` that covers these operations; the properties of runs instantiate it.
-/

namespace SwitchOps

open Effects Effects.Program

/-- The command lists a transaction may send: its change, or what restores the property as it was
read from a running configuration. -/
def Sendable (kind : OperationKind) (canonical : Text) (safeValue : Option Text)
    (commands : List Text) : Prop :=
  commands = renderCommands (operationSpec kind) canonical safeValue ∨
    ∃ configText config, interfaceConfig configText canonical = some config ∧
      rollbackCommands kind canonical config = some commands

/-- Some status table has a row for the interface, under the name it is looked for by. -/
def Listable (canonical : Text) : Prop :=
  ∃ output rows, parseInterfaceStatus output = .ok rows ∧
    ∃ row ∈ rows, row.port.lower = (readerName canonical).lower

/-- `E` covers everything the transaction `call` does, sending `sends`. -/
structure Covers {S : Type} (E : Effect → Prop) (call : OperationCall S)
    (sends : List Text → Prop) : Prop where
  run : ∀ symbol, E (.run call.client symbol)
  send : ∀ commands, sends commands → E (.runRawAction call.client commands)
  backup : ∀ text, E (.writeBackup text)
  audit : ∀ entry, E (.auditRecord entry)
  monotonic : E .monotonic
  listener : ∀ listener stages, Only E (call.onProgress listener stages)

section frame

variable {S : Type} {E : Effect → Prop}

theorem runAndAudit_only {client : Client} {symbol : ReadSymbol} {actor : Text}
    (hrun : E (.run client symbol)) (haudit : ∀ entry, E (.auditRecord entry))
    (hclock : E .monotonic) : Only E (runAndAudit client symbol actor) := by
  unfold runAndAudit
  apply Only.raising_bind
  · exact ⟨hclock, fun _ => trivial⟩
  intro start
  apply Only.raising_bind
  · exact ⟨hrun, fun _ => trivial⟩
  intro outcome
  apply Only.raising_bind
  · exact ⟨hclock, fun _ => trivial⟩
  intro finish
  apply Only.raising_bind
  · exact ⟨haudit _, fun _ => trivial⟩
  intro _
  trivial

/-! ### Progress -/

namespace OperationCall

variable {call : OperationCall S} {sends : List Text → Prop} (hE : Covers E call sends)

include hE

theorem emit_confined (stages : List OperationStage) : Confined E (call.emit stages) := by
  intro progress
  exact (hE.listener _ _).bind fun _ => trivial

theorem begin_confined (name : StageName) : Confined E (call.begin name) :=
  Confined.get.bind fun _ => emit_confined hE _

theorem finish_confined (status : StageStatus) (detail : Text) :
    Confined E (call.finish status detail) :=
  Confined.get.bind fun _ => emit_confined hE _

theorem skip_confined (name : StageName) (detail : Text) : Confined E (call.skip name detail) :=
  Confined.get.bind fun _ => emit_confined hE _

end OperationCall

/-! Reporting is bookkeeping, whatever the listener is. -/

namespace OperationCall

variable (call : OperationCall S)

theorem emit_bookkeeping (stages : List OperationStage) :
    Confined (fun e => e.bookkeeping = true) (call.emit stages) := by
  intro progress
  exact (call.listens _ _).bind fun _ => trivial

theorem begin_bookkeeping (name : StageName) :
    Confined (fun e => e.bookkeeping = true) (call.begin name) :=
  Confined.get.bind fun _ => emit_bookkeeping call _

theorem finish_bookkeeping (status : StageStatus) (detail : Text) :
    Confined (fun e => e.bookkeeping = true) (call.finish status detail) :=
  Confined.get.bind fun _ => emit_bookkeeping call _

theorem skip_bookkeeping (name : StageName) (detail : Text) :
    Confined (fun e => e.bookkeeping = true) (call.skip name detail) :=
  Confined.get.bind fun _ => emit_bookkeeping call _

end OperationCall

theorem Transaction.result_bookkeeping (run : Transaction S) (report : Report) :
    Confined (fun e => e.bookkeeping = true) (run.result report) := by
  unfold Transaction.result
  apply Confined.bind
  · exact Confined.lift ⟨rfl, fun _ => trivial⟩
  intro finished
  apply Confined.bind (OperationCall.begin_bookkeeping _ _)
  intro _
  apply Confined.bind
  · exact Confined.lift ⟨rfl, fun _ => trivial⟩
  intro recorded
  have hend (status : StageStatus) (detail : Text) :
      Confined (fun e => e.bookkeeping = true) (run.finish status detail) :=
    OperationCall.finish_bookkeeping _ _ _
  cases recorded with
  | ok _ => exact (hend _ _).bind fun _ => Confined.get.bind fun _ => Confined.pure
  | error _ => exact (hend _ _).bind fun _ => Confined.get.bind fun _ => Confined.pure

/-- The result says what the report does. -/
theorem Transaction.result_yields (run : Transaction S) (report : Report) (progress : Stages S) :
    Yields ((run.result report).run progress) fun r =>
      r.1.status = report.status ∧ r.1.requiresSave = report.requiresSave := by
  unfold Transaction.result
  refine yields_state_bind (yields_true _) fun finished _ => ?_
  refine yields_state_bind (yields_true _) fun _ _ => ?_
  refine yields_state_bind (yields_true _) fun recorded _ => ?_
  dsimp only
  split
  · refine yields_state_bind (yields_true _) fun _ _ => ?_
    exact yields_state_bind (yields_true _) fun _ _ => yields_pure ⟨rfl, rfl⟩
  · refine yields_state_bind (yields_true _) fun _ _ => ?_
    exact yields_state_bind (yields_true _) fun _ _ => yields_pure ⟨rfl, rfl⟩

/-! ### Stages -/

namespace Transaction

open OperationCall

variable {run : Transaction S} {sends : List Text → Prop}
  (hE : Covers E run.toOperationCall sends)

include hE

theorem result_confined (report : Report) : Confined E (run.result report) := by
  unfold result
  apply Confined.bind
  · exact Confined.lift ⟨hE.monotonic, fun _ => trivial⟩
  intro finished
  apply Confined.bind (begin_confined hE _)
  intro _
  apply Confined.bind
  · exact Confined.lift ⟨hE.audit _, fun _ => trivial⟩
  intro recorded
  cases recorded with
  | ok _ => exact (finish_confined hE _ _).bind fun _ => Confined.get.bind fun _ => Confined.pure
  | error _ => exact (finish_confined hE _ _).bind fun _ => Confined.get.bind fun _ => Confined.pure

theorem giveUp_confined (stage : Text) (report : Report) : Confined E (run.giveUp stage report) :=
  (finish_confined hE _ _).bind fun _ => result_confined hE _

theorem read_only (symbol : ReadSymbol) : Only E (runAndAudit run.client symbol run.actor) :=
  runAndAudit_only (hE.run symbol) hE.audit hE.monotonic

theorem observe_only (canonical : Text) : Only E (run.observe canonical) := by
  unfold observe readInterface readPoeState
  apply Only.raising_bind
  · exact (read_only hE _).raising_bind fun _ => Only.raising_bind trivial fun _ => trivial
  intro interface
  split
  · exact Only.raising_bind ((read_only hE _).raising_bind fun _ => trivial) fun _ => trivial
  · exact Only.raising_bind trivial fun _ => trivial

omit hE in
/-- An interface that was observed is in the table that was read. -/
theorem observe_yields (canonical : Text) :
    Yields (run.observe canonical)
      fun r => ∀ row poe, r = .ok (some row, poe) → Listable canonical := by
  have hread : Yields (readInterface run.client canonical run.actor)
      fun r => ∀ found, r = .ok found → ∀ row, found = some row → Listable canonical := by
    unfold readInterface
    refine Yields.raising_bind (P := fun _ => True) (fun _ _ _ _ _ => trivial) ?_ fun output _ => ?_
    · rintro e found ⟨⟩
    cases hparse : parseInterfaceStatus output with
    | error e => exact yields_pure (by rintro found ⟨⟩)
    | ok rows =>
      apply yields_pure
      rintro found ⟨⟩ row hfind
      refine ⟨output, rows, hparse, row, List.mem_of_find?_eq_some hfind, ?_⟩
      simpa using List.find?_some hfind
  unfold observe
  refine Yields.raising_bind hread ?_ fun found hfound => ?_
  · rintro e row poe ⟨⟩
  have hend (poe : Option Text) : Yields (pure (found, poe) : Action _)
      fun r => ∀ row poe, r = .ok (some row, poe) → Listable canonical := by
    apply yields_pure
    rintro row poe ⟨⟩
    exact hfound row rfl
  dsimp only
  split
  · refine Yields.raising_bind (P := fun _ => True) (fun _ _ _ _ _ => trivial) ?_ fun poe _ => hend poe
    rintro e row poe ⟨⟩
  · exact hend none

theorem observeConfig_only (canonical : Text) : Only E (run.observeConfig canonical) :=
  (read_only hE _).raising_bind fun _ => trivial

theorem observeAfter_only (original : Original run.kind) : Only E (run.observeAfter original) := by
  unfold observeAfter
  apply Only.raising_bind (observe_only hE _)
  rintro ⟨interface, poe⟩
  dsimp only
  split
  · exact (observeConfig_only hE _).raising_bind fun _ => trivial
  · exact Only.raising_bind trivial fun _ => trivial

theorem restore_only (original : Original run.kind) (hsend : sends original.rollback) :
    Only E (run.restore original) := by
  unfold restore
  apply Only.raising_bind (only_perform.mpr (hE.send _ hsend))
  intro output
  apply Only.raising_bind (observe_only hE _)
  intro restored
  exact (observeConfig_only hE _).raising_bind fun _ => trivial

theorem endRollBack_confined (original : Original run.kind) (commands : List Text)
    (backupPath : Option Text) (afterState detail : Text) (rolledBack : Bool) :
    Confined E (run.endRollBack original commands backupPath afterState detail rolledBack) := by
  unfold endRollBack
  split
  · exact (finish_confined hE _ _).bind fun _ => result_confined hE _
  · exact (finish_confined hE _ _).bind fun _ => result_confined hE _

theorem rollBack_confined (original : Original run.kind) (hsend : sends original.rollback)
    (commands : List Text) (backupPath : Option Text) (afterState detail : Text) :
    Confined E (run.rollBack original commands backupPath afterState detail) := by
  unfold rollBack
  apply Confined.bind (begin_confined hE _)
  intro _
  apply Confined.bind (Confined.lift (restore_only hE original hsend))
  intro restored
  split
  · exact endRollBack_confined hE original _ _ _ _ _
  · exact endRollBack_confined hE original _ _ _ _ _

theorem endVerify_confined (original : Original run.kind) (hsend : sends original.rollback)
    (commands : List Text) (backupPath : Option Text) (afterState : Text) (met : Bool)
    (detail : Text) :
    Confined E (run.endVerify original commands backupPath afterState met detail) := by
  unfold endVerify
  split
  · exact (finish_confined hE _ _).bind fun _ => result_confined hE _
  · exact (finish_confined hE _ _).bind fun _ => rollBack_confined hE original hsend _ _ _ _

theorem verifyChange_confined (original : Original run.kind) (hsend : sends original.rollback)
    (commands : List Text) (backupPath : Option Text) :
    Confined E (run.verifyChange original commands backupPath) := by
  unfold verifyChange
  apply Confined.bind (begin_confined hE _)
  intro _
  apply Confined.bind (Confined.lift (observeAfter_only hE original))
  intro observed
  split
  · exact endVerify_confined hE original hsend _ _ _ _ _
  · exact endVerify_confined hE original hsend _ _ _ _ _

theorem executeChange_confined (original : Original run.kind) (hsend : sends original.rollback)
    (hcommands :
      sends (renderCommands (operationSpec run.kind) original.canonical original.safeValue))
    (backupPath : Option Text) : Confined E (run.executeChange original backupPath) := by
  unfold executeChange
  apply Confined.bind (begin_confined hE _)
  intro _
  apply Confined.bind
  · exact Confined.lift ⟨hE.send _ hcommands, fun _ => trivial⟩
  intro answer
  split
  · exact giveUp_confined hE _ _
  split
  · exact giveUp_confined hE _ _
  · exact (finish_confined hE _ _).bind fun _ => verifyChange_confined hE original hsend _ _

theorem applyChange_confined (original : Original run.kind) (hsend : sends original.rollback)
    (hcommands :
      sends (renderCommands (operationSpec run.kind) original.canonical original.safeValue)) :
    Confined E (run.applyChange original) := by
  unfold applyChange
  split
  · exact (skip_confined hE _ _).bind fun _ => executeChange_confined hE original hsend hcommands _
  · apply Confined.bind (begin_confined hE _)
    intro _
    apply Confined.bind
    · apply Confined.lift
      unfold backupRunningConfig
      apply Only.raising_bind
      · exact ⟨hE.monotonic, fun _ => trivial⟩
      intro _
      apply Only.raising_bind
      · exact ⟨hE.run _, fun _ => trivial⟩
      intro _
      apply Only.raising_bind (only_perform.mpr (hE.backup _))
      intro _
      apply Only.raising_bind
      · exact ⟨hE.monotonic, fun _ => trivial⟩
      intro _
      exact Only.raising_bind (only_perform.mpr (hE.audit _)) fun _ => trivial
    intro backup
    split
    · exact giveUp_confined hE _ _
    · exact (finish_confined hE _ _).bind fun _ =>
        executeChange_confined hE original hsend hcommands _

theorem decideChange_confined (original : Original run.kind) (hsend : sends original.rollback)
    (hcommands :
      sends (renderCommands (operationSpec run.kind) original.canonical original.safeValue)) :
    Confined E (run.decideChange original) := by
  unfold decideChange
  dsimp only
  apply Confined.bind (finish_confined hE _ _)
  intro _
  split
  · apply Confined.bind (skip_confined hE _ _)
    intro _
    apply Confined.bind (skip_confined hE _ _)
    intro _
    apply Confined.bind (begin_confined hE _)
    intro _
    exact (finish_confined hE _ _).bind fun _ => result_confined hE _
  · exact applyChange_confined hE original hsend hcommands

/-- **The frame of a transaction** after the interface was found operable. -/
theorem readOriginal_confined {canonical : Text} {safeValue : Option Text}
    (hsends : ∀ commands, Listable canonical → Sendable run.kind canonical safeValue commands →
      sends commands) :
    Confined E (run.readOriginal canonical safeValue) := by
  unfold readOriginal
  apply Confined.lift_bind (observe_only hE _) (observe_yields _)
  intro observed hobserved
  split
  · exact giveUp_confined hE _ _
  · exact giveUp_confined hE _ _
  next interface poe =>
  have hlistable := hobserved interface poe rfl
  apply Confined.bind (Confined.lift (read_only hE _))
  intro config
  split
  · exact giveUp_confined hE _ _
  split
  · exact giveUp_confined hE _ _
  next configText _ _ config hconfig =>
  split
  · exact giveUp_confined hE _ _
  next rollback representable =>
  apply decideChange_confined hE
  · exact hsends _ hlistable (.inr ⟨_, config, hconfig, representable⟩)
  · exact hsends _ hlistable (.inl rfl)

/-! ### The precheck -/

/-- The value a transaction works with: sanitized for an operation that needs one. -/
def SafeValue (call : OperationCall S) (safeValue : Option Text) : Prop :=
  if (operationSpec call.kind).needsValue then
    ∃ value, sanitizeDescription (call.value.getD []) = .ok value ∧ safeValue = some value
  else safeValue = none

end Transaction

/-- The command lists the operation `call` may send. -/
def Transmits (call : OperationCall S) (commands : List Text) : Prop :=
  ∃ canonical safeValue, assertInterfaceWritable call.interface = .ok canonical ∧
    Listable canonical ∧ Transaction.SafeValue call safeValue ∧ Sendable call.kind canonical safeValue commands

/-- `E` covers the operations that read the write gates. -/
structure CoversGates (E : Effect → Prop) : Prop where
  switchHost : E .switchHost
  acquire : ∀ lock, E (.acquire lock)
  release : ∀ lock, E (.release lock)
  readUnlocked : E .readUnlocked
  readPolicy : E .readPolicy
  authorized : ∀ host canonical, E (.mark (.authorized host canonical))

theorem withLock_only {α : Type} {lock : Lock} {body : Proc α} (hgates : CoversGates E)
    (hbody : Only E body) : Only E (withLock lock body) := by
  unfold withLock
  apply Only.bind (only_perform.mpr (hgates.acquire lock))
  intro _
  apply Only.bind hbody
  intro result
  exact Only.bind (only_perform.mpr (hgates.release lock)) fun _ => trivial

theorem locked_only {α : Type} {lock : Lock} {body : Action α} (hgates : CoversGates E)
    (hbody : Only E body) : Only E (locked lock body) := withLock_only hgates hbody

/-- A lock does not change what its body returns. -/
theorem withLock_yields {α : Type} {lock : Lock} {body : Proc α} {Q : α → Prop}
    (hbody : Yields body Q) : Yields (withLock lock body) Q := by
  unfold withLock
  refine Yields.bind (yields_true _) fun _ _ => ?_
  refine Yields.bind hbody fun result hresult => ?_
  refine Yields.bind (yields_true _) fun _ _ => ?_
  exact yields_pure hresult

theorem locked_yields {α : Type} {lock : Lock} {body : Action α} {Q : Except Exn α → Prop}
    (hbody : Yields body Q) : Yields (locked lock body) Q := withLock_yields hbody

theorem load_yields {α : Type} {body : Option InterfacePolicy → Action α} {Q : Except Exn α → Prop}
    (hbody : ∀ data, Yields (body data) Q) :
    Yields (do let data ← quietly loadPolicy; body data : Action α) Q :=
  yields_op.mpr fun _ => hbody _

theorem loadPolicy_only (hgates : CoversGates E) : Only E loadPolicy :=
  ⟨hgates.readPolicy, fun _ => trivial⟩

theorem controlledWritesEnabled_only (hgates : CoversGates E) :
    Only E InterfacePolicyStore.controlledWritesEnabled := by
  apply withLock_only hgates
  apply Only.bind (loadPolicy_only hgates)
  intro data
  split <;> trivial

theorem writeGuard_only {α : Type} (hgates : CoversGates E) {body : Action α}
    (hbody : Only E body) : Only E (WriteLock.operationGuard body) := by
  unfold WriteLock.operationGuard
  apply locked_only hgates
  apply Only.raising_bind
  · exact ⟨hgates.readUnlocked, fun _ => trivial⟩
  intro isUnlocked
  dsimp only
  split
  · trivial
  apply Only.raising_bind
  · exact (controlledWritesEnabled_only hgates).bind fun _ => trivial
  intro enabled
  split
  · trivial
  · exact hbody

section guards

variable [Digest]

open InterfacePolicyStore

theorem assertOperable_only (hgates : CoversGates E) (host : Option Text) (interface : Text) :
    Only E (assertOperable host interface) := by
  unfold assertOperable
  apply Only.raising_bind (p := orRaise _) trivial
  intro canonical
  dsimp only
  split
  · trivial
  apply locked_only hgates
  apply Only.raising_bind
  · exact (loadPolicy_only hgates).bind fun _ => trivial
  intro data
  split
  · trivial
  split <;> trivial

/-- An interface found operable is the canonical name of a physical interface. -/
theorem assertOperable_yields (host : Option Text) (interface : Text) :
    Yields (assertOperable host interface)
      fun r => ∀ c, r = .ok c → assertInterfaceWritable interface = .ok c := by
  unfold assertOperable
  cases hname : assertInterfaceWritable interface with
  | error e => exact yields_pure (by rintro c ⟨⟩)
  | ok canonical =>
    dsimp only [orRaise]
    show Yields (if noHost host = true then _ else _) _
    split
    · exact yields_pure (by rintro c ⟨⟩)
    refine locked_yields (load_yields fun data => ?_)
    cases data with
    | none => exact yields_pure (by rintro c ⟨⟩)
    | some data =>
      dsimp only
      split
      · exact yields_pure (by rintro c ⟨⟩)
      · exact yields_pure (by rintro c ⟨⟩)
      · exact yields_pure (by rintro c ⟨⟩; rfl)

theorem assertInterfaceOperable_only (hgates : CoversGates E) (interface : Text) :
    Only E (assertInterfaceOperable interface) := by
  unfold assertInterfaceOperable
  apply Only.raising_bind
  · exact ⟨hgates.switchHost, fun _ => trivial⟩
  intro host
  exact assertOperable_only hgates host interface

theorem assertInterfaceOperable_yields (interface : Text) :
    Yields (assertInterfaceOperable interface)
      fun r => ∀ c, r = .ok c → assertInterfaceWritable interface = .ok c := by
  exact yields_op.mpr fun host => assertOperable_yields host interface

open Transaction OperationCall in
theorem Transaction.precheck_confined {run : Transaction S} (hgates : CoversGates E)
    (hE : Covers E run.toOperationCall (Transmits run.toOperationCall)) :
    Confined E run.precheck := by
  unfold precheck
  apply Confined.bind (begin_confined hE _)
  intro _
  apply Confined.lift_bind (assertInterfaceOperable_only hgates _)
    (assertInterfaceOperable_yields _)
  intro operable hoperable
  split
  · exact (giveUp_confined hE _ _).bind fun _ => Confined.pure
  · exact Confined.pure
  next canonical =>
  have hname := hoperable canonical rfl
  split
  · next hvalue =>
    split
    · exact (giveUp_confined hE _ _).bind fun _ => Confined.pure
    · exact Confined.pure
    next value hsafe =>
    refine Confined.bind (readOriginal_confined hE ?_) fun _ => Confined.pure
    intro commands hlistable hsend
    refine ⟨canonical, some value, hname, hlistable, ?_, hsend⟩
    rw [SafeValue, if_pos hvalue]
    exact ⟨value, hsafe, rfl⟩
  · next hvalue =>
    refine Confined.bind (readOriginal_confined hE ?_) fun _ => Confined.pure
    intro commands hlistable hsend
    refine ⟨canonical, none, hname, hlistable, ?_, hsend⟩
    rw [SafeValue, if_neg hvalue]

theorem runOperationAuthorized_confined {call : OperationCall S} (hgates : CoversGates E)
    (hE : Covers E call (Transmits call)) (hnow : E .now) (huuid : E .uuid) :
    Confined E (runOperationAuthorized call) := by
  unfold runOperationAuthorized
  apply Confined.bind
  · exact Confined.lift ⟨hE.monotonic, fun _ => trivial⟩
  intro started
  apply Confined.bind
  · exact Confined.lift ⟨hnow, fun _ => trivial⟩
  intro recordedAt
  apply Confined.bind
  · exact Confined.lift ⟨huuid, fun _ => trivial⟩
  intro id
  exact Transaction.precheck_confined hgates hE

theorem policyGuard_only {α : Type} (hgates : CoversGates E) (host : Option Text)
    (interface : Text) {body : Text → Action α} (hbody : ∀ canonical, Only E (body canonical)) :
    Only E (InterfacePolicyStore.operationGuard host interface body) := by
  unfold InterfacePolicyStore.operationGuard
  apply locked_only hgates
  apply Only.raising_bind
  · exact (loadPolicy_only hgates).bind fun _ => trivial
  intro data
  split
  · trivial
  dsimp only
  split
  · trivial
  apply Only.raising_bind (assertOperable_only hgates _ _)
  intro canonical
  apply Only.raising_bind
  · exact ⟨hgates.authorized _ _, fun _ => trivial⟩
  intro _
  exact hbody canonical

/-- **The frame of an operation**: it reads the gates and does what its transaction does. -/
theorem runOperation_only {call : OperationCall S} (hgates : CoversGates E)
    (hE : Covers E call (Transmits call)) (hnow : E .now) (huuid : E .uuid)
    (hmark : E (.mark .operationStarted)) (listener : S) :
    Only E (runOperation call listener) := by
  unfold runOperation
  apply Only.bind (only_perform.mpr hmark)
  intro _
  apply Only.bind (only_perform.mpr hgates.switchHost)
  intro host
  apply Only.bind
  · apply writeGuard_only hgates
    apply policyGuard_only hgates
    intro _
    apply Only.raising_bind
    · exact (runOperationAuthorized_confined hgates hE hnow huuid _).bind fun _ => trivial
    intro outcome
    trivial
  intro outcome
  split <;> trivial

end guards

end frame

/-! ## Passing the gates

Ghost states that do not record the gates see an operation start, and then its transaction. -/

/-- The operations that read the write gates. -/
def Effect.gate : Effect → Bool
  | .switchHost | .acquire _ | .release _ | .readUnlocked | .readPolicy => true
  | .mark (.authorized _ _) => true
  | _ => false

theorem coversGates_gate : CoversGates fun effect => effect.gate = true :=
  ⟨rfl, fun _ => rfl, fun _ => rfl, rfl, rfl, fun _ _ => rfl⟩

section gates

variable {G : Type} {D : Discipline Effect Answer G} {g : G}

/-- `D` allows the gates to be read, and does not record it. -/
def IgnoresGates (D : Discipline Effect Answer G) : Prop :=
  ∀ effect, effect.gate = true → ∀ g, D.allowed g effect ∧ ∀ answer, D.next g effect answer = g

variable (hgates : IgnoresGates D)

include hgates

theorem meets_of_gate {α : Type} {p : Proc α} {Q : α → G → Prop}
    (hp : Only (fun effect => effect.gate = true) p) (hQ : Yields p fun a => Q a g) :
    Meets D p g Q := by
  have hunchanged : Meets D p g fun _ g' => g' = g :=
    hp.meets (fun i hi => ⟨(hgates i hi g).1, fun r _ => (hgates i hi g).2 r⟩) fun _ => rfl
  refine (hunchanged.yields hQ).mono fun a g' h => ?_
  rw [h.1]
  exact h.2

theorem withLock_meets {α : Type} {lock : Lock} {body : Proc α} {Q : α → G → Prop}
    (hbody : Meets D body g Q) : Meets D (withLock lock body) g Q := by
  unfold withLock
  rw [meets_bind]
  refine meets_perform.mpr ⟨(hgates _ rfl g).1, fun _ _ => ?_⟩
  rw [(hgates (.acquire lock) rfl g).2]
  refine hbody.bind fun a g' ha => ?_
  rw [meets_bind]
  refine meets_perform.mpr ⟨(hgates _ rfl g').1, fun _ _ => ?_⟩
  rw [(hgates (.release lock) rfl g').2]
  exact ha

theorem writeGuard_meets {α : Type} {body : Action α} {Q : Except Exn α → G → Prop}
    (hbody : Meets D body g Q) (hrefused : ∀ exc, Q (.error exc) g) :
    Meets D (WriteLock.operationGuard body) g Q := by
  unfold WriteLock.operationGuard
  refine withLock_meets hgates (meets_quietly_bind.mpr ?_)
  refine meets_of_gate hgates ⟨rfl, fun _ => trivial⟩ fun _ isUnlocked _ => ?_
  dsimp only
  split
  · exact hrefused _
  rw [meets_quietly_bind]
  refine meets_of_gate hgates (controlledWritesEnabled_only coversGates_gate) fun _ enabled _ => ?_
  dsimp only
  split
  · exact hrefused _
  · exact hbody

theorem policyGuard_meets [Digest] {α : Type} {host : Option Text} {interface : Text}
    {body : Text → Action α} {Q : Except Exn α → G → Prop}
    (hbody : ∀ canonical, Meets D (body canonical) g Q) (hrefused : ∀ exc, Q (.error exc) g) :
    Meets D (InterfacePolicyStore.operationGuard host interface body) g Q := by
  unfold InterfacePolicyStore.operationGuard
  refine withLock_meets hgates (meets_quietly_bind.mpr ?_)
  refine meets_of_gate hgates (loadPolicy_only coversGates_gate) fun _ data _ => ?_
  dsimp only
  split
  · exact hrefused _
  split
  · exact hrefused _
  rw [meets_raising_bind]
  refine meets_of_gate hgates (assertOperable_only coversGates_gate _ _) fun _ operable _ => ?_
  cases operable with
  | error exc => exact hrefused exc
  | ok canonical =>
    rw [continues_ok, meets_quietly_bind]
    exact meets_of_gate hgates ⟨rfl, fun _ => trivial⟩ fun _ _ _ => hbody canonical

/-- **An operation is its transaction**, once it was started and unless it was refused. -/
theorem runOperation_meets [Digest] {S : Type} {call : OperationCall S} {listener : S}
    {Q : Except Exn OperationResult × S → G → Prop}
    (hstarted : D.allowed g (.mark .operationStarted))
    (hbody : ∀ g', g' = D.next g (.mark .operationStarted) () →
      Meets D ((runOperationAuthorized call).run ⟨[], listener⟩) g' fun r g'' =>
        Q (r.1, r.2.listener) g'')
    (hrefused : ∀ exc, Q (.error exc, listener) (D.next g (.mark .operationStarted) ())) :
    Meets D (runOperation call listener) g Q := by
  unfold runOperation
  rw [meets_bind]
  refine meets_perform.mpr ⟨hstarted, fun _ _ => ?_⟩
  rw [meets_bind]
  refine meets_of_gate hgates ⟨rfl, fun _ => trivial⟩ fun _ host _ => ?_
  dsimp only
  rw [meets_bind]
  refine Meets.mono (Q := fun outcome g' => Except.rec (motive := fun _ => Prop)
    (fun exc => Q (.error exc, listener) g') (fun outcome => Q outcome g') outcome) ?_ fun outcome g' h => ?_
  swap
  · cases outcome with
    | ok outcome => exact h
    | error exc => exact h
  refine writeGuard_meets hgates (policyGuard_meets hgates (fun canonical => ?_) hrefused) hrefused
  rw [meets_quietly_bind]
  exact (hbody _ rfl).mono fun r g' h => h

end gates

end SwitchOps

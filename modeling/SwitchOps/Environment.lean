import SwitchOps.ChangeModels
import SwitchOps.InterfacePolicy
import SwitchOps.Lib.Program

/-!
# The environment of the write path

The write path is modelled as programs over the operations below. Everything that is not decided
by the modelled code is an operation: the device, the stores, the clock, the two locks and the
state behind them. What another thread may do between two operations is therefore expressible,
and so is a crash.
-/

namespace SwitchOps

open Effects Effects.Program

/-- An open SSH session, to the host it was opened to. -/
structure Client where
  host : Text
  deriving DecidableEq, Repr

/-- The two re-entrant locks: `WriteLock._lock` and `InterfacePolicyStore._lock`. -/
inductive Lock
  | write
  | policy
  deriving DecidableEq, Repr

/-- A record of the audit trail. -/
structure AuditEntry where
  actor : Text
  action : Text
  commands : List Text
  success : Bool
  durationMs : Nat
  outputPath : Option Text := none
  errorType : Option Text := none
  errorMessage : Option Text := none
  beforeState : Option Text := none
  afterState : Option Text := none
  deriving DecidableEq, Repr

/-- A backup on disk. -/
structure BackupResult where
  filename : Text
  path : Text
  deriving DecidableEq, Repr

/-- Points of a program that its properties refer to; reaching one does nothing. -/
inductive Mark
  /-- `run_operation` is entered. -/
  | operationStarted
  /-- `InterfacePolicyStore.operation_guard` yields `canonical` for `host`. -/
  | authorized (host : Option Text) (canonical : Text)
  /-- In `execute`: the snapshot before the operation, its result, and the snapshot after it. -/
  | capturedBefore (snapshot : AssuranceSnapshot)
  | operationReturned (result : OperationResult)
  | capturedAfter (snapshot : AssuranceSnapshot)
  deriving DecidableEq, Repr

/-- The operations of the environment. -/
inductive Effect
  /-- `get_credential_store().status()["switch_host"]` -/
  | switchHost
  /-- `client.run(symbol)` -/
  | run (client : Client) (symbol : ReadSymbol)
  /-- `client.run_raw_action(commands)` -/
  | runRawAction (client : Client) (commands : List Text)
  /-- `get_audit_store().record(...)` -/
  | auditRecord (entry : AuditEntry)
  /-- creating the backup file with the given text -/
  | writeBackup (text : Text)
  | acquire (lock : Lock)
  | release (lock : Lock)
  /-- the field `WriteLock._unlocked` -/
  | readUnlocked
  | writeUnlocked (value : Bool)
  /-- the policy file -/
  | readPolicy
  | writePolicy (policy : InterfacePolicy)
  /-- the row of a session: `ChangeStore.get`, and the transaction of `ChangeStore.save` -/
  | storeGet (id : Text)
  | storeSave (session : ChangeSession)
  /-- `_assurance_context()` -/
  | assuranceContext
  | uuid
  /-- `datetime.now(timezone.utc)` and `time.monotonic()` -/
  | now
  | monotonic
  | mark (mark : Mark)

/-- The answers to the operations; `Except Exn` where the operation may raise. -/
def Answer : Effect → Type
  | .switchHost => Option Text
  | .run _ _ => Except Exn Text
  | .runRawAction _ _ => Except Exn Text
  | .auditRecord _ => Except Exn Unit
  | .writeBackup _ => Except Exn BackupResult
  | .acquire _ => Unit
  | .release _ => Unit
  | .readUnlocked => Bool
  | .writeUnlocked _ => Unit
  | .readPolicy => PolicyFile
  | .writePolicy _ => Except Exn Unit
  | .storeGet _ => Option ChangeSession
  | .storeSave _ => Unit
  | .assuranceContext => Except Exn AssuranceContext
  | .uuid => Text
  | .now => Nat
  | .monotonic => Nat
  | .mark _ => Unit

/-- The environment can answer every operation. -/
instance (effect : Effect) : Nonempty (Answer effect) := by
  cases effect with
  | run _ _ | runRawAction _ _ | auditRecord _ | writeBackup _ | writePolicy _ | assuranceContext =>
    exact ⟨.error .valueError⟩
  | switchHost | storeGet _ => exact ⟨none⟩
  | acquire _ | release _ | writeUnlocked _ | storeSave _ | mark _ => exact ⟨()⟩
  | readUnlocked => exact ⟨false⟩
  | readPolicy => exact ⟨.absent⟩
  | uuid => exact ⟨([] : Text)⟩
  | now | monotonic => exact ⟨(0 : Nat)⟩

/-- The operations of bookkeeping: they reach neither the device nor the write gates. -/
def Effect.bookkeeping : Effect → Bool
  | .auditRecord _ | .storeGet _ | .storeSave _ | .uuid | .now | .monotonic => true
  | _ => false

/-- A program of the write path. -/
abbrev Proc := Program Effect Answer

/-- A program that may raise. -/
abbrev Action := ExceptT Exn Proc

/-- The outcome of a pure function that may raise. -/
def orRaise {α : Type} (outcome : Except Exn α) : Action α := ExceptT.mk (.pure outcome)

/-- A program that cannot raise, among programs that may. -/
def quietly {α : Type} (p : Proc α) : Action α := ExceptT.lift p

def switchHost : Proc (Option Text) := perform Effect.switchHost
def monotonic : Proc Nat := perform Effect.monotonic
def now : Proc Nat := perform Effect.now
def uuid4 : Proc Text := perform Effect.uuid
def reached (mark : Mark) : Proc Unit := perform (Effect.mark mark)
def readUnlocked : Proc Bool := perform Effect.readUnlocked
def loadPolicy : Proc (Option InterfacePolicy) := do
  let file : PolicyFile ← perform Effect.readPolicy
  return file.load
def auditRecord (entry : AuditEntry) : Action Unit := perform (Effect.auditRecord entry)
def Client.run (client : Client) (symbol : ReadSymbol) : Action Text :=
  perform (Effect.run client symbol)
def Client.runRawAction (client : Client) (commands : List Text) : Action Text :=
  perform (Effect.runRawAction client commands)

theorem meets_quietly {α G : Type} {D : Discipline Effect Answer G} {p : Proc α} {g : G}
    {Q : Except Exn α → G → Prop} :
    Meets D (quietly p) g Q ↔ Meets D p g fun a g' => Q (.ok a) g' := by
  show Meets D (p >>= fun a => .pure (Except.ok a)) g Q ↔ _
  rw [meets_bind]
  exact Iff.rfl

theorem meets_quietly_bind {α β G : Type} {D : Discipline Effect Answer G} {p : Proc α}
    {f : α → Action β} {g : G} {Q : Except Exn β → G → Prop} :
    Meets D (quietly p >>= f : Action β) g Q ↔
      Meets D p g fun a g' => Meets D (f a) g' Q := by
  rw [meets_raising_bind, meets_quietly]
  exact Iff.rfl

/-- `with lock: body`. The lock is released however the body ends, because an exception is a
result like any other. -/
def withLock {α : Type} (lock : Lock) (body : Proc α) : Proc α := do
  let _ ← perform (Effect.acquire lock)
  let result ← body
  let _ ← perform (Effect.release lock)
  return result

/-! ## Reading the device -/

/-- `run_and_audit`: the record is made in a `finally`, so that a failing audit store replaces
the outcome of the command. -/
def runAndAudit (client : Client) (symbol : ReadSymbol) (actor : Text) : Action Text := do
  let start ← quietly monotonic
  let outcome : Except Exn Text ← quietly (client.run symbol)
  let finish ← quietly monotonic
  auditRecord {
    actor := actor, action := "read:" ++ symbol.text,
    commands := [resolveReadCommand symbol],
    success := outcome.isOk,
    durationMs := finish - start,
    errorType := match outcome with
      | .ok _ => none
      | .error exc => some exc.typeName
    errorMessage := match outcome with
      | .ok _ => none
      | .error exc => some exc.message }
  orRaise outcome

end SwitchOps

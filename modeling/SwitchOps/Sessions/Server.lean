import SwitchOps.Lib.Machine
import SwitchOps.Sessions.Conduct
import SwitchOps.Sessions.Store
import Mathlib.Logic.Function.Basic

/-!
# The change session requests

`post_change_session`, `post_change_preflight` and `post_change_execute` over the store. A preflight
or an execution is a job of the worker, which runs one at a time; its request waits for it, and
where the job fails with a `SwitchOpsError`, calls a fallback in its own thread. Every operation of
a job or a fallback is a step, and the store answers what is asked of it; what else the environment
answers is up to the step. SwitchOps may stop between any two steps, and opens the store again.
-/

namespace SwitchOps

open Effects Effects.Program Machines

/-- The jobs of the requests. -/
inductive SessionJob
  | preflight
  | execute
  deriving DecidableEq, Repr

/-- What the worker runs; the snapshots of a preflight are taken in the given context. -/
def SessionJob.program [Digest] (job : SessionJob) (id : Text) (client : Client)
    (context : AssuranceContext) : Proc (Except Exn ChangeSession) :=
  match job with
  | .preflight => runPreflight id client context
  | .execute => SwitchOps.execute id client

/-- `except SwitchOpsError` in the handler of a job. -/
def SessionJob.fallback (job : SessionJob) (id : Text) : Proc (Except Exn ChangeSession) :=
  match job with
  | .preflight => blockPreflightUnavailable id
  | .execute => blockBeforeExecution id ("Execution was blocked before IOS configuration because " ++
      ("the control session or a mandatory write gate " ++ "was unavailable.".toList))

/-- Where a request is. A request that has given up waits for its job no more. -/
inductive SessionCall
  | new
  | queued (job : SessionJob) (id : Text) (waits : Bool)
  | running (waits : Bool)
  | fallback (program : Proc (Except Exn ChangeSession))
  | returned

/-- The job that the worker runs. -/
structure RunningJob (ι : Type) where
  caller : ι
  job : SessionJob
  id : Text
  program : Proc (Except Exn ChangeSession)

/-- The store, the requests by their names `ι`, and the worker. The last two fields are ghosts: the
sessions for which `run_operation` was entered, once for each time, and those for which
configuration commands were sent. -/
structure ChangeServer (ι : Type) where
  store : ChangeStore := []
  calls : ι → SessionCall := fun _ => .new
  worker : Option (RunningJob ι) := none
  started : List Text := []
  sent : List Text := []

/-- What the environment answers, apart from the store. -/
abbrev Answers := (effect : Effect) → Answer effect

inductive ChangeAction (ι : Type)
  /-- `create_plan` reaches the store in one step, with a session of a new identifier. -/
  | create (session : ChangeSession)
  | request (r : ι) (job : SessionJob) (id : Text)
  /-- The worker takes a job, or fails it without running it. -/
  | take (r : ι) (client : Client) (context : AssuranceContext)
  | drop (r : ι) (exc : Exn)
  /-- The worker performs the next operation of its job, or ends it. -/
  | work (answers : Answers)
  | finish
  /-- A fallback performs its next operation, or returns. -/
  | call (r : ι) (answers : Answers)
  | leave (r : ι)
  /-- The wait of a request runs out of time. -/
  | giveUp (r : ι)
  /-- SwitchOps stops, and is started again. -/
  | crash (clock : Text → Nat)

namespace ChangeServer

variable {ι : Type}

/-- The store answers what is asked of it. -/
def respond (store : ChangeStore) (answers : Answers) : (effect : Effect) → Answer effect
  | .storeGet id => store.get id
  | effect => answers effect

/-- The store after an operation. -/
def stored (store : ChangeStore) : Effect → ChangeStore
  | .storeSave session => store.write session
  | _ => store

/-- What a request does with the end of its job. -/
def afterJob (job : SessionJob) (id : Text) (waits : Bool) : Except Exn ChangeSession → SessionCall
  | .ok _ => .returned
  | .error exc => if waits && exc.isSwitchOps then .fallback (job.fallback id) else .returned

variable [DecidableEq ι]

def set (s : ChangeServer ι) (r : ι) (call : SessionCall) : ChangeServer ι :=
  { s with calls := Function.update s.calls r call }

/-- The worker performs an operation. -/
def perform (s : ChangeServer ι) (running : RunningJob ι) (effect : Effect)
    (program : Proc (Except Exn ChangeSession)) : ChangeServer ι :=
  { s with
    store := stored s.store effect
    worker := some { running with program := program }
    started := (match effect with
      | .mark .operationStarted => running.id :: s.started
      | _ => s.started)
    sent := (match effect with
      | .runRawAction _ _ => running.id :: s.sent
      | _ => s.sent) }

def step [Digest] (s : ChangeServer ι) : ChangeAction ι → Option (ChangeServer ι)
  | .create session =>
    if session.status = .planned ∧ s.store.get? session.id = none then
      some { s with store := s.store.write session }
    else none
  | .request r job id =>
    match s.calls r with
    | .new => some (s.set r (.queued job id true))
    | _ => none
  | .take r client context =>
    match s.calls r, s.worker with
    | .queued job id waits, none =>
      some { s.set r (.running waits) with
        worker := some ⟨r, job, id, job.program id client context⟩ }
    | _, _ => none
  | .drop r exc =>
    match s.calls r with
    | .queued job id waits => some (s.set r (afterJob job id waits (.error exc)))
    | _ => none
  | .work answers =>
    match s.worker with
    | some running =>
      match running.program with
      | .op effect k => some (s.perform running effect (k (respond s.store answers effect)))
      | .pure _ => none
    | none => none
  | .finish =>
    match s.worker with
    | some running =>
      match running.program, s.calls running.caller with
      | .pure outcome, .running waits =>
        some { s.set running.caller (afterJob running.job running.id waits outcome) with
          worker := none }
      | _, _ => none
    | none => none
  | .call r answers =>
    match s.calls r with
    | .fallback (.op effect k) =>
      some { s.set r (.fallback (k (respond s.store answers effect))) with
        store := stored s.store effect }
    | _ => none
  | .leave r =>
    match s.calls r with
    | .fallback (.pure _) => some (s.set r .returned)
    | _ => none
  | .giveUp r =>
    match s.calls r with
    | .queued job id _ => some (s.set r (.queued job id false))
    | .running _ => some (s.set r (.running false))
    | _ => none
  | .crash clock =>
    some { s with
      store := s.store.recoverIncomplete clock
      calls := fun _ => .new
      worker := none }

/-- The next operation of the request is a fallback's, and stores a session over one that has been
started. -/
def overwrites (s : ChangeServer ι) (r : ι) : Bool :=
  match s.calls r with
  | .fallback (.op (.storeSave session) _) =>
    ((s.store.get session.id).map fun stored => !stored.status.notStarted).getD false
  | _ => false

/-- The condition: a fallback stores its session as blocked only while the stored session has not
been started. -/
def FallsBack (s : ChangeServer ι) : ChangeAction ι → Prop
  | .call r _ => s.overwrites r = false
  | _ => True

instance (s : ChangeServer ι) : (a : ChangeAction ι) → Decidable (s.FallsBack a)
  | .call _ _ => inferInstanceAs (Decidable (_ = false))
  | .create _ | .request _ _ _ | .take _ _ _ | .drop _ _ | .work _ | .finish | .leave _ | .giveUp _ |
    .crash _ => inferInstanceAs (Decidable True)

end ChangeServer

end SwitchOps

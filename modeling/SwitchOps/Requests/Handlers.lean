import SwitchOps.Lib.Machine
import SwitchOps.Models
import SwitchOps.Requests.SaveTracker
import Mathlib.Data.Fintype.Basic
import Mathlib.Data.Fintype.Fin
import Mathlib.Logic.Function.Basic

/-!
# The requests that write

`post_interface_operation`, `post_change_execute`, `post_config_save` and
`post_config_state_refresh`, each in a thread of its own, over what they share: the save tracker,
the published operation in progress, and the pause of the telemetry. The work of a request on the
switch is one job; jobs run one after another, and a request waits for its job or gives up. Of the
two configurations of the switch only the fingerprints matter here. A request that is refused
before its first shared write is not modelled, nor is what the handlers publish.
-/

namespace SwitchOps

/-- The handlers. A marker is what `operation_in_progress` shows, `{kind}:{interface}`. -/
inductive RequestKind
  | operation (marker : Text)
  | execution (marker : Text)
  | save
  | refresh
  deriving DecidableEq, Repr

/-- The marker of a request that runs a transaction. -/
def RequestKind.marker : RequestKind → Option Text
  | .operation marker | .execution marker => some marker
  | .save | .refresh => none

/-- How a job ends: an operation result with `requires_save` and `at` (an execution may have
none), the success of a save, two fingerprints, or an exception. -/
inductive JobEnd
  | result (requiresSave : Bool) (changedAt : Nat)
  | noResult
  | saved (success : Bool)
  | fingerprints (running startup : Text)
  | raised (exc : Exn)
  deriving DecidableEq, Repr

/-- The job of a request. -/
inductive JobStatus
  | unsubmitted
  | queued
  | running
  | ended (outcome : JobEnd)
  deriving DecidableEq, Repr

/-- Where a request is. -/
inductive RequestPc
  | new
  /-- At `live.operation_in_progress = ...` and at `collector.pause()`. -/
  | marking
  | pausing
  /-- At `on_device(...)`: before the submission, and waiting for the result. -/
  | submitting
  | waiting
  /-- At the update of the save tracker. -/
  | recording (outcome : JobEnd)
  /-- In `finally`: at `live.operation_in_progress = None`, at `collector.resume()` and at
  `collector.collect_fast()`. -/
  | unmarking
  | resuming
  | collecting
  | returned
  deriving DecidableEq, Repr

structure Request where
  kind : RequestKind := .refresh
  pc : RequestPc := .new
  job : JobStatus := .unsubmitted
  deriving DecidableEq, Repr

/-- Where `LiveCollector._loop` is: at the test of the pause, or collecting. -/
inductive CollectorPc
  | testing
  | collecting
  deriving DecidableEq, Repr

/-- The server, its requests named by `ι`, the request whose job the worker runs, and the two
configurations of the switch. `changed` is a ghost: SwitchOps has changed the running
configuration since the two last agreed. -/
structure Server (ι : Type) where
  requests : ι → Request := fun _ => {}
  device : Option ι := none
  now : Nat := 0
  tracker : ConfigSaveTracker := {}
  operationInProgress : Option Text := none
  paused : Bool := false
  collector : CollectorPc := .testing
  collections : Nat := 0
  running : Text
  startup : Text
  changed : Bool := false

/-- The steps of the server and of the world around it. -/
inductive ServerAction (ι : Type)
  | request (r : ι) (kind : RequestKind)
  /-- The next step of a request; `stored` is the operation result of the stored session, for an
  execution whose job raises. -/
  | advance (r : ι) (stored : JobEnd)
  /-- `future.result(timeout)` runs out of time. -/
  | timeout (r : ι)
  /-- The worker takes the job of a request, and ends it with the configurations it leaves. -/
  | take (r : ι)
  | finish (r : ι) (running startup : Text) (outcome : JobEnd)
  /-- The job is failed without being run. -/
  | drop (r : ι) (exc : Exn)
  /-- Someone else changes the configurations. -/
  | outside (running startup : Text)
  | elapse (time : Nat)
  | collect
  deriving DecidableEq, Repr

namespace Server

variable {ι : Type}

/-- What a job may end with, and leave behind, by the kind of its request. -/
def mayFinish (s : Server ι) (kind : RequestKind) (running startup : Text) : JobEnd → Bool
  | .result _ _ => kind.marker.isSome && startup = s.startup
  | .noResult => (match kind with | .execution _ => true | _ => false) && startup = s.startup
  | .saved _ => kind = .save && running = s.running &&
      (startup = s.startup || startup = s.running)
  | .fingerprints a b => kind = .refresh && running = s.running && startup = s.startup &&
      a = running && b = startup
  | .raised _ =>
    match kind with
    | .operation _ | .execution _ => startup = s.startup
    | .save => running = s.running && (startup = s.startup || startup = s.running)
    | .refresh => running = s.running && startup = s.startup

/-- The ghost after the configurations have become these, by SwitchOps or by someone else. -/
def changedAfter (s : Server ι) (own : Bool) (running startup : Text) : Bool :=
  if running = startup then false
  else if own && running ≠ s.running then true
  else s.changed

variable [DecidableEq ι]

def set (s : Server ι) (r : ι) (request : Request) : Server ι :=
  { s with requests := Function.update s.requests r request }

/-- The request goes on to `pc`. -/
def goto (s : Server ι) (r : ι) (pc : RequestPc) : Server ι :=
  s.set r { s.requests r with pc := pc }

/-- What a request does with the end of its job. -/
def afterJob (kind : RequestKind) (stored : JobEnd) : JobEnd → RequestPc
  | .result requiresSave changedAt => .recording (.result requiresSave changedAt)
  | .noResult => .recording .noResult
  | .saved success => if success then .recording (.saved success) else .returned
  | .fingerprints running startup => .recording (.fingerprints running startup)
  | .raised exc =>
    match kind with
    | .operation _ => .unmarking
    | .execution _ =>
      -- `except SwitchOpsError`: the session is blocked, or stays as it was stored
      if exc.isSwitchOps then .recording stored else .unmarking
    | .save | .refresh => .returned

/-- The update of the save tracker. -/
def recorded (s : Server ι) : JobEnd → ConfigSaveTracker
  | .result requiresSave changedAt =>
    if requiresSave then s.tracker.recordChange changedAt else s.tracker
  | .saved _ => s.tracker.recordSave s.now
  | .fingerprints running startup => s.tracker.recordFingerprints running startup
  | .noResult | .raised _ => s.tracker

/-- The next step of a request. -/
def advance (s : Server ι) (r : ι) (stored : JobEnd) : Option (Server ι) :=
  let request := s.requests r
  match request.pc with
  | .new | .returned => none
  | .marking => some ({ s with operationInProgress := request.kind.marker }.goto r .pausing)
  | .pausing => some ({ s with paused := true }.goto r .submitting)
  | .submitting => some (s.set r { request with pc := .waiting, job := .queued })
  | .waiting =>
    match request.job with
    | .ended outcome => some (s.goto r (afterJob request.kind stored outcome))
    | _ => none
  | .recording outcome =>
    some ({ s with tracker := s.recorded outcome }.goto r
      (if request.kind.marker.isSome then .unmarking else .returned))
  | .unmarking => some ({ s with operationInProgress := none }.goto r .resuming)
  | .resuming => some ({ s with paused := false }.goto r .collecting)
  | .collecting => some (s.goto r .returned)

/-- The session that an execution finds stored has an operation result or none. -/
def JobEnd.stored : JobEnd → Bool
  | .result _ _ | .noResult => true
  | _ => false

def step (s : Server ι) : ServerAction ι → Option (Server ι)
  | .request r kind =>
    if (s.requests r).pc = .new then
      some (s.set r { kind := kind, pc := if kind.marker.isSome then .marking else .submitting })
    else none
  | .advance r stored => if JobEnd.stored stored then s.advance r stored else none
  | .timeout r =>
    let request := s.requests r
    match request.pc, request.job with
    | .waiting, .queued | .waiting, .running =>
      some (s.goto r (if request.kind.marker.isSome then .unmarking else .returned))
    | _, _ => none
  | .take r =>
    let request := s.requests r
    if request.job = .queued ∧ s.device = none then
      some ({ s with device := some r }.set r { request with job := .running })
    else none
  | .finish r running startup outcome =>
    let request := s.requests r
    if s.device = some r ∧ s.mayFinish request.kind running startup outcome then
      let own := request.kind.marker.isSome
      some ({ s with
        device := none, running := running, startup := startup,
        changed := s.changedAfter own running startup }.set r
          { request with job := .ended outcome })
    else none
  | .drop r exc =>
    let request := s.requests r
    if request.job = .queued then some (s.set r { request with job := .ended (.raised exc) })
    else none
  | .outside running startup =>
    some { s with
      running := running, startup := startup, changed := s.changedAfter false running startup }
  | .elapse time => some { s with now := s.now + time }
  | .collect =>
    match s.collector with
    | .testing => some (if s.paused then s else { s with collector := .collecting })
    | .collecting => some { s with collector := .testing, collections := s.collections + 1 }

end Server

end SwitchOps

import SwitchOps.Lib.Machine
import SwitchOps.Session.Worker
import Mathlib.Logic.Function.Basic

/-!
# The session manager and its callers

`DeviceSessionManager` with the threads that call it, named by `ι`, and the worker threads it has made. A step of
a caller reads or writes one of the shared fields; between any two steps any other thread may move.
`start` and `stop` take no lock, so their tests and what follows them are separate steps; numbers
are drawn under `_sequence_lock` and the queue has a mutex of its own, so that drawing, putting,
taking and `has_pending` are one step each.

A caller that waits for the result of its job touches nothing the others see, so what
`run_on_device` does after its submission is left out.
-/

namespace SwitchOps

/-! ## Calls -/

/-- What is given to `submit`. -/
structure Submission where
  kind : JobKind
  priority : JobPriority
  deriving DecidableEq, Repr

/-- The live tiers that go through `LiveCollector._submit`. -/
inductive Tier
  | fast
  | medium (slot : MediumSlot)
  | slow
  deriving DecidableEq, Repr

def Tier.submission : Tier → Submission
  | .fast => ⟨.liveFast, .fast⟩
  | .medium slot => ⟨.liveMedium slot, .medium⟩
  | .slow => ⟨.liveSlow, .slow⟩

/-- The call of a thread. -/
inductive Call
  | start
  | stop
  /-- `submit` with the kind of a request. -/
  | submit (name : Text) (priority : JobPriority)
  | runOnDevice (name : Text) (priority : JobPriority)
  /-- `collect_fast`, `collect_medium` and `collect_slow`. -/
  | collect (tier : Tier)
  deriving DecidableEq, Repr

/-- Who makes which call: `collect_medium` and `collect_slow` are called by the thread of
`LiveCollector._loop` only. -/
def Call.madeBy {ι : Type} [DecidableEq ι] (collector caller : ι) : Call → Bool
  | .collect (.medium _) | .collect .slow => caller = collector
  | _ => true

/-- Where a caller is. `since` is a ghost, the number of stops called when the start was. -/
inductive CallerPc
  | ready
  /-- `start`: at the two reads of `_thread` in the test, -/
  | startRead (since : Nat) (next : Option Submission)
  | startAlive (since : Nat) (next : Option Submission)
  /-- at `self._stopping.clear()`, -/
  | startClear (since : Nat) (next : Option Submission)
  /-- at `self._thread = threading.Thread(...)`, and at `self._thread.start()`. -/
  | startCreate (since : Nat) (next : Option Submission)
  | startLaunch (since : Nat) (next : Option Submission)
  /-- `stop`: at `self._stopping.set()`, at `_next_sequence()`, at the put, -/
  | stopSet
  | stopNumber
  | stopPut (job : Job)
  /-- at the read of `_thread`, in `join`, and at `self._thread = None`. -/
  | stopRead
  | stopJoin (thread : Nat)
  | stopForget
  /-- `LiveCollector._submit`, at `has_pending`. -/
  | check (submission : Submission)
  /-- `submit`: at the test of the stop event, at `_next_sequence()`, at the put. -/
  | submitTest (submission : Submission)
  | submitNumber (submission : Submission) (calm : Option Nat)
  | submitPut (job : Job)
  deriving DecidableEq, Repr

/-- The manager, the threads it has made, and its callers. The last three fields are ghosts: the
latest start has returned and no stop has been called since it was called; the jobs whose futures
`submit` has returned; and, for the futures it has returned failed, what `Job.calm` says of jobs. -/
structure Manager (ι : Type) where
  shared : Shared := {}
  sequence : Nat := 0
  thread : Option Nat := none
  created : Nat := 0
  workers : Nat → Worker := fun _ => {}
  callers : ι → CallerPc := fun _ => .ready
  calm : Bool := false
  returned : List Nat := []
  refused : List (Option Nat) := []

inductive ManagerAction (ι : Type)
  | call (caller : ι) (call : Call)
  /-- The next step of a caller; `expired` if it is in `join` and gives up. -/
  | caller (caller : ι) (expired : Bool)
  | worker (worker : Nat) (step : WorkerStep)
  | elapse (seconds : ℚ)
  deriving DecidableEq, Repr

/-- The thread has been started and has not ended: `is_alive()`. -/
def WorkerPc.alive : WorkerPc → Bool
  | .created | .terminated => false
  | _ => true

/-- A thread that enters `_worker`. -/
def Worker.started (clock : ℚ) : Worker := { pc := .looping, lastActivity := clock }

namespace Manager

variable {ι : Type} [DecidableEq ι]

/-- The caller goes on to `pc`. -/
def goto (s : Manager ι) (c : ι) (pc : CallerPc) : Manager ι :=
  { s with callers := Function.update s.callers c pc }

/-- The first step of a call. -/
def enter (s : Manager ι) : Call → CallerPc
  | .start => .startRead s.shared.stops none
  | .stop => .stopSet
  | .submit name priority => .submitTest ⟨.request name, priority⟩
  | .runOnDevice name priority => .startRead s.shared.stops (some ⟨.request name, priority⟩)
  | .collect tier => .check tier.submission

/-- What follows a start: the end of the call, or the submission of `run_on_device`. -/
def afterStart : Option Submission → CallerPc
  | none => .ready
  | some submission => .submitTest submission

/-- `start` returns. -/
def returnFromStart (s : Manager ι) (c : ι) (since : Nat) (next : Option Submission) : Manager ι :=
  { s with calm := s.calm || since = s.shared.stops }.goto c (afterStart next)

/-- The ghost of a job that is submitted now. -/
def calmNow (s : Manager ι) : Option Nat := if s.calm then some s.shared.stops else none

/-- Draw the next number. -/
def draw (s : Manager ι) : Manager ι := { s with sequence := s.sequence + 1 }

/-- `self._queue.put(job)` -/
def put (s : Manager ι) (job : Job) : Manager ι :=
  { s with shared := { s.shared with queue := s.shared.queue ++ [job] } }

/-- The token of `stop`. -/
def token (sequence : Nat) : Job :=
  { priority := .transaction, sequence := sequence, kind := .shutdown }

/-- The next step of a caller. -/
def callerStep (s : Manager ι) (c : ι) (expired : Bool) : Option (Manager ι) :=
  match s.callers c with
  | .ready => none
  | .startRead since next =>
    match s.thread with
    | none => some (s.goto c (.startClear since next))
    | some _ => some (s.goto c (.startAlive since next))
  | .startAlive since next =>
    match s.thread with
    | none => some (s.goto c .ready) -- AttributeError
    | some t =>
      if (s.workers t).pc.alive then some (s.returnFromStart c since next)
      else some (s.goto c (.startClear since next))
  | .startClear since next =>
    some ({ s with shared := { s.shared with stopping := false } }.goto c (.startCreate since next))
  | .startCreate since next =>
    some ({ s with
      thread := some s.created, created := s.created + 1,
      workers := Function.update s.workers s.created {} }.goto c (.startLaunch since next))
  | .startLaunch since next =>
    match s.thread with
    | none => some (s.goto c .ready) -- AttributeError
    | some t =>
      if (s.workers t).pc = .created then
        some ({ s with
          workers := Function.update s.workers t (.started s.shared.clock) }.returnFromStart
            c since next)
      else some (s.goto c .ready) -- RuntimeError
  | .stopSet =>
    some ({ s with
      shared := { s.shared with stopping := true, stops := s.shared.stops + 1 },
      calm := false }.goto c .stopNumber)
  | .stopNumber => some (s.draw.goto c (.stopPut (token (s.sequence + 1))))
  | .stopPut job => some ((s.put job).goto c .stopRead)
  | .stopRead =>
    match s.thread with
    | none => some (s.goto c .stopForget)
    | some t =>
      if (s.workers t).pc = .created then some (s.goto c .ready) -- RuntimeError
      else some (s.goto c (.stopJoin t))
  | .stopJoin t =>
    if (s.workers t).pc = .terminated ∨ expired then some (s.goto c .stopForget) else none
  | .stopForget => some ({ s with thread := none }.goto c .ready)
  | .check submission =>
    if s.shared.queue.any fun job => job.kind = submission.kind then some (s.goto c .ready)
    else some (s.goto c (.submitTest submission))
  | .submitTest submission =>
    if s.shared.stopping then some ({ s with refused := s.calmNow :: s.refused }.goto c .ready)
    else some (s.goto c (.submitNumber submission s.calmNow))
  | .submitNumber submission calm =>
    some (s.draw.goto c (.submitPut
      { priority := submission.priority, sequence := s.sequence + 1, kind := submission.kind,
        calm := calm }))
  | .submitPut job =>
    some ({ s.put job with returned := job.sequence :: s.returned }.goto c .ready)

/-- One step of the system, in which `collector` is the thread of `LiveCollector._loop`. -/
def step (collector : ι) (s : Manager ι) : ManagerAction ι → Option (Manager ι)
  | .call c call =>
    if s.callers c = .ready ∧ call.madeBy collector c then some (s.goto c (s.enter call)) else none
  | .caller c expired => s.callerStep c expired
  | .worker w e =>
    ((s.workers w).step s.shared e).map fun next =>
      { s with shared := next.1, workers := Function.update s.workers w next.2 }
  | .elapse seconds =>
    if 0 ≤ seconds then
      some { s with shared := { s.shared with clock := s.shared.clock + seconds } }
    else none

/-- What the steps of a caller do, one constructor for each way through a step. -/
inductive Move (s : Manager ι) (c : ι) : Manager ι → Prop
  | found {since next t} (here : s.callers c = .startRead since next) (thread : s.thread = some t) :
      Move s c (s.goto c (.startAlive since next))
  | unset {since next} (here : s.callers c = .startRead since next) (thread : s.thread = none) :
      Move s c (s.goto c (.startClear since next))
  | already {since next t} (here : s.callers c = .startAlive since next)
      (thread : s.thread = some t) (alive : (s.workers t).pc.alive) :
      Move s c (s.returnFromStart c since next)
  | dead {since next t} (here : s.callers c = .startAlive since next)
      (thread : s.thread = some t) (dead : (s.workers t).pc.alive = false) :
      Move s c (s.goto c (.startClear since next))
  | clear {since next} (here : s.callers c = .startClear since next) :
      Move s c ({ s with shared := { s.shared with stopping := false } }.goto c
        (.startCreate since next))
  | create {since next} (here : s.callers c = .startCreate since next) :
      Move s c ({ s with
        thread := some s.created, created := s.created + 1,
        workers := Function.update s.workers s.created {} }.goto c (.startLaunch since next))
  | launch {since next t} {lastActivity : ℚ} (here : s.callers c = .startLaunch since next)
      (thread : s.thread = some t) (fresh : (s.workers t).pc = .created) :
      Move s c ({ s with
        workers := Function.update s.workers t (.started lastActivity) }.returnFromStart c since next)
  /-- `start` raises: the thread object is gone, or was started by another. -/
  | raise {since next} (here : s.callers c = .startAlive since next ∧ s.thread = none ∨
      s.callers c = .startLaunch since next ∧
        (s.thread = none ∨ ∃ t, s.thread = some t ∧ (s.workers t).pc ≠ .created)) :
      Move s c (s.goto c .ready)
  | stopSet (here : s.callers c = .stopSet) :
      Move s c ({ s with
        shared := { s.shared with stopping := true, stops := s.shared.stops + 1 },
        calm := false }.goto c .stopNumber)
  | stopNumber (here : s.callers c = .stopNumber) :
      Move s c (s.draw.goto c (.stopPut (token (s.sequence + 1))))
  | stopPut {job} (here : s.callers c = .stopPut job) : Move s c ((s.put job).goto c .stopRead)
  | stopGiveUp (here : s.callers c = .stopRead) : Move s c (s.goto c .ready)
  | stopJoin {t} (here : s.callers c = .stopRead) : Move s c (s.goto c (.stopJoin t))
  | stopJoined (here : s.callers c = .stopRead ∨ ∃ t, s.callers c = .stopJoin t) :
      Move s c (s.goto c .stopForget)
  | stopForget (here : s.callers c = .stopForget) : Move s c ({ s with thread := none }.goto c .ready)
  | skip {submission} (here : s.callers c = .check submission) : Move s c (s.goto c .ready)
  | check {submission} (here : s.callers c = .check submission)
      (absent : ∀ job ∈ s.shared.queue, job.kind ≠ submission.kind) :
      Move s c (s.goto c (.submitTest submission))
  | refuse {submission} (here : s.callers c = .submitTest submission)
      (stopping : s.shared.stopping = true) :
      Move s c ({ s with refused := s.calmNow :: s.refused }.goto c .ready)
  | accept {submission} (here : s.callers c = .submitTest submission)
      (going : s.shared.stopping = false) :
      Move s c (s.goto c (.submitNumber submission s.calmNow))
  | number {submission calm} (here : s.callers c = .submitNumber submission calm) :
      Move s c (s.draw.goto c (.submitPut
        { priority := submission.priority, sequence := s.sequence + 1, kind := submission.kind,
          calm := calm }))
  | put {job} (here : s.callers c = .submitPut job) :
      Move s c ({ s.put job with returned := job.sequence :: s.returned }.goto c .ready)

/-- Every step of a caller is one of these moves. -/
theorem move_of_callerStep {s t : Manager ι} {c : ι} {expired : Bool}
    (h : s.callerStep c expired = some t) : Move s c t := by
  unfold callerStep at h
  split at h
  case h_1 => cases h
  case h_2 since next here =>
    split at h
    · next thread => cases h; exact .unset here thread
    · next t thread => cases h; exact .found here thread
  case h_3 since next here =>
    split at h
    · next thread => cases h; exact .raise (.inl ⟨here, thread⟩)
    · next t thread =>
      split at h
      · next alive => cases h; exact .already here thread alive
      · next dead => cases h; exact .dead here thread (by simpa using dead)
  case h_4 since next here => cases h; exact .clear here
  case h_5 since next here => cases h; exact .create here
  case h_6 since next here =>
    split at h
    · next thread => cases h; exact .raise (.inr ⟨here, .inl thread⟩)
    · next t thread =>
      split at h
      · next fresh => cases h; exact .launch here thread fresh
      · next started => cases h; exact .raise (.inr ⟨here, .inr ⟨t, thread, started⟩⟩)
  case h_7 here => cases h; exact .stopSet here
  case h_8 here => cases h; exact .stopNumber here
  case h_9 job here => cases h; exact .stopPut here
  case h_10 here =>
    split at h
    · cases h; exact .stopJoined (.inl here)
    · split at h
      · cases h; exact .stopGiveUp here
      · cases h; exact .stopJoin here
  case h_11 t here =>
    split at h
    · cases h; exact .stopJoined (.inr ⟨t, here⟩)
    · cases h
  case h_12 here => cases h; exact .stopForget here
  case h_13 submission here =>
    split at h
    · cases h; exact .skip here
    · next absent => cases h; exact .check here (by simpa using absent)
  case h_14 submission here =>
    split at h
    · next stopping => cases h; exact .refuse here stopping
    · next going => cases h; exact .accept here (by simpa using going)
  case h_15 submission calm here => cases h; exact .number here
  case h_16 job here => cases h; exact .put here

end Manager

end SwitchOps

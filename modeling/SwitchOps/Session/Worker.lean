import SwitchOps.Session.Connection

/-!
# The device worker

`DeviceSessionManager._worker`, one step at a time. A step reads or writes what the worker shares
with other threads at most once: the queue, the stop event, the futures. The connection is the
worker's own, so its methods are taken whole, except that the call of the network inside
`_ensure_client` and the job itself are spans of time, in which other threads move.

What the world outside answers is part of the step: whether the transport is alive, how an attempt
to connect ends, how a job ends.
-/

namespace SwitchOps

/-! ## Jobs -/

/-- `JobPriority`: lower runs first. -/
inductive JobPriority
  | transaction
  | diagnostic
  | fast
  | medium
  | slow
  | deep
  deriving DecidableEq, Repr

def JobPriority.value : JobPriority → Nat
  | .transaction => 0
  | .diagnostic => 1
  | .fast => 2
  | .medium => 3
  | .slow => 4
  | .deep => 5

/-- `LiveCollector._medium_slots` -/
inductive MediumSlot
  | poe
  | errors
  | environment
  | load
  deriving DecidableEq, Repr

/-- The kind of a job: the token of `stop`, the live tiers, and the kinds of the requests
(`operation-admin_down`, `dashboard`, ...), whose names differ from these. -/
inductive JobKind
  | shutdown
  | liveFast
  | liveMedium (slot : MediumSlot)
  | liveSlow
  | request (name : Text)
  deriving DecidableEq, Repr

/-- `_Job`. What its `run` does is up to the step that ends it; its future is known by the
sequence number. `calm` is a ghost: if no stop has been called since the last start when the job
is submitted, the number of stops called by then. -/
structure Job where
  priority : JobPriority
  sequence : Nat
  kind : JobKind
  calm : Option Nat := none
  deriving DecidableEq, Repr

/-- The order of the queue: by priority, then by the number of the submission. -/
def Job.before (a b : Job) : Prop :=
  a.priority.value < b.priority.value ∨
    (a.priority.value = b.priority.value ∧ a.sequence ≤ b.sequence)

instance (a b : Job) : Decidable (a.before b) :=
  inferInstanceAs (Decidable (_ ∨ (_ ∧ _)))

namespace Job

theorem before_refl (a : Job) : a.before a := .inr ⟨rfl, le_refl _⟩

theorem before_total (a b : Job) : a.before b ∨ b.before a := by
  unfold before; omega

theorem before_trans {a b c : Job} (h : a.before b) (h' : b.before c) : a.before c := by
  unfold before at *; omega

/-- What `PriorityQueue.get` takes out: the least of the jobs. -/
def least : List Job → Option Job
  | [] => none
  | job :: rest =>
    match least rest with
    | none => some job
    | some other => if job.before other then some job else some other

theorem least_eq_none {queue : List Job} : least queue = none ↔ queue = [] := by
  cases queue with
  | nil => simp [least]
  | cons job rest =>
    simp only [least]
    split
    · simp
    · split <;> simp

theorem mem_of_least {queue : List Job} {job : Job} (h : least queue = some job) :
    job ∈ queue := by
  induction queue generalizing job with
  | nil => simp [least] at h
  | cons first rest ih =>
    simp only [least] at h
    split at h
    · cases h; simp
    · next other found =>
      split at h
      · cases h; simp
      · cases h; exact List.mem_cons_of_mem _ (ih found)

/-- The job taken out comes before every other. -/
theorem least_before {queue : List Job} {job : Job} (h : least queue = some job) :
    ∀ other ∈ queue, job.before other := by
  induction queue generalizing job with
  | nil => simp
  | cons first rest ih =>
    simp only [least] at h
    intro other mem
    cases found : least rest with
    | none =>
      rw [found] at h
      cases h
      rw [least_eq_none.mp found] at mem
      obtain rfl : other = first := by simpa using mem
      exact before_refl _
    | some second =>
      rw [found] at h
      dsimp only at h
      have rest_before : ∀ o ∈ rest, second.before o := ih found
      by_cases first_before : first.before second
      · rw [if_pos first_before] at h
        cases h
        obtain rfl | mem := List.mem_cons.mp mem
        · exact before_refl _
        · exact before_trans first_before (rest_before _ mem)
      · rw [if_neg first_before] at h
        cases h
        obtain rfl | mem := List.mem_cons.mp mem
        · exact (before_total other job).resolve_left first_before
        · exact rest_before _ mem

end Job

/-- How the future of a job is resolved: with the result of `run` or what it raised, with the error
of a session without a client, or because the session is shutting down. -/
inductive Outcome
  | result
  | raised (exc : Exn)
  | unavailable (exc : Exn)
  | shuttingDown
  deriving DecidableEq, Repr

/-- `future.exception()` -/
def Outcome.exception : Outcome → Option Exn
  | .result => none
  | .raised exc | .unavailable exc => some exc
  | .shuttingDown => some (.switchOps .switchOps "SwitchOps is shutting down.")

def Outcome.ofRun : Except Exn Unit → Outcome
  | .ok _ => .result
  | .error exc => .raised exc

/-- A resolved future: the job, its outcome, and (a ghost) the stops called by then. -/
structure Settlement where
  job : Job
  outcome : Outcome
  stops : Nat
  deriving DecidableEq, Repr

/-! ## The worker -/

/-- What the worker shares with the other threads, with its connection. The last three fields are
ghosts: the futures resolved so far, the jobs begun so far, and the number of stops called. -/
structure Shared where
  queue : List Job := []
  stopping : Bool := false
  connection : Connection := {}
  clock : ℚ := 0
  settled : List Settlement := []
  begun : List Nat := []
  stops : Nat := 0
  deriving DecidableEq, Repr

/-- Where the worker is. -/
inductive WorkerPc
  /-- The thread object exists and has not been started. -/
  | created
  /-- At the test of the stop event. -/
  | looping
  /-- In `self._queue.get(timeout=1.0)`. -/
  | waiting
  /-- The queue was empty for the whole wait. -/
  | idle
  /-- A job has been taken out of the queue. -/
  | taken (job : Job)
  /-- At `_ensure_client`, for a job or for the idle keepalive. -/
  | ensuring (job : Option Job)
  /-- In `get_switch_client`, in an attempt begun at the time `since`. -/
  | attempting (job : Option Job) (since : ℚ)
  /-- In `job.run(client)`. -/
  | running (job : Job) (client : Client)
  /-- Past the loop, before `_close_client`. -/
  | closing
  /-- Emptying the queue. -/
  | draining
  | terminated
  deriving DecidableEq, Repr

structure Worker where
  pc : WorkerPc := .created
  lastActivity : ℚ := 0
  deriving DecidableEq, Repr

/-- What a step of the worker is, with what the world outside answers in it. -/
inductive WorkerStep
  | test
  | get
  | empty
  | keepalive (alive : Bool)
  | look
  | ensure (alive : Bool)
  | attempted (outcome : Except Exn Client)
  | finished (outcome : Except Exn Unit) (alive : Bool)
  | close
  | drain
  deriving DecidableEq, Repr

namespace Shared

/-- Resolve the future of a job. -/
def settle (sh : Shared) (job : Job) (outcome : Outcome) : Shared :=
  { sh with settled := ⟨job, outcome, sh.stops⟩ :: sh.settled }

/-- Whether the future of the job is done. -/
def done (sh : Shared) (job : Job) : Bool :=
  sh.settled.any fun settlement => settlement.job.sequence = job.sequence

end Shared

namespace Worker

/-- What follows `_ensure_client` without a client: a job fails, the keepalive goes on. -/
def withoutClient (w : Worker) (sh : Shared) : Option Job → Shared × Worker
  | some job =>
    (sh.settle job (.unavailable sh.connection.unavailableError), { w with pc := .looping })
  | none => (sh, { pc := .looping, lastActivity := sh.clock })

/-- What follows `_ensure_client` with a client: the job is run, the keepalive goes on. -/
def withClient (w : Worker) (sh : Shared) (client : Client) : Option Job → Shared × Worker
  | some job =>
    ({ sh with begun := job.sequence :: sh.begun }, { w with pc := .running job client })
  | none => (sh, { pc := .looping, lastActivity := sh.clock })

@[simp] theorem withClient_connection (w : Worker) (sh : Shared) (client : Client)
    (job? : Option Job) : (w.withClient sh client job?).1.connection = sh.connection := by
  cases job? <;> rfl

@[simp] theorem withoutClient_connection (w : Worker) (sh : Shared) (job? : Option Job) :
    (w.withoutClient sh job?).1.connection = sh.connection := by
  cases job? <;> rfl

@[simp] theorem withClient_clock (w : Worker) (sh : Shared) (client : Client)
    (job? : Option Job) : (w.withClient sh client job?).1.clock = sh.clock := by
  cases job? <;> rfl

@[simp] theorem withoutClient_clock (w : Worker) (sh : Shared) (job? : Option Job) :
    (w.withoutClient sh job?).1.clock = sh.clock := by
  cases job? <;> rfl

/-- One step of `_worker`. -/
def step (w : Worker) (sh : Shared) : WorkerStep → Option (Shared × Worker)
  | .test =>
    if w.pc = .looping then
      some (sh, { w with pc := if sh.stopping then .closing else .waiting })
    else none
  | .get =>
    if w.pc = .waiting then
      match Job.least sh.queue with
      | some job => some ({ sh with queue := sh.queue.erase job }, { w with pc := .taken job })
      | none => none
    else none
  | .empty =>
    if w.pc = .waiting ∧ sh.queue = [] then some (sh, { w with pc := .idle }) else none
  | .keepalive alive =>
    if w.pc = .idle then
      if sh.connection.client.isSome ∧
          sh.clock - w.lastActivity > Connection.idleKeepaliveSeconds then
        if alive then some (sh, { pc := .looping, lastActivity := sh.clock })
        else some (sh, { w with pc := .ensuring none })
      else some (sh, { w with pc := .looping })
    else none
  | .look =>
    match w.pc with
    | .taken job =>
      if job.kind = .shutdown then some (sh.settle job .result, { w with pc := .closing })
      else some (sh, { w with pc := .ensuring (some job) })
    | _ => none
  | .ensure alive =>
    match w.pc with
    | .ensuring job? =>
      let (connection, readiness) := sh.connection.beforeAttempt alive sh.clock
      let sh := { sh with connection := connection }
      match readiness with
      | .ready client => some (w.withClient sh client job?)
      | .unavailable => some (w.withoutClient sh job?)
      | .attempt => some (sh, { w with pc := .attempting job? sh.clock })
    | _ => none
  | .attempted outcome =>
    match w.pc with
    | .attempting job? since =>
      let sh := { sh with connection := sh.connection.afterAttempt since outcome }
      match outcome with
      | .ok client => some (w.withClient sh client job?)
      | .error _ => some (w.withoutClient sh job?)
    | _ => none
  | .finished outcome alive =>
    match w.pc with
    | .running job _ =>
      let connection := sh.connection.afterJob outcome alive
      some ({ sh with connection := connection }.settle job (.ofRun outcome),
        { pc := .looping, lastActivity := sh.clock })
    | _ => none
  | .close =>
    if w.pc = .closing then
      some ({ sh with connection := sh.connection.closeClient }, { w with pc := .draining })
    else none
  | .drain =>
    if w.pc = .draining then
      match Job.least sh.queue with
      | some job =>
        let sh := { sh with queue := sh.queue.erase job }
        some (if sh.done job then sh else sh.settle job .shuttingDown, w)
      | none => some (sh, { w with pc := .terminated })
    else none

/-- What the steps of the worker do, one constructor for each way through a step. -/
inductive Move (sh : Shared) (w : Worker) : WorkerStep → Shared → Worker → Prop
  | leave (here : w.pc = .looping) (stopping : sh.stopping = true) :
      Move sh w .test sh { w with pc := .closing }
  | wait (here : w.pc = .looping) (going : sh.stopping = false) :
      Move sh w .test sh { w with pc := .waiting }
  | get {job : Job} (here : w.pc = .waiting) (least : Job.least sh.queue = some job) :
      Move sh w .get { sh with queue := sh.queue.erase job } { w with pc := .taken job }
  | empty (here : w.pc = .waiting) (none : sh.queue = []) :
      Move sh w .empty sh { w with pc := .idle }
  | rest {alive : Bool} {lastActivity : ℚ} (here : w.pc = .idle) :
      Move sh w (.keepalive alive) sh { pc := .looping, lastActivity := lastActivity }
  | probe (here : w.pc = .idle) :
      Move sh w (.keepalive false) sh { w with pc := .ensuring none }
  | token {job : Job} (here : w.pc = .taken job) (kind : job.kind = .shutdown) :
      Move sh w .look (sh.settle job .result) { w with pc := .closing }
  | accept {job : Job} (here : w.pc = .taken job) (kind : job.kind ≠ .shutdown) :
      Move sh w .look sh { w with pc := .ensuring (some job) }
  | ready {job? : Option Job} {alive : Bool} {client : Client} {connection : Connection}
      (here : w.pc = .ensuring job?)
      (before : sh.connection.beforeAttempt alive sh.clock = (connection, .ready client)) :
      Move sh w (.ensure alive) (w.withClient { sh with connection := connection } client job?).1
        (w.withClient { sh with connection := connection } client job?).2
  | unavailable {job? : Option Job} {alive : Bool} {connection : Connection}
      (here : w.pc = .ensuring job?)
      (before : sh.connection.beforeAttempt alive sh.clock = (connection, .unavailable)) :
      Move sh w (.ensure alive) (w.withoutClient { sh with connection := connection } job?).1
        (w.withoutClient { sh with connection := connection } job?).2
  | attempt {job? : Option Job} {alive : Bool} {connection : Connection}
      (here : w.pc = .ensuring job?)
      (before : sh.connection.beforeAttempt alive sh.clock = (connection, .attempt)) :
      Move sh w (.ensure alive) { sh with connection := connection }
        { w with pc := .attempting job? sh.clock }
  | connected {job? : Option Job} {since : ℚ} {client : Client}
      (here : w.pc = .attempting job? since) :
      Move sh w (.attempted (.ok client))
        (w.withClient { sh with connection := sh.connection.afterAttempt since (.ok client) }
          client job?).1
        (w.withClient { sh with connection := sh.connection.afterAttempt since (.ok client) }
          client job?).2
  | failed {job? : Option Job} {since : ℚ} {exc : Exn} (here : w.pc = .attempting job? since) :
      Move sh w (.attempted (.error exc))
        (w.withoutClient { sh with connection := sh.connection.afterAttempt since (.error exc) }
          job?).1
        (w.withoutClient { sh with connection := sh.connection.afterAttempt since (.error exc) }
          job?).2
  | finished {job : Job} {client : Client} {outcome : Except Exn Unit} {alive : Bool}
      (here : w.pc = .running job client) :
      Move sh w (.finished outcome alive)
        ({ sh with connection := sh.connection.afterJob outcome alive }.settle job (.ofRun outcome))
        { pc := .looping, lastActivity := sh.clock }
  | close (here : w.pc = .closing) :
      Move sh w .close { sh with connection := sh.connection.closeClient }
        { w with pc := .draining }
  | skip {job : Job} (here : w.pc = .draining) (least : Job.least sh.queue = some job)
      (done : { sh with queue := sh.queue.erase job }.done job = true) :
      Move sh w .drain { sh with queue := sh.queue.erase job } w
  | drain {job : Job} (here : w.pc = .draining) (least : Job.least sh.queue = some job)
      (undone : { sh with queue := sh.queue.erase job }.done job = false) :
      Move sh w .drain ({ sh with queue := sh.queue.erase job }.settle job .shuttingDown) w
  | terminate (here : w.pc = .draining) (none : sh.queue = []) :
      Move sh w .drain sh { w with pc := .terminated }

theorem Move.of_eq {sh sh' : Shared} {w w' : Worker} {e : WorkerStep} {next : Shared × Worker}
    (h : next = (sh', w')) (move : Move sh w e next.1 next.2) : Move sh w e sh' w' := by
  subst h
  exact move

/-- Every step is one of these moves. -/
theorem move_of_step {sh sh' : Shared} {w w' : Worker} {e : WorkerStep}
    (h : w.step sh e = some (sh', w')) : Move sh w e sh' w' := by
  cases e with
  | test =>
    simp only [step] at h
    split at h
    · next here =>
      cases stopping : sh.stopping with
      | true => rw [stopping] at h; cases h; exact .leave here stopping
      | false => rw [stopping] at h; cases h; exact .wait here stopping
    · cases h
  | get =>
    simp only [step] at h
    split at h
    · next here =>
      split at h
      · next job least => cases h; exact .get here least
      · cases h
    · cases h
  | empty =>
    simp only [step] at h
    split at h
    · next here => cases h; exact .empty here.1 here.2
    · cases h
  | keepalive alive =>
    simp only [step] at h
    split at h
    · next here =>
      split at h
      · cases alive with
        | true => cases h; exact .rest here
        | false => cases h; exact .probe here
      · cases h; exact .rest here
    · cases h
  | look =>
    simp only [step] at h
    split at h
    · next job here =>
      by_cases kind : job.kind = .shutdown
      · rw [if_pos kind] at h; cases h; exact .token here kind
      · rw [if_neg kind] at h; cases h; exact .accept here kind
    · cases h
  | ensure alive =>
    simp only [step] at h
    split at h
    · next job? here =>
      cases before : sh.connection.beforeAttempt alive sh.clock with
      | mk connection readiness =>
        rw [before] at h
        cases readiness with
        | ready client => exact .of_eq (Option.some.inj h) (.ready here before)
        | unavailable => exact .of_eq (Option.some.inj h) (.unavailable here before)
        | attempt => exact .of_eq (Option.some.inj h) (.attempt here before)
    · cases h
  | attempted outcome =>
    simp only [step] at h
    split at h
    · next job? since here =>
      cases outcome with
      | ok client => exact .of_eq (Option.some.inj h) (.connected here)
      | error exc => exact .of_eq (Option.some.inj h) (.failed here)
    · cases h
  | finished outcome alive =>
    simp only [step] at h
    split at h
    · next job client here => cases h; exact .finished here
    · cases h
  | close =>
    simp only [step] at h
    split at h
    · next here => cases h; exact .close here
    · cases h
  | drain =>
    simp only [step] at h
    split at h
    · next here =>
      split at h
      · next job least =>
        by_cases done : { sh with queue := sh.queue.erase job }.done job = true
        · rw [if_pos done] at h; cases h; exact .skip here least done
        · rw [if_neg done] at h; cases h; exact .drain here least (by simpa using done)
      · next none => cases h; exact .terminate here (Job.least_eq_none.mp none)
    · cases h

/-- The worker only takes jobs out of the queue. -/
theorem Move.queue_sublist {sh sh' : Shared} {w w' : Worker} {e : WorkerStep}
    (move : Move sh w e sh' w') : sh'.queue.Sublist sh.queue := by
  cases move with
  | get here least => exact List.erase_sublist
  | skip here least done => exact List.erase_sublist
  | drain here least undone => exact List.erase_sublist
  | @ready job? => cases job? <;> exact .refl _
  | @unavailable job? => cases job? <;> exact .refl _
  | @connected job? => cases job? <;> exact .refl _
  | @failed job? => cases job? <;> exact .refl _
  | _ => exact .refl _

/-- The stop event and the number of stops are not the worker's. -/
theorem Move.stopping_eq {sh sh' : Shared} {w w' : Worker} {e : WorkerStep}
    (move : Move sh w e sh' w') : sh'.stopping = sh.stopping ∧ sh'.stops = sh.stops := by
  cases move with
  | @ready job? => cases job? <;> exact ⟨rfl, rfl⟩
  | @connected job? => cases job? <;> exact ⟨rfl, rfl⟩
  | @unavailable job? => cases job? <;> exact ⟨rfl, rfl⟩
  | @failed job? => cases job? <;> exact ⟨rfl, rfl⟩
  | _ => exact ⟨rfl, rfl⟩

end Worker

end SwitchOps

import SwitchOps.Session.Manager
import Mathlib.Data.Fintype.Basic
import Mathlib.Data.Fintype.Fin

/-!
# One worker at a time

`SingleWorker` says that no two worker loops are on the device. It holds in every run in which a
start decides to launch a worker only when none is alive and no other start is about to launch one
(`singleWorker_of_reaches`). The test of `start` establishes neither: another start may be between
the same test and its launch, and after a stop whose join ran out of time the manager has forgotten
a worker that is still alive, which the cleared stop event then keeps in its loop.
-/

namespace SwitchOps

open Machines

/-- The worker executes a job or uses the client. -/
def WorkerPc.onDevice : WorkerPc → Bool
  | .idle | .ensuring _ | .attempting _ _ | .running _ _ | .closing => true
  | _ => false

/-- The job that the worker runs. -/
def WorkerPc.runningJob : WorkerPc → Option Job
  | .running job _ => some job
  | _ => none

/-- A start has passed its test and has not launched its worker yet. -/
def CallerPc.launching : CallerPc → Bool
  | .startClear _ _ | .startCreate _ _ | .startLaunch _ _ => true
  | _ => false

namespace Manager

variable {ι : Type}

/-- No two worker loops are on the device. -/
def SingleWorker (s : Manager ι) : Prop :=
  ∀ w w', (s.workers w).pc.onDevice → (s.workers w').pc.onDevice → w = w'

/-- The caller is at a test of `start` that says there is no worker. -/
def decidesToLaunch (s : Manager ι) (c : ι) : Bool :=
  match s.callers c, s.thread with
  | .startRead _ _, none => true
  | .startAlive _ _, some t => !(s.workers t).pc.alive
  | _, _ => false

def NoWorkerAlive (s : Manager ι) : Prop := ∀ w < s.created, (s.workers w).pc.alive = false

def NoLaunch (s : Manager ι) : Prop := ∀ c, (s.callers c).launching = false

instance (s : Manager ι) : Decidable s.NoWorkerAlive :=
  inferInstanceAs (Decidable (∀ w < s.created, (s.workers w).pc.alive = false))

instance [Fintype ι] (s : Manager ι) : Decidable s.NoLaunch :=
  inferInstanceAs (Decidable (∀ c, (s.callers c).launching = false))

/-- A start decides to launch a worker only when there is none and none is about to be launched. -/
def LaunchesAlone (s : Manager ι) : ManagerAction ι → Prop
  | .caller c _ => s.decidesToLaunch c → s.NoWorkerAlive ∧ s.NoLaunch
  | _ => True

instance [Fintype ι] (s : Manager ι) : ∀ a, Decidable (s.LaunchesAlone a)
  | .caller c _ => inferInstanceAs (Decidable (s.decidesToLaunch c → s.NoWorkerAlive ∧ s.NoLaunch))
  | .call _ _ | .worker _ _ | .elapse _ => inferInstanceAs (Decidable True)

end Manager

/-! ## The invariant -/

/-- Only a live worker moves. -/
theorem Worker.Move.alive {sh sh' : Shared} {w w' : Worker} {e : WorkerStep}
    (move : Worker.Move sh w e sh' w') : w.pc.alive := by
  cases move <;> next here => simp_all [WorkerPc.alive]

theorem WorkerPc.alive_of_onDevice {pc : WorkerPc} (h : pc.onDevice) : pc.alive := by
  cases pc <;> simp_all [WorkerPc.onDevice, WorkerPc.alive]

/-- There is a live worker, or a start that is about to launch one, and not more than one of
these. -/
structure SoleWorker {ι : Type} (s : Manager ι) : Prop where
  alive : ∀ w w', (s.workers w).pc.alive → (s.workers w').pc.alive → w = w'
  launching : ∀ c c', (s.callers c).launching → (s.callers c').launching → c = c'
  apart : ∀ c w, (s.callers c).launching → (s.workers w).pc.alive → False
  created : ∀ w, (s.workers w).pc.alive → w < s.created
  thread : ∀ t, s.thread = some t → t < s.created

namespace SoleWorker

variable {ι : Type} {s t : Manager ι}

theorem single (h : SoleWorker s) : s.SingleWorker := by
  intro w w' hw hw'
  exact h.alive w w' (WorkerPc.alive_of_onDevice hw) (WorkerPc.alive_of_onDevice hw')

theorem initial : SoleWorker ({} : Manager ι) := by
  constructor <;> simp [WorkerPc.alive, CallerPc.launching]

/-- No worker comes to life and no start decides to launch one. -/
theorem mono (h : SoleWorker s) (created : s.created ≤ t.created)
    (alive : ∀ w, (t.workers w).pc.alive → (s.workers w).pc.alive)
    (launching : ∀ c, (t.callers c).launching → (s.callers c).launching)
    (thread : ∀ i, t.thread = some i → i < t.created) : SoleWorker t where
  alive w w' hw hw' := h.alive w w' (alive w hw) (alive w' hw')
  launching c c' hc hc' := h.launching c c' (launching c hc) (launching c' hc')
  apart c w hc hw := h.apart c w (launching c hc) (alive w hw)
  created w hw := (h.created w (alive w hw)).trans_le created
  thread := thread

/-- A start that is about to launch is alone when it decides to. -/
theorem decides [DecidableEq ι] {c : ι} {pc : CallerPc} (h : SoleWorker s) (noWorker : s.NoWorkerAlive)
    (noLaunch : s.NoLaunch) : SoleWorker (s.goto c pc) where
  alive := h.alive
  created := h.created
  thread := h.thread
  apart c' w _ hw := by
    have alive : (s.workers w).pc.alive := hw
    simp [noWorker w (h.created w alive)] at alive
  launching a b ha hb := by
    have only : ∀ x, ((s.goto c pc).callers x).launching → x = c := by
      intro x hx
      by_contra ne
      simp [Manager.goto, Function.update_of_ne ne, noLaunch x] at hx
    rw [only a ha, only b hb]

/-- The start launches its worker. -/
theorem launch [DecidableEq ι] {c : ι} {since : Nat} {next : Option Submission} {i : Nat}
    {lastActivity : ℚ} (h : SoleWorker s) (here : (s.callers c).launching)
    (thread : s.thread = some i) :
    SoleWorker ({ s with
      workers := Function.update s.workers i (.started lastActivity) }.returnFromStart
        c since next) := by
  have none : ∀ x, ((Function.update s.callers c (Manager.afterStart next)) x).launching = false := by
    intro x
    by_cases hx : x = c
    · subst hx
      cases next <;> simp [Manager.afterStart, CallerPc.launching]
    · rw [Function.update_of_ne hx]
      by_contra launching
      exact hx (h.launching x c (by simpa using launching) here)
  have only : ∀ w, ((Function.update s.workers i (.started lastActivity)) w).pc.alive → w = i := by
    intro w hw
    by_contra ne
    rw [Function.update_of_ne ne] at hw
    exact h.apart c w here hw
  constructor
  case alive =>
    intro w w' hw hw'
    rw [only w hw, only w' hw']
  case launching =>
    intro x y hx
    simp [Manager.returnFromStart, Manager.goto, none] at hx
  case apart =>
    intro x w hx
    simp [Manager.returnFromStart, Manager.goto, none] at hx
  case created =>
    intro w hw
    rw [only w hw]
    exact h.thread i thread
  case thread => exact h.thread

variable [DecidableEq ι] {c : ι}

/-- A caller that goes on without deciding to launch. -/
theorem launching_goto {pc : CallerPc} (h : pc.launching → (s.callers c).launching) (c' : ι)
    (hc : ((s.goto c pc).callers c').launching) : (s.callers c').launching := by
  by_cases same : c' = c
  · subst same
    exact h (by simpa [Manager.goto] using hc)
  · simpa [Manager.goto, Function.update_of_ne same] using hc

/-- A caller whose step touches neither the workers nor the handle. -/
theorem goto {pc : CallerPc} (h : SoleWorker s) (created : t.created = s.created)
    (workers : t.workers = s.workers) (thread : t.thread = s.thread) (callers : t.callers = s.callers)
    (launching : pc.launching → (s.callers c).launching) : SoleWorker (t.goto c pc) := by
  refine h.mono (by simp [Manager.goto, created]) ?_ ?_ ?_
  · intro w hw
    rw [← workers]
    exact hw
  · intro c' hc
    rw [← callers] at launching ⊢
    exact launching_goto launching c' hc
  · intro i hi
    have hi' : s.thread = some i := thread ▸ hi
    simpa [Manager.goto, created] using h.thread i hi'

theorem caller (h : SoleWorker s) {expired : Bool} (alone : s.LaunchesAlone (.caller c expired))
    (move : s.Move c t) : SoleWorker t := by
  cases move with
  | found here thread => exact h.goto rfl rfl rfl rfl (by simp [CallerPc.launching])
  | unset here thread =>
    have ok := alone (by simp [Manager.decidesToLaunch, here, thread])
    exact h.decides ok.1 ok.2
  | dead here thread dead =>
    have ok := alone (by simp [Manager.decidesToLaunch, here, thread, dead])
    exact h.decides ok.1 ok.2
  | @already since next _ here thread alive =>
    refine h.goto rfl rfl rfl rfl ?_
    cases next <;> simp [Manager.afterStart, CallerPc.launching]
  | clear here => exact h.goto rfl rfl rfl rfl (by simp [CallerPc.launching, here])
  | create here =>
    refine h.mono (Nat.le_succ _) ?_ (launching_goto (by simp [CallerPc.launching, here])) ?_
    · intro w hw
      by_cases new : w = s.created
      · subst new
        simp [Manager.goto, WorkerPc.alive] at hw
      · simpa [Manager.goto, Function.update_of_ne new] using hw
    · intro i hi
      obtain rfl : s.created = i := by simpa [Manager.goto] using hi
      exact Nat.lt_succ_self _
  | launch here thread fresh => exact h.launch (by simp [CallerPc.launching, here]) thread
  | raise here => exact h.goto rfl rfl rfl rfl (by simp [CallerPc.launching])
  | stopSet here => exact h.goto rfl rfl rfl rfl (by simp [CallerPc.launching])
  | stopNumber here => exact h.goto rfl rfl rfl rfl (by simp [CallerPc.launching])
  | stopPut here => exact h.goto rfl rfl rfl rfl (by simp [CallerPc.launching])
  | stopGiveUp here => exact h.goto rfl rfl rfl rfl (by simp [CallerPc.launching])
  | stopJoin here => exact h.goto rfl rfl rfl rfl (by simp [CallerPc.launching])
  | stopJoined here => exact h.goto rfl rfl rfl rfl (by simp [CallerPc.launching])
  | stopForget here =>
    refine h.mono (le_refl _) (fun _ hw => hw) (launching_goto (by simp [CallerPc.launching])) ?_
    simp [Manager.goto]
  | skip here => exact h.goto rfl rfl rfl rfl (by simp [CallerPc.launching])
  | check here absent => exact h.goto rfl rfl rfl rfl (by simp [CallerPc.launching])
  | refuse here stopping => exact h.goto rfl rfl rfl rfl (by simp [CallerPc.launching])
  | accept here going => exact h.goto rfl rfl rfl rfl (by simp [CallerPc.launching])
  | number here => exact h.goto rfl rfl rfl rfl (by simp [CallerPc.launching])
  | put here => exact h.goto rfl rfl rfl rfl (by simp [CallerPc.launching])

theorem step (h : SoleWorker s) {collector : ι} {a : ManagerAction ι} (alone : s.LaunchesAlone a)
    (taken : s.step collector a = some t) : SoleWorker t := by
  cases a with
  | call c call =>
    simp only [Manager.step] at taken
    split at taken
    · cases taken
      refine h.goto rfl rfl rfl rfl ?_
      cases call <;> simp [Manager.enter, CallerPc.launching]
    · cases taken
  | caller c expired => exact h.caller alone (Manager.move_of_callerStep taken)
  | worker w e =>
    obtain ⟨⟨sh, w'⟩, moved, rfl⟩ := Option.map_eq_some_iff.mp taken
    have was : (s.workers w).pc.alive := (Worker.move_of_step moved).alive
    refine h.mono (le_refl _) ?_ (fun _ hc => hc) h.thread
    intro i hi
    by_cases same : i = w
    · rw [same]
      exact was
    · simpa [Function.update_of_ne same] using hi
  | elapse seconds =>
    simp only [Manager.step] at taken
    split at taken
    · cases taken
      exact h.mono (le_refl _) (fun _ hw => hw) (fun _ hc => hc) h.thread
    · cases taken

end SoleWorker

/-! ## One worker along runs -/

/-- However starts, stops, submissions and workers interleave, no two worker loops are on the
device, as long as a start decides to launch one only when it is alone. -/
theorem singleWorker_of_reaches {ι : Type} [DecidableEq ι] {collector : ι} {s : Manager ι}
    (run : Reaches (Manager.step collector) Manager.LaunchesAlone {} s) : s.SingleWorker := by
  have inv : SoleWorker s :=
    run.invariant SoleWorker.initial fun _ _ _ h alone taken => h.step alone taken
  exact inv.single

/-- A caller takes `n` steps. -/
def callerSteps {ι : Type} (c : ι) (n : Nat) : List (ManagerAction ι) :=
  List.replicate n (.caller c false)

/-- The worker takes a job, has a client for it and runs it. -/
def runsJob {ι : Type} (w : Nat) : List (ManagerAction ι) :=
  [.worker w .test, .worker w .get, .worker w .look, .worker w (.ensure true)]

/-- The worker takes a job, connects and runs it. -/
def connectsAndRunsJob {ι : Type} (w : Nat) : List (ManagerAction ι) :=
  [.worker w .test, .worker w .get, .worker w .look, .worker w (.ensure false),
    .worker w (.attempted (.ok ⟨"10.0.0.2"⟩))]

/-- The worker sees the stop event, closes the client and empties the queue of the token. -/
def shutsDown {ι : Type} (w : Nat) : List (ManagerAction ι) :=
  [.worker w .test, .worker w .close, .worker w .drain, .worker w .drain]

def dashboardCall : Call := .runOnDevice "dashboard" .diagnostic

def changeCall : Call := .runOnDevice "change-admin_down" .transaction

/-- A request is served, the session is stopped, and the next request starts it again. -/
def stopAndStart : List (ManagerAction (Fin 2)) :=
  [.call 0 dashboardCall] ++ callerSteps 0 7 ++ connectsAndRunsJob 0 ++
  [.worker 0 (.finished (.ok ()) true)] ++
  [.call 1 .stop] ++ callerSteps 1 3 ++ shutsDown 0 ++ callerSteps 1 3 ++
  [.call 0 dashboardCall] ++ callerSteps 0 7 ++ connectsAndRunsJob 1

theorem singleWorker_of_reaches_stopAndStart :
    ∃ s : Manager (Fin 2), s.SingleWorker ∧ s.created = 2 ∧ (s.workers 0).pc = .terminated ∧
      (s.workers 1).pc.onDevice := by
  obtain ⟨s, run, last⟩ := exists_reaches_of_run_guarded (Manager.step (0 : Fin 2))
    Manager.LaunchesAlone {} stopAndStart (fun s => s.created = 2 ∧
      (s.workers 0).pc = .terminated ∧ (s.workers 1).pc.onDevice) (by decide +kernel)
  exact ⟨s, singleWorker_of_reaches run, of_decide_eq_true last⟩

/-- Two requests start the session at once: both find no worker. -/
def startTwice : List (ManagerAction (Fin 2)) :=
  [.call 0 dashboardCall, .call 1 changeCall, .caller 0 false, .caller 1 false] ++
  callerSteps 0 6 ++ callerSteps 1 6 ++ connectsAndRunsJob 0 ++ runsJob 1

/-- The session is stopped during a job, the join runs out of time, and the next request clears
the stop event that the worker has not seen yet. -/
def startAfterTimeout : List (ManagerAction (Fin 2)) :=
  [.call 0 dashboardCall] ++ callerSteps 0 7 ++ connectsAndRunsJob 0 ++
  [.call 0 (.submit "change-admin_down" .transaction)] ++ callerSteps 0 3 ++
  [.call 1 .stop] ++ callerSteps 1 4 ++ [.caller 1 true] ++ callerSteps 1 1 ++
  [.call 1 .start] ++ callerSteps 1 4 ++ runsJob 1

/-- Both ways lead to two workers that each run a job. -/
theorem not_singleWorker :
    (∃ s : Manager (Fin 2), Reaches (Manager.step 0) Always {} s ∧ s.shared.stops = 0 ∧
      ((s.workers 0).pc.runningJob.isSome ∧ (s.workers 1).pc.runningJob.isSome) ∧
      ¬ s.SingleWorker) ∧
    ∃ s : Manager (Fin 2), Reaches (Manager.step 0) Always {} s ∧ s.shared.stops = 1 ∧
      ((s.workers 0).pc.runningJob.isSome ∧ (s.workers 1).pc.runningJob.isSome) ∧
      ¬ s.SingleWorker := by
  have overlap : ∀ s : Manager (Fin 2),
      (s.workers 0).pc.runningJob.isSome ∧ (s.workers 1).pc.runningJob.isSome → ¬ s.SingleWorker := by
    intro s both single
    have onDevice : ∀ pc : WorkerPc, pc.runningJob.isSome → pc.onDevice := by
      intro pc h
      cases pc <;> simp_all [WorkerPc.runningJob, WorkerPc.onDevice]
    have := single 0 1 (onDevice _ both.1) (onDevice _ both.2)
    simp at this
  constructor
  · obtain ⟨s, run, last⟩ := exists_reaches_of_run (Manager.step (0 : Fin 2)) {} startTwice
      (fun s => s.shared.stops = 0 ∧
        (s.workers 0).pc.runningJob.isSome ∧ (s.workers 1).pc.runningJob.isSome)
      (by decide +kernel)
    obtain ⟨stops, both⟩ := of_decide_eq_true last
    exact ⟨s, run, stops, both, overlap s both⟩
  · obtain ⟨s, run, last⟩ := exists_reaches_of_run (Manager.step (0 : Fin 2)) {} startAfterTimeout
      (fun s => s.shared.stops = 1 ∧
        (s.workers 0).pc.runningJob.isSome ∧ (s.workers 1).pc.runningJob.isSome)
      (by decide +kernel)
    obtain ⟨stops, both⟩ := of_decide_eq_true last
    exact ⟨s, run, stops, both, overlap s both⟩

end SwitchOps

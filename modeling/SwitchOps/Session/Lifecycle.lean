import SwitchOps.Session.Traffic

/-!
# Starts and stops that do not get in each other's way

`ServesCalls` says of each step of a start, a stop or a submission in which state it is harmless.
In the runs of harmless steps the stop event, the token of `stop` and the worker agree with each
other: a token is queued, or a worker is leaving its loop, only while the stop event is set
(`Lifecycle`), and while it is clear a worker is there or about to be (`Awake`).
-/

namespace SwitchOps

open Machines Placement

/-- In `stop`, after the stop event has been set. -/
def CallerPc.inStop : CallerPc → Bool
  | .stopNumber | .stopPut _ | .stopRead | .stopJoin _ | .stopForget => true
  | _ => false

/-- In `start`, after the stop event has been cleared. -/
def CallerPc.cleared : CallerPc → Bool
  | .startCreate _ _ | .startLaunch _ _ => true
  | _ => false

/-- At the put of `submit`. -/
def CallerPc.puts : CallerPc → Bool
  | .submitPut _ => true
  | _ => false

/-- The kind of the job that the caller is going to submit. -/
def CallerPc.submits : CallerPc → Option JobKind
  | .check submission | .submitTest submission | .submitNumber submission _ =>
    some submission.kind
  | .submitPut job => some job.kind
  | .startRead _ next | .startAlive _ next | .startClear _ next | .startCreate _ next
  | .startLaunch _ next => next.map Submission.kind
  | _ => none

/-- The worker has the token, or has left its loop. -/
def WorkerPc.ending : WorkerPc → Bool
  | .taken job => job.kind = .shutdown
  | .closing | .draining => true
  | _ => false

namespace Manager

variable {ι : Type}

def NoStop (s : Manager ι) : Prop := ∀ c, (s.callers c).inStop = false

def NoToken (s : Manager ι) : Prop := ∀ job ∈ s.shared.queue, job.kind ≠ .shutdown

instance [Fintype ι] (s : Manager ι) : Decidable s.NoStop :=
  inferInstanceAs (Decidable (∀ c, (s.callers c).inStop = false))

instance (s : Manager ι) : Decidable s.NoToken :=
  inferInstanceAs (Decidable (∀ job ∈ s.shared.queue, job.kind ≠ .shutdown))

/-- The caller is at a test of `start` that says there is a worker. -/
def returnsEarly (s : Manager ι) (c : ι) : Option Nat :=
  match s.callers c, s.thread with
  | .startAlive since _, some t => if (s.workers t).pc.alive then some since else none
  | _, _ => none

/-- The harmless steps. A start decides to launch a worker while none is alive or about to be
launched, no stop is under way and no token waits for the worker; it finds a worker only while
that is not being stopped, or was after the start was called; a stop is called while no start is
about to launch a worker; and a job is put while a worker is there to see it, or will be. -/
def ServesCalls (s : Manager ι) : ManagerAction ι → Prop
  | .caller c _ =>
    (s.decidesToLaunch c → s.NoWorkerAlive ∧ s.NoLaunch ∧ s.NoStop ∧ s.NoToken) ∧
    (s.returnsEarly c = some s.shared.stops → s.shared.stopping = false) ∧
    (s.callers c = .stopSet → s.NoLaunch) ∧
    ((s.callers c).puts → s.shared.stopping = true → ¬ s.NoWorkerAlive)
  | _ => True

instance [Fintype ι] (s : Manager ι) : ∀ a, Decidable (s.ServesCalls a)
  | .caller c _ => inferInstanceAs (Decidable (
      (s.decidesToLaunch c → s.NoWorkerAlive ∧ s.NoLaunch ∧ s.NoStop ∧ s.NoToken) ∧
      (s.returnsEarly c = some s.shared.stops → s.shared.stopping = false) ∧
      (s.callers c = .stopSet → s.NoLaunch) ∧
      ((s.callers c).puts → s.shared.stopping = true → ¬ s.NoWorkerAlive)))
  | .call _ _ | .worker _ _ | .elapse _ => inferInstanceAs (Decidable True)

theorem ServesCalls.launchesAlone {s : Manager ι} {a : ManagerAction ι} (h : s.ServesCalls a) :
    s.LaunchesAlone a := by
  cases a with
  | caller c expired =>
    intro decides
    exact ⟨(h.1 decides).1, (h.1 decides).2.1⟩
  | _ => trivial

end Manager

/-! ## The stop event and the token -/

theorem WorkerPc.alive_of_ending {pc : WorkerPc} (h : pc.ending) : pc.alive := by
  cases pc <;> simp_all [WorkerPc.ending, WorkerPc.alive]

theorem CallerPc.launching_of_cleared {pc : CallerPc} (h : pc.cleared) : pc.launching := by
  cases pc <;> simp_all [CallerPc.cleared, CallerPc.launching]

/-- The worker leaves its loop because of the stop event or of a token. -/
theorem Worker.Move.ending {sh sh' : Shared} {w w' : Worker} {e : WorkerStep}
    (move : Worker.Move sh w e sh' w') (h : w'.pc.ending) :
    w.pc.ending ∨ sh.stopping = true ∨ ∃ job ∈ sh.queue, job.kind = .shutdown := by
  cases move with
  | leave here stopping => exact .inr (.inl stopping)
  | @get job here least =>
    exact .inr (.inr ⟨job, Job.mem_of_least least, by simpa [WorkerPc.ending] using h⟩)
  | token here kind => exact .inl (by simp [here, WorkerPc.ending, kind])
  | close here => exact .inl (by simp [here, WorkerPc.ending])
  | skip here => exact .inl (by simp [here, WorkerPc.ending])
  | drain here => exact .inl (by simp [here, WorkerPc.ending])
  | @ready job? => cases job? <;> simp [Worker.withClient, WorkerPc.ending] at h
  | @connected job? => cases job? <;> simp [Worker.withClient, WorkerPc.ending] at h
  | @unavailable job? => cases job? <;> simp [Worker.withoutClient, WorkerPc.ending] at h
  | @failed job? => cases job? <;> simp [Worker.withoutClient, WorkerPc.ending] at h
  | _ => simp [WorkerPc.ending] at h

structure Lifecycle {ι : Type} (s : Manager ι) : Prop where
  launch_stop : ∀ c c', (s.callers c).launching → (s.callers c').inStop → False
  launch_token : ∀ c, (s.callers c).launching → s.NoToken
  cleared : ∀ c, (s.callers c).cleared → s.shared.stopping = false
  stop_set : ∀ c, (s.callers c).inStop → s.shared.stopping = true
  token_set : ∀ job ∈ s.shared.queue, job.kind = .shutdown → s.shared.stopping = true
  ending_set : ∀ w, (s.workers w).pc.ending → s.shared.stopping = true
  calm_clear : s.calm → s.shared.stopping = false
  submits : ∀ c, (s.callers c).submits ≠ some .shutdown

namespace Lifecycle

variable {ι : Type} {s t : Manager ι}

theorem initial : Lifecycle ({} : Manager ι) := by
  constructor <;> simp [CallerPc.launching, CallerPc.inStop, CallerPc.cleared, CallerPc.submits,
    WorkerPc.ending]

/-- A step that sets no stop event, and brings no new caller, token or leaving worker. -/
theorem mono (h : Lifecycle s) (stopping : t.shared.stopping = s.shared.stopping)
    (queue : t.shared.queue.Sublist s.shared.queue)
    (ending : ∀ w, (t.workers w).pc.ending → s.shared.stopping = true)
    (calm : t.calm → s.shared.stopping = false)
    (launching : ∀ c, (t.callers c).launching → (s.callers c).launching)
    (inStop : ∀ c, (t.callers c).inStop → (s.callers c).inStop)
    (cleared : ∀ c, (t.callers c).cleared → s.shared.stopping = false)
    (submits : ∀ c, (t.callers c).submits ≠ some .shutdown) : Lifecycle t where
  launch_stop c c' hc hc' := h.launch_stop c c' (launching c hc) (inStop c' hc')
  launch_token c hc job mem := h.launch_token c (launching c hc) job (queue.subset mem)
  cleared c hc := by rw [stopping]; exact cleared c hc
  stop_set c hc := by rw [stopping]; exact h.stop_set c (inStop c hc)
  token_set job mem kind := by rw [stopping]; exact h.token_set job (queue.subset mem) kind
  ending_set w hw := by rw [stopping]; exact ending w hw
  calm_clear := by rw [stopping]; exact calm
  submits := submits

variable [DecidableEq ι] {c : ι}

/-- What holds of the caller that moves and of every other one holds of all. -/
theorem forall_goto {pc : CallerPc} {P : ι → CallerPc → Prop} (self : P c pc)
    (others : ∀ c', c' ≠ c → P c' (t.callers c')) (c' : ι) : P c' ((t.goto c pc).callers c') := by
  by_cases same : c' = c
  · subst same
    simpa [Manager.goto] using self
  · simpa [Manager.goto, Function.update_of_ne same] using others c' same

/-- A caller goes on. -/
theorem goto {pc : CallerPc} (h : Lifecycle s) (shared : t.shared = s.shared)
    (callers : t.callers = s.callers)
    (ending : ∀ w, (t.workers w).pc.ending → (s.workers w).pc.ending)
    (calm : t.calm → s.shared.stopping = false)
    (launching : pc.launching → (s.callers c).launching)
    (inStop : pc.inStop → (s.callers c).inStop)
    (cleared : pc.cleared → s.shared.stopping = false)
    (submits : pc.submits ≠ some .shutdown) : Lifecycle (t.goto c pc) := by
  refine h.mono (by simp [Manager.goto, shared]) (by simp [Manager.goto, shared]) ?_ calm ?_ ?_ ?_ ?_
  · exact fun w hw => h.ending_set w (ending w hw)
  · refine forall_goto (P := fun c' pc => pc.launching → (s.callers c').launching) launching ?_
    exact fun c' _ hc' => callers ▸ hc'
  · refine forall_goto (P := fun c' pc => pc.inStop → (s.callers c').inStop) inStop ?_
    exact fun c' _ hc' => callers ▸ hc'
  · refine forall_goto (P := fun _ pc => pc.cleared → s.shared.stopping = false) cleared ?_
    exact fun c' _ hc' => h.cleared c' (callers ▸ hc')
  · refine forall_goto (P := fun _ pc => pc.submits ≠ some .shutdown) submits ?_
    exact fun c' _ => callers ▸ h.submits c'

/-- A start decides to launch a worker. -/
theorem decides {since : Nat} {next : Option Submission} (h : Lifecycle s) (noStop : s.NoStop)
    (noToken : s.NoToken) (submits : next.map Submission.kind ≠ some .shutdown) :
    Lifecycle (s.goto c (.startClear since next)) where
  launch_stop a b _ := by
    revert b
    refine forall_goto (P := fun _ pc => pc.inStop = true → False) (by simp [CallerPc.inStop]) ?_
    intro c' _ hc'
    simp [noStop c'] at hc'
  launch_token _ _ := noToken
  cleared := forall_goto (P := fun _ pc => pc.cleared → s.shared.stopping = false)
    (by simp [CallerPc.cleared]) fun c' _ => h.cleared c'
  stop_set := forall_goto (P := fun _ pc => pc.inStop → s.shared.stopping = true)
    (by simp [CallerPc.inStop]) fun c' _ => h.stop_set c'
  token_set := h.token_set
  ending_set := h.ending_set
  calm_clear := h.calm_clear
  submits := forall_goto (P := fun _ pc => pc.submits ≠ some .shutdown) submits
    fun c' _ => h.submits c'

/-- A start clears the stop event, where it is about to launch the only worker. -/
theorem clear {since : Nat} {next : Option Submission} (h : Lifecycle s) (sole : SoleWorker s)
    (here : s.callers c = .startClear since next) :
    Lifecycle ({ s with shared := { s.shared with stopping := false } }.goto c
      (.startCreate since next)) := by
  have launching : (s.callers c).launching := by rw [here]; rfl
  have noToken : s.NoToken := h.launch_token c launching
  have noStop : ∀ c', (s.callers c').inStop = false := by
    intro c'
    by_contra inStop
    exact h.launch_stop c c' launching (by simpa using inStop)
  constructor
  case launch_stop =>
    intro a b _
    revert b
    refine forall_goto (P := fun _ pc => pc.inStop = true → False) (by simp [CallerPc.inStop]) ?_
    intro c' _ hc'
    simp [noStop c'] at hc'
  case launch_token => exact fun _ _ => noToken
  case cleared => exact fun _ _ => rfl
  case stop_set =>
    refine forall_goto (P := fun _ pc => pc.inStop → false = true) (by simp [CallerPc.inStop]) ?_
    intro c' _ hc'
    simp [noStop c'] at hc'
  case token_set => exact fun job mem kind => absurd kind (noToken job mem)
  case ending_set =>
    intro w hw
    exact (sole.apart c w launching (WorkerPc.alive_of_ending hw)).elim
  case calm_clear => exact fun _ => rfl
  case submits =>
    have old := h.submits c
    rw [here] at old
    exact forall_goto (P := fun _ pc => pc.submits ≠ some .shutdown) old fun c' _ => h.submits c'

/-- A stop sets the stop event, where no start is about to launch a worker. -/
theorem stopSet (h : Lifecycle s) (noLaunch : s.NoLaunch) (callers : t.callers = s.callers)
    (stopping : t.shared.stopping = true) (calm : t.calm = false) :
    Lifecycle (t.goto c .stopNumber) := by
  have none : ∀ c', ¬ ((t.goto c .stopNumber).callers c').launching := by
    refine forall_goto (P := fun _ pc => ¬ pc.launching) (by simp [CallerPc.launching]) ?_
    exact fun c' _ => by simp [callers, noLaunch c']
  constructor
  case launch_stop => exact fun a _ ha => absurd ha (none a)
  case launch_token => exact fun a ha => absurd ha (none a)
  case cleared => exact fun a ha => absurd (CallerPc.launching_of_cleared ha) (none a)
  case stop_set => exact fun _ _ => stopping
  case token_set => exact fun _ _ _ => stopping
  case ending_set => exact fun _ _ => stopping
  case calm_clear => simp [Manager.goto, calm]
  case submits =>
    refine forall_goto (P := fun _ pc => pc.submits ≠ some .shutdown) (by simp [CallerPc.submits]) ?_
    exact fun c' _ => callers ▸ h.submits c'

/-- A caller puts a job, which is a token only if a stop puts it. -/
theorem put {pc : CallerPc} {job : Job} (h : Lifecycle s)
    (queue : t.shared = { s.shared with queue := s.shared.queue ++ [job] })
    (workers : t.workers = s.workers) (callers : t.callers = s.callers) (calm : t.calm = s.calm)
    (token : job.kind = .shutdown → (s.callers c).inStop) (launching : pc.launching = false)
    (inStop : pc.inStop → (s.callers c).inStop) (cleared : pc.cleared = false)
    (submits : pc.submits = none) : Lifecycle (t.goto c pc) := by
  have stopping : (t.goto c pc).shared.stopping = s.shared.stopping := by
    simp [Manager.goto, queue]
  have launching' : ∀ c', ((t.goto c pc).callers c').launching → (s.callers c').launching := by
    refine forall_goto (P := fun c' pc => pc.launching → (s.callers c').launching)
      (by simp [launching]) ?_
    exact fun c' _ hc' => callers ▸ hc'
  have inStop' : ∀ c', ((t.goto c pc).callers c').inStop → (s.callers c').inStop := by
    refine forall_goto (P := fun c' pc => pc.inStop → (s.callers c').inStop) inStop ?_
    exact fun c' _ hc' => callers ▸ hc'
  have mem_queue : ∀ other, other ∈ (t.goto c pc).shared.queue →
      other ∈ s.shared.queue ∨ other = job := by
    intro other mem
    simpa [Manager.goto, queue] using mem
  constructor
  case launch_stop => exact fun a b ha hb => h.launch_stop a b (launching' a ha) (inStop' b hb)
  case launch_token =>
    intro a ha other mem kind
    obtain old | rfl := mem_queue other mem
    · exact h.launch_token a (launching' a ha) other old kind
    · exact h.launch_stop a c (launching' a ha) (token kind)
  case cleared =>
    rw [stopping]
    refine forall_goto (P := fun _ pc => pc.cleared → s.shared.stopping = false)
      (by simp [cleared]) ?_
    exact fun c' _ hc' => h.cleared c' (callers ▸ hc')
  case stop_set =>
    intro a ha
    rw [stopping]
    exact h.stop_set a (inStop' a ha)
  case token_set =>
    intro other mem kind
    rw [stopping]
    obtain old | rfl := mem_queue other mem
    · exact h.token_set other old kind
    · exact h.stop_set c (token kind)
  case ending_set =>
    intro w hw
    rw [stopping]
    exact h.ending_set w (by simpa [Manager.goto, workers] using hw)
  case calm_clear =>
    rw [stopping]
    exact fun isCalm => h.calm_clear (by simpa [Manager.goto, calm] using isCalm)
  case submits =>
    refine forall_goto (P := fun _ pc => pc.submits ≠ some .shutdown) (by simp [submits]) ?_
    exact fun c' _ => callers ▸ h.submits c'

theorem submits_afterStart {next : Option Submission}
    (h : next.map Submission.kind ≠ some .shutdown) :
    (Manager.afterStart next).submits ≠ some .shutdown := by
  cases next with
  | none => simp [Manager.afterStart, CallerPc.submits]
  | some submission => simpa [Manager.afterStart, CallerPc.submits] using h

/-- A caller goes on, and only the caller. -/
theorem goOn {pc : CallerPc} (h : Lifecycle s) (launching : pc.launching → (s.callers c).launching)
    (inStop : pc.inStop → (s.callers c).inStop) (cleared : pc.cleared → s.shared.stopping = false)
    (submits : pc.submits ≠ some .shutdown) : Lifecycle (s.goto c pc) :=
  h.goto rfl rfl (fun _ hw => hw) h.calm_clear launching inStop cleared submits

theorem caller (h : Lifecycle s) (sole : SoleWorker s) {expired : Bool}
    (serves : s.ServesCalls (.caller c expired)) (move : s.Move c t) : Lifecycle t := by
  have submits := h.submits c
  have cleared := h.cleared c
  cases move with
  | found here thread =>
    rw [here] at submits
    exact h.goOn (by simp [CallerPc.launching]) (by simp [CallerPc.inStop])
      (by simp [CallerPc.cleared]) submits
  | unset here thread =>
    rw [here] at submits
    have ok := serves.1 (by simp [Manager.decidesToLaunch, here, thread])
    exact h.decides ok.2.2.1 ok.2.2.2 submits
  | dead here thread dead =>
    rw [here] at submits
    have ok := serves.1 (by simp [Manager.decidesToLaunch, here, thread, dead])
    exact h.decides ok.2.2.1 ok.2.2.2 submits
  | @already since next i here thread alive =>
    rw [here] at submits
    have early : s.returnsEarly c = some since := by
      simp [Manager.returnsEarly, here, thread, alive]
    refine h.goto rfl rfl (fun _ hw => hw) ?_ ?_ ?_ ?_ (submits_afterStart submits)
    · intro calm
      have calm' : s.calm = true ∨ since = s.shared.stops := by
        simpa [Manager.goto] using calm
      obtain calm' | now := calm'
      · exact h.calm_clear calm'
      · exact serves.2.1 (now ▸ early)
    · cases next <;> simp [Manager.afterStart, CallerPc.launching]
    · cases next <;> simp [Manager.afterStart, CallerPc.inStop]
    · cases next <;> simp [Manager.afterStart, CallerPc.cleared]
  | clear here => exact h.clear sole here
  | create here =>
    rw [here] at submits
    have launching : (s.callers c).launching := by rw [here]; rfl
    refine h.goto rfl rfl ?_ h.calm_clear (fun _ => launching) (by simp [CallerPc.inStop])
      (fun _ => cleared (by rw [here]; rfl)) submits
    intro w hw
    by_cases new : w = s.created
    · simp [new, WorkerPc.ending] at hw
    · simpa [Function.update_of_ne new] using hw
  | @launch since next i _ here thread fresh =>
    rw [here] at submits
    have clear : s.shared.stopping = false := cleared (by rw [here]; rfl)
    refine h.goto rfl rfl ?_ (fun _ => clear) ?_ ?_ (fun _ => clear) (submits_afterStart submits)
    · intro w hw
      by_cases new : w = i
      · simp [new, Worker.started, WorkerPc.ending] at hw
      · simpa [Function.update_of_ne new] using hw
    · cases next <;> simp [Manager.afterStart, CallerPc.launching]
    · cases next <;> simp [Manager.afterStart, CallerPc.inStop]
  | stopSet here => exact h.stopSet (serves.2.2.1 here) rfl rfl rfl
  | stopNumber here =>
    exact h.goto rfl rfl (fun _ hw => hw) h.calm_clear (by simp [CallerPc.launching])
      (by simp [here, CallerPc.inStop]) (by simp [CallerPc.cleared]) (by simp [CallerPc.submits])
  | stopPut here =>
    exact h.put rfl rfl rfl rfl (fun _ => by rw [here]; rfl) rfl (by simp [here, CallerPc.inStop])
      rfl rfl
  | put here =>
    rw [here] at submits
    refine h.put rfl rfl rfl rfl ?_ rfl (by simp [CallerPc.inStop]) rfl rfl
    exact fun kind => absurd (by rw [CallerPc.submits, kind]) submits
  | stopForget here =>
    exact h.goto rfl rfl (fun _ hw => hw) h.calm_clear (by simp [CallerPc.launching])
      (by simp [CallerPc.inStop]) (by simp [CallerPc.cleared]) (by simp [CallerPc.submits])
  | refuse here =>
    exact h.goto rfl rfl (fun _ hw => hw) h.calm_clear (by simp [CallerPc.launching])
      (by simp [CallerPc.inStop]) (by simp [CallerPc.cleared]) (by simp [CallerPc.submits])
  | number here =>
    rw [here] at submits
    exact h.goto rfl rfl (fun _ hw => hw) h.calm_clear (by simp [CallerPc.launching])
      (by simp [CallerPc.inStop]) (by simp [CallerPc.cleared]) submits
  | check here | accept here =>
    rw [here] at submits
    exact h.goOn (by simp [CallerPc.launching]) (by simp [CallerPc.inStop])
      (by simp [CallerPc.cleared]) submits
  | stopJoin here =>
    exact h.goOn (by simp [CallerPc.launching]) (by simp [here, CallerPc.inStop])
      (by simp [CallerPc.cleared]) (by simp [CallerPc.submits])
  | stopJoined here =>
    refine h.goOn (by simp [CallerPc.launching]) ?_ (by simp [CallerPc.cleared])
      (by simp [CallerPc.submits])
    obtain here | ⟨_, here⟩ := here <;> simp [here, CallerPc.inStop]
  | raise here | stopGiveUp here | skip here =>
    exact h.goOn (by simp [CallerPc.launching]) (by simp [CallerPc.inStop])
      (by simp [CallerPc.cleared]) (by simp [CallerPc.submits])

theorem step (h : Lifecycle s) (sole : SoleWorker s) {collector : ι} {a : ManagerAction ι}
    (serves : s.ServesCalls a) (taken : s.step collector a = some t) : Lifecycle t := by
  cases a with
  | call c call =>
    simp only [Manager.step] at taken
    split at taken
    · cases taken
      refine h.goOn ?_ ?_ ?_ ?_
      · cases call <;> simp [Manager.enter, CallerPc.launching]
      · cases call <;> simp [Manager.enter, CallerPc.inStop]
      · cases call <;> simp [Manager.enter, CallerPc.cleared]
      · cases call with
        | collect tier => cases tier <;> simp [Manager.enter, CallerPc.submits, Tier.submission]
        | _ => simp [Manager.enter, CallerPc.submits]
    · cases taken
  | caller c expired => exact h.caller sole serves (Manager.move_of_callerStep taken)
  | worker w e =>
    obtain ⟨⟨sh, w'⟩, moved, rfl⟩ := Option.map_eq_some_iff.mp taken
    have move := Worker.move_of_step moved
    refine h.mono move.stopping_eq.1 move.queue_sublist ?_ h.calm_clear (fun _ hc => hc)
      (fun _ hc => hc) h.cleared h.submits
    intro v hv
    by_cases same : v = w
    · subst same
      obtain was | stopping | ⟨job, mem, kind⟩ := move.ending (by simpa using hv)
      · exact h.ending_set v was
      · exact stopping
      · exact h.token_set job mem kind
    · exact h.ending_set v (by simpa [Function.update_of_ne same] using hv)
  | elapse seconds =>
    simp only [Manager.step] at taken
    split at taken
    · cases taken
      exact h.mono rfl (.refl _) h.ending_set h.calm_clear (fun _ hc => hc) (fun _ hc => hc)
        h.cleared h.submits
    · cases taken

end Lifecycle

end SwitchOps

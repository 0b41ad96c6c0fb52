import SwitchOps.Session.Lifecycle

/-!
# No lost and no doubled job

What becomes of the jobs that are submitted (`JobDelivery`). That a job is run at most once, that
its future is resolved at most once and that the worker takes the least of the jobs that wait holds
in every run. That no future is left unresolved when the worker has terminated after a stop, and
that a job submitted to a session in service is not failed by a stop that is over, needs the
starts, stops and puts to be harmless (`jobDelivery_of_reaches`).
-/

namespace SwitchOps

open Machines Placement

namespace Manager

variable {ι : Type}

/-- A stop has been called, and the worker has terminated, as has every worker before it. -/
def Stopped (s : Manager ι) : Prop :=
  s.shared.stopping = true ∧ 0 < s.created ∧ ∀ w < s.created, (s.workers w).pc = .terminated

end Manager

/-- What becomes of the jobs. A job that was submitted when no stop had been called since the last
start is not failed as shutting down before the next stop is called. -/
structure JobDelivery {ι : Type} [DecidableEq ι] (collector : ι) (s : Manager ι) : Prop where
  begun_once : s.shared.begun.Nodup
  settled_once : (s.shared.settled.map fun r => r.job.sequence).Nodup
  resolved : s.Stopped → ∀ n ∈ s.returned, ∃ r ∈ s.shared.settled, r.job.sequence = n
  calm : ∀ r ∈ s.shared.settled, r.outcome = .shuttingDown →
    ∀ n, r.job.calm = some n → n < r.stops
  calm_accepted : ∀ calm ∈ s.refused, calm = none
  least : ∀ w t, s.step collector (.worker w .get) = some t → ∃ job,
    (t.workers w).pc = .taken job ∧ job ∈ s.shared.queue ∧
      (∀ other ∈ s.shared.queue, job.before other) ∧
      t.shared.queue = s.shared.queue.erase job

/-- The worker takes the least of the jobs that wait. -/
theorem Manager.least_of_get {ι : Type} [DecidableEq ι] {collector : ι} {s t : Manager ι} {w : Nat}
    (taken : s.step collector (.worker w .get) = some t) : ∃ job,
      (t.workers w).pc = .taken job ∧ job ∈ s.shared.queue ∧
        (∀ other ∈ s.shared.queue, job.before other) ∧
        t.shared.queue = s.shared.queue.erase job := by
  obtain ⟨⟨sh, w'⟩, moved, rfl⟩ := Option.map_eq_some_iff.mp taken
  cases Worker.move_of_step moved with
  | @get job here least =>
    exact ⟨job, by simp, Job.mem_of_least least, Job.least_before least, rfl⟩

/-! ## A worker is there -/

/-- The thread object of a start that is about to launch it, and the worker of a session in
service. -/
structure Awake {ι : Type} (s : Manager ι) : Prop where
  launchable : ∀ c since next, s.callers c = .startLaunch since next →
    ∃ t, s.thread = some t ∧ (s.workers t).pc = .created
  awake : s.shared.stopping = false → 0 < s.created →
    (∃ w, (s.workers w).pc.alive) ∨ ∃ c, (s.callers c).launching
  drained : s.shared.stopping = true → 0 < s.created → (∀ w, (s.workers w).pc.alive = false) →
    ∀ job ∈ s.shared.queue, job.sequence ∉ s.returned

/-- A worker that moves stays alive, unless it finds the queue empty after its loop. -/
theorem Worker.Move.alive_after {sh sh' : Shared} {w w' : Worker} {e : WorkerStep}
    (move : Worker.Move sh w e sh' w') :
    w'.pc.alive ∨ w.pc.ending ∧ sh'.queue = [] := by
  cases move with
  | terminate here none => exact .inr ⟨by rw [here]; rfl, none⟩
  | skip here => exact .inl (by rw [here]; rfl)
  | drain here => exact .inl (by rw [here]; rfl)
  | @ready job? => cases job? <;> exact .inl rfl
  | @connected job? => cases job? <;> exact .inl rfl
  | @unavailable job? => cases job? <;> exact .inl rfl
  | @failed job? => cases job? <;> exact .inl rfl
  | _ => exact .inl rfl

namespace Awake

variable {ι : Type} {s t : Manager ι}

theorem initial : Awake ({} : Manager ι) := by
  constructor <;> simp

variable [DecidableEq ι] {c : ι}

/-- A caller goes on that does not leave a launch behind. -/
theorem goto {pc : CallerPc} (h : Awake s) (stopping : t.shared.stopping = s.shared.stopping)
    (thread : t.thread = s.thread) (workers : t.workers = s.workers)
    (created : t.created = s.created) (callers : t.callers = s.callers)
    (launching : (s.callers c).launching → pc.launching)
    (launch : ∀ since next, pc ≠ .startLaunch since next)
    (drained : s.shared.stopping = true → (∀ w, (s.workers w).pc.alive = false) →
      (∀ job ∈ s.shared.queue, job.sequence ∉ s.returned) →
      ∀ job ∈ t.shared.queue, job.sequence ∉ t.returned) : Awake (t.goto c pc) := by
  constructor
  case launchable =>
    intro c' since next
    rw [show (t.goto c pc).thread = s.thread from thread,
      show (t.goto c pc).workers = s.workers from workers]
    revert c'
    refine Lifecycle.forall_goto (P := fun _ pc => pc = .startLaunch since next → _) ?_ ?_
    · exact fun eq => absurd eq (launch since next)
    · exact fun c' _ here => h.launchable c' since next (callers ▸ here)
  case awake =>
    intro clear some
    obtain alive | ⟨c', launching'⟩ := h.awake (stopping ▸ clear) (created ▸ some)
    · exact .inl (by simpa [Manager.goto, workers] using alive)
    · refine .inr ⟨c', ?_⟩
      by_cases same : c' = c
      · subst same
        simpa [Manager.goto] using launching launching'
      · simpa [Manager.goto, callers, Function.update_of_ne same] using launching'
  case drained =>
    intro set some none
    have set' : s.shared.stopping = true := stopping ▸ set
    have none' : ∀ w, (s.workers w).pc.alive = false := workers ▸ none
    exact drained set' none' (h.drained set' (created ▸ some) none')

/-- A caller goes on, and only the caller. -/
theorem goOn {pc : CallerPc} (h : Awake s) (launching : (s.callers c).launching → pc.launching)
    (launch : ∀ since next, pc ≠ .startLaunch since next) : Awake (s.goto c pc) :=
  h.goto rfl rfl rfl rfl rfl launching launch fun _ _ same => same

theorem afterStart_ne (next : Option Submission) (since : Nat) (next' : Option Submission) :
    Manager.afterStart next ≠ .startLaunch since next' := by
  cases next <;> simp [Manager.afterStart]

theorem caller (h : Awake s) (sole : SoleWorker s) (cycle : Lifecycle s) (placed : JobsPlaced s)
    {expired : Bool} (serves : s.ServesCalls (.caller c expired)) (move : s.Move c t) : Awake t := by
  -- a caller about to launch is the only one
  have launchesHere : (s.callers c).launching → ∀ c' since next,
      s.callers c' = .startLaunch since next → c' = c := by
    intro launching c' since next there
    exact sole.launching c' c (by rw [there]; rfl) launching
  cases move with
  | @clear since next here =>
    have launching : (s.callers c).launching := by rw [here]; rfl
    constructor
    case launchable =>
      intro c' since' next'
      refine Lifecycle.forall_goto (P := fun _ pc => pc = .startLaunch since' next' → _) ?_ ?_ c'
      · simp
      · exact fun c' _ there => h.launchable c' since' next' there
    case awake => exact fun _ _ => .inr ⟨c, by simp [Manager.goto, CallerPc.launching]⟩
    case drained => intro set; simp [Manager.goto] at set
  | @create since next here =>
    have launching : (s.callers c).launching := by rw [here]; rfl
    have clear : s.shared.stopping = false := cycle.cleared c (by rw [here]; rfl)
    constructor
    case launchable =>
      exact fun c' since' next' _ => ⟨s.created, rfl, by simp [Manager.goto]⟩
    case awake => exact fun _ _ => .inr ⟨c, by simp [Manager.goto, CallerPc.launching]⟩
    case drained => intro set; simp [Manager.goto, clear] at set
  | @launch since next i _ here thread fresh =>
    have launching : (s.callers c).launching := by rw [here]; rfl
    have alive : (Function.update s.workers i (.started ‹ℚ›) i).pc.alive := by
      simp [Worker.started, WorkerPc.alive]
    constructor
    case launchable =>
      intro c' since' next'
      refine Lifecycle.forall_goto (P := fun _ pc => pc = .startLaunch since' next' → _) ?_ ?_ c'
      · exact fun eq => absurd eq (afterStart_ne next since' next')
      · exact fun c' ne there => absurd (launchesHere launching c' since' next' there) ne
    case awake => exact fun _ _ => .inl ⟨i, alive⟩
    case drained =>
      intro _ _ none
      have dead : (Function.update s.workers i (.started ‹ℚ›) i).pc.alive = false := none i
      rw [alive] at dead
      cases dead
  | raise here =>
    obtain ⟨here, -⟩ | ⟨here, broken⟩ := here
    · exact h.goOn (by simp [here, CallerPc.launching]) (by simp)
    · obtain ⟨i, thread, fresh⟩ := h.launchable c _ _ here
      obtain none | ⟨j, thread', started⟩ := broken
      · simp [thread] at none
      · rw [thread] at thread'
        cases thread'
        exact absurd fresh started
  | stopSet here =>
    have noLaunch : s.NoLaunch := serves.2.2.1 here
    constructor
    case launchable =>
      intro c' since' next'
      refine Lifecycle.forall_goto (P := fun _ pc => pc = .startLaunch since' next' → _) ?_ ?_ c'
      · simp
      · intro c' _ there
        have := noLaunch c'
        rw [show s.callers c' = .startLaunch since' next' from there] at this
        cases this
    case awake => intro clear; simp [Manager.goto] at clear
    case drained =>
      intro _ some none
      cases stopping : s.shared.stopping with
      | true => exact h.drained stopping some none
      | false =>
        obtain ⟨w, alive⟩ | ⟨c', launching⟩ := h.awake stopping some
        · have dead : (s.workers w).pc.alive = false := none w
          exact absurd alive (by simp [dead])
        · simp [noLaunch c'] at launching
  | stopForget here =>
    constructor
    case launchable =>
      intro c' since' next'
      refine Lifecycle.forall_goto (P := fun _ pc => pc = .startLaunch since' next' → _) ?_ ?_ c'
      · simp
      · intro c' _ there
        have launching : (s.callers c').launching := by
          rw [show s.callers c' = .startLaunch since' next' from there]; rfl
        exact (cycle.launch_stop c' c launching (by rw [here]; rfl)).elim
    case awake =>
      intro clear _
      simp [Manager.goto, cycle.stop_set c (by rw [here]; rfl)] at clear
    case drained => exact h.drained
  | @stopPut job here =>
    refine h.goto rfl rfl rfl rfl rfl (by simp [here, CallerPc.launching]) (by simp) ?_
    intro _ _ same other mem
    obtain old | rfl : other ∈ s.shared.queue ∨ other = job := by simpa [Manager.put] using mem
    · exact same other old
    · intro returned
      exact (placed.returned _ returned).2 c ⟨other, by rw [here]; rfl, rfl⟩
  | put here =>
    refine h.goto rfl rfl rfl rfl rfl (by simp [here, CallerPc.launching]) (by simp) ?_
    intro stopping none
    exact absurd (fun w _ => none w) (serves.2.2.2 (by rw [here]; rfl) stopping)
  | @already since next i here thread alive =>
    exact h.goto rfl rfl rfl rfl rfl (by simp [here, CallerPc.launching]) (afterStart_ne next)
      fun _ _ same => same
  | stopNumber here | refuse here | number here =>
    exact h.goto rfl rfl rfl rfl rfl (by simp [here, CallerPc.launching]) (by simp)
      fun _ _ same => same
  | stopJoined here =>
    refine h.goOn ?_ (by simp)
    obtain here | ⟨_, here⟩ := here <;> simp [here, CallerPc.launching]
  | found here | unset here | dead here | stopGiveUp here | stopJoin here | skip here | check here
  | accept here => exact h.goOn (by simp [here, CallerPc.launching]) (by simp)

theorem step (h : Awake s) (sole : SoleWorker s) (cycle : Lifecycle s) (placed : JobsPlaced s)
    {collector : ι} {a : ManagerAction ι} (serves : s.ServesCalls a)
    (taken : s.step collector a = some t) : Awake t := by
  cases a with
  | call c call =>
    simp only [Manager.step] at taken
    split at taken
    · next may =>
      cases taken
      refine h.goOn (by simp [may.1, CallerPc.launching]) ?_
      cases call <;> simp [Manager.enter]
    · cases taken
  | caller c expired => exact h.caller sole cycle placed serves (Manager.move_of_callerStep taken)
  | worker w e =>
    obtain ⟨⟨sh, w'⟩, moved, rfl⟩ := Option.map_eq_some_iff.mp taken
    have move := Worker.move_of_step moved
    constructor
    case launchable =>
      intro c since next here
      obtain ⟨i, thread, fresh⟩ := h.launchable c since next here
      have ne : i ≠ w := by
        rintro rfl
        simpa [fresh, WorkerPc.alive] using move.alive
      exact ⟨i, thread, by simpa [Function.update_of_ne ne] using fresh⟩
    case awake =>
      intro clear some
      have clear' : s.shared.stopping = false := by rw [← move.stopping_eq.1]; exact clear
      obtain alive | ⟨ending, -⟩ := move.alive_after
      · exact .inl ⟨w, by simpa using alive⟩
      · rw [cycle.ending_set w ending] at clear'
        cases clear'
    case drained =>
      intro _ _ none
      obtain alive | ⟨-, empty⟩ := move.alive_after
      · have dead := none w
        simp [alive] at dead
      · simp [empty]
  | elapse seconds =>
    simp only [Manager.step] at taken
    split at taken
    · cases taken
      exact ⟨h.launchable, h.awake, h.drained⟩
    · cases taken

end Awake

/-! ## Jobs submitted to a session in service -/

/-- The ghost of the job that the caller is about to put. -/
def CallerPc.tag : CallerPc → Option Nat
  | .submitNumber _ calm => calm
  | .stopPut job | .submitPut job => job.calm
  | _ => none

/-- The `n`-th stop is not called yet, or is over: while the stop event is set, a later stop has
been called. -/
def Manager.Served {ι : Type} (s : Manager ι) (n : Nat) : Prop :=
  n ≤ s.shared.stops ∧ (s.shared.stopping = true → n < s.shared.stops)

/-- Wherever a job is that was submitted to a session in service, that service is over once the
stop event is set. -/
structure Calm {ι : Type} (s : Manager ι) : Prop where
  queue : ∀ job ∈ s.shared.queue, ∀ n, job.calm = some n → s.Served n
  hand : ∀ w job, (s.workers w).pc.hand = some job → ∀ n, job.calm = some n → s.Served n
  caller : ∀ c n, (s.callers c).tag = some n → s.Served n
  settled : ∀ r ∈ s.shared.settled, r.outcome = .shuttingDown →
    ∀ n, r.job.calm = some n → n < r.stops
  refused : ∀ calm ∈ s.refused, calm = none

namespace Calm

variable {ι : Type} {s t : Manager ι}

theorem initial : Calm ({} : Manager ι) := by
  constructor <;> simp [WorkerPc.hand, CallerPc.tag]

theorem served_calmNow (cycle : Lifecycle s) {n : Nat} (h : s.calmNow = some n) : s.Served n := by
  simp only [Manager.calmNow] at h
  split at h
  · next calm =>
    obtain rfl := Option.some.inj h
    exact ⟨le_refl _, fun set => by simp [cycle.calm_clear calm] at set⟩
  · cases h

variable [DecidableEq ι] {c : ι}

/-- A caller goes on, the workers stay, and what was served stays served. -/
theorem goto {pc : CallerPc} (h : Calm s) (served : ∀ n, s.Served n → t.Served n)
    (callers : t.callers = s.callers)
    (hand : ∀ w, (t.workers w).pc.hand = none ∨ (t.workers w).pc.hand = (s.workers w).pc.hand)
    (settled : t.shared.settled = s.shared.settled)
    (queue : ∀ job ∈ t.shared.queue, job ∈ s.shared.queue ∨ (s.callers c).tag = job.calm)
    (refused : ∀ calm ∈ t.refused, calm ∈ s.refused ∨ calm = none)
    (tag : ∀ n, pc.tag = some n → t.Served n) : Calm (t.goto c pc) where
  queue job mem n calm := by
    obtain old | mine := queue job mem
    · exact served n (h.queue job old n calm)
    · exact served n (h.caller c n (mine.trans calm))
  hand w job inHand n calm := by
    obtain free | same := hand w
    · rw [show (t.workers w).pc.hand = some job from inHand] at free
      cases free
    · exact served n (h.hand w job (same ▸ inHand) n calm)
  caller c' n := by
    refine Lifecycle.forall_goto (P := fun _ pc => pc.tag = some n → t.Served n) (tag n) ?_ c'
    exact fun c' _ eq => served n (h.caller c' n (callers ▸ eq))
  settled r mem := h.settled r (settled ▸ mem)
  refused calm mem := (refused calm mem).elim (h.refused calm) id

/-- A caller goes on, and only the caller. -/
theorem goOn {pc : CallerPc} (h : Calm s) (tag : ∀ n, pc.tag = some n → s.Served n) :
    Calm (s.goto c pc) :=
  h.goto (fun _ hn => hn) rfl (fun _ => .inr rfl) rfl (fun _ mem => .inl mem)
    (fun _ mem => .inl mem) tag

theorem caller' (h : Calm s) (cycle : Lifecycle s) (move : s.Move c t) : Calm t := by
  have tag := h.caller c
  cases move with
  | clear here =>
    refine h.goto ?_ rfl (fun _ => .inr rfl) rfl (fun _ mem => .inl mem) (fun _ mem => .inl mem)
      (by simp [CallerPc.tag])
    exact fun n served => ⟨served.1, by simp⟩
  | stopSet here =>
    refine h.goto ?_ rfl (fun _ => .inr rfl) rfl (fun _ mem => .inl mem) (fun _ mem => .inl mem)
      (by simp [CallerPc.tag])
    exact fun n served => ⟨served.1.trans (Nat.le_succ _), fun _ => Nat.lt_succ_of_le served.1⟩
  | create here =>
    refine h.goto (fun _ hn => hn) rfl ?_ rfl (fun _ mem => .inl mem) (fun _ mem => .inl mem)
      (by simp [CallerPc.tag])
    intro w
    by_cases new : w = s.created
    · exact .inl (by simp [new, WorkerPc.hand])
    · exact .inr (by simp [Function.update_of_ne new])
  | @launch since next i _ here thread fresh =>
    refine h.goto (fun _ hn => hn) rfl ?_ rfl (fun _ mem => .inl mem) (fun _ mem => .inl mem) ?_
    · intro w
      by_cases new : w = i
      · exact .inl (by simp [new, Worker.started, WorkerPc.hand])
      · exact .inr (by simp [Function.update_of_ne new])
    · cases next <;> simp [Manager.afterStart, CallerPc.tag]
  | @already since next _ here =>
    refine h.goto (fun _ hn => hn) rfl (fun _ => .inr rfl) rfl (fun _ mem => .inl mem)
      (fun _ mem => .inl mem) ?_
    cases next <;> simp [Manager.afterStart, CallerPc.tag]
  | refuse here stopping =>
    refine h.goto (fun _ hn => hn) rfl (fun _ => .inr rfl) rfl (fun _ mem => .inl mem) ?_
      (by simp [CallerPc.tag])
    intro calm mem
    obtain rfl | old := List.mem_cons.mp mem
    · right
      -- while the stop event is set, no start has returned since the stop
      have notCalm : s.calm ≠ true := fun calm => by simp [cycle.calm_clear calm] at stopping
      simp [Manager.calmNow, notCalm]
    · exact .inl old
  | accept here going => exact h.goOn fun n eq => served_calmNow cycle eq
  | number here =>
    rw [here] at tag
    exact h.goto (fun _ hn => hn) rfl (fun _ => .inr rfl) rfl (fun _ mem => .inl mem)
      (fun _ mem => .inl mem) tag
  | stopNumber here =>
    exact h.goto (fun _ hn => hn) rfl (fun _ => .inr rfl) rfl (fun _ mem => .inl mem)
      (fun _ mem => .inl mem) (by simp [CallerPc.tag, Manager.token])
  | @stopPut job here | @put job here =>
    refine h.goto (fun _ hn => hn) rfl (fun _ => .inr rfl) rfl ?_ (fun _ mem => .inl mem)
      (by simp [CallerPc.tag])
    intro other mem
    obtain old | rfl : other ∈ s.shared.queue ∨ other = job := by simpa [Manager.put] using mem
    · exact .inl old
    · exact .inr (by rw [here]; rfl)
  | stopForget here =>
    exact h.goto (fun _ hn => hn) rfl (fun _ => .inr rfl) rfl (fun _ mem => .inl mem)
      (fun _ mem => .inl mem) (by simp [CallerPc.tag])
  | _ => exact h.goOn (by simp [CallerPc.tag])

omit [DecidableEq ι] in
/-- A worker moves: the queue is no longer, and what is in its hand and what it has settled is
served. -/
theorem afterWorker (h : Calm s) {sh : Shared} {w : Nat} {w' : Worker}
    (same : sh.stopping = s.shared.stopping ∧ sh.stops = s.shared.stops)
    (queue : ∀ job ∈ sh.queue, job ∈ s.shared.queue)
    (hand : ∀ job, w'.pc.hand = some job → ∀ n, job.calm = some n → s.Served n)
    (settled : ∀ r ∈ sh.settled, r ∈ s.shared.settled ∨
      (r.outcome = .shuttingDown → ∀ n, r.job.calm = some n → n < r.stops)) :
    Calm ({ s with shared := sh, workers := Function.update s.workers w w' } : Manager ι) := by
  have served : ∀ n, s.Served n →
      ({ s with shared := sh, workers := Function.update s.workers w w' } : Manager ι).Served n := by
    intro n hn
    simpa [Manager.Served, same] using hn
  constructor
  case queue => exact fun job mem n calm => served n (h.queue job (queue job mem) n calm)
  case hand =>
    intro v job inHand n calm
    by_cases ours : v = w
    · subst ours
      exact served n (hand job (by simpa using inHand) n calm)
    · exact served n (h.hand v job (by simpa [Function.update_of_ne ours] using inHand) n calm)
  case caller => exact fun c n tag => served n (h.caller c n tag)
  case settled => exact fun r mem => (settled r mem).elim (h.settled r) id
  case refused => exact h.refused

omit [DecidableEq ι] in
theorem worker (h : Calm s) (cycle : Lifecycle s) (placed : JobsPlaced s) {sh : Shared} {w : Nat}
    {w' : Worker} (same : sh.stopping = s.shared.stopping ∧ sh.stops = s.shared.stops)
    (traffic : Traffic s.shared (s.workers w).pc sh w'.pc) :
    Calm ({ s with shared := sh, workers := Function.update s.workers w w' } : Manager ι) := by
  cases traffic with
  | stay queue settled begun hand idle idle' =>
    refine h.afterWorker same (fun job mem => queue ▸ mem) ?_ (fun r mem => .inl (settled ▸ mem))
    exact fun job inHand => h.hand w job (hand ▸ inHand)
  | @take job least queue settled begun free hand idle' =>
    refine h.afterWorker same (fun other mem => ?_) ?_ (fun r mem => .inl (settled ▸ mem))
    · exact List.mem_of_mem_erase (queue ▸ mem)
    · intro other inHand
      obtain rfl : job = other := Option.some.inj (hand.symm.trans inHand)
      exact h.queue job (Job.mem_of_least least)
  | begin queue settled begun hand idle hand' runs =>
    refine h.afterWorker same (fun job mem => queue ▸ mem) ?_ (fun r mem => .inl (settled ▸ mem))
    exact fun job inHand => h.hand w job (by rw [hand, ← hand', inHand])
  | @settle job outcome queue settled ran begun hand free idle' =>
    refine h.afterWorker same (fun job mem => queue ▸ mem) (by simp [free]) fun r mem => ?_
    rw [settled, List.mem_cons] at mem
    obtain rfl | old := mem
    · exact .inr fun drained => absurd drained ran
    · exact .inl old
  | @drain job least queue settled begun here stays =>
    have stopping : s.shared.stopping = true := cycle.ending_set w (by rw [here]; rfl)
    refine h.afterWorker same (fun other mem => List.mem_of_mem_erase (queue ▸ mem))
      (by simp [stays, WorkerPc.hand]) fun r mem => ?_
    rw [settled, List.mem_cons] at mem
    obtain rfl | old := mem
    · -- a job that is drained was submitted before the stop
      exact .inr fun _ n calm => (h.queue job (Job.mem_of_least least) n calm).2 stopping
    · exact .inl old
  | drop mem done =>
    rw [placed.not_done mem] at done
    cases done

theorem step (h : Calm s) (cycle : Lifecycle s) (placed : JobsPlaced s) {collector : ι}
    {a : ManagerAction ι} (taken : s.step collector a = some t) : Calm t := by
  cases a with
  | call c call =>
    simp only [Manager.step] at taken
    split at taken
    · cases taken
      refine h.goOn ?_
      cases call <;> simp [Manager.enter, CallerPc.tag]
    · cases taken
  | caller c expired => exact h.caller' cycle (Manager.move_of_callerStep taken)
  | worker w e =>
    obtain ⟨⟨sh, w'⟩, moved, rfl⟩ := Option.map_eq_some_iff.mp taken
    have move := Worker.move_of_step moved
    exact h.worker cycle placed move.stopping_eq move.traffic
  | elapse seconds =>
    simp only [Manager.step] at taken
    split at taken
    · cases taken
      exact ⟨h.queue, h.hand, h.caller, h.settled, h.refused⟩
    · cases taken

end Calm

/-! ## Delivery along runs -/

/-- All of the above. -/
structure InService {ι : Type} (s : Manager ι) : Prop where
  sole : SoleWorker s
  placed : JobsPlaced s
  cycle : Lifecycle s
  awake : Awake s
  calm : Calm s

theorem WorkerPc.alive_of_hand {pc : WorkerPc} {job : Job} (h : pc.hand = some job) : pc.alive := by
  cases pc <;> simp_all [WorkerPc.hand, WorkerPc.alive]

namespace InService

variable {ι : Type} [DecidableEq ι] {collector : ι} {s t : Manager ι}

omit [DecidableEq ι] in
theorem initial : InService ({} : Manager ι) :=
  ⟨SoleWorker.initial, JobsPlaced.initial, Lifecycle.initial, Awake.initial, Calm.initial⟩

theorem step (h : InService s) {a : ManagerAction ι} (serves : s.ServesCalls a)
    (taken : s.step collector a = some t) : InService t where
  sole := h.sole.step serves.launchesAlone taken
  placed := h.placed.step taken
  cycle := h.cycle.step h.sole serves taken
  awake := h.awake.step h.sole h.cycle h.placed serves taken
  calm := h.calm.step h.cycle h.placed taken

omit [DecidableEq ι] in
/-- Once the worker has terminated after a stop, a job that was put is settled: it is not in the
queue, which was emptied last, nor in the hand of a worker. -/
theorem resolved (h : InService s) (stopped : s.Stopped) {n : Nat} (mem : n ∈ s.returned) :
    ∃ r ∈ s.shared.settled, r.job.sequence = n := by
  obtain ⟨stopping, some, terminated⟩ := stopped
  have none : ∀ w, (s.workers w).pc.alive = false := by
    intro w
    by_contra alive
    have made : w < s.created := h.sole.created w (by simpa using alive)
    simp [terminated w made, WorkerPc.alive] at alive
  obtain ⟨place, here, -⟩ := h.placed.placed n
  cases place with
  | undrawn => exact absurd here (h.placed.returned n mem).1
  | caller c => exact absurd here ((h.placed.returned n mem).2 c)
  | queue =>
    obtain ⟨job, queued, rfl⟩ := here
    exact absurd mem (h.awake.drained stopping some none job queued)
  | worker w =>
    obtain ⟨job, inHand, -⟩ := here
    simpa [none w] using WorkerPc.alive_of_hand inHand
  | settled => exact here

theorem delivery (h : InService s) : JobDelivery collector s where
  begun_once := h.placed.begun
  settled_once := h.placed.settled
  resolved stopped _ mem := h.resolved stopped mem
  calm := h.calm.settled
  calm_accepted := h.calm.refused
  least _ _ taken := Manager.least_of_get taken

end InService

/-- However submissions, starts, stops and workers interleave, as long as the starts, stops and
puts are harmless: no job is run or settled twice, none is left when the worker has terminated
after a stop, and none submitted to a session in service is failed by a stop that is over. -/
theorem jobDelivery_of_reaches {ι : Type} [DecidableEq ι] {collector : ι} {s : Manager ι}
    (run : Reaches (Manager.step collector) Manager.ServesCalls {} s) : JobDelivery collector s := by
  have inv : InService s :=
    run.invariant InService.initial fun _ _ _ h serves taken => h.step serves taken
  exact inv.delivery

theorem jobDelivery_of_reaches_stopAndStart :
    ∃ s : Manager (Fin 2), JobDelivery 0 s ∧ s.returned = [3, 1] ∧
      (s.shared.settled.map fun r => (r.job.sequence, r.outcome)) =
        [(2, .shuttingDown), (1, .result)] := by
  obtain ⟨s, run, last⟩ := exists_reaches_of_run_guarded (Manager.step (0 : Fin 2))
    Manager.ServesCalls {} stopAndStart (fun s => s.returned = [3, 1] ∧
      (s.shared.settled.map fun r => (r.job.sequence, r.outcome)) =
        [(2, .shuttingDown), (1, .result)]) (by decide +kernel)
  exact ⟨s, jobDelivery_of_reaches run, of_decide_eq_true last⟩

/-- The worker sees the stop event and terminates before `stop` puts its token, which waits for
the worker of the next start. -/
def staleToken : List (ManagerAction (Fin 2)) :=
  [.call 1 .start] ++ callerSteps 1 4 ++ [.call 1 .stop] ++ callerSteps 1 1 ++
  [.worker 0 .test, .worker 0 .close, .worker 0 .drain] ++ callerSteps 1 5 ++
  [.call 0 dashboardCall] ++ callerSteps 0 7 ++
  [.worker 1 .test, .worker 1 .get, .worker 1 .look, .worker 1 .close, .worker 1 .drain]

/-- A request has tested the stop event when the session is stopped, and puts its job when the
worker has gone. -/
def latePut : List (ManagerAction (Fin 2)) :=
  [.call 0 dashboardCall] ++ callerSteps 0 6 ++ [.call 1 .stop] ++ callerSteps 1 4 ++
  [.worker 0 .test, .worker 0 .close, .worker 0 .drain, .worker 0 .drain] ++ callerSteps 1 2 ++
  callerSteps 0 1

/-- A job of a session in service is failed by the stop before, and a job is never resolved. -/
theorem not_jobDelivery :
    (∃ s : Manager (Fin 2), Reaches (Manager.step 0) Always {} s ∧ s.shared.stopping = false ∧
      ¬ JobDelivery 0 s) ∧
    ∃ s : Manager (Fin 2), Reaches (Manager.step 0) Always {} s ∧ s.Stopped ∧
      ¬ JobDelivery 0 s := by
  constructor
  · obtain ⟨s, run, last⟩ := exists_reaches_of_run (Manager.step (0 : Fin 2)) {} staleToken
      (fun s => s.shared.stopping = false ∧ s.shared.settled.any fun r =>
        r.outcome = .shuttingDown && r.job.calm = some r.stops) (by decide +kernel)
    obtain ⟨going, failed⟩ := of_decide_eq_true last
    obtain ⟨r, mem, failed⟩ := List.any_eq_true.mp failed
    simp only [Bool.and_eq_true, decide_eq_true_eq] at failed
    refine ⟨s, run, going, fun delivery => ?_⟩
    have := delivery.calm r mem failed.1 r.stops failed.2
    omega
  · obtain ⟨s, run, last⟩ := exists_reaches_of_run (Manager.step (0 : Fin 2)) {} latePut
      (fun s => s.shared.stopping = true ∧ s.created = 1 ∧ (s.workers 0).pc = .terminated ∧
        s.returned = [1] ∧ s.shared.settled.all fun r => r.job.sequence ≠ 1) (by decide +kernel)
    obtain ⟨stopping, created, terminated, returned, unsettled⟩ := of_decide_eq_true last
    have stopped : s.Stopped := by
      refine ⟨stopping, by rw [created]; exact Nat.one_pos, fun w made => ?_⟩
      obtain rfl : w = 0 := by omega
      exact terminated
    refine ⟨s, run, stopped, fun delivery => ?_⟩
    obtain ⟨r, mem, number⟩ := delivery.resolved stopped 1 (by simp [returned])
    have := List.all_eq_true.mp unsettled r mem
    simp [number] at this

end SwitchOps

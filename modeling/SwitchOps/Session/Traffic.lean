import SwitchOps.Lib.Placement
import SwitchOps.Session.SingleWorker
import Mathlib.Data.List.Nodup

/-!
# Where a job is

Every number that has been drawn belongs to one job, and a job is in one place: with the caller
that drew its number, in the queue, in the hand of a worker, or settled. From this it follows, for
every run, that a job is run at most once and its future resolved at most once, and that a future
`submit` has returned is waiting, in hand or resolved.
-/

namespace SwitchOps

open Machines Placement

/-- The job that a caller has made and not put yet. -/
def CallerPc.drawn : CallerPc → Option Job
  | .stopPut job | .submitPut job => some job
  | _ => none

/-- The job that a worker has taken and not settled yet. -/
def WorkerPc.hand : WorkerPc → Option Job
  | .taken job | .running job _ => some job
  | .ensuring job? | .attempting job? _ => job?
  | _ => none

/-! ## What a worker does with jobs -/

/-- The moves of a worker, by what they do with jobs. -/
inductive Traffic (sh : Shared) (w : WorkerPc) (sh' : Shared) (w' : WorkerPc) : Prop
  /-- Nothing. -/
  | stay (queue : sh'.queue = sh.queue) (settled : sh'.settled = sh.settled)
      (begun : sh'.begun = sh.begun) (hand : w'.hand = w.hand) (idle : w.runningJob = none)
      (idle' : w'.runningJob = none)
  /-- Take the least job of the queue. -/
  | take {job : Job} (least : Job.least sh.queue = some job) (queue : sh'.queue = sh.queue.erase job)
      (settled : sh'.settled = sh.settled) (begun : sh'.begun = sh.begun) (free : w.hand = none)
      (hand : w'.hand = some job) (idle' : w'.runningJob = none)
  /-- Begin to run the job in hand. -/
  | begin {job : Job} (queue : sh'.queue = sh.queue) (settled : sh'.settled = sh.settled)
      (begun : sh'.begun = job.sequence :: sh.begun) (hand : w.hand = some job)
      (idle : w.runningJob = none) (hand' : w'.hand = some job) (runs : w'.runningJob = some job)
  /-- Settle the job in hand. -/
  | settle {job : Job} {outcome : Outcome} (queue : sh'.queue = sh.queue)
      (settled : sh'.settled = ⟨job, outcome, sh.stops⟩ :: sh.settled)
      (ran : outcome ≠ .shuttingDown) (begun : sh'.begun = sh.begun) (hand : w.hand = some job)
      (free : w'.hand = none) (idle' : w'.runningJob = none)
  /-- Settle a job of the queue, undone. -/
  | drain {job : Job} (least : Job.least sh.queue = some job)
      (queue : sh'.queue = sh.queue.erase job)
      (settled : sh'.settled = ⟨job, .shuttingDown, sh.stops⟩ :: sh.settled)
      (begun : sh'.begun = sh.begun) (here : w = .draining) (stays : w' = .draining)
  /-- Drop a job of the queue that is settled already. -/
  | drop {job : Job} (mem : job ∈ sh.queue) (done : sh.done job = true)

theorem Worker.Move.traffic {sh sh' : Shared} {w w' : Worker} {e : WorkerStep}
    (move : Worker.Move sh w e sh' w') : Traffic sh w.pc sh' w'.pc := by
  cases move with
  | get here least => exact .take least rfl rfl rfl (by simp [here, WorkerPc.hand]) rfl rfl
  | token here kind =>
    exact .settle rfl rfl (by simp) rfl (by rw [here]; rfl) rfl rfl
  | @ready job? alive client connection here before =>
    cases job? with
    | none => exact .stay rfl rfl rfl (by rw [here]; rfl) (by rw [here]; rfl) rfl
    | some job => exact .begin rfl rfl rfl (by rw [here]; rfl) (by rw [here]; rfl) rfl rfl
  | @connected job? since client here =>
    cases job? with
    | none => exact .stay rfl rfl rfl (by rw [here]; rfl) (by rw [here]; rfl) rfl
    | some job => exact .begin rfl rfl rfl (by rw [here]; rfl) (by rw [here]; rfl) rfl rfl
  | @unavailable job? alive connection here before =>
    cases job? with
    | none => exact .stay rfl rfl rfl (by rw [here]; rfl) (by rw [here]; rfl) rfl
    | some job => exact .settle rfl rfl (by simp) rfl (by rw [here]; rfl) rfl rfl
  | @failed job? since exc here =>
    cases job? with
    | none => exact .stay rfl rfl rfl (by rw [here]; rfl) (by rw [here]; rfl) rfl
    | some job => exact .settle rfl rfl (by simp) rfl (by rw [here]; rfl) rfl rfl
  | @finished job client outcome alive here =>
    refine .settle rfl rfl ?_ rfl (by rw [here]; rfl) rfl rfl
    cases outcome <;> simp [Outcome.ofRun]
  | skip here least done => exact .drop (Job.mem_of_least least) done
  | drain here least undone => exact .drain least rfl rfl rfl here here
  | leave here | wait here | empty here | rest here | probe here | accept here | attempt here
  | close here | terminate here =>
    exact .stay rfl rfl rfl (by rw [here]; rfl) (by rw [here]; rfl) rfl

/-! ## The places of a job -/

inductive Place (ι : Type)
  | undrawn
  | caller (c : ι)
  | queue
  | worker (w : Nat)
  | settled

namespace Manager

variable {ι : Type}

/-- The place holds the job with this number. -/
def holds (s : Manager ι) : Place ι → Nat → Prop
  | .undrawn, n => n = 0 ∨ s.sequence < n
  | .caller c, n => ∃ job, (s.callers c).drawn = some job ∧ job.sequence = n
  | .queue, n => ∃ job ∈ s.shared.queue, job.sequence = n
  | .worker w, n => ∃ job, (s.workers w).pc.hand = some job ∧ job.sequence = n
  | .settled, n => ∃ r ∈ s.shared.settled, r.job.sequence = n

/-- The worker runs the job with this number. -/
def runs (s : Manager ι) (w n : Nat) : Prop :=
  ∃ job, (s.workers w).pc.runningJob = some job ∧ job.sequence = n

end Manager

theorem WorkerPc.hand_of_runningJob {pc : WorkerPc} {job : Job} (h : pc.runningJob = some job) :
    pc.hand = some job := by
  cases pc <;> simp_all [WorkerPc.runningJob, WorkerPc.hand]

/-- Every job is in one place, settled at most once and begun at most once; and the futures that
`submit` has returned are of jobs that have left their callers. -/
structure JobsPlaced {ι : Type} (s : Manager ι) : Prop where
  placed : Placed s.holds
  queued : (s.shared.queue.map Job.sequence).Nodup
  settled : (s.shared.settled.map fun r => r.job.sequence).Nodup
  begun : s.shared.begun.Nodup
  begun_place : ∀ n ∈ s.shared.begun, s.holds .settled n ∨ ∃ w, s.runs w n
  returned : ∀ n ∈ s.returned, ¬ s.holds .undrawn n ∧ ∀ c, ¬ s.holds (.caller c) n
  unmade : ∀ w, s.created ≤ w → (s.workers w).pc = .created
  thread : ∀ t, s.thread = some t → t < s.created

namespace JobsPlaced

variable {ι : Type} {s t : Manager ι}

theorem initial : JobsPlaced ({} : Manager ι) := by
  refine ⟨?_, by simp, by simp, by simp, by simp, by simp, by simp, by simp⟩
  intro n
  refine ⟨.undrawn, by simp [Manager.holds, Nat.pos_iff_ne_zero, em], ?_⟩
  intro p hp
  cases p <;> simp_all [Manager.holds, CallerPc.drawn, WorkerPc.hand]

/-- A step that leaves every job where it is. -/
theorem frame (h : JobsPlaced s) (sequence : t.sequence = s.sequence)
    (queue : t.shared.queue = s.shared.queue) (settled : t.shared.settled = s.shared.settled)
    (begun : t.shared.begun = s.shared.begun) (returned : t.returned = s.returned)
    (drawn : ∀ c, (t.callers c).drawn = (s.callers c).drawn)
    (hand : ∀ w, (t.workers w).pc.hand = (s.workers w).pc.hand)
    (running : ∀ w, (t.workers w).pc.runningJob = (s.workers w).pc.runningJob)
    (unmade : ∀ w, t.created ≤ w → (t.workers w).pc = .created)
    (thread : ∀ i, t.thread = some i → i < t.created) : JobsPlaced t := by
  have same : ∀ p n, t.holds p n ↔ s.holds p n := by
    intro p n
    cases p <;> simp only [Manager.holds, sequence, queue, settled, drawn, hand]
  constructor
  case placed => exact h.placed.congr same
  case queued => rw [queue]; exact h.queued
  case settled => rw [settled]; exact h.settled
  case begun => rw [begun]; exact h.begun
  case begun_place =>
    intro n mem
    rw [same]
    simp only [Manager.runs, running]
    exact h.begun_place n (begun ▸ mem)
  case returned =>
    intro n mem
    simp only [same]
    exact h.returned n (returned ▸ mem)
  case unmade => exact unmade
  case thread => exact thread

/-- Taking a job out of the queue takes the one with its number. -/
theorem mem_erase (h : JobsPlaced s) {job other : Job} (mem : job ∈ s.shared.queue) :
    other ∈ s.shared.queue.erase job ↔ other ∈ s.shared.queue ∧ other.sequence ≠ job.sequence := by
  have nodup : s.shared.queue.Nodup := List.Nodup.of_map _ h.queued
  rw [nodup.mem_erase_iff]
  constructor
  · intro ⟨ne, mem'⟩
    exact ⟨mem', fun eq => ne (List.inj_on_of_nodup_map h.queued mem' mem eq)⟩
  · intro ⟨mem', ne⟩
    exact ⟨fun eq => ne (by rw [eq]), mem'⟩

theorem queued_erase (h : JobsPlaced s) (job : Job) :
    ((s.shared.queue.erase job).map Job.sequence).Nodup :=
  h.queued.sublist (List.erase_sublist.map _)

/-- A job of the queue is not settled. -/
theorem not_done (h : JobsPlaced s) {job : Job} (mem : job ∈ s.shared.queue) :
    s.shared.done job = false := by
  by_contra undone
  have done : s.shared.done job = true := by simpa using undone
  have was : s.holds .queue job.sequence := ⟨job, mem, rfl⟩
  obtain ⟨r, memSettled, number⟩ := List.any_eq_true.mp done
  have settled : s.holds .settled job.sequence := ⟨r, memSettled, by simpa using number⟩
  cases h.placed.unique was settled

/-! ### The callers -/

variable [DecidableEq ι] {c : ι}

theorem callers_self (s : Manager ι) (pc : CallerPc) : (s.goto c pc).callers c = pc := by
  simp [Manager.goto]

theorem callers_other (s : Manager ι) (pc : CallerPc) {c' : ι} (ne : c' ≠ c) :
    (s.goto c pc).callers c' = s.callers c' := by
  simp [Manager.goto, Function.update_of_ne ne]

/-- A caller goes on and keeps the job it has drawn, or goes on without one. -/
theorem goto {pc : CallerPc} (h : JobsPlaced t) (drawn : pc.drawn = (t.callers c).drawn) :
    JobsPlaced (t.goto c pc) := by
  refine h.frame rfl rfl rfl rfl rfl ?_ (fun _ => rfl) (fun _ => rfl) h.unmade h.thread
  intro c'
  by_cases same : c' = c
  · rw [same, callers_self, drawn]
  · rw [callers_other _ _ same]

/-- A caller draws a number for its job. -/
theorem draw {pc : CallerPc} {job : Job} (h : JobsPlaced s) (before : (s.callers c).drawn = none)
    (number : job.sequence = s.sequence + 1) (drawn : pc.drawn = some job) :
    JobsPlaced (s.draw.goto c pc) := by
  constructor
  case placed =>
    have was : s.holds .undrawn job.sequence := by simp [Manager.holds, number]
    have arrived : (s.draw.goto c pc).holds (.caller c) job.sequence :=
      ⟨job, by rw [callers_self, drawn], rfl⟩
    refine h.placed.move was ?_ arrived ?_
    · simp [Manager.holds, Manager.draw, Manager.goto, number]
    · intro p n other
      cases p with
      | undrawn =>
        have ne : n ≠ s.sequence + 1 := by simpa [number] using other
        simp only [Manager.holds, Manager.draw, Manager.goto]
        omega
      | caller c' =>
        by_cases same : c' = c
        · subst same
          have ne : n ≠ job.sequence := by simpa using other
          simp only [Manager.holds, callers_self, drawn, before]
          constructor
          · rintro ⟨job', eq, rfl⟩
            exact absurd (by rw [Option.some.inj eq]) ne
          · rintro ⟨job', eq, -⟩
            cases eq
        · simp only [Manager.holds, callers_other _ _ same, Manager.draw]
      | queue | worker | settled => exact Iff.rfl
  case queued => exact h.queued
  case settled => exact h.settled
  case begun => exact h.begun
  case begun_place => exact h.begun_place
  case returned =>
    intro n mem
    obtain ⟨drawnBefore, notCaller⟩ := h.returned n mem
    have small : n ≠ 0 ∧ n ≤ s.sequence := by
      simp only [Manager.holds, not_or, not_lt] at drawnBefore
      exact drawnBefore
    refine ⟨?_, ?_⟩
    · simp only [Manager.holds, Manager.draw, Manager.goto]
      omega
    · rintro c' ⟨job', eq, number'⟩
      by_cases same : c' = c
      · rw [same, callers_self, drawn] at eq
        obtain rfl := Option.some.inj eq
        omega
      · rw [callers_other _ _ same] at eq
        exact notCaller c' ⟨job', eq, number'⟩
  case unmade => exact h.unmade
  case thread => exact h.thread

/-- A caller puts its job into the queue. -/
theorem put {pc : CallerPc} {job : Job} (h : JobsPlaced s) (before : (s.callers c).drawn = some job)
    (queue : t.shared = { s.shared with queue := s.shared.queue ++ [job] })
    (sequence : t.sequence = s.sequence) (workers : t.workers = s.workers)
    (created : t.created = s.created) (thread : t.thread = s.thread) (callers : t.callers = s.callers)
    (returned : ∀ n ∈ t.returned, n ∈ s.returned ∨ n = job.sequence) (drawn : pc.drawn = none) :
    JobsPlaced (t.goto c pc) := by
  have mine : s.holds (.caller c) job.sequence := ⟨job, before, rfl⟩
  have notQueued : ¬ s.holds .queue job.sequence := fun queued => by
    cases h.placed.unique mine queued
  have others : ∀ p n, n ≠ job.sequence ∨ p ≠ .caller c ∧ p ≠ .queue →
      ((t.goto c pc).holds p n ↔ s.holds p n) := by
    intro p n other
    cases p with
    | undrawn => simp [Manager.holds, Manager.goto, sequence]
    | caller c' =>
      by_cases same : c' = c
      · subst same
        have ne : n ≠ job.sequence := by simpa using other
        simp only [Manager.holds, callers_self, drawn, before]
        constructor
        · rintro ⟨job', eq, -⟩
          cases eq
        · rintro ⟨job', eq, rfl⟩
          exact absurd (by rw [Option.some.inj eq]) ne
      · simp only [Manager.holds, callers_other _ _ same, callers]
    | queue =>
      have ne : n ≠ job.sequence := by simpa using other
      simp [Manager.holds, Manager.goto, queue, ne.symm]
    | worker => simp [Manager.holds, Manager.goto, workers]
    | settled => simp [Manager.holds, Manager.goto, queue]
  have left : ¬ (t.goto c pc).holds (.caller c) job.sequence := by
    simp [Manager.holds, callers_self, drawn]
  constructor
  case placed =>
    refine h.placed.move mine left ?_ others
    exact ⟨job, by simp [Manager.goto, queue], rfl⟩
  case queued =>
    have nodup := h.queued
    simp only [Manager.holds, not_exists, not_and] at notQueued
    simp [Manager.goto, queue, List.nodup_append, nodup]
    exact fun other mem => notQueued other mem
  case settled => simpa [Manager.goto, queue] using h.settled
  case begun => simpa [Manager.goto, queue] using h.begun
  case begun_place =>
    intro n mem
    have mem' : n ∈ s.shared.begun := by simpa [Manager.goto, queue] using mem
    rw [others .settled n (.inr ⟨by simp, by simp⟩)]
    simpa [Manager.runs, Manager.goto, workers] using h.begun_place n mem'
  case returned =>
    intro n mem
    obtain old | rfl := returned n mem
    · obtain ⟨drawnBefore, notCaller⟩ := h.returned n old
      refine ⟨by rwa [others .undrawn n (.inr ⟨by simp, by simp⟩)], fun c' => ?_⟩
      by_cases same : c' = c
      · subst same
        simp [Manager.holds, callers_self, drawn]
      · rw [others (.caller c') n (.inr ⟨by simpa using same, by simp⟩)]
        exact notCaller c'
    · refine ⟨?_, fun c' => ?_⟩
      · rw [others .undrawn _ (.inr ⟨by simp, by simp⟩)]
        intro undrawn
        cases h.placed.unique mine undrawn
      · by_cases same : c' = c
        · rw [same]
          exact left
        · rw [others (.caller c') _ (.inr ⟨by simpa using same, by simp⟩)]
          intro theirs
          cases h.placed.unique mine theirs
          exact same rfl
  case unmade => simpa [Manager.goto, workers, created] using h.unmade
  case thread => simpa [Manager.goto, thread, created] using h.thread

/-! ### The workers -/

omit [DecidableEq ι] in
/-- The places that a worker does not touch. -/
theorem holds_worker {sh : Shared} {w : Nat} {w' : Worker} {p : Place ι} {n : Nat}
    (untouched : p ≠ .worker w) (queue : p = .queue → ∀ other, other.sequence = n →
      (other ∈ sh.queue ↔ other ∈ s.shared.queue))
    (settled : p = .settled → ∀ r, r.job.sequence = n →
      (r ∈ sh.settled ↔ r ∈ s.shared.settled)) :
    ({ s with shared := sh, workers := Function.update s.workers w w' } : Manager ι).holds p n ↔
      s.holds p n := by
  cases p with
  | undrawn => exact Iff.rfl
  | caller c => exact Iff.rfl
  | queue =>
    simp only [Manager.holds]
    constructor
    · rintro ⟨job, mem, number⟩
      exact ⟨job, (queue rfl job number).mp mem, number⟩
    · rintro ⟨job, mem, number⟩
      exact ⟨job, (queue rfl job number).mpr mem, number⟩
  | worker v =>
    have ne : v ≠ w := by simpa using untouched
    simp [Manager.holds, Function.update_of_ne ne]
  | settled =>
    simp only [Manager.holds]
    constructor
    · rintro ⟨r, mem, number⟩
      exact ⟨r, (settled rfl r number).mp mem, number⟩
    · rintro ⟨r, mem, number⟩
      exact ⟨r, (settled rfl r number).mpr mem, number⟩

omit [DecidableEq ι] in
/-- The system after a step of one worker, given that its jobs are placed. -/
theorem afterWorker (h : JobsPlaced s) {sh : Shared} {w : Nat} {w' : Worker}
    (alive : (s.workers w).pc.alive)
    (placed : Placed
      ({ s with shared := sh, workers := Function.update s.workers w w' } : Manager ι).holds)
    (queued : (sh.queue.map Job.sequence).Nodup)
    (settled : (sh.settled.map fun r => r.job.sequence).Nodup) (begun : sh.begun.Nodup)
    (begun_place : ∀ n ∈ sh.begun, (∃ r ∈ sh.settled, r.job.sequence = n) ∨
      (∃ job, w'.pc.runningJob = some job ∧ job.sequence = n) ∨ ∃ v, v ≠ w ∧ s.runs v n) :
    JobsPlaced ({ s with shared := sh, workers := Function.update s.workers w w' } : Manager ι) where
  placed := placed
  queued := queued
  settled := settled
  begun := begun
  begun_place n mem := by
    obtain done | ⟨job, running, number⟩ | ⟨v, ne, running⟩ := begun_place n mem
    · exact .inl done
    · exact .inr ⟨w, job, by simpa using running, number⟩
    · exact .inr ⟨v, by simpa [Manager.runs, Function.update_of_ne ne] using running⟩
  returned n mem := by
    obtain ⟨drawn, notCaller⟩ := h.returned n mem
    exact ⟨drawn, notCaller⟩
  unmade v above := by
    have ne : v ≠ w := by
      rintro rfl
      simp [h.unmade v above, WorkerPc.alive] at alive
    simpa [Function.update_of_ne ne] using h.unmade v above
  thread := h.thread

omit [DecidableEq ι] in
/-- What was begun is settled or still run, and not by a worker whose hand is free. -/
theorem begun_other (h : JobsPlaced s) {w n : Nat} (idle : (s.workers w).pc.runningJob = none)
    (mem : n ∈ s.shared.begun) :
    (∃ r ∈ s.shared.settled, r.job.sequence = n) ∨ ∃ v, v ≠ w ∧ s.runs v n := by
  obtain done | ⟨v, running⟩ := h.begun_place n mem
  · exact .inl done
  · refine .inr ⟨v, ?_, running⟩
    rintro rfl
    obtain ⟨job, eq, -⟩ := running
    rw [idle] at eq
    cases eq

omit [DecidableEq ι] in
theorem idle_of_free {pc : WorkerPc} (free : pc.hand = none) : pc.runningJob = none := by
  cases running : pc.runningJob with
  | none => rfl
  | some job => rw [WorkerPc.hand_of_runningJob running] at free; cases free

omit [DecidableEq ι] in
/-- A step of a worker keeps every job in one place. -/
theorem worker (h : JobsPlaced s) {sh : Shared} {w : Nat} {w' : Worker}
    (alive : (s.workers w).pc.alive) (traffic : Traffic s.shared (s.workers w).pc sh w'.pc) :
    JobsPlaced ({ s with shared := sh, workers := Function.update s.workers w w' } : Manager ι) := by
  cases traffic with
  | stay queue settled begun hand idle idle' =>
    refine h.afterWorker alive (h.placed.congr fun p n => ?_) (by rw [queue]; exact h.queued)
      (by rw [settled]; exact h.settled) (by rw [begun]; exact h.begun) fun n mem => ?_
    · by_cases mine : p = .worker w
      · simp [mine, Manager.holds, hand]
      · exact holds_worker mine (fun _ _ _ => by rw [queue]) fun _ _ _ => by rw [settled]
    · rw [begun] at mem
      rw [settled]
      exact (h.begun_other idle mem).imp_right .inr
  | @take job least queue settled begun free hand idle' =>
    have mem : job ∈ s.shared.queue := Job.mem_of_least least
    have was : s.holds .queue job.sequence := ⟨job, mem, rfl⟩
    have arrived : ({ s with shared := sh, workers := Function.update s.workers w w' } :
        Manager ι).holds (.worker w) job.sequence := ⟨job, by simpa using hand, rfl⟩
    refine h.afterWorker alive (h.placed.move was ?_ arrived fun p n other => ?_)
      (by rw [queue]; exact h.queued_erase job) (by rw [settled]; exact h.settled)
      (by rw [begun]; exact h.begun) fun n mem => ?_
    · rintro ⟨other, mem', number⟩
      rw [queue, h.mem_erase mem] at mem'
      exact mem'.2 number
    · by_cases mine : p = .worker w
      · have ne : n ≠ job.sequence := other.resolve_right fun away => away.2 mine
        simp [mine, Manager.holds, hand, free, ne.symm]
      · refine holds_worker mine (fun isQueue o number => ?_) fun _ _ _ => by rw [settled]
        have ne : n ≠ job.sequence := other.resolve_right fun away => away.1 isQueue
        rw [queue, h.mem_erase mem]
        exact ⟨And.left, fun memQueue => ⟨memQueue, number ▸ ne⟩⟩
    · rw [begun] at mem
      rw [settled]
      exact (h.begun_other (idle_of_free free) mem).imp_right .inr
  | @begin job queue settled begun hand idle hand' runs =>
    have mine : s.holds (.worker w) job.sequence := ⟨job, hand, rfl⟩
    have unbegun : job.sequence ∉ s.shared.begun := by
      intro mem
      obtain done | ⟨v, ne, other, running, number⟩ := h.begun_other idle mem
      · cases h.placed.unique mine (show s.holds .settled job.sequence from done)
      · have theirs : s.holds (.worker v) job.sequence :=
          ⟨other, WorkerPc.hand_of_runningJob running, number⟩
        cases h.placed.unique mine theirs
        exact ne rfl
    refine h.afterWorker alive (h.placed.congr fun p n => ?_) (by rw [queue]; exact h.queued)
      (by rw [settled]; exact h.settled) (by rw [begun]; exact h.begun.cons unbegun) fun n mem => ?_
    · by_cases mine : p = .worker w
      · simp [mine, Manager.holds, hand, hand']
      · exact holds_worker mine (fun _ _ _ => by rw [queue]) fun _ _ _ => by rw [settled]
    · rw [begun, List.mem_cons] at mem
      rw [settled]
      obtain rfl | mem := mem
      · exact .inr (.inl ⟨job, runs, rfl⟩)
      · exact (h.begun_other idle mem).imp_right .inr
  | @settle job outcome queue settled ran begun hand free idle' =>
    have mine : s.holds (.worker w) job.sequence := ⟨job, hand, rfl⟩
    have arrived : ({ s with shared := sh, workers := Function.update s.workers w w' } :
        Manager ι).holds .settled job.sequence := ⟨_, by rw [settled]; exact .head _, rfl⟩
    have unsettled : job.sequence ∉ s.shared.settled.map fun r => r.job.sequence := by
      intro mem
      obtain ⟨r, mem, number⟩ := List.mem_map.mp mem
      cases h.placed.unique mine (show s.holds .settled job.sequence from ⟨r, mem, number⟩)
    refine h.afterWorker alive (h.placed.move mine ?_ arrived fun p n other => ?_)
      (by rw [queue]; exact h.queued) (by rw [settled]; exact h.settled.cons unsettled)
      (by rw [begun]; exact h.begun) fun n mem => ?_
    · rintro ⟨other, eq, -⟩
      simp [free] at eq
    · by_cases ours : p = .worker w
      · have ne : n ≠ job.sequence := other.resolve_right fun away => away.1 ours
        simp [ours, Manager.holds, hand, free, ne.symm]
      · refine holds_worker ours (fun _ _ _ => by rw [queue]) fun isSettled r number => ?_
        have ne : n ≠ job.sequence := other.resolve_right fun away => away.2 isSettled
        rw [settled, List.mem_cons, or_iff_right]
        rintro rfl
        exact ne number.symm
    · rw [begun] at mem
      simp only [settled, List.mem_cons, exists_eq_or_imp]
      by_cases same : n = job.sequence
      · exact .inl (.inl same.symm)
      · obtain done | ⟨v, other, running, number⟩ := h.begun_place n mem
        · exact .inl (.inr done)
        · refine .inr (.inr ⟨v, ?_, other, running, number⟩)
          rintro rfl
          rw [WorkerPc.hand_of_runningJob running] at hand
          exact same (by rw [← number, Option.some.inj hand])
  | @drain job least queue settled begun here stays =>
    have mem : job ∈ s.shared.queue := Job.mem_of_least least
    have was : s.holds .queue job.sequence := ⟨job, mem, rfl⟩
    have arrived : ({ s with shared := sh, workers := Function.update s.workers w w' } :
        Manager ι).holds .settled job.sequence := ⟨_, by rw [settled]; exact .head _, rfl⟩
    have unsettled : job.sequence ∉ s.shared.settled.map fun r => r.job.sequence := by
      intro mem
      obtain ⟨r, mem, number⟩ := List.mem_map.mp mem
      cases h.placed.unique was (show s.holds .settled job.sequence from ⟨r, mem, number⟩)
    refine h.afterWorker alive (h.placed.move was ?_ arrived fun p n other => ?_)
      (by rw [queue]; exact h.queued_erase job) (by rw [settled]; exact h.settled.cons unsettled)
      (by rw [begun]; exact h.begun) fun n mem => ?_
    · rintro ⟨other, mem', number⟩
      rw [queue, h.mem_erase mem] at mem'
      exact mem'.2 number
    · by_cases mine : p = .worker w
      · simp [mine, Manager.holds, here, stays]
      · refine holds_worker mine (fun isQueue o number => ?_) fun isSettled r number => ?_
        · have ne : n ≠ job.sequence := other.resolve_right fun away => away.1 isQueue
          rw [queue, h.mem_erase mem]
          exact ⟨And.left, fun memQueue => ⟨memQueue, number ▸ ne⟩⟩
        · have ne : n ≠ job.sequence := other.resolve_right fun away => away.2 isSettled
          rw [settled, List.mem_cons, or_iff_right]
          rintro rfl
          exact ne number.symm
    · rw [begun] at mem
      simp only [settled, List.mem_cons, exists_eq_or_imp]
      have idle : (s.workers w).pc.runningJob = none := by rw [here]; rfl
      exact (h.begun_other idle mem).imp .inr .inr
  | drop mem done =>
    rw [h.not_done mem] at done
    cases done

/-! ### Every step -/

theorem caller (h : JobsPlaced s) (move : s.Move c t) : JobsPlaced t := by
  cases move with
  | stopNumber here => exact h.draw (by rw [here]; rfl) rfl rfl
  | number here => exact h.draw (by rw [here]; rfl) rfl rfl
  | stopPut here => exact h.put (by rw [here]; rfl) rfl rfl rfl rfl rfl rfl (fun _ mem => .inl mem) rfl
  | put here =>
    exact h.put (by rw [here]; rfl) rfl rfl rfl rfl rfl rfl
      (fun _ mem => (List.mem_cons.mp mem).symm) rfl
  | clear here =>
    exact goto (h.frame rfl rfl rfl rfl rfl (fun _ => rfl) (fun _ => rfl) (fun _ => rfl) h.unmade
      h.thread) (by simp [here, CallerPc.drawn])
  | stopSet here =>
    exact goto (h.frame rfl rfl rfl rfl rfl (fun _ => rfl) (fun _ => rfl) (fun _ => rfl) h.unmade
      h.thread) (by simp [here, CallerPc.drawn])
  | refuse here =>
    exact goto (h.frame rfl rfl rfl rfl rfl (fun _ => rfl) (fun _ => rfl) (fun _ => rfl) h.unmade
      h.thread) (by simp [here, CallerPc.drawn])
  | stopForget here =>
    exact goto (h.frame rfl rfl rfl rfl rfl (fun _ => rfl) (fun _ => rfl) (fun _ => rfl) h.unmade
      (by simp)) (by simp [here, CallerPc.drawn])
  | @already since next _ here =>
    refine goto (h.frame rfl rfl rfl rfl rfl (fun _ => rfl) (fun _ => rfl) (fun _ => rfl) h.unmade
      h.thread) ?_
    cases next <;> simp [here, CallerPc.drawn, Manager.afterStart]
  | create here =>
    have fresh : (s.workers s.created).pc = .created := h.unmade _ (le_refl _)
    refine goto (h.frame rfl rfl rfl rfl rfl (fun _ => rfl) ?_ ?_ ?_ (by simp))
      (by simp [here, CallerPc.drawn])
    · intro w
      by_cases new : w = s.created
      · simp [new, fresh, WorkerPc.hand]
      · simp [Function.update_of_ne new]
    · intro w
      by_cases new : w = s.created
      · simp [new, fresh, WorkerPc.runningJob]
      · simp [Function.update_of_ne new]
    · intro w above
      have old : w ≠ s.created := (Nat.lt_of_succ_le above).ne'
      simpa [Function.update_of_ne old] using h.unmade w (Nat.le_of_succ_le above)
  | @launch since next i _ here thread fresh =>
    refine goto (h.frame rfl rfl rfl rfl rfl (fun _ => rfl) ?_ ?_ ?_ h.thread) ?_
    · intro w
      by_cases new : w = i
      · simp [new, fresh, Worker.started, WorkerPc.hand]
      · simp [Function.update_of_ne new]
    · intro w
      by_cases new : w = i
      · simp [new, fresh, Worker.started, WorkerPc.runningJob]
      · simp [Function.update_of_ne new]
    · intro w above
      have old : w ≠ i := (lt_of_lt_of_le (h.thread i thread) above).ne'
      simpa [Function.update_of_ne old] using h.unmade w above
    · cases next <;> simp [here, CallerPc.drawn, Manager.afterStart]
  | raise here =>
    obtain here | here := here <;> exact h.goto (by simp [here.1, CallerPc.drawn])
  | stopJoined here =>
    obtain here | ⟨_, here⟩ := here <;> exact h.goto (by simp [here, CallerPc.drawn])
  | found here | unset here | dead here | stopGiveUp here | stopJoin here | skip here | check here
  | accept here => exact h.goto (by simp [here, CallerPc.drawn])

theorem step (h : JobsPlaced s) {collector : ι} {a : ManagerAction ι}
    (taken : s.step collector a = some t) : JobsPlaced t := by
  cases a with
  | call c call =>
    simp only [Manager.step] at taken
    split at taken
    · next may =>
      cases taken
      refine h.goto ?_
      cases call <;> simp [Manager.enter, CallerPc.drawn, may.1]
    · cases taken
  | caller c expired => exact h.caller (Manager.move_of_callerStep taken)
  | worker w e =>
    obtain ⟨⟨sh, w'⟩, moved, rfl⟩ := Option.map_eq_some_iff.mp taken
    have move := Worker.move_of_step moved
    exact h.worker move.alive move.traffic
  | elapse seconds =>
    simp only [Manager.step] at taken
    split at taken
    · cases taken
      exact h.frame rfl rfl rfl rfl rfl (fun _ => rfl) (fun _ => rfl) (fun _ => rfl) h.unmade h.thread
    · cases taken

end JobsPlaced

/-- In every run, however the callers and the workers interleave, every job is in one place, begun
at most once and settled at most once. -/
theorem jobsPlaced_of_reaches {ι : Type} [DecidableEq ι] {collector : ι} {s : Manager ι}
    (run : Reaches (Manager.step collector) Always {} s) : JobsPlaced s :=
  run.invariant JobsPlaced.initial fun _ _ _ h _ taken => h.step taken

end SwitchOps

import SwitchOps.Requests.QuietTelemetry

/-!
# Unsaved changes

When all requests have returned, a difference between the two configurations that SwitchOps has
made is to be shown (`UnsavedShown`). The tracker is updated by the requests, after their jobs and
in any order. So this holds in the runs in which every job that makes a difference is recorded by
its request, and a save or an agreement of the fingerprints is recorded only while no difference is
there or one is still to be recorded (`unsavedShown_of_reaches`).
-/

namespace SwitchOps

open Machines

/-- The outcome takes back what the tracker knows of changes. -/
def JobEnd.clears : JobEnd → Bool
  | .saved _ => true
  | .fingerprints running startup => running = startup
  | _ => false

/-- An operation result that requires a save. -/
def JobEnd.requiresSave : JobEnd → Bool
  | .result requiresSave _ => requiresSave
  | _ => false

/-- The request has a change to record. -/
def Request.owes (q : Request) : Bool :=
  match q.pc, q.job with
  | .recording outcome, _ => outcome.requiresSave
  | .waiting, .ended outcome => outcome.requiresSave
  | _, _ => false

/-- The request is about to take back what the tracker knows of changes. -/
def Request.takesBack (q : Request) : Bool :=
  match q.pc with
  | .recording outcome => outcome.clears
  | _ => false

/-- Once all requests have returned, an unsaved change by SwitchOps is shown. -/
def UnsavedShown {ι : Type} (s : Server ι) : Prop :=
  (∀ r, (s.requests r).pc = .new ∨ (s.requests r).pc = .returned) →
    s.running ≠ s.startup → s.changed = true → s.tracker.state.runningModified = true

/-- A job that makes a difference ends with a result that requires a save, for a request that waits
for it; and a save or an agreement is recorded while there is no difference that SwitchOps has
made, or a request has one to record. -/
def Server.RecordsChanges {ι : Type} (s : Server ι) : ServerAction ι → Prop
  | .finish r running startup outcome => (s.requests r).kind.marker.isSome →
      running ≠ s.running → running ≠ startup →
        (s.requests r).pc = .waiting ∧ outcome.requiresSave
  | .advance r _ => (s.requests r).takesBack → s.changed = false ∨ ∃ r', (s.requests r').owes
  | _ => True

instance {ι : Type} [Fintype ι] (s : Server ι) : ∀ a, Decidable (s.RecordsChanges a)
  | .finish r running startup outcome => inferInstanceAs (Decidable
      ((s.requests r).kind.marker.isSome → running ≠ s.running → running ≠ startup →
        (s.requests r).pc = .waiting ∧ outcome.requiresSave))
  | .advance r _ => inferInstanceAs (Decidable
      ((s.requests r).takesBack → s.changed = false ∨ ∃ r', (s.requests r').owes))
  | .request _ _ | .take _ | .timeout _ | .drop _ _ | .outside _ _ | .elapse _ | .collect =>
    inferInstanceAs (Decidable True)

/-! ## The invariant -/

/-- Before the submission of the job. -/
def RequestPc.early : RequestPc → Bool
  | .new | .marking | .pausing | .submitting => true
  | _ => false

/-- A difference that SwitchOps has made is known to the tracker, or to a request. -/
structure Tracked {ι : Type} (s : Server ι) : Prop where
  tracked : s.changed = true → s.tracker.modified ∨ ∃ r, (s.requests r).owes
  device : ∀ r, s.device = some r → (s.requests r).job = .running
  early : ∀ r, (s.requests r).pc.early → (s.requests r).job = .unsubmitted

namespace Tracked

variable {ι : Type} {s t : Server ι}

theorem initial (running startup : Text) :
    Tracked ({ running := running, startup := startup } : Server ι) := by
  constructor <;> simp [RequestPc.early]

/-- A request that has returned has nothing to record. -/
theorem shown (h : Tracked s) : UnsavedShown s := by
  intro returned _ changed
  obtain modified | ⟨r, owes⟩ := h.tracked changed
  · exact modified
  · obtain new | ended := returned r
    · simp [Request.owes, new] at owes
    · simp [Request.owes, ended] at owes

variable [DecidableEq ι] {r : ι} {q : Request}

/-- A request takes a step. -/
theorem move (h : Tracked s) (requests : t.requests = s.requests)
    (tracked : t.changed = true → t.tracker.modified ∨ q.owes ∨
      (s.changed = true ∧ (s.tracker.modified → t.tracker.modified) ∧
        ((s.requests r).owes → t.tracker.modified)) ∨
      ∃ r', r' ≠ r ∧ (s.requests r').owes)
    (device : ∀ r', t.device = some r' → r' = r ∧ q.job = .running ∨ r' ≠ r ∧ s.device = some r')
    (early : q.pc.early → q.job = .unsubmitted) : Tracked (t.set r q) := by
  have self : (t.set r q).requests r = q := Quiet.requests_self t
  have others : ∀ r', r' ≠ r → (t.set r q).requests r' = s.requests r' := fun r' ne => by
    rw [Quiet.requests_other t ne, requests]
  constructor
  case tracked =>
    intro changed
    obtain modified | owes | ⟨was, kept, mine⟩ | ⟨r', ne, owes⟩ := tracked changed
    · exact .inl modified
    · exact .inr ⟨r, by rwa [self]⟩
    · obtain modified | ⟨r', owes⟩ := h.tracked was
      · exact .inl (kept modified)
      · by_cases same : r' = r
        · exact .inl (mine (same ▸ owes))
        · exact .inr ⟨r', by rwa [others r' same]⟩
    · exact .inr ⟨r', by rwa [others r' ne]⟩
  case device =>
    intro r' eq
    obtain ⟨rfl, running⟩ | ⟨ne, was⟩ := device r' eq
    · rw [self]
      exact running
    · rw [others r' ne]
      exact h.device r' was
  case early =>
    intro r' isEarly
    by_cases same : r' = r
    · subst same
      rw [self] at isEarly ⊢
      exact early isEarly
    · rw [others r' same] at isEarly ⊢
      exact h.early r' isEarly

/-- A request goes on that has nothing to record, and the tracker stays. -/
theorem pass (h : Tracked s) (requests : t.requests = s.requests) (changed : t.changed = s.changed)
    (tracker : t.tracker = s.tracker) (none : (s.requests r).owes = false)
    (device : ∀ r', t.device = some r' → r' = r ∧ q.job = .running ∨ r' ≠ r ∧ s.device = some r')
    (early : q.pc.early → q.job = .unsubmitted) : Tracked (t.set r q) := by
  refine h.move requests (fun is => .inr (.inr (.inl ⟨changed ▸ is, ?_, ?_⟩))) device early
  · rw [tracker]
    exact id
  · simp [none]

/-- The next step of a request. -/
theorem advance (h : Tracked s) {stored : JobEnd} (records : s.RecordsChanges (.advance r stored))
    (taken : s.advance r stored = some t) : Tracked t := by
  have early := h.early r
  have device : ∀ {pc : RequestPc} (r' : ι), s.device = some r' →
      r' = r ∧ Request.job { s.requests r with pc := pc } = .running ∨ r' ≠ r ∧ s.device = some r' := by
    intro pc r' eq
    by_cases same : r' = r
    · subst same
      exact .inl ⟨rfl, h.device r' eq⟩
    · exact .inr ⟨same, eq⟩
  cases pc : (s.requests r).pc with
  | new | returned => simp [Server.advance, pc] at taken
  | marking | pausing =>
    simp only [Server.advance, pc, Option.some.injEq] at taken
    subst taken
    refine h.pass rfl rfl rfl (by simp [Request.owes, pc]) device fun _ => ?_
    exact early (by rw [pc]; rfl)
  | submitting =>
    simp only [Server.advance, pc, Option.some.injEq] at taken
    subst taken
    refine h.pass rfl rfl rfl (by simp [Request.owes, pc]) ?_ (by simp [RequestPc.early])
    intro r' eq
    refine .inr ⟨?_, eq⟩
    rintro rfl
    have running := h.device r' eq
    rw [early (by rw [pc]; rfl)] at running
    cases running
  | waiting =>
    simp only [Server.advance, pc] at taken
    split at taken
    · next outcome job =>
      cases taken
      refine h.move rfl ?_ device ?_
      · intro changed
        -- a result that requires a save is what is recorded next
        by_cases owes : (s.requests r).owes
        · refine .inr (.inl ?_)
          have requires : outcome.requiresSave := by simpa [Request.owes, pc, job] using owes
          cases outcome with
          | result requiresSave changedAt => simpa [Request.owes, Server.afterJob] using requires
          | _ => simp [JobEnd.requiresSave] at requires
        · exact .inr (.inr (.inl ⟨changed, id, fun is => absurd is owes⟩))
      · intro isEarly
        have late : ∀ kind, (Server.afterJob kind stored outcome).early = false := by
          intro kind
          cases outcome with
          | result _ _ | noResult | fingerprints _ _ => rfl
          | saved success => cases success <;> rfl
          | raised exc =>
            cases kind with
            | execution _ => cases own : exc.isSwitchOps <;> simp [Server.afterJob, own, RequestPc.early]
            | _ => rfl
        have isEarly' : (Server.afterJob (s.requests r).kind stored outcome).early = true := isEarly
        rw [late] at isEarly'
        cases isEarly'
    · cases taken
  | recording outcome =>
    simp only [Server.advance, pc, Option.some.injEq] at taken
    subst taken
    have notEarly : ∀ b : Bool, RequestPc.early (if b then .unmarking else .returned) = false := by
      intro b; cases b <;> rfl
    refine h.move rfl ?_ device (fun isEarly => ?_)
    · intro changed
      have changed' : s.changed = true := changed
      by_cases clears : outcome.clears
      · obtain agreed | ⟨r', owes⟩ := records (by simp [Request.takesBack, pc, clears])
        · rw [agreed] at changed'
          cases changed'
        · refine .inr (.inr (.inr ⟨r', ?_, owes⟩))
          rintro rfl
          cases outcome <;> simp_all [Request.owes, JobEnd.clears, JobEnd.requiresSave]
      · refine .inr (.inr (.inl ⟨changed', fun modified => ?_, fun owes => ?_⟩))
        · cases outcome with
          | result requiresSave changedAt =>
            cases requiresSave with
            | true => exact ConfigSaveTracker.modified_recordChange _ _
            | false => exact modified
          | fingerprints running startup =>
            exact ConfigSaveTracker.modified_recordFingerprints _ (by simpa [JobEnd.clears] using clears)
          | saved _ => simp [JobEnd.clears] at clears
          | noResult | raised _ => exact modified
        · have requires : outcome.requiresSave := by simpa [Request.owes, pc] using owes
          cases outcome with
          | result requiresSave changedAt =>
            obtain rfl : requiresSave = true := requires
            exact ConfigSaveTracker.modified_recordChange _ _
          | _ => simp [JobEnd.requiresSave] at requires
    · have isEarly' : RequestPc.early
          (if (s.requests r).kind.marker.isSome then .unmarking else .returned) = true := isEarly
      rw [notEarly] at isEarly'
      cases isEarly'
  | unmarking | resuming | collecting =>
    simp only [Server.advance, pc, Option.some.injEq] at taken
    subst taken
    exact h.pass rfl rfl rfl (by simp [Request.owes, pc]) device (by simp [RequestPc.early])

omit [DecidableEq ι] in
/-- While its job has not ended, what a request owes does not depend on the job. -/
theorem owes_job (unended : ∀ outcome, q.job ≠ .ended outcome) (owes : q.owes) (job : JobStatus) :
    Request.owes { q with job := job } := by
  cases pc : q.pc with
  | recording outcome => simpa [Request.owes, pc] using owes
  | waiting =>
    cases was : q.job with
    | ended outcome => exact absurd was (unended outcome)
    | _ => simp [Request.owes, pc, was] at owes
  | _ => simp [Request.owes, pc] at owes

/-- The job of a request goes on, and makes no difference. -/
theorem job (h : Tracked s) (job : JobStatus) (requests : t.requests = s.requests)
    (tracker : t.tracker = s.tracker) (changed : t.changed = true → s.changed = true)
    (unended : ∀ outcome, (s.requests r).job ≠ .ended outcome)
    (late : (s.requests r).job ≠ .unsubmitted)
    (device : ∀ r', t.device = some r' → r' = r ∧ job = .running ∨ r' ≠ r ∧ s.device = some r') :
    Tracked (t.set r { s.requests r with job := job }) := by
  refine h.move requests (fun is => ?_) device ?_
  · by_cases owes : (s.requests r).owes
    · exact .inr (.inl (owes_job unended owes job))
    · refine .inr (.inr (.inl ⟨changed is, ?_, fun yes => absurd yes owes⟩))
      rw [tracker]
      exact id
  · exact fun early => absurd (h.early r early) late

theorem step (h : Tracked s) {a : ServerAction ι} (records : s.RecordsChanges a)
    (taken : s.step a = some t) : Tracked t := by
  cases a with
  | request r kind =>
    simp only [Server.step] at taken
    split at taken
    · next new =>
      cases taken
      refine h.pass rfl rfl rfl (by simp [Request.owes, new]) ?_ (fun _ => rfl)
      intro r' eq
      refine .inr ⟨?_, eq⟩
      rintro rfl
      have running := h.device r' eq
      rw [h.early r' (by rw [new]; rfl)] at running
      cases running
    · cases taken
  | advance r stored =>
    simp only [Server.step] at taken
    split at taken
    · exact h.advance records taken
    · cases taken
  | timeout r =>
    have device : ∀ {pc : RequestPc} (r' : ι), s.device = some r' →
        r' = r ∧ Request.job { s.requests r with pc := pc } = .running ∨
          r' ≠ r ∧ s.device = some r' := by
      intro pc r' eq
      by_cases same : r' = r
      · subst same
        exact .inl ⟨rfl, h.device r' eq⟩
      · exact .inr ⟨same, eq⟩
    have notEarly : ∀ b : Bool, RequestPc.early (if b then .unmarking else .returned) ≠ true := by
      intro b; cases b <;> simp [RequestPc.early]
    simp only [Server.step] at taken
    split at taken
    · next pc job =>
      cases taken
      exact h.pass rfl rfl rfl (by simp [Request.owes, pc, job]) device
        fun early => absurd early (notEarly _)
    · next pc job =>
      cases taken
      exact h.pass rfl rfl rfl (by simp [Request.owes, pc, job]) device
        fun early => absurd early (notEarly _)
    · cases taken
  | take r =>
    simp only [Server.step] at taken
    split at taken
    · next free =>
      cases taken
      refine h.job .running rfl rfl id (by simp [free.1]) (by simp [free.1]) ?_
      intro r' eq
      obtain rfl : r = r' := Option.some.inj eq
      exact .inl ⟨rfl, rfl⟩
    · cases taken
  | finish r running startup outcome =>
    simp only [Server.step] at taken
    split at taken
    · next may =>
      cases taken
      have wasRunning := h.device r may.1
      by_cases own : (s.requests r).kind.marker.isSome ∧ running ≠ s.running ∧ running ≠ startup
      · obtain ⟨waits, requires⟩ := records own.1 own.2.1 own.2.2
        refine h.move rfl (fun _ => .inr (.inl ?_)) (by simp) ?_
        · simpa [Request.owes, waits] using requires
        · simp [waits, RequestPc.early]
      · refine h.job (.ended outcome) rfl rfl ?_ (by simp [wasRunning]) (by simp [wasRunning])
          (by simp)
        intro changed
        have changed' : s.changedAfter (s.requests r).kind.marker.isSome running startup = true :=
          changed
        unfold Server.changedAfter at changed'
        split at changed'
        · cases changed'
        · next differ =>
          split at changed'
          · next made =>
            simp only [Bool.and_eq_true, decide_eq_true_eq] at made
            exact absurd ⟨made.1, made.2, differ⟩ own
          · exact changed'
    · cases taken
  | drop r exc =>
    simp only [Server.step] at taken
    split at taken
    · next queued =>
      cases taken
      refine h.job (.ended (.raised exc)) rfl rfl id (by simp [queued]) (by simp [queued]) ?_
      intro r' eq
      refine .inr ⟨?_, eq⟩
      rintro rfl
      have running := h.device r' eq
      rw [queued] at running
      cases running
    · cases taken
  | outside running startup =>
    cases taken
    refine ⟨fun changed => h.tracked ?_, h.device, h.early⟩
    have changed' : s.changedAfter false running startup = true := changed
    unfold Server.changedAfter at changed'
    split at changed'
    · cases changed'
    · simpa using changed'
  | elapse time =>
    cases taken
    exact ⟨h.tracked, h.device, h.early⟩
  | collect =>
    simp only [Server.step] at taken
    split at taken
    · cases taken
      split
      · exact h
      · exact ⟨h.tracked, h.device, h.early⟩
    · cases taken
      exact ⟨h.tracked, h.device, h.early⟩

end Tracked

/-! ## Unsaved changes along runs -/

/-- However operations, executions, saves and refreshes interleave: as long as every job that
makes a difference is recorded, and nothing is taken back while a difference is there that no
request has still to record, an unsaved change by SwitchOps is shown once all requests have
returned. -/
theorem unsavedShown_of_reaches {ι : Type} [DecidableEq ι] {running startup : Text} {s : Server ι}
    (run : Reaches Server.step Server.RecordsChanges { running := running, startup := startup } s) :
    UnsavedShown s := by
  have inv : Tracked s :=
    run.invariant (Tracked.initial running startup) fun _ _ _ h records taken => h.step records taken
  exact inv.shown

/-- A change, a save, and another change that has not been saved; a refresh shows the difference. -/
def changeSaveChange : List (ServerAction (Fin 4)) :=
  [.request 0 (.operation "admin_down:Gi1/0/6")] ++ requestSteps 0 3 ++ [.take 0,
    .finish 0 "B" "A" (.result true 7)] ++ requestSteps 0 5 ++
  [.request 1 .save] ++ requestSteps 1 1 ++ [.take 1, .finish 1 "B" "B" (.saved true)] ++
  requestSteps 1 2 ++
  [.request 2 (.execution "admin_up:Gi1/0/6")] ++ requestSteps 2 3 ++ [.take 2,
    .finish 2 "C" "B" (.result true 9)] ++ requestSteps 2 5 ++
  [.request 3 .refresh] ++ requestSteps 3 1 ++ [.take 3,
    .finish 3 "C" "B" (.fingerprints "C" "B")] ++ requestSteps 3 2

theorem unsavedShown_of_reaches_changeSaveChange :
    ∃ s : Server (Fin 4), UnsavedShown s ∧ s.changed = true ∧ s.running ≠ s.startup ∧
      ∀ r, (s.requests r).pc = .returned := by
  obtain ⟨s, run, last⟩ := exists_reaches_of_run_guarded Server.step Server.RecordsChanges
    { running := "A", startup := "A" } changeSaveChange (fun s => s.changed = true ∧
      s.running ≠ s.startup ∧ ∀ r, (s.requests r).pc = .returned) (by decide +kernel)
  exact ⟨s, unsavedShown_of_reaches run, of_decide_eq_true last⟩

/-- A save is done on the switch before a change, and recorded after it. -/
def lateSave : List (ServerAction (Fin 2)) :=
  [.request 0 .save] ++ requestSteps 0 1 ++ [.take 0, .finish 0 "A" "A" (.saved true)] ++
  [.request 1 (.operation "admin_down:Gi1/0/6")] ++ requestSteps 1 3 ++ [.take 1,
    .finish 1 "B" "A" (.result true 7)] ++ requestSteps 1 5 ++ requestSteps 0 2

/-- A request gives up on a job that then changes the switch. -/
def unseenChange : List (ServerAction (Fin 2)) :=
  [.request 1 (.operation "admin_down:Gi1/0/6")] ++ requestSteps 1 3 ++ [.take 1, .timeout 1] ++
  requestSteps 1 3 ++ [.finish 1 "B" "A" (.result true 7)]

/-- In both ways a change is left that is not saved and not shown. -/
theorem not_unsavedShown :
    (∃ s : Server (Fin 2), Reaches Server.step Always { running := "A", startup := "A" } s ∧
      (s.requests 0).kind = .save ∧ ¬ UnsavedShown s) ∧
    ∃ s : Server (Fin 2), Reaches Server.step Always { running := "A", startup := "A" } s ∧
      (s.requests 0).pc = .new ∧ ¬ UnsavedShown s := by
  have hidden : ∀ s : Server (Fin 2), (∀ r, (s.requests r).pc = .new ∨ (s.requests r).pc = .returned) →
      s.running ≠ s.startup → s.changed = true → s.tracker.state.runningModified = false →
      ¬ UnsavedShown s := by
    intro s returned differ changed unshown shown
    have := shown returned differ changed
    rw [unshown] at this
    cases this
  constructor
  · obtain ⟨s, run, last⟩ := exists_reaches_of_run Server.step
      ({ running := "A", startup := "A" } : Server (Fin 2)) lateSave
      (fun s => (s.requests 0).kind = .save ∧
        (∀ r, (s.requests r).pc = .new ∨ (s.requests r).pc = .returned) ∧ s.running ≠ s.startup ∧
        s.changed = true ∧ s.tracker.state.runningModified = false) (by decide +kernel)
    obtain ⟨kind, returned, differ, changed, unshown⟩ := of_decide_eq_true last
    exact ⟨s, run, kind, hidden s returned differ changed unshown⟩
  · obtain ⟨s, run, last⟩ := exists_reaches_of_run Server.step
      ({ running := "A", startup := "A" } : Server (Fin 2)) unseenChange
      (fun s => (s.requests 0).pc = .new ∧
        (∀ r, (s.requests r).pc = .new ∨ (s.requests r).pc = .returned) ∧ s.running ≠ s.startup ∧
        s.changed = true ∧ s.tracker.state.runningModified = false) (by decide +kernel)
    obtain ⟨new, returned, differ, changed, unshown⟩ := of_decide_eq_true last
    exact ⟨s, run, new, hidden s returned differ changed unshown⟩

end SwitchOps

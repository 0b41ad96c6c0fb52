import SwitchOps.Requests.Handlers

/-!
# Telemetry during transactions

While a request's transaction is in progress the telemetry is to be paused and the operation in
progress shown, and neither once no transaction is under way (`QuietTelemetry`). Each request sets
and clears both by itself, so this holds in the runs in which a request begins its transaction
while no other is under way, and none gives up on a job that has not ended
(`quietTelemetry_of_reaches`).
-/

namespace SwitchOps

open Machines

/-- Inside the `try` of a handler, up to its `finally`. -/
def RequestPc.inSection : RequestPc → Bool
  | .submitting | .waiting | .recording _ | .unmarking => true
  | _ => false

/-- Between the first and the last write of a handler to the marker and the pause. -/
def RequestPc.holdsFlags : RequestPc → Bool
  | .pausing | .resuming => true
  | pc => pc.inSection

/-- The job waits for the worker, or is run. -/
def JobStatus.pending : JobStatus → Bool
  | .queued | .running => true
  | _ => false

namespace Request

/-- The request runs a transaction, and is inside its section or has its job run. -/
def inProgress (q : Request) : Bool :=
  q.kind.marker.isSome && (q.pc.inSection || q.job = .running)

/-- The request runs a transaction that has begun and is not over. -/
def underWay (q : Request) : Bool :=
  q.kind.marker.isSome && (q.pc.holdsFlags || q.job.pending)

theorem underWay_of_inProgress {q : Request} (h : q.inProgress) : q.underWay := by
  simp only [inProgress, underWay, Bool.and_eq_true, Bool.or_eq_true] at h ⊢
  refine ⟨h.1, h.2.imp (fun inSection => ?_) fun running => ?_⟩
  · cases pc : q.pc <;> simp_all [RequestPc.holdsFlags, RequestPc.inSection]
  · have running' : q.job = .running := by simpa using running
    simp [running', JobStatus.pending]

end Request

/-- Telemetry is paused and a marker shown while a transaction is in progress, and neither when
none is under way. -/
structure QuietTelemetry {ι : Type} (s : Server ι) : Prop where
  paused : ∀ r, (s.requests r).inProgress → s.paused = true ∧ s.operationInProgress.isSome
  resumed : (∀ r, (s.requests r).underWay = false) →
    s.paused = false ∧ s.operationInProgress = none

/-- A request begins its transaction while no other is under way, and gives up on no job of a
transaction. -/
def Server.EntersAlone {ι : Type} (s : Server ι) : ServerAction ι → Prop
  | .advance r _ => (s.requests r).pc = .marking → ∀ r', (s.requests r').underWay = false
  | .timeout r => (s.requests r).kind.marker = none
  | _ => True

instance {ι : Type} [Fintype ι] (s : Server ι) : ∀ a, Decidable (s.EntersAlone a)
  | .advance r _ => inferInstanceAs (Decidable ((s.requests r).pc = .marking →
      ∀ r', (s.requests r').underWay = false))
  | .timeout r => inferInstanceAs (Decidable ((s.requests r).kind.marker = none))
  | .request _ _ | .take _ | .finish _ _ _ _ | .drop _ _ | .outside _ _ | .elapse _ | .collect =>
    inferInstanceAs (Decidable True)

/-! ## The invariant -/

/-- Pcs of the handlers that run a transaction. -/
def RequestPc.guarded : RequestPc → Bool
  | .marking | .pausing | .unmarking | .resuming | .collecting => true
  | _ => false

/-- The ends of the job of a transaction. -/
def JobEnd.transactional : JobEnd → Bool
  | .result _ _ | .noResult | .raised _ => true
  | _ => false

/-- A request and its job agree. -/
structure Request.Wf (q : Request) : Prop where
  guarded : q.pc.guarded → q.kind.marker.isSome
  pending : q.kind.marker.isSome → q.job.pending → q.pc = .waiting
  ended : q.kind.marker.isSome → ∀ outcome, q.job = .ended outcome → outcome.transactional

/-- What the marker and the pause are at a pc. -/
def FlagsAt (paused : Bool) (marker : Option Text) : RequestPc → Prop
  | .pausing => marker.isSome
  | .resuming => marker = none
  | pc => pc.inSection → paused = true ∧ marker.isSome

/-- At most one transaction is under way, and the marker and the pause are as it has left them. -/
structure Quiet {ι : Type} (s : Server ι) : Prop where
  sole : ∀ r r', (s.requests r).underWay → (s.requests r').underWay → r = r'
  flags : ∀ r, (s.requests r).underWay →
    FlagsAt s.paused s.operationInProgress (s.requests r).pc
  rest : (∀ r, (s.requests r).underWay = false) → s.paused = false ∧ s.operationInProgress = none
  wf : ∀ r, (s.requests r).Wf

namespace Quiet

variable {ι : Type} {s t : Server ι}

theorem initial (running startup : Text) :
    Quiet ({ running := running, startup := startup } : Server ι) := by
  constructor <;> simp [Request.underWay, RequestKind.marker]
  intro _
  constructor <;> simp [RequestPc.guarded, RequestKind.marker]

theorem telemetry (h : Quiet s) : QuietTelemetry s where
  resumed := h.rest
  paused r inProgress := by
    have underWay := Request.underWay_of_inProgress inProgress
    have flags := h.flags r underWay
    simp only [Request.inProgress, Bool.and_eq_true, Bool.or_eq_true, decide_eq_true_eq] at inProgress
    have inSection : (s.requests r).pc.inSection := by
      obtain inSection | running := inProgress.2
      · exact inSection
      · have waiting := (h.wf r).pending inProgress.1 (by rw [running]; rfl)
        rw [waiting]
        rfl
    cases pc : (s.requests r).pc <;>
      simp_all [FlagsAt, RequestPc.inSection]

variable [DecidableEq ι] {r : ι} {q : Request}

theorem requests_self (t : Server ι) : (t.set r q).requests r = q := by
  simp [Server.set]

theorem requests_other (t : Server ι) {r' : ι} (ne : r' ≠ r) :
    (t.set r q).requests r' = t.requests r' := by
  simp [Server.set, Function.update_of_ne ne]

/-- The one request that may be under way takes a step. -/
theorem move (h : Quiet s) (requests : t.requests = s.requests) (wf : q.Wf)
    (alone : (s.requests r).underWay ∨ ∀ r', (s.requests r').underWay = false)
    (flags : q.underWay → FlagsAt t.paused t.operationInProgress q.pc)
    (rest : q.underWay = false → t.paused = false ∧ t.operationInProgress = none) :
    Quiet (t.set r q) := by
  have others : ∀ r', r' ≠ r → ((t.set r q).requests r').underWay = false := by
    intro r' ne
    rw [requests_other t ne, requests]
    obtain mine | none := alone
    · by_contra theirs
      exact ne (h.sole r' r (by simpa using theirs) mine)
    · exact none r'
  have only : ∀ r', ((t.set r q).requests r').underWay → r' = r := by
    intro r' underWay
    by_contra ne
    rw [others r' ne] at underWay
    cases underWay
  constructor
  case sole => intro a b ha hb; rw [only a ha, only b hb]
  case flags =>
    intro r' underWay
    obtain rfl := only r' underWay
    rw [requests_self] at underWay ⊢
    exact flags underWay
  case rest =>
    intro none
    exact rest (by simpa [requests_self] using none r)
  case wf =>
    intro r'
    by_cases same : r' = r
    · subst same
      rw [requests_self]
      exact wf
    · rw [requests_other t same, requests]
      exact h.wf r'

/-- A request that is not under way takes a step, and touches neither the marker nor the pause. -/
theorem pass (h : Quiet s) (requests : t.requests = s.requests) (wf : q.Wf)
    (paused : t.paused = s.paused) (marker : t.operationInProgress = s.operationInProgress)
    (same : q.underWay = (s.requests r).underWay)
    (pc : q.underWay → q.pc = (s.requests r).pc) : Quiet (t.set r q) := by
  have underWay : ∀ r', ((t.set r q).requests r').underWay = (s.requests r').underWay := by
    intro r'
    by_cases mine : r' = r
    · rw [mine, requests_self, same]
    · rw [requests_other t mine, requests]
  constructor
  case sole =>
    intro a b ha hb
    exact h.sole a b (underWay a ▸ ha) (underWay b ▸ hb)
  case flags =>
    intro r' on
    have flags := h.flags r' (underWay r' ▸ on)
    by_cases mine : r' = r
    · subst mine
      rw [requests_self] at on ⊢
      rw [pc on]
      simpa [Server.set, paused, marker] using flags
    · rw [requests_other t mine, requests]
      simpa [Server.set, paused, marker] using flags
  case rest =>
    intro none
    have := h.rest fun r' => by rw [← underWay r']; exact none r'
    simpa [Server.set, paused, marker] using this
  case wf =>
    intro r'
    by_cases mine : r' = r
    · rw [mine, requests_self]
      exact wf
    · rw [requests_other t mine, requests]
      exact h.wf r'

/-- A request that runs no transaction takes a step. -/
theorem other (h : Quiet s) (requests : t.requests = s.requests) (paused : t.paused = s.paused)
    (marker : t.operationInProgress = s.operationInProgress) (kind : q.kind = (s.requests r).kind)
    (noMarker : ¬ (s.requests r).kind.marker.isSome) (guarded : q.pc.guarded = false) :
    Quiet (t.set r q) := by
  have wf : q.Wf :=
    ⟨by simp [guarded], fun some => absurd (kind ▸ some) noMarker,
      fun some => absurd (kind ▸ some) noMarker⟩
  have not : q.underWay = false := by simp [Request.underWay, kind, noMarker]
  have not' : (s.requests r).underWay = false := by simp [Request.underWay, noMarker]
  refine h.pass requests wf paused marker (by rw [not, not']) ?_
  simp [not]

omit [DecidableEq ι] in
theorem afterJob_transaction {kind : RequestKind} {stored outcome : JobEnd}
    (isMarker : kind.marker.isSome) (transactional : outcome.transactional) :
    (∃ o, Server.afterJob kind stored outcome = .recording o) ∨
      Server.afterJob kind stored outcome = .unmarking := by
  cases outcome with
  | result _ _ | noResult => exact .inl ⟨_, rfl⟩
  | saved _ | fingerprints _ _ => simp [JobEnd.transactional] at transactional
  | raised exc =>
    cases kind with
    | operation _ => exact .inr rfl
    | execution _ =>
      by_cases own : exc.isSwitchOps
      · exact .inl ⟨stored, by simp [Server.afterJob, own]⟩
      · exact .inr (by simp [Server.afterJob, own])
    | save | refresh => simp [RequestKind.marker] at isMarker

omit [DecidableEq ι] in
theorem afterJob_other {kind : RequestKind} {stored outcome : JobEnd}
    (noMarker : ¬ kind.marker.isSome) : (Server.afterJob kind stored outcome).guarded = false := by
  cases outcome with
  | result _ _ | noResult | fingerprints _ _ => rfl
  | saved success => cases success <;> rfl
  | raised exc =>
    cases kind with
    | operation _ | execution _ => simp [RequestKind.marker] at noMarker
    | save | refresh => rfl

/-- The next step of a request. -/
theorem advance (h : Quiet s) {stored : JobEnd} (alone : s.EntersAlone (.advance r stored))
    (taken : s.advance r stored = some t) : Quiet t := by
  have wf := h.wf r
  have flags := h.flags r
  cases pc : (s.requests r).pc with
  | new | returned => simp [Server.advance, pc] at taken
  | marking =>
    obtain ⟨marker, isMarker⟩ := Option.isSome_iff_exists.mp (wf.guarded (by rw [pc]; rfl))
    simp only [Server.advance, pc, Option.some.injEq] at taken
    subst taken
    refine h.move rfl ⟨fun _ => wf.guarded (by rw [pc]; rfl), ?_, wf.ended⟩ (.inr (alone pc)) ?_ ?_
    · intro some pending
      simpa [pc] using wf.pending some pending
    · simp [FlagsAt, isMarker]
    · simp [Request.underWay, RequestPc.holdsFlags, isMarker]
  | pausing =>
    have isMarker : (s.requests r).kind.marker.isSome := wf.guarded (by rw [pc]; rfl)
    have underWay : (s.requests r).underWay := by
      simp [Request.underWay, isMarker, pc, RequestPc.holdsFlags]
    simp only [Server.advance, pc, Option.some.injEq] at taken
    subst taken
    refine h.move rfl ⟨by simp [RequestPc.guarded], ?_, wf.ended⟩ (.inl underWay) ?_ ?_
    · intro some pending
      simpa [pc] using wf.pending some pending
    · intro _
      have := flags underWay
      rw [pc] at this
      exact fun _ => ⟨rfl, this⟩
    · simp [Request.underWay, RequestPc.holdsFlags, RequestPc.inSection, isMarker]
  | submitting =>
    simp only [Server.advance, pc, Option.some.injEq] at taken
    subst taken
    have wf' : Request.Wf { s.requests r with pc := .waiting, job := .queued } :=
      ⟨by simp [RequestPc.guarded], by simp, by simp⟩
    by_cases isMarker : (s.requests r).kind.marker.isSome
    · have underWay : (s.requests r).underWay := by
        simp [Request.underWay, isMarker, pc, RequestPc.holdsFlags, RequestPc.inSection]
      refine h.move rfl wf' (.inl underWay) ?_ ?_
      · intro _
        have := flags underWay
        rw [pc] at this
        exact this
      · simp [Request.underWay, RequestPc.holdsFlags, RequestPc.inSection, isMarker]
    · exact h.other rfl rfl rfl rfl isMarker rfl
  | waiting =>
    simp only [Server.advance, pc] at taken
    split at taken
    · next outcome job =>
      cases taken
      by_cases isMarker : (s.requests r).kind.marker.isSome
      · have underWay : (s.requests r).underWay := by
          simp [Request.underWay, isMarker, pc, RequestPc.holdsFlags, RequestPc.inSection]
        have transactional := wf.ended isMarker outcome job
        have held := flags underWay
        rw [pc] at held
        have wf' : ∀ pc', Request.Wf { s.requests r with pc := pc' } := by
          refine fun pc' => ⟨fun _ => isMarker, fun _ pending => ?_, wf.ended⟩
          simp [job, JobStatus.pending] at pending
        obtain ⟨o, next⟩ | next := afterJob_transaction isMarker transactional
        · rw [next]
          exact h.move rfl (wf' _) (.inl underWay) (fun _ => held)
            (by simp [Request.underWay, RequestPc.holdsFlags, RequestPc.inSection, isMarker])
        · rw [next]
          exact h.move rfl (wf' _) (.inl underWay) (fun _ => held)
            (by simp [Request.underWay, RequestPc.holdsFlags, RequestPc.inSection, isMarker])
      · exact h.other rfl rfl rfl rfl isMarker (afterJob_other isMarker)
    · cases taken
  | recording outcome =>
    simp only [Server.advance, pc, Option.some.injEq] at taken
    subst taken
    by_cases isMarker : (s.requests r).kind.marker.isSome
    · have underWay : (s.requests r).underWay := by
        simp [Request.underWay, isMarker, pc, RequestPc.holdsFlags, RequestPc.inSection]
      simp only [Server.goto, if_pos isMarker]
      refine h.move rfl ⟨fun _ => isMarker, ?_, wf.ended⟩ (.inl underWay) ?_ ?_
      · intro some pending
        simpa [pc] using wf.pending some pending
      · intro _
        have held := flags underWay
        rw [pc] at held
        exact held
      · simp [Request.underWay, RequestPc.holdsFlags, RequestPc.inSection, isMarker]
    · simp only [Server.goto, if_neg isMarker]
      exact h.other rfl rfl rfl rfl isMarker rfl
  | unmarking =>
    have isMarker : (s.requests r).kind.marker.isSome := wf.guarded (by rw [pc]; rfl)
    have underWay : (s.requests r).underWay := by
      simp [Request.underWay, isMarker, pc, RequestPc.holdsFlags, RequestPc.inSection]
    simp only [Server.advance, pc, Option.some.injEq] at taken
    subst taken
    refine h.move rfl ⟨fun _ => isMarker, ?_, wf.ended⟩ (.inl underWay) ?_ ?_
    · intro some pending
      simpa [pc] using wf.pending some pending
    · simp [FlagsAt]
    · simp [Request.underWay, RequestPc.holdsFlags, isMarker]
  | resuming =>
    have isMarker : (s.requests r).kind.marker.isSome := wf.guarded (by rw [pc]; rfl)
    have underWay : (s.requests r).underWay := by
      simp [Request.underWay, isMarker, pc, RequestPc.holdsFlags]
    have idle : (s.requests r).job.pending = false := by
      by_contra pending
      simpa [pc] using wf.pending isMarker (by simpa using pending)
    simp only [Server.advance, pc, Option.some.injEq] at taken
    subst taken
    refine h.move rfl ⟨fun _ => isMarker, ?_, wf.ended⟩ (.inl underWay) ?_ ?_
    · intro some pending
      simpa [pc] using wf.pending some pending
    · simp [Request.underWay, RequestPc.holdsFlags, RequestPc.inSection, idle]
    · intro _
      have held := flags underWay
      rw [pc] at held
      exact ⟨rfl, held⟩
  | collecting =>
    have isMarker : (s.requests r).kind.marker.isSome := wf.guarded (by rw [pc]; rfl)
    have idle : (s.requests r).job.pending = false := by
      by_contra pending
      simpa [pc] using wf.pending isMarker (by simpa using pending)
    simp only [Server.advance, pc, Option.some.injEq] at taken
    subst taken
    refine h.pass rfl ⟨by simp [RequestPc.guarded], ?_, wf.ended⟩ rfl rfl ?_ ?_
    · intro some pending
      simpa [pc] using wf.pending some pending
    · simp [Request.underWay, RequestPc.holdsFlags, RequestPc.inSection, pc, idle]
    · simp [Request.underWay, RequestPc.holdsFlags, RequestPc.inSection, idle]

omit [DecidableEq ι] in
/-- Whether a request is under way does not depend on how far its job is, while it waits for it. -/
theorem underWay_job (wf : (s.requests r).Wf) {job : JobStatus}
    (pending : job.pending → (s.requests r).pc = .waiting) :
    Request.underWay { s.requests r with job := job } = (s.requests r).underWay := by
  by_cases isMarker : (s.requests r).kind.marker.isSome
  · by_cases waits : (s.requests r).pc = .waiting
    · simp [Request.underWay, waits, RequestPc.holdsFlags, RequestPc.inSection]
    · have idle : job.pending = false := by
        by_contra is
        exact waits (pending (by simpa using is))
      have idle' : (s.requests r).job.pending = false := by
        by_contra is
        exact waits (wf.pending isMarker (by simpa using is))
      simp [Request.underWay, idle, idle']
  · simp [Request.underWay, isMarker]

/-- The job of a request goes on. -/
theorem job (h : Quiet s) (job : JobStatus) (requests : t.requests = s.requests)
    (paused : t.paused = s.paused) (marker : t.operationInProgress = s.operationInProgress)
    (pending : job.pending → (s.requests r).job.pending)
    (ended : (s.requests r).kind.marker.isSome → ∀ outcome, job = .ended outcome →
      outcome.transactional) : Quiet (t.set r { s.requests r with job := job }) := by
  have wf := h.wf r
  by_cases isMarker : (s.requests r).kind.marker.isSome
  · have waits : job.pending → (s.requests r).pc = .waiting := fun is =>
      wf.pending isMarker (pending is)
    exact h.pass requests ⟨wf.guarded, fun _ => waits, ended⟩ paused marker
      (underWay_job wf waits) fun _ => rfl
  · refine h.other requests paused marker rfl isMarker ?_
    by_contra guarded
    exact isMarker (wf.guarded (by simpa using guarded))

theorem step (h : Quiet s) {a : ServerAction ι} (alone : s.EntersAlone a)
    (taken : s.step a = some t) : Quiet t := by
  cases a with
  | request r kind =>
    simp only [Server.step] at taken
    split at taken
    · next new =>
      cases taken
      have idle : (s.requests r).underWay = false := by
        by_contra is
        simp only [Request.underWay, new, RequestPc.holdsFlags, RequestPc.inSection,
          Bool.false_or, Bool.not_eq_false, Bool.and_eq_true] at is
        simpa [new] using (h.wf r).pending is.1 is.2
      have idle' : ∀ pc, pc.holdsFlags = false ∨ kind.marker.isSome = false →
          Request.underWay { kind := kind, pc := pc } = false := by
        intro pc off
        obtain off | off := off <;> simp [Request.underWay, off, JobStatus.pending]
      by_cases isMarker : kind.marker.isSome
      · rw [if_pos isMarker]
        refine h.pass rfl ⟨fun _ => isMarker, by simp [JobStatus.pending], by simp⟩ rfl rfl ?_ ?_
        · rw [idle' _ (.inl rfl), idle]
        · simp [idle' .marking (.inl rfl)]
      · rw [if_neg isMarker]
        have off : kind.marker.isSome = false := by simpa using isMarker
        refine h.pass rfl ⟨by simp [RequestPc.guarded], by simp [JobStatus.pending], by simp⟩ rfl
          rfl ?_ ?_
        · rw [idle' _ (.inr off), idle]
        · simp [idle' .submitting (.inr off)]
    · cases taken
  | advance r stored =>
    simp only [Server.step] at taken
    split at taken
    · exact h.advance alone taken
    · cases taken
  | timeout r =>
    have noMarker : ¬ (s.requests r).kind.marker.isSome := by
      rw [show (s.requests r).kind.marker = none from alone]
      simp
    simp only [Server.step] at taken
    split at taken
    · simp only [if_neg noMarker, Option.some.injEq] at taken
      subst taken
      exact h.other rfl rfl rfl rfl noMarker rfl
    · simp only [if_neg noMarker, Option.some.injEq] at taken
      subst taken
      exact h.other rfl rfl rfl rfl noMarker rfl
    · cases taken
  | take r =>
    simp only [Server.step] at taken
    split at taken
    · next queued =>
      cases taken
      exact h.job .running rfl rfl rfl (fun _ => by rw [queued.1]; rfl) (by simp)
    · cases taken
  | finish r running startup outcome =>
    simp only [Server.step] at taken
    split at taken
    · next may =>
      cases taken
      refine h.job (.ended outcome) rfl rfl rfl (by simp [JobStatus.pending]) ?_
      intro isMarker o eq
      obtain rfl := JobStatus.ended.inj eq
      cases outcome <;> cases kind : (s.requests r).kind <;>
        simp_all [Server.mayFinish, RequestKind.marker, JobEnd.transactional]
    · cases taken
  | drop r exc =>
    simp only [Server.step] at taken
    split at taken
    · cases taken
      refine h.job (.ended (.raised exc)) rfl rfl rfl (by simp [JobStatus.pending]) ?_
      intro _ o eq
      obtain rfl := JobStatus.ended.inj eq
      rfl
    · cases taken
  | outside running startup | elapse time =>
    cases taken
    exact ⟨h.sole, h.flags, h.rest, h.wf⟩
  | collect =>
    simp only [Server.step] at taken
    split at taken
    · cases taken
      split
      · exact h
      · exact ⟨h.sole, h.flags, h.rest, h.wf⟩
    · cases taken
      exact ⟨h.sole, h.flags, h.rest, h.wf⟩

end Quiet

/-! ## Telemetry along runs -/

/-- However requests, jobs and the collector interleave, in whatever order requests finish or
fail: as long as transactions begin one at a time and none is given up, telemetry is paused and
the operation shown just while one is under way. -/
theorem quietTelemetry_of_reaches {ι : Type} [DecidableEq ι] {running startup : Text}
    {s : Server ι}
    (run : Reaches Server.step Server.EntersAlone { running := running, startup := startup } s) :
    QuietTelemetry s := by
  have inv : Quiet s :=
    run.invariant (Quiet.initial running startup) fun _ _ _ h alone taken => h.step alone taken
  exact inv.telemetry

/-- A request takes `n` steps. -/
def requestSteps {ι : Type} (r : ι) (n : Nat) : List (ServerAction ι) :=
  List.replicate n (.advance r .noResult)

/-- Interface 6 is shut down, and the change fails on the switch. -/
def failedChange : List (ServerAction (Fin 2)) :=
  [.request 0 (.operation "admin_down:Gi1/0/6")] ++ requestSteps 0 3 ++ [.collect, .take 0,
    .finish 0 "A" "A" (.raised (.switchOps .switchConnection "lost"))]

theorem quietTelemetry_of_reaches_failedChange :
    ∃ s : Server (Fin 2), QuietTelemetry s ∧ s.paused = false ∧ s.operationInProgress.isSome = false ∧
      (s.requests 1).pc = .returned := by
  obtain ⟨s, run, last⟩ := exists_reaches_of_run_guarded Server.step Server.EntersAlone
    { running := "A", startup := "A" }
    (failedChange ++ requestSteps 0 4 ++
      [.request 1 (.execution "poe_never:Gi1/0/7")] ++ requestSteps 1 3 ++ [.take 1,
        .finish 1 "B" "A" (.result true 7)] ++ requestSteps 1 5)
    (fun s => s.paused = false ∧ s.operationInProgress.isSome = false ∧
      (s.requests 1).pc = .returned) (by decide +kernel)
  exact ⟨s, quietTelemetry_of_reaches run, of_decide_eq_true last⟩

/-- Two transactions overlap, and the first to end resumes the telemetry under the second. -/
def overlap : List (ServerAction (Fin 2)) :=
  [.request 0 (.operation "admin_down:Gi1/0/6"), .request 1 (.operation "poe_never:Gi1/0/7")] ++
  requestSteps 0 3 ++ requestSteps 1 3 ++ [.take 0, .finish 0 "B" "A" (.result true 7)] ++
  requestSteps 0 4 ++ [.take 1]

/-- A request gives up on a job that the worker still runs. -/
def givenUp : List (ServerAction (Fin 2)) :=
  [.request 1 (.operation "poe_never:Gi1/0/7")] ++ requestSteps 1 3 ++ [.take 1, .timeout 1] ++
  requestSteps 1 3

theorem not_quietTelemetry :
    (∃ s : Server (Fin 2), Reaches Server.step Always { running := "A", startup := "A" } s ∧
      (s.requests 1).pc = .waiting ∧ ¬ QuietTelemetry s) ∧
    ∃ s : Server (Fin 2), Reaches Server.step Always { running := "A", startup := "A" } s ∧
      (s.requests 1).pc = .returned ∧ ¬ QuietTelemetry s := by
  have loud : ∀ s : Server (Fin 2), (s.requests 1).inProgress → s.paused = false →
      ¬ QuietTelemetry s := by
    intro s inProgress paused quiet
    have := (quiet.paused 1 inProgress).1
    rw [paused] at this
    cases this
  constructor
  · obtain ⟨s, run, last⟩ := exists_reaches_of_run Server.step
      ({ running := "A", startup := "A" } : Server (Fin 2)) overlap
      (fun s => (s.requests 1).pc = .waiting ∧ (s.requests 1).inProgress ∧ s.paused = false)
      (by decide +kernel)
    obtain ⟨waiting, inProgress, paused⟩ := of_decide_eq_true last
    exact ⟨s, run, waiting, loud s inProgress paused⟩
  · obtain ⟨s, run, last⟩ := exists_reaches_of_run Server.step
      ({ running := "A", startup := "A" } : Server (Fin 2)) givenUp
      (fun s => (s.requests 1).pc = .returned ∧ (s.requests 1).inProgress ∧ s.paused = false)
      (by decide +kernel)
    obtain ⟨returned, inProgress, paused⟩ := of_decide_eq_true last
    exact ⟨s, run, returned, loud s inProgress paused⟩

end SwitchOps

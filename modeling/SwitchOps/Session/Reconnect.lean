import SwitchOps.Lib.Machine
import SwitchOps.Session.Worker
import Mathlib.Tactic.Linarith

/-!
# When the worker connects

The worker by itself, in an environment that queues jobs, sets the stop event, lets time pass and
starts the next worker once this one has terminated. `ReconnectDiscipline` says when the worker
may attempt a connection, how the backoff goes, and what the published state means.

It holds in every run in which no job raises a host key change and no worker leaves its loop while
the session is live (`reconnectDiscipline_of_reaches`): a host key change met by a job does not
put off the next attempt, as one met by an attempt does, and a worker that leaves closes the
client and says nothing about it.
-/

namespace SwitchOps

open Machines Connection

/-- The worker and what it shares. The last two fields are ghosts: how many attempts in a row have
failed since the last success, and the time of the latest refusal, which is that of the attempt or
of the job that met a changed host key, or of the attempt for which credentials were missing. -/
structure DeviceRun where
  shared : Shared := {}
  worker : Worker := { pc := .looping }
  failures : Nat := 0
  refusedAt : Option ℚ := none
  deriving DecidableEq, Repr

inductive DeviceAction
  | worker (step : WorkerStep)
  | submit (job : Job)
  | stop
  | restart
  | elapse (seconds : ℚ)
  deriving DecidableEq, Repr

/-- An error after which a human has to decide. -/
def Exn.refuses (exc : Exn) : Bool := exc.isHostKeyChanged || exc.isCredentialsMissing

namespace DeviceRun

/-- A worker that has just been started. -/
def initial (clock : ℚ) : DeviceRun :=
  { shared := { clock := clock }, worker := { pc := .looping, lastActivity := clock } }

/-- The number of failures after a step of the worker. -/
def failuresAfter (s : DeviceRun) : WorkerStep → Nat
  | .attempted (.ok _) => 0
  | .attempted (.error exc) => if exc.refuses then s.failures else s.failures + 1
  | _ => s.failures

/-- The time of the latest refusal after a step of the worker. -/
def refusedAfter (s : DeviceRun) : WorkerStep → Option ℚ
  | .attempted (.error exc) =>
    match s.worker.pc with
    | .attempting _ since => if exc.refuses then some since else s.refusedAt
    | _ => s.refusedAt
  | .finished (.error exc) _ => if exc.isHostKeyChanged then some s.shared.clock else s.refusedAt
  | _ => s.refusedAt

def step (s : DeviceRun) : DeviceAction → Option DeviceRun
  | .worker e =>
    (s.worker.step s.shared e).map fun next => {
      shared := next.1, worker := next.2,
      failures := s.failuresAfter e, refusedAt := s.refusedAfter e }
  | .submit job => some { s with shared := { s.shared with queue := s.shared.queue ++ [job] } }
  | .stop => some { s with shared := { s.shared with stopping := true } }
  | .restart =>
    if s.worker.pc = .terminated then
      some { s with
        shared := { s.shared with stopping := false },
        worker := { pc := .looping, lastActivity := s.shared.clock } }
    else none
  | .elapse seconds =>
    if 0 ≤ seconds then
      some { s with shared := { s.shared with clock := s.shared.clock + seconds } }
    else none

/-- The published state. -/
def connection (s : DeviceRun) : Connection := s.shared.connection

end DeviceRun

/-- Reconnect discipline. An attempt begun at the time `since` was due by then, and the maximum
backoff had passed since the latest refusal; the backoff is the minimum, doubled for each failure
since the last success and capped; and the session is live only while a client is held. -/
structure ReconnectDiscipline (s : DeviceRun) : Prop where
  due : ∀ job? since, s.worker.pc = .attempting job? since →
    s.connection.nextAttemptAt ≤ since ∧ since ≤ s.shared.clock
  refused : ∀ job? since refusal, s.worker.pc = .attempting job? since →
    s.refusedAt = some refusal → refusal + backoffMax ≤ since
  backoff : s.connection.backoff = min backoffMax (backoffStart * 2 ^ s.failures)
  backoff_ge : backoffStart ≤ s.connection.backoff
  backoff_le : s.connection.backoff ≤ backoffMax
  live : s.connection.state = .live → s.connection.client.isSome

/-- The steps that keep the discipline: a job does not raise a host key change, and the worker
does not leave its loop while the session is live. -/
def DeviceRun.keepsDiscipline (s : DeviceRun) : DeviceAction → Bool
  | .worker (.finished (.error exc) _) => !exc.isHostKeyChanged
  | .worker .test => !(s.shared.stopping && s.connection.state = .live)
  | .worker .look =>
    match s.worker.pc with
    | .taken job => !(job.kind = .shutdown && s.connection.state = .live)
    | _ => true
  | _ => true

/-! ## The invariant -/

/-- The worker has left its loop. -/
def WorkerPc.left : WorkerPc → Bool
  | .closing | .draining | .terminated => true
  | _ => false

/-- The worker is in an attempt to connect. -/
def WorkerPc.attemptSince : WorkerPc → Option ℚ
  | .attempting _ since => some since
  | _ => none

/-- The invariant of the runs that keep the discipline: between two attempts, the maximum backoff
after a refusal is over or still to be waited for. -/
structure ReconnectInvariant (s : DeviceRun) : Prop where
  due : ∀ since, s.worker.pc.attemptSince = some since →
    s.connection.nextAttemptAt ≤ since ∧ since ≤ s.shared.clock
  refused : ∀ since refusal, s.worker.pc.attemptSince = some since →
    s.refusedAt = some refusal → refusal + backoffMax ≤ since
  waiting : ∀ refusal, s.refusedAt = some refusal →
    refusal + backoffMax ≤ s.connection.nextAttemptAt ∨ refusal + backoffMax ≤ s.shared.clock
  backoff : s.connection.backoff = min backoffMax (backoffStart * 2 ^ s.failures)
  live : s.connection.state = .live → s.connection.client.isSome
  left : s.worker.pc.left → s.connection.state ≠ .live

namespace ReconnectInvariant

theorem initial (clock : ℚ) : ReconnectInvariant (.initial clock) where
  due := by simp [DeviceRun.initial, WorkerPc.attemptSince]
  refused := by simp [DeviceRun.initial]
  waiting := by simp [DeviceRun.initial]
  backoff := by simp [DeviceRun.initial, DeviceRun.connection, backoffStart, backoffMax]; norm_num
  live := by simp [DeviceRun.initial, DeviceRun.connection]
  left := by simp [DeviceRun.initial, WorkerPc.left]

variable {s t : DeviceRun}

/-- The minimum doubled any number of times, and capped, is within the bounds. -/
theorem backoff_bounds (n : Nat) :
    backoffStart ≤ min backoffMax (backoffStart * 2 ^ n) ∧
      min backoffMax (backoffStart * 2 ^ n) ≤ backoffMax := by
  have one_le : (1 : ℚ) ≤ 2 ^ n := one_le_pow₀ (by norm_num)
  have start_le : backoffStart ≤ backoffStart * 2 ^ n := by
    unfold backoffStart; linarith
  have start_le_max : backoffStart ≤ backoffMax := by
    norm_num [backoffStart, backoffMax]
  exact ⟨le_min start_le_max start_le, min_le_left _ _⟩

/-- One more failure doubles the backoff, up to the maximum. -/
theorem backoff_succ (n : Nat) :
    min backoffMax (min backoffMax (backoffStart * 2 ^ n) * 2) =
      min backoffMax (backoffStart * 2 ^ (n + 1)) := by
  have double : backoffStart * 2 ^ (n + 1) = backoffStart * 2 ^ n * 2 := by ring
  rw [double]
  by_cases small : backoffStart * 2 ^ n ≤ backoffMax
  · rw [min_eq_right small]
  · have big : backoffMax ≤ backoffStart * 2 ^ n := le_of_not_ge small
    have max_pos : (0 : ℚ) ≤ backoffMax := by norm_num [backoffMax]
    rw [min_eq_left big, min_eq_left (by linarith), min_eq_left (by linarith)]

theorem discipline (h : ReconnectInvariant s) : ReconnectDiscipline s where
  due job? since here := h.due since (by rw [here]; rfl)
  refused job? since refusal here := h.refused since refusal (by rw [here]; rfl)
  backoff := h.backoff
  backoff_ge := h.backoff ▸ (backoff_bounds s.failures).1
  backoff_le := h.backoff ▸ (backoff_bounds s.failures).2
  live := h.live

/-- A step that keeps the backoff and the time of the next attempt, and begins no attempt. -/
theorem keep (h : ReconnectInvariant s) (clock : s.shared.clock ≤ t.shared.clock)
    (failures : t.failures = s.failures) (refusedAt : t.refusedAt = s.refusedAt)
    (backoff : t.connection.backoff = s.connection.backoff)
    (next : t.connection.nextAttemptAt = s.connection.nextAttemptAt)
    (attempt : t.worker.pc.attemptSince = none ∨ t.worker.pc.attemptSince = s.worker.pc.attemptSince)
    (live : t.connection.state = .live → t.connection.client.isSome)
    (left : t.worker.pc.left → t.connection.state ≠ .live) : ReconnectInvariant t where
  due since here := by
    rw [next]
    obtain none | same := attempt
    · simp [none] at here
    · have := h.due since (same ▸ here)
      exact ⟨this.1, this.2.trans clock⟩
  refused since refusal here at_ := by
    rw [refusedAt] at at_
    obtain none | same := attempt
    · simp [none] at here
    · exact h.refused since refusal (same ▸ here) at_
  waiting refusal at_ := by
    rw [refusedAt] at at_
    rw [next]
    exact (h.waiting refusal at_).imp id fun ended => ended.trans clock
  backoff := by rw [backoff, failures]; exact h.backoff
  live := live
  left := left

/-- A step that leaves the connection alone, and begins no attempt. -/
theorem frame (h : ReconnectInvariant s) (clock : s.shared.clock ≤ t.shared.clock)
    (failures : t.failures = s.failures) (refusedAt : t.refusedAt = s.refusedAt)
    (connection : t.connection = s.connection)
    (attempt : t.worker.pc.attemptSince = none ∨ t.worker.pc.attemptSince = s.worker.pc.attemptSince)
    (left : t.worker.pc.left → s.connection.state ≠ .live) : ReconnectInvariant t :=
  h.keep clock failures refusedAt (by rw [connection]) (by rw [connection]) attempt
    (by rw [connection]; exact h.live) (by rw [connection]; exact left)

/-- After `_ensure_client` the worker runs the job or goes on looping. -/
theorem withClient_pc (sh : Shared) (w : Worker) (client : Client) (job? : Option Job) :
    (w.withClient sh client job?).2.pc.attemptSince = none ∧
      (w.withClient sh client job?).2.pc.left = false := by
  cases job? <;> simp [Worker.withClient, WorkerPc.attemptSince, WorkerPc.left]

theorem withoutClient_pc (sh : Shared) (w : Worker) (job? : Option Job) :
    (w.withoutClient sh job?).2.pc.attemptSince = none ∧
      (w.withoutClient sh job?).2.pc.left = false := by
  cases job? <;> simp [Worker.withoutClient, WorkerPc.attemptSince, WorkerPc.left]

/-- The end of an attempt. -/
theorem afterAttempt (h : ReconnectInvariant s) {job? : Option Job} {since : ℚ}
    (outcome : Except Exn Client) (here : s.worker.pc = .attempting job? since)
    (clock : s.shared.clock ≤ t.shared.clock)
    (connection : t.connection = s.connection.afterAttempt since outcome)
    (failures : t.failures = s.failuresAfter (.attempted outcome))
    (refusedAt : t.refusedAt = s.refusedAfter (.attempted outcome))
    (attempt : t.worker.pc.attemptSince = none) (left : t.worker.pc.left = false) :
    ReconnectInvariant t := by
  have begun : s.worker.pc.attemptSince = some since := by rw [here]; rfl
  have past : since ≤ t.shared.clock := (h.due since begun).2.trans clock
  have later : ∀ refusal, s.refusedAt = some refusal → refusal + backoffMax ≤ since :=
    fun refusal => h.refused since refusal begun
  constructor
  case due => simp [attempt]
  case refused => simp [attempt]
  case left => simp [left]
  case waiting =>
    intro refusal at_
    rw [refusedAt] at at_
    cases outcome with
    | ok client => exact .inr ((later refusal at_).trans past)
    | error exc =>
      simp only [DeviceRun.refusedAfter, here] at at_
      by_cases refuses : exc.refuses
      · rw [if_pos refuses] at at_
        obtain rfl := Option.some.inj at_
        left
        have refuses' : (exc.isHostKeyChanged || exc.isCredentialsMissing) = true := refuses
        simp [connection, Connection.afterAttempt, refuses']
      · rw [if_neg refuses] at at_
        exact .inr ((later refusal at_).trans past)
  case backoff =>
    rw [connection, failures]
    cases outcome with
    | ok client =>
      simp [Connection.afterAttempt, DeviceRun.failuresAfter, backoffStart, backoffMax]
      norm_num
    | error exc =>
      by_cases refuses : exc.refuses
      · have refuses' : (exc.isHostKeyChanged || exc.isCredentialsMissing) = true := refuses
        simpa [Connection.afterAttempt, DeviceRun.failuresAfter, refuses, refuses'] using h.backoff
      · have refuses' : ¬ (exc.isHostKeyChanged || exc.isCredentialsMissing) = true := refuses
        simp only [Connection.afterAttempt, DeviceRun.failuresAfter, if_neg refuses,
          if_neg refuses', setState_backoff, h.backoff]
        exact backoff_succ s.failures
  case live =>
    rw [connection]
    cases outcome with
    | ok client => simp [Connection.afterAttempt]
    | error exc => simp only [Connection.afterAttempt]; split <;> simp

/-- A step of the worker keeps the invariant. -/
theorem worker (h : ReconnectInvariant s) {e : WorkerStep} {sh : Shared} {w : Worker}
    (allowed : s.keepsDiscipline (.worker e)) (move : Worker.Move s.shared s.worker e sh w) :
    ReconnectInvariant
      { shared := sh, worker := w, failures := s.failuresAfter e, refusedAt := s.refusedAfter e } := by
  cases move with
  | leave here stopping =>
    have notLive : s.connection.state ≠ .live := by
      simpa [DeviceRun.keepsDiscipline, stopping] using allowed
    exact h.frame (le_refl _) rfl rfl rfl (.inl rfl) fun _ => notLive
  | wait here going => exact h.frame (le_refl _) rfl rfl rfl (.inl rfl) (by simp [WorkerPc.left])
  | get here least => exact h.frame (le_refl _) rfl rfl rfl (.inl rfl) (by simp [WorkerPc.left])
  | empty here none => exact h.frame (le_refl _) rfl rfl rfl (.inl rfl) (by simp [WorkerPc.left])
  | rest here => exact h.frame (le_refl _) rfl rfl rfl (.inl rfl) (by simp [WorkerPc.left])
  | probe here => exact h.frame (le_refl _) rfl rfl rfl (.inl rfl) (by simp [WorkerPc.left])
  | token here kind =>
    have notLive : s.connection.state ≠ .live := by
      simpa [DeviceRun.keepsDiscipline, here, kind] using allowed
    exact h.frame (le_refl _) rfl rfl rfl (.inl rfl) fun _ => notLive
  | accept here kind => exact h.frame (le_refl _) rfl rfl rfl (.inl rfl) (by simp [WorkerPc.left])
  | @ready job? alive client connection here before =>
    obtain ⟨-, -, ⟨client, -, -, same⟩ | ⟨r, -⟩ | ⟨r, -⟩⟩ := beforeAttempt_cases _ _ _ before
    · exact h.frame (by simp) rfl rfl (by simp [DeviceRun.connection, same])
        (.inl (withClient_pc _ _ _ _).1) (by simp [withClient_pc])
    · simp at r
    · simp at r
  | @unavailable job? alive connection here before =>
    obtain ⟨backoff, next, ⟨client, r, -⟩ | ⟨-, -, -, live⟩ | ⟨r, -⟩⟩ :=
      beforeAttempt_cases _ _ _ before
    · simp at r
    · refine h.keep (by simp) rfl rfl (by simpa [DeviceRun.connection] using backoff)
        (by simpa [DeviceRun.connection] using next) (.inl (withoutClient_pc _ _ _).1) ?_
        (by simp [withoutClient_pc])
      intro isLive
      obtain ⟨wasLive, noClient⟩ := live (by simpa [DeviceRun.connection] using isLive)
      have held := h.live wasLive
      simp [DeviceRun.connection, noClient] at held
    · simp at r
  | @attempt job? alive connection here before =>
    obtain ⟨backoff, next, ⟨client, r, -⟩ | ⟨r, -⟩ | ⟨-, due, -, notLive⟩⟩ :=
      beforeAttempt_cases _ _ _ before
    · simp at r
    · simp at r
    · constructor
      case due =>
        intro since here
        obtain rfl : s.shared.clock = since := Option.some.inj here
        exact ⟨by simpa [DeviceRun.connection, next] using due, le_refl _⟩
      case refused =>
        intro since refusal here at_
        obtain rfl : s.shared.clock = since := Option.some.inj here
        obtain wait | ended := h.waiting refusal at_
        · exact wait.trans due
        · exact ended
      case waiting =>
        intro refusal at_
        simpa [DeviceRun.connection, next] using h.waiting refusal at_
      case backoff => simpa [DeviceRun.connection, backoff, DeviceRun.failuresAfter] using h.backoff
      case live =>
        intro isLive
        exact absurd isLive notLive
      case left => simp [WorkerPc.left]
  | @connected job? since client here =>
    exact h.afterAttempt (.ok client) here (by simp) (by simp [DeviceRun.connection]) rfl rfl
      (withClient_pc _ _ _ _).1 (withClient_pc _ _ _ _).2
  | @failed job? since exc here =>
    exact h.afterAttempt (.error exc) here (by simp) (by simp [DeviceRun.connection]) rfl rfl
      (withoutClient_pc _ _ _).1 (withoutClient_pc _ _ _).2
  | @finished job client outcome alive here =>
    have harmless : ∀ exc, outcome = .error exc → exc.isHostKeyChanged = false := by
      intro exc failed
      simpa [DeviceRun.keepsDiscipline, failed] using allowed
    have refusedAt : s.refusedAfter (.finished outcome alive) = s.refusedAt := by
      cases outcome with
      | ok _ => rfl
      | error exc => simp [DeviceRun.refusedAfter, harmless exc rfl]
    obtain same | dropped := s.connection.afterJob_cases alive harmless
    · exact h.frame (le_refl _) rfl refusedAt same (.inl rfl) (by simp [WorkerPc.left])
    · have connection : s.shared.connection.afterJob outcome alive =
          s.shared.connection.dropClient none := dropped
      exact h.keep (le_refl _) rfl refusedAt (by simp [DeviceRun.connection, connection, Shared.settle])
        (by simp [DeviceRun.connection, connection, Shared.settle]) (.inl rfl)
        (by simp [DeviceRun.connection, connection, Shared.settle]) (by simp [WorkerPc.left])
  | close here =>
    have notLive : s.connection.state ≠ .live := h.left (by simp [here, WorkerPc.left])
    exact h.keep (le_refl _) rfl rfl rfl rfl (.inl rfl) (fun live => absurd live notLive)
      fun _ => notLive
  | skip here least done =>
    exact h.frame (le_refl _) rfl rfl rfl (.inr rfl) fun _ => h.left (by simp [here, WorkerPc.left])
  | drain here least undone =>
    exact h.frame (le_refl _) rfl rfl rfl (.inr rfl) fun _ => h.left (by simp [here, WorkerPc.left])
  | terminate here none =>
    exact h.frame (le_refl _) rfl rfl rfl (.inl rfl) fun _ => h.left (by simp [here, WorkerPc.left])

/-- Every step that keeps the discipline keeps the invariant. -/
theorem step (h : ReconnectInvariant s) {a : DeviceAction} (allowed : s.keepsDiscipline a)
    (taken : s.step a = some t) : ReconnectInvariant t := by
  cases a with
  | worker e =>
    obtain ⟨⟨sh, w⟩, moved, rfl⟩ := Option.map_eq_some_iff.mp taken
    exact h.worker allowed (Worker.move_of_step moved)
  | submit job =>
    cases taken
    exact h.frame (le_refl _) rfl rfl rfl (.inr rfl) h.left
  | stop =>
    cases taken
    exact h.frame (le_refl _) rfl rfl rfl (.inr rfl) h.left
  | restart =>
    simp only [DeviceRun.step] at taken
    split at taken
    · cases taken
      exact h.frame (le_refl _) rfl rfl rfl (.inl rfl) (by simp [WorkerPc.left])
    · cases taken
  | elapse seconds =>
    simp only [DeviceRun.step] at taken
    split at taken
    · next forward =>
      cases taken
      exact h.frame (by simpa using forward) rfl rfl rfl (.inr rfl) h.left
    · cases taken

end ReconnectInvariant

/-! ## The discipline along runs -/

/-- Whatever connects, fails, is refused or asked of the worker, and however the time passes: as
long as no job raises a host key change and no worker leaves its loop while the session is live,
the worker connects no earlier than it may, and the session is live only with a client. -/
theorem reconnectDiscipline_of_reaches {clock : ℚ} {s : DeviceRun}
    (run : Reaches DeviceRun.step (fun s a => s.keepsDiscipline a) (.initial clock) s) :
    ReconnectDiscipline s := by
  have inv : ReconnectInvariant s :=
    run.invariant (ReconnectInvariant.initial clock) fun _ _ _ h allowed taken => h.step allowed taken
  exact inv.discipline

/-- A job of the request `dashboard`. -/
def dashboardJob (n : Nat) : Job :=
  { priority := .diagnostic, sequence := n, kind := .request "dashboard" }

/-- The worker connects, the job is run, and the session is lost before the next job. -/
def lostSession : List DeviceAction := [
  .submit (dashboardJob 1), .worker .test, .worker .get, .worker .look, .worker (.ensure false),
  .worker (.attempted (.error (.switchOps .switchConnection "timed out"))),
  .elapse 4, .submit (dashboardJob 2), .worker .test, .worker .get, .worker .look,
  .worker (.ensure false), .worker (.attempted (.ok ⟨"10.0.0.2"⟩)),
  .worker (.finished (.error (.other "OSError" "lost")) false), .submit (dashboardJob 3),
  .worker .test, .worker .get, .worker .look, .worker (.ensure false),
  .worker (.attempted (.error (.switchOps .hostKeyChanged "changed"))), .elapse 60,
  .submit (dashboardJob 4), .worker .test, .worker .get, .worker .look, .worker (.ensure false)]

theorem reconnectDiscipline_of_reaches_lostSession :
    ∃ s, ReconnectDiscipline s ∧ s.worker.pc = .attempting (some (dashboardJob 4)) 64 ∧
      s.refusedAt = some 4 := by
  obtain ⟨s, run, last⟩ := exists_reaches_of_run_guarded DeviceRun.step
    (fun s a => s.keepsDiscipline a) (.initial 0) lostSession
    (fun s => s.worker.pc = .attempting (some (dashboardJob 4)) 64 ∧ s.refusedAt = some 4)
    (by decide +kernel)
  exact ⟨s, reconnectDiscipline_of_reaches run, of_decide_eq_true last⟩

/-- A job meets a changed host key, and the next job connects at once; then the worker is stopped,
and the session stays live without a client. -/
def hostKeyMetByJob : List DeviceAction := [
  .submit (dashboardJob 1), .worker .test, .worker .get, .worker .look, .worker (.ensure false),
  .worker (.attempted (.ok ⟨"10.0.0.2"⟩)),
  .worker (.finished (.error (.switchOps .hostKeyChanged "changed")) true),
  .submit (dashboardJob 2), .worker .test, .worker .get, .worker .look, .worker (.ensure false)]

def stoppedWhileLive : List DeviceAction := [
  .submit (dashboardJob 1), .worker .test, .worker .get, .worker .look, .worker (.ensure false),
  .worker (.attempted (.ok ⟨"10.0.0.2"⟩)), .worker (.finished (.ok ()) true), .stop,
  .worker .test, .worker .close, .worker .drain]

/-- Neither of the two can be left out: an attempt 60 seconds too early, and a session that is
live after its worker has terminated. -/
theorem not_reconnectDiscipline :
    (∃ s, Reaches DeviceRun.step Always (.initial 0) s ∧
      s.worker.pc = .attempting (some (dashboardJob 2)) 0 ∧ s.refusedAt = some 0 ∧
      ¬ ReconnectDiscipline s) ∧
    ∃ s, Reaches DeviceRun.step Always (.initial 0) s ∧ s.worker.pc = .terminated ∧
      ¬ ReconnectDiscipline s := by
  constructor
  · obtain ⟨s, run, last⟩ := exists_reaches_of_run DeviceRun.step (.initial 0)
      hostKeyMetByJob (fun s => s.worker.pc = .attempting (some (dashboardJob 2)) 0 ∧ s.refusedAt = some 0)
      (by decide +kernel)
    obtain ⟨here, refused⟩ := of_decide_eq_true last
    refine ⟨s, run, here, refused, fun h => ?_⟩
    have := h.refused _ _ _ here refused
    norm_num [backoffMax] at this
  · obtain ⟨s, run, last⟩ := exists_reaches_of_run DeviceRun.step (.initial 0)
      stoppedWhileLive (fun s => s.worker.pc = .terminated ∧ s.connection.state = .live ∧
        s.connection.client = none) (by decide +kernel)
    obtain ⟨here, live, noClient⟩ := of_decide_eq_true last
    refine ⟨s, run, here, fun h => ?_⟩
    have held := h.live live
    simp [noClient] at held

end SwitchOps

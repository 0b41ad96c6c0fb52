import SwitchOps.Session.SingleWorker

/-!
# Skip, never queue

A tier of the live telemetry is submitted only if no job of its kind is waiting, so that at most
one of each kind should ever wait (`OneQueued`). The check and the put are separate steps. The
medium and the slow tiers have a single caller, the loop of the collector, and keep the rule in
every run. The fast tier is also collected at the end of every transaction, by the thread of the
request, and keeps it where no other thread is between its check and its put
(`oneQueued_of_reaches`).
-/

namespace SwitchOps

open Machines

/-- The job that the caller is going to put without a check, by its kind. -/
def CallerPc.pending : CallerPc → Option JobKind
  | .ready | .check _ | .stopRead | .stopJoin _ | .stopForget => none
  | .startRead _ next | .startAlive _ next | .startClear _ next | .startCreate _ next
  | .startLaunch _ next => next.map Submission.kind
  | .stopSet | .stopNumber => some .shutdown
  | .stopPut job | .submitPut job => some job.kind
  | .submitTest submission | .submitNumber submission _ => some submission.kind

/-- The kind that the caller is going to check for. -/
def CallerPc.checks : CallerPc → Option JobKind
  | .check submission => some submission.kind
  | _ => none

namespace Manager

variable {ι : Type}

/-- How many jobs of a kind are waiting. -/
def queued (s : Manager ι) (kind : JobKind) : Nat :=
  s.shared.queue.countP fun job => job.kind = kind

/-- At most one job of each live kind is waiting. -/
def OneQueued (s : Manager ι) : Prop := ∀ tier : Tier, s.queued tier.submission.kind ≤ 1

/-- A check for the fast tier that finds nothing is made while no other thread is between its
check and its put. -/
def ChecksAlone (s : Manager ι) : ManagerAction ι → Prop
  | .caller c _ => (s.callers c).checks = some .liveFast → s.queued .liveFast = 0 →
      ∀ c', (s.callers c').pending ≠ some .liveFast
  | _ => True

instance [Fintype ι] (s : Manager ι) : ∀ a, Decidable (s.ChecksAlone a)
  | .caller c _ => inferInstanceAs (Decidable ((s.callers c).checks = some .liveFast →
      s.queued .liveFast = 0 → ∀ c', (s.callers c').pending ≠ some .liveFast))
  | .call _ _ | .worker _ _ | .elapse _ => inferInstanceAs (Decidable True)

end Manager

/-! ## The invariant, tier by tier -/

/-- One job of the tier waits, or one caller is about to put one, and not more than one of these;
and the callers of the medium and the slow tiers are the collector. -/
structure TierQueued {ι : Type} (collector : ι) (tier : Tier) (s : Manager ι) : Prop where
  queued : s.queued tier.submission.kind ≤ 1
  window : ∀ c c', (s.callers c).pending = some tier.submission.kind →
    (s.callers c').pending = some tier.submission.kind → c = c'
  apart : ∀ c, (s.callers c).pending = some tier.submission.kind →
    s.queued tier.submission.kind = 0
  owner : ∀ c, tier ≠ .fast → (s.callers c).pending = some tier.submission.kind ∨
    (s.callers c).checks = some tier.submission.kind → c = collector

namespace TierQueued

variable {ι : Type} {collector : ι} {tier : Tier} {s t : Manager ι}

theorem initial : TierQueued collector tier ({} : Manager ι) := by
  constructor <;> simp [Manager.queued, CallerPc.pending, CallerPc.checks]

/-- No job is put, and no caller passes a check. -/
theorem mono (h : TierQueued collector tier s)
    (queue : t.shared.queue.Sublist s.shared.queue)
    (pending : ∀ c, (t.callers c).pending = some tier.submission.kind →
      (s.callers c).pending = some tier.submission.kind)
    (checks : ∀ c, tier ≠ .fast → (t.callers c).checks = some tier.submission.kind →
      c = collector) : TierQueued collector tier t where
  queued := queue.countP_le.trans h.queued
  window c c' hc hc' := h.window c c' (pending c hc) (pending c' hc')
  apart c hc := Nat.le_zero.mp (queue.countP_le.trans (h.apart c (pending c hc)).le)
  owner c slow at_ := at_.elim (fun hc => h.owner c slow (.inl (pending c hc))) (checks c slow)

variable [DecidableEq ι] {c : ι}

/-- A caller whose step does not touch the queue, and which has no check behind it. -/
theorem goto {pc : CallerPc} (h : TierQueued collector tier s)
    (queue : t.shared.queue = s.shared.queue) (callers : t.callers = s.callers)
    (pending : pc.pending = some tier.submission.kind →
      (s.callers c).pending = some tier.submission.kind)
    (checks : tier ≠ .fast → pc.checks = some tier.submission.kind → c = collector) :
    TierQueued collector tier (t.goto c pc) := by
  refine h.mono ?_ ?_ ?_
  · simp [Manager.goto, queue]
  · intro c' hc'
    by_cases same : c' = c
    · subst same
      exact pending (by simpa [Manager.goto] using hc')
    · simpa [Manager.goto, callers, Function.update_of_ne same] using hc'
  · intro c' slow hc'
    by_cases same : c' = c
    · subst same
      exact checks slow (by simpa [Manager.goto] using hc')
    · exact h.owner c' slow (.inr (by
        simpa [Manager.goto, callers, Function.update_of_ne same] using hc'))

/-- A caller passes its check. -/
theorem check {submission : Submission} (h : TierQueued collector tier s)
    (here : s.callers c = .check submission)
    (absent : ∀ job ∈ s.shared.queue, job.kind ≠ submission.kind)
    (alone : (s.callers c).checks = some .liveFast → s.queued .liveFast = 0 →
      ∀ c', (s.callers c').pending ≠ some .liveFast) :
    TierQueued collector tier (s.goto c (.submitTest submission)) := by
  by_cases ours : submission.kind = tier.submission.kind
  · have none : s.queued tier.submission.kind = 0 := by
      rw [Manager.queued, List.countP_eq_zero]
      intro job mem
      simpa [← ours] using absent job mem
    have mine : (s.callers c).checks = some tier.submission.kind := by
      rw [here, CallerPc.checks, ours]
    have noOther : ∀ c', c' ≠ c → (s.callers c').pending ≠ some tier.submission.kind := by
      intro c' ne pending
      by_cases fast : tier = .fast
      · subst fast
        exact alone mine none c' pending
      · exact ne ((h.owner c' fast (.inl pending)).trans (h.owner c fast (.inr mine)).symm)
    have only : ∀ c', ((s.goto c (.submitTest submission)).callers c').pending =
        some tier.submission.kind → c' = c := by
      intro c' pending
      by_contra ne
      exact noOther c' ne (by simpa [Manager.goto, Function.update_of_ne ne] using pending)
    constructor
    case queued => exact h.queued
    case window =>
      intro a b ha hb
      rw [only a ha, only b hb]
    case apart => exact fun _ _ => none
    case owner =>
      intro c' slow at_
      by_cases same : c' = c
      · subst same
        exact h.owner c' slow (.inr mine)
      · exact h.owner c' slow (by
          simpa [Manager.goto, Function.update_of_ne same] using at_)
  · refine h.goto rfl rfl ?_ (by simp [CallerPc.checks])
    intro pending
    exact absurd (by simpa [CallerPc.pending] using pending) ours

/-- A caller puts its job. -/
theorem put {job : Job} {pc : CallerPc} {u : Manager ι} (h : TierQueued collector tier s)
    (here : (s.callers c).pending = some job.kind) (queue : u.shared.queue = s.shared.queue ++ [job])
    (callers : u.callers = s.callers) (pending : pc.pending = none) (checks : pc.checks = none) :
    TierQueued collector tier (u.goto c pc) := by
  have others : ∀ c', c' ≠ c → ((u.goto c pc).callers c') = s.callers c' := by
    intro c' ne
    simp [Manager.goto, callers, Function.update_of_ne ne]
  have self : (u.goto c pc).callers c = pc := by simp [Manager.goto]
  have owner : ∀ c', tier ≠ .fast →
      ((u.goto c pc).callers c').pending = some tier.submission.kind ∨
        ((u.goto c pc).callers c').checks = some tier.submission.kind → c' = collector := by
    intro c' slow at_
    by_cases same : c' = c
    · subst same
      simp [self, pending, checks] at at_
    · rw [others c' same] at at_
      exact h.owner c' slow at_
  by_cases ours : job.kind = tier.submission.kind
  · have mine : (s.callers c).pending = some tier.submission.kind := by rw [here, ours]
    have none : ∀ c', ((u.goto c pc).callers c').pending ≠ some tier.submission.kind := by
      intro c' hc'
      by_cases same : c' = c
      · subst same
        simp [self, pending] at hc'
      · rw [others c' same] at hc'
        exact same (h.window c' c hc' mine)
    constructor
    case queued =>
      have empty := h.apart c mine
      simp only [Manager.queued] at empty ⊢
      simp [Manager.goto, queue, List.countP_append, empty, ours]
    case window => exact fun a _ ha => absurd ha (none a)
    case apart => exact fun a ha => absurd ha (none a)
    case owner => exact owner
  · have same_count : (u.goto c pc).queued tier.submission.kind = s.queued tier.submission.kind := by
      simp [Manager.queued, Manager.goto, queue, List.countP_append, ours]
    have kept : ∀ c', ((u.goto c pc).callers c').pending = some tier.submission.kind →
        (s.callers c').pending = some tier.submission.kind := by
      intro c' hc'
      by_cases same : c' = c
      · subst same
        simp [self, pending] at hc'
      · rwa [others c' same] at hc'
    constructor
    case queued => rw [same_count]; exact h.queued
    case window => exact fun a b ha hb => h.window a b (kept a ha) (kept b hb)
    case apart => exact fun a ha => by rw [same_count]; exact h.apart a (kept a ha)
    case owner => exact owner

theorem caller (h : TierQueued collector tier s) {expired : Bool}
    (alone : s.ChecksAlone (.caller c expired)) (move : s.Move c t) :
    TierQueued collector tier t := by
  have live : tier.submission.kind ≠ .shutdown := by
    cases tier <;> simp [Tier.submission]
  cases move with
  | check here absent => exact h.check here absent alone
  | stopPut here => exact h.put (by simp [here, CallerPc.pending]) rfl rfl rfl rfl
  | put here => exact h.put (by simp [here, CallerPc.pending]) rfl rfl rfl rfl
  | @already since next _ here thread alive =>
    refine h.goto rfl rfl ?_ ?_
    · cases next <;> simp [Manager.afterStart, CallerPc.pending, here]
    · cases next <;> simp [Manager.afterStart, CallerPc.checks]
  | @launch since next _ _ here thread fresh =>
    refine h.goto rfl rfl ?_ ?_
    · cases next <;> simp [Manager.afterStart, CallerPc.pending, here]
    · cases next <;> simp [Manager.afterStart, CallerPc.checks]
  | stopSet here =>
    exact h.goto rfl rfl (by simp [CallerPc.pending, live.symm]) (by simp [CallerPc.checks])
  | stopNumber here =>
    refine h.goto rfl rfl ?_ (by simp [CallerPc.checks])
    simp [CallerPc.pending, Manager.token, live.symm]
  | found here => exact h.goto rfl rfl (by simp [CallerPc.pending, here]) (by simp [CallerPc.checks])
  | unset here => exact h.goto rfl rfl (by simp [CallerPc.pending, here]) (by simp [CallerPc.checks])
  | dead here => exact h.goto rfl rfl (by simp [CallerPc.pending, here]) (by simp [CallerPc.checks])
  | clear here => exact h.goto rfl rfl (by simp [CallerPc.pending, here]) (by simp [CallerPc.checks])
  | create here => exact h.goto rfl rfl (by simp [CallerPc.pending, here]) (by simp [CallerPc.checks])
  | accept here => exact h.goto rfl rfl (by simp [CallerPc.pending, here]) (by simp [CallerPc.checks])
  | number here => exact h.goto rfl rfl (by simp [CallerPc.pending, here]) (by simp [CallerPc.checks])
  | _ => exact h.goto rfl rfl (by simp [CallerPc.pending]) (by simp [CallerPc.checks])

theorem step (h : TierQueued collector tier s) {a : ManagerAction ι} (alone : s.ChecksAlone a)
    (taken : s.step collector a = some t) : TierQueued collector tier t := by
  cases a with
  | call c call =>
    simp only [Manager.step] at taken
    split at taken
    · next may =>
      cases taken
      refine h.goto rfl rfl ?_ ?_
      · cases call <;> cases tier <;> simp [Manager.enter, CallerPc.pending, Tier.submission]
      · intro slow checks
        have maker := may.2
        cases call with
        | collect tier' =>
          cases tier' with
          | fast =>
            cases tier <;>
              simp_all [Manager.enter, CallerPc.checks, Tier.submission]
          | medium slot => simpa [Call.madeBy] using maker
          | slow => simpa [Call.madeBy] using maker
        | _ => simp [Manager.enter, CallerPc.checks] at checks
    · cases taken
  | caller c expired => exact h.caller alone (Manager.move_of_callerStep taken)
  | worker w e =>
    obtain ⟨⟨sh, w'⟩, moved, rfl⟩ := Option.map_eq_some_iff.mp taken
    exact h.mono (Worker.move_of_step moved).queue_sublist (fun _ hc => hc)
      fun c slow hc => h.owner c slow (.inr hc)
  | elapse seconds =>
    simp only [Manager.step] at taken
    split at taken
    · cases taken
      exact h.mono (.refl _) (fun _ hc => hc) fun c slow hc => h.owner c slow (.inr hc)
    · cases taken

end TierQueued

/-! ## The rule along runs -/

/-- However the ticks of the collector, the collections of the requests and the worker interleave,
at most one job of each live kind waits, as long as a check for the fast tier that finds nothing is
made while no other thread is about to put such a job. -/
theorem oneQueued_of_reaches {ι : Type} [DecidableEq ι] {collector : ι} {s : Manager ι}
    (run : Reaches (Manager.step collector) Manager.ChecksAlone {} s) : s.OneQueued := by
  intro tier
  have inv : TierQueued collector tier s :=
    run.invariant TierQueued.initial fun _ _ _ h alone taken => h.step alone taken
  exact inv.queued

/-- The collector ticks through its tiers, a request collects, and the collector ticks again. -/
def ticks : List (ManagerAction (Fin 2)) :=
  [.call 0 (.collect .fast)] ++ callerSteps 0 4 ++ [.call 1 (.collect .fast)] ++ callerSteps 1 1 ++
  [.call 0 (.collect (.medium .poe))] ++ callerSteps 0 4 ++
  [.call 0 (.collect .slow)] ++ callerSteps 0 4 ++ [.call 0 (.collect .slow)] ++ callerSteps 0 1

theorem oneQueued_of_reaches_ticks :
    ∃ s : Manager (Fin 2), s.OneQueued ∧ s.queued .liveFast = 1 ∧ s.queued (.liveMedium .poe) = 1 ∧
      s.queued .liveSlow = 1 := by
  obtain ⟨s, run, last⟩ := exists_reaches_of_run_guarded (Manager.step (0 : Fin 2))
    Manager.ChecksAlone {} ticks (fun s => s.queued .liveFast = 1 ∧
      s.queued (.liveMedium .poe) = 1 ∧ s.queued .liveSlow = 1) (by decide +kernel)
  exact ⟨s, oneQueued_of_reaches run, of_decide_eq_true last⟩

/-- A tick of the collector and the end of a transaction look at the queue before either puts. -/
def tickAndTransaction : List (ManagerAction (Fin 2)) :=
  [.call 0 (.collect .fast), .call 1 (.collect .fast), .caller 0 false, .caller 1 false] ++
  callerSteps 0 3 ++ callerSteps 1 3

/-- Then two jobs of the fast tier wait. -/
theorem not_oneQueued_tickAndTransaction :
    ∃ s : Manager (Fin 2), Reaches (Manager.step 0) Always {} s ∧ s.queued .liveFast = 2 ∧
      ¬ s.OneQueued := by
  obtain ⟨s, run, last⟩ := exists_reaches_of_run (Manager.step (0 : Fin 2)) {} tickAndTransaction
    (fun s => s.queued .liveFast = 2) (by decide +kernel)
  have two : s.queued .liveFast = 2 := of_decide_eq_true last
  refine ⟨s, run, two, fun one => ?_⟩
  have := one .fast
  simp [Tier.submission, two] at this

end SwitchOps
